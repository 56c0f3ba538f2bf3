import Mathlib.Data.List.Pairwise
import Beanwright.Proofs.Registry.Reachable

/-!
# Collisions of member names

The accessors of a class keep the case of a property's name, and the backing field does not. So two
properties that differ in their fields differ in their accessors as well, and it is enough to
compare fields when a property is declared. Two properties have the same field exactly if their
names are the same without delimiters and in lower case.
-/

namespace Beanwright

open Text

namespace MemberNames

/-- Two members of a class have no name in common. -/
structure Disjoint (first second : MemberNames) : Prop where
  /-- The backing fields differ. -/
  field : first.field ≠ second.field
  /-- The getters differ. -/
  getter : first.getter ≠ second.getter
  /-- The setters differ. -/
  setter : first.setter ≠ second.setter

variable {first second : Text} {firstNames secondNames : MemberNames}

/-- Members with different fields have different accessors, since the field is made of the same
words. -/
theorem disjoint_of_field_ne (firstDerived : ofProperty first = .ok firstNames)
    (secondDerived : ofProperty second = .ok secondNames)
    (differ : firstNames.field ≠ secondNames.field) : firstNames.Disjoint secondNames := by
  have pascal : firstNames.pascal ≠ secondNames.pascal := by
    intro same
    apply differ
    rw [eq_ofPascal firstDerived, eq_ofPascal secondDerived, same]
  rw [eq_ofPascal firstDerived, eq_ofPascal secondDerived] at differ ⊢
  refine ⟨differ, fun same => pascal ?_, fun same => pascal ?_⟩
  · exact List.append_cancel_left same
  · exact List.append_cancel_left same

/-- Getters and setters begin with different letters. -/
theorem getter_ne_setter (firstDerived : ofProperty first = .ok firstNames)
    (secondDerived : ofProperty second = .ok secondNames) :
    firstNames.getter ≠ secondNames.setter := by
  rw [eq_ofPascal firstDerived, eq_ofPascal secondDerived]
  intro same
  have heads := congrArg List.head? same
  change some 'g' = some 's' at heads
  cases heads

end MemberNames

namespace Registry

variable {registry : Registry} {name other : Text} {default : Option Json} {immutable : Bool}

/-! ## Fields -/

/-- Two property names give identifiers and are the same without delimiters and in lower case. -/
structure Rivals (name other : Text) : Prop where
  /-- The first name gives an identifier. -/
  derives : Succeeds (MemberNames.ofProperty name)
  /-- The second name gives an identifier. -/
  otherDerives : Succeeds (MemberNames.ofProperty other)
  /-- Neither delimiters nor case count. -/
  spelling : folded Identifier.propertyDelimiter name = folded Identifier.propertyDelimiter other

theorem fieldOf?_eq_some_iff {field : Text} :
    fieldOf? name = some field ↔ Succeeds (MemberNames.ofProperty name) ∧
      field = "__".toList ++ folded Identifier.propertyDelimiter name := by
  rw [fieldOf?]
  cases derived : MemberNames.ofProperty name with
  | error cause =>
    constructor
    · rintro ⟨⟩
    · rintro ⟨⟨names, ⟨⟩⟩, -⟩
  | ok names =>
    dsimp only
    rw [Option.some_inj, MemberNames.field_eq derived]
    exact ⟨fun same => ⟨⟨names, rfl⟩, same.symm⟩, fun found => found.2.symm⟩

/-- Names derive the same backing field exactly if they are rivals. -/
theorem fieldOf?_eq_fieldOf?_iff (derives : Succeeds (MemberNames.ofProperty name)) :
    fieldOf? other = fieldOf? name ↔ Rivals name other := by
  rw [fieldOf?_eq_some_iff.mpr ⟨derives, rfl⟩, fieldOf?_eq_some_iff]
  constructor
  · rintro ⟨otherDerives, same⟩
    exact ⟨derives, otherDerives, List.append_cancel_left same⟩
  · intro rivals
    exact ⟨rivals.otherDerives, by rw [rivals.spelling]⟩

/-- The backing field that a name and its rivals derive. -/
theorem Rivals.fieldOf?_eq (rivals : Rivals name other) : fieldOf? other =
    some ("__".toList ++ folded Identifier.propertyDelimiter name) := by
  rw [(fieldOf?_eq_fieldOf?_iff rivals.derives).mpr rivals]
  exact fieldOf?_eq_some_iff.mpr ⟨rivals.derives, rfl⟩

theorem of_ownerOf?_eq_some {field : Text} {owner : Property}
    (owned : registry.ownerOf? field = some owner) :
    owner ∈ registry.properties ∧ fieldOf? owner.name = some field :=
  ⟨List.mem_of_find?_eq_some owned, by simpa using List.find?_some owned⟩

/-- A backing field belongs to one property. -/
theorem eq_of_fieldOf?_eq {first second : Property}
    (inFirst : first ∈ registry.properties) (inSecond : second ∈ registry.properties)
    {field : Text} (firstField : fieldOf? first.name = some field)
    (secondField : fieldOf? second.name = some field) : first = second := by
  by_contra differ
  have apart := List.pairwise_filterMap.mp registry.fields_nodup
  have symmetric : Std.Symm fun first second : Property =>
      ∀ field, fieldOf? first.name = some field →
        ∀ other, fieldOf? second.name = some other → field ≠ other :=
    ⟨fun _ _ apart other found field given => (apart field given other found).symm⟩
  exact apart.forall inFirst inSecond differ field firstField field secondField rfl

/-- A name that is not declared meets the only property that has its backing field. -/
theorem conflict?_of_owned (absent : registry.has name = false) {property : Property}
    (inProperties : property ∈ registry.properties) {field : Text}
    (owns : fieldOf? property.name = some field) (derives : fieldOf? name = some field) :
    registry.conflict? name = some (.duplicateField name property.name field) := by
  rw [conflict?, absent, if_neg Bool.false_ne_true, derives]
  dsimp only
  cases owned : registry.ownerOf? field with
  | none =>
    rw [ownerOf?, List.find?_eq_none] at owned
    exact absurd (beq_iff_eq.mpr owns) (owned property inProperties)
  | some owner =>
    obtain ⟨inOwners, ownerField⟩ := of_ownerOf?_eq_some owned
    rw [eq_of_fieldOf?_eq inOwners inProperties ownerField owns, Option.map_some]

/-! ## Declaring a rival -/

/-- A rival is refused by the name of the property that it meets. -/
theorem addProperty_of_rival (absent : registry.has name = false) {property : Property}
    (inProperties : property ∈ registry.properties) (rivals : Rivals name property.name) :
    registry.addProperty name default immutable = .error (.duplicateField name property.name
      ("__".toList ++ folded Identifier.propertyDelimiter name)) :=
  addProperty_of_conflict (conflict?_of_owned absent inProperties rivals.fieldOf?_eq
    (fieldOf?_eq_some_iff.mpr ⟨rivals.derives, rfl⟩))

/-- Only a rival is refused for its backing field. -/
theorem exists_rival_of_addProperty {reported existing field : Text}
    (refused : registry.addProperty name default immutable =
      .error (.duplicateField reported existing field)) :
    ∃ property ∈ registry.properties, Rivals name property.name := by
  cases taken : registry.conflict? name with
  | none =>
    rw [addProperty_of_free (conflict?_eq_none_iff.mp taken)] at refused
    cases refused
  | some conflict =>
    rw [addProperty_of_conflict taken] at refused
    cases refused
    rw [conflict?] at taken
    split at taken
    · cases taken
    · split at taken
      · cases taken
      · next ownField derived =>
        obtain ⟨owner, owned, -⟩ := Option.map_eq_some_iff.mp taken
        obtain ⟨inOwners, ownerField⟩ := of_ownerOf?_eq_some owned
        refine ⟨owner, inOwners, ?_⟩
        rw [← fieldOf?_eq_fieldOf?_iff (fieldOf?_eq_some_iff.mp derived).1, ownerField, derived]

/-! ## Members -/

/-- No two properties have members with a name in common. -/
theorem pairwise_disjoint (registry : Registry) :
    registry.properties.Pairwise fun first second => ∀ firstNames secondNames,
      first.names = .ok firstNames → second.names = .ok secondNames →
        firstNames.Disjoint secondNames := by
  refine (List.pairwise_filterMap.mp registry.fields_nodup).imp ?_
  intro first second apart firstNames secondNames firstDerived secondDerived
  apply MemberNames.disjoint_of_field_ne firstDerived secondDerived
  have field {name : Text} {names : MemberNames}
      (derived : MemberNames.ofProperty name = .ok names) : fieldOf? name = some names.field := by
    rw [fieldOf?, derived]
  exact apart _ (field firstDerived) _ (field secondDerived)

/-- No two members of a class have a name in common, and no getter is a setter. A property that is
not declared yet is refused for its backing field exactly if its name is a rival of a declared one.
That declared property is the only one, and the refusal names it. -/
theorem members_apart (registry : Registry) :
    registry.properties.Pairwise (fun first second => first.name ≠ second.name ∧
      ∀ firstNames secondNames, first.names = .ok firstNames →
        second.names = .ok secondNames → firstNames.Disjoint secondNames) ∧
    (∀ first ∈ registry.properties, ∀ second ∈ registry.properties,
      ∀ firstNames secondNames, first.names = .ok firstNames →
        second.names = .ok secondNames → firstNames.getter ≠ secondNames.setter) ∧
    ∀ name default immutable, registry.has name = false →
      ((∃ reported existing field, registry.addProperty name default immutable =
          .error (.duplicateField reported existing field)) ↔
        ∃ property ∈ registry.properties, Rivals name property.name) ∧
      ∀ property ∈ registry.properties, Rivals name property.name →
        registry.addProperty name default immutable = .error (.duplicateField name property.name
          ("__".toList ++ folded Identifier.propertyDelimiter name)) ∧
        ∀ other ∈ registry.properties, Rivals name other.name → other = property := by
  refine ⟨(List.pairwise_map.mp registry.names_nodup).and registry.pairwise_disjoint, ?_, ?_⟩
  · intro first _ second _ firstNames secondNames firstDerived secondDerived
    exact MemberNames.getter_ne_setter firstDerived secondDerived
  · intro name default immutable absent
    refine ⟨⟨?_, ?_⟩, ?_⟩
    · rintro ⟨reported, existing, field, refused⟩
      exact exists_rival_of_addProperty refused
    · rintro ⟨property, inProperties, rivals⟩
      exact ⟨_, _, _, addProperty_of_rival absent inProperties rivals⟩
    · intro property inProperties rivals
      refine ⟨addProperty_of_rival absent inProperties rivals, ?_⟩
      intro other inOthers otherRivals
      exact eq_of_fieldOf?_eq inOthers inProperties otherRivals.fieldOf?_eq
        rivals.fieldOf?_eq

/-- A name of one word is refused for a name of two words that it is a rival of. -/
theorem members_apart_sample :
    (sample (.named .uint8)).addProperty "Ab".toList none false =
      .error (.duplicateField "Ab".toList "a.b".toList "__ab".toList) :=
  (((members_apart (sample (.named .uint8))).2.2 "Ab".toList none false rfl).2
    ⟨"a.b".toList, none, true, [.named .uint8]⟩ List.mem_cons_self
    ⟨⟨_, rfl⟩, ⟨_, rfl⟩, rfl⟩).1

end Registry

end Beanwright
