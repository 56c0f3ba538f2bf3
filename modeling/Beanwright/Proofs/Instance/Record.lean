import Beanwright.Proofs.Instance.Slots

/-!
# Records of instances

An object whose keys are backing fields is the record of an instance, in whatever order the keys
stand; nothing else is, apart from the text of such an object. The record of an instance leads back
to it.
-/

namespace Beanwright.Instance

open Slot

variable {registry : Registry} {className : Text}

/-! ## Loading -/

/-- An object with declared keys only is loaded. The instance shows every backing field of its
registry, in order, with the last value that the object has for it. -/
theorem load_object (derivable : registry.Derivable) {fields : List (Text × Json)}
    (declared : ∀ field ∈ fields, field.1 ∈ registry.fields) :
    ∃ inst, load registry (.object fields) = .ok inst ∧
      inst.dump = .object (registry.fields.map fun field =>
        (field, (fields.reverse.lookup field).getD .null)) := by
  obtain ⟨fresh, created⟩ := succeeds_create_iff.mpr derivable
  refine ⟨fields.foldl takeOver fresh, ?_, ?_⟩
  · rw [load, created]
    exact loadFields_eq_ok declared
  · rw [dump, slots_foldl_takeOver, ← fresh.map_field_slots, List.map_map, List.map_map]
    congr 1
    apply List.map_congr_left
    intro slot inSlots
    have sameField : (fields.foldl filled slot).field = slot.field :=
      Option.some.inj (congrArg Prod.snd (place_foldl_filled fields slot))
    rw [Function.comp_apply, Function.comp_apply, sameField, value_foldl_filled,
      value_of_create created inSlots]
    cases fields.reverse.lookup slot.field with
    | none => rfl
    | some value => exact congrArg (Prod.mk _) (getD_held value)

/-- The first undeclared key of an object is refused. -/
theorem load_object_of_undeclared (derivable : registry.Derivable)
    (named : registry.className = some className) {before after : List (Text × Json)} {key : Text}
    {value : Json} (declared : ∀ field ∈ before, field.1 ∈ registry.fields)
    (undeclared : key ∉ registry.fields) :
    load registry (.object (before ++ (key, value) :: after)) =
      .error (.unsupportedKey key className) := by
  obtain ⟨fresh, created⟩ := succeeds_create_iff.mpr derivable
  rw [load, created]
  exact loadFields_eq_error named declared undeclared

/-- Why a record that is no object and no string is refused. -/
def refusal (record : Json) : Text :=
  if record.isNull then "record is null".toList
  else "expected an object, got ".toList ++ record.compact

theorem refuse_eq (named : registry.className = some className) (reason : Text) :
    (refuse registry reason : Except BeanError (List (Text × Json))) =
      .error (.unloadableRecord className reason) := by
  rw [refuse, Registry.name, named]
  rfl

/-- What is neither an object nor a string is refused. -/
theorem load_other (named : registry.className = some className) {record : Json}
    (noString : ∀ text, record ≠ .string text) (noObject : ∀ fields, record ≠ .object fields) :
    load registry record = .error (.unloadableRecord className (refusal record)) := by
  rw [load, fieldsOfRecord.eq_def]
  simp only [refuse_eq named]
  cases record with
  | string text => exact absurd rfl (noString text)
  | object fields => exact absurd rfl (noObject fields)
  | null => rfl
  | bool value => rfl
  | integer value => rfl
  | double value => rfl
  | array items => rfl

/-- Every object has declared keys only or a first undeclared key. -/
theorem declared_or_undeclared (registry : Registry) (fields : List (Text × Json)) :
    (∀ field ∈ fields, field.1 ∈ registry.fields) ∨
      ∃ before key value after, fields = before ++ (key, value) :: after ∧
        (∀ field ∈ before, field.1 ∈ registry.fields) ∧ key ∉ registry.fields := by
  induction fields with
  | nil => exact .inl (List.forall_mem_nil _)
  | cons field rest ih =>
    obtain ⟨key, value⟩ := field
    by_cases declared : key ∈ registry.fields
    · obtain others | ⟨before, other, otherValue, after, rfl, others, undeclared⟩ := ih
      · exact .inl (List.forall_mem_cons.mpr ⟨declared, others⟩)
      · exact .inr ⟨(key, value) :: before, other, otherValue, after, rfl,
          List.forall_mem_cons.mpr ⟨declared, others⟩, undeclared⟩
    · exact .inr ⟨[], key, value, rest, rfl, List.forall_mem_nil _, declared⟩

/-! ## The record of an instance -/

/-- An instance is loaded from its own record. -/
theorem load_dump (inst : Instance registry) : load registry inst.dump = .ok inst := by
  have declared : ∀ field ∈ inst.slots.map shown, field.1 ∈ registry.fields := by
    rw [List.forall_mem_map, ← inst.map_field_slots]
    exact fun slot inSlots => List.mem_map_of_mem inSlots
  obtain ⟨loaded, found, record⟩ := load_object inst.derivable declared
  have reversed : (inst.slots.reverse.map Slot.field).Nodup := by
    rw [List.map_reverse]
    exact List.nodup_reverse.mpr inst.nodup_map_field_slots
  -- The record has each field once, so the last value for a field is the only one.
  have same : loaded.dump = inst.dump := by
    rw [record, dump_eq, ← inst.map_field_slots, List.map_map]
    congr 1
    apply List.map_congr_left
    intro slot inSlots
    rw [Function.comp_apply, ← List.map_reverse,
      lookup_shown reversed (List.mem_reverse.mpr inSlots), Option.getD_some, shown]
  rw [dump_eq, found, eq_of_dump_eq same]

/-- Dumping and loading are inverse for every registry whose class name is set and whose properties
all have identifiers. A record that is no string is loaded exactly if it is an object with backing
fields as keys. What is no object is refused for that, and an object with other keys for the first
of them. A loaded instance shows every backing field in order, with the value that the record has
for it, or null. And every instance is loaded from its own record. -/
theorem load_inverts_dump (named : registry.className = some className)
    (derivable : registry.Derivable) :
    (∀ record, (∀ text, record ≠ .string text) →
      (Succeeds (load registry record) ↔
        ∃ fields, record = .object fields ∧ ∀ field ∈ fields, field.1 ∈ registry.fields) ∧
      ((∀ fields, record ≠ .object fields) →
        load registry record = .error (.unloadableRecord className (refusal record))) ∧
      (∀ before key value after, record = .object (before ++ (key, value) :: after) →
        (∀ field ∈ before, field.1 ∈ registry.fields) → key ∉ registry.fields →
          load registry record = .error (.unsupportedKey key className)) ∧
      (∀ fields inst, record = .object fields → load registry record = .ok inst →
        inst.dump = .object (registry.fields.map fun field =>
          (field, (fields.reverse.lookup field).getD .null)))) ∧
    ∀ inst : Instance registry, load registry inst.dump = .ok inst := by
  have declared_of_load : ∀ fields, Succeeds (load registry (.object fields)) →
      ∀ field ∈ fields, field.1 ∈ registry.fields := by
    rintro fields ⟨inst, loaded⟩
    obtain declared | ⟨before, key, value, after, rfl, declared, undeclared⟩ :=
      declared_or_undeclared registry fields
    · exact declared
    · rw [load_object_of_undeclared derivable named declared undeclared] at loaded
      cases loaded
  refine ⟨fun record noString => ⟨⟨fun loads => ?_, ?_⟩, load_other named noString, ?_, ?_⟩,
    load_dump⟩
  · by_cases isObject : ∃ fields, record = .object fields
    · obtain ⟨fields, rfl⟩ := isObject
      exact ⟨fields, rfl, declared_of_load fields loads⟩
    · obtain ⟨inst, loaded⟩ := loads
      rw [load_other named noString fun fields equal => isObject ⟨fields, equal⟩] at loaded
      cases loaded
  · rintro ⟨fields, rfl, declared⟩
    obtain ⟨inst, loaded, -⟩ := load_object derivable declared
    exact ⟨inst, loaded⟩
  · rintro before key value after rfl declared undeclared
    exact load_object_of_undeclared derivable named declared undeclared
  · rintro fields inst rfl loaded
    obtain ⟨other, found, record⟩ := load_object derivable (declared_of_load fields ⟨inst, loaded⟩)
    rw [Except.ok.inj (loaded.symm.trans found), record]

/-- On a registry with one guard, loading refuses a foreign key after a declared one. -/
theorem load_inverts_dump_sample :
    load (Registry.sample (.named .uint8))
        (.object [("__c".toList, .null), ("d".toList, .bool true)]) =
      .error (.unsupportedKey "d".toList ['P']) :=
  ((load_inverts_dump (Registry.sample_className _) (Registry.sample_derivable _)).1 _
    (by rintro text ⟨⟩)).2.2.1 [("__c".toList, .null)] "d".toList (.bool true) [] rfl (by decide)
      (by decide)

end Beanwright.Instance
