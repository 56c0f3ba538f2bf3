import Mathlib.Data.List.Nodup
import Mathlib.Data.List.Perm.Subperm
import Beanwright.Json.Reader
import Beanwright.Proofs.Double.Value

/-!
# Equal values

Two values are equal if they are of one kind and agree in their parts: numbers of one kind in what
they stand for, arrays position by position, and objects key by key, in whatever order the fields
stand. The comparison of values looks up each key of the first object in the second one and counts
the fields. If no object repeats a key, as in every value that was read, then the same keys are on
both sides, and the comparison is symmetric although it looks from one side only.

## Main definitions

* `Json.Keyed` — the values in which no object repeats a key
* `Json.Equal` — values that agree in all their parts
* `Json.Reordered` — values that differ in the order of fields only, at any depth

## Main results

* `Json.isKeyed_of_read` — a value that was read repeats no key
* `Json.same_iff` — the comparison decides equality
* `Json.Reordered.equal` — reordered values are equal
-/

namespace Beanwright.Json

variable {value first second third one other : Json} {items : List Json}
  {fields firstFields secondFields : List (Text × Json)} {key : Text}

/-- Induction over values: what holds of an array or an object may be derived from its members. -/
@[elab_as_elim]
theorem induction_members {motive : Json → Prop} (null : motive null)
    (bool : ∀ value, motive (bool value)) (integer : ∀ value, motive (integer value))
    (double : ∀ value, motive (double value)) (string : ∀ value, motive (string value))
    (array : ∀ items, (∀ item ∈ items, motive item) → motive (array items))
    (object : ∀ fields, (∀ field ∈ fields, motive field.2) → motive (object fields)) :
    ∀ value, motive value
  | .null => null
  | .bool value => bool value
  | .integer value => integer value
  | .double value => double value
  | .string value => string value
  | .array items => array items fun item _ =>
      induction_members null bool integer double string array object item
  | .object fields => object fields fun field _ =>
      induction_members null bool integer double string array object field.2
termination_by value => sizeOf value
decreasing_by
  · have smaller := List.sizeOf_lt_of_mem ‹item ∈ items›
    rw [Json.array.sizeOf_spec]
    omega
  · have smaller := List.sizeOf_lt_of_mem ‹field ∈ fields›
    obtain ⟨key, held⟩ := field
    rw [Prod.mk.sizeOf_spec] at smaller
    rw [Json.object.sizeOf_spec]
    dsimp only
    omega

/-! ## Values without repeated keys -/

mutual

/-- Whether no object in a value repeats a key. -/
def isKeyed : Json → Bool
  | array items => areKeyed items
  | object fields => decide (fields.map Prod.fst).Nodup && haveKeyedValues fields
  | _ => true

/-- Whether no object in any of the items repeats a key. -/
def areKeyed : List Json → Bool
  | [] => true
  | item :: rest => isKeyed item && areKeyed rest

/-- Whether no object in the value of any of the fields repeats a key. -/
def haveKeyedValues : List (Text × Json) → Bool
  | [] => true
  | (_, value) :: rest => isKeyed value && haveKeyedValues rest

end

theorem isKeyed_array_iff : (array items).isKeyed = true ↔ ∀ item ∈ items, item.isKeyed = true := by
  rw [isKeyed]
  induction items with
  | nil => simp [areKeyed]
  | cons item rest ih => rw [areKeyed, Bool.and_eq_true, List.forall_mem_cons, ih]

theorem haveKeyedValues_iff :
    haveKeyedValues fields = true ↔ ∀ field ∈ fields, field.2.isKeyed = true := by
  induction fields with
  | nil => simp [haveKeyedValues]
  | cons field rest ih =>
    obtain ⟨key, value⟩ := field
    rw [haveKeyedValues, Bool.and_eq_true, List.forall_mem_cons, ih]

theorem isKeyed_object_iff : (object fields).isKeyed = true ↔
    (fields.map Prod.fst).Nodup ∧ ∀ field ∈ fields, field.2.isKeyed = true := by
  rw [isKeyed, Bool.and_eq_true, decide_eq_true_iff, haveKeyedValues_iff]

/-- A value in which no object repeats a key. Every value that is read is one. -/
abbrev Keyed := { value : Json // value.isKeyed = true }

/-- Without repeated keys, the value that is found under a key is the one that stands there. -/
theorem lookup_eq_some_iff_mem (distinct : (fields.map Prod.fst).Nodup) :
    fields.lookup key = some value ↔ (key, value) ∈ fields := by
  induction fields with
  | nil => simp
  | cons field rest ih =>
    obtain ⟨held, kept⟩ := field
    rw [List.map_cons, List.nodup_cons] at distinct
    rw [List.lookup_cons, List.mem_cons, Prod.mk.injEq]
    cases same : key == held with
    | true =>
      obtain rfl := eq_of_beq same
      have absent : (key, value) ∉ rest := fun inRest =>
        distinct.1 (List.mem_map.mpr ⟨_, inRest, rfl⟩)
      simp only [Option.some_inj, true_and, absent, or_false, eq_comm]
    | false =>
      have differs : key ≠ held := ne_of_beq_false same
      simp only [ih distinct.2, differs, false_and, false_or]

/-- Without repeated keys, one value stands at a key. -/
theorem eq_of_mem_of_mem (distinct : (fields.map Prod.fst).Nodup) (member : (key, one) ∈ fields)
    (otherMember : (key, other) ∈ fields) : one = other := by
  rw [← lookup_eq_some_iff_mem distinct] at member otherMember
  exact Option.some_inj.mp (member.symm.trans otherMember)

mutual

theorem isKeyed_merged : ∀ value, (merged value).isKeyed = true
  | null | bool _ | integer _ | double _ | string _ => rfl
  | array items => by
    rw [merged, isKeyed_array_iff]
    exact isKeyed_mergedItems items
  | object fields => by
    rw [merged, isKeyed_object_iff]
    exact isKeyed_mergedFields fields

theorem isKeyed_mergedItems : ∀ items, ∀ item ∈ mergedItems items, item.isKeyed = true
  | [] => List.forall_mem_nil _
  | item :: rest => by
    rw [mergedItems, List.forall_mem_cons]
    exact ⟨isKeyed_merged item, isKeyed_mergedItems rest⟩

theorem isKeyed_mergedFields : ∀ fields, ((mergedFields fields).map Prod.fst).Nodup ∧
    ∀ field ∈ mergedFields fields, field.2.isKeyed = true
  | [] => ⟨List.nodup_nil, List.forall_mem_nil _⟩
  | (key, value) :: rest => by
    obtain ⟨distinct, keyed⟩ := isKeyed_mergedFields rest
    rw [mergedFields]
    cases found : (mergedFields rest).lookup key with
    | some last =>
      refine ⟨?_, List.forall_mem_cons.mpr ⟨?_, ?_⟩⟩
      · rw [List.map_cons, List.nodup_cons]
        refine ⟨?_, distinct.sublist (List.filter_sublist.map _)⟩
        intro kept
        obtain ⟨field, inFiltered, sameKey⟩ := List.mem_map.mp kept
        exact absurd sameKey (bne_iff_ne.mp (List.mem_filter.mp inFiltered).2)
      · exact keyed _ ((lookup_eq_some_iff_mem distinct).mp found)
      · intro field inFiltered
        exact keyed field (List.mem_filter.mp inFiltered).1
    | none =>
      refine ⟨?_, List.forall_mem_cons.mpr ⟨isKeyed_merged value, keyed⟩⟩
      rw [List.map_cons, List.nodup_cons]
      refine ⟨?_, distinct⟩
      intro repeated
      obtain ⟨⟨other, held⟩, inRest, rfl⟩ := List.mem_map.mp repeated
      rw [(lookup_eq_some_iff_mem distinct).mpr inRest] at found
      exact absurd found (Option.some_ne_none held)

end

/-- A value that was read repeats no key. -/
theorem isKeyed_of_read {text : Text} (reads : read text = .ok value) : value.isKeyed = true := by
  rw [read] at reads
  split at reads
  · cases reads
    exact isKeyed_merged _
  · cases reads

/-! ## Equality -/

/-- Two values are equal: they are of one kind and agree in their parts. An integer is equal to no
double. Objects have the same keys, and at each key equal values. -/
inductive Equal : Json → Json → Prop where
  | null : Equal null null
  | bool (value : Bool) : Equal (bool value) (bool value)
  | integer (value : Int) : Equal (integer value) (integer value)
  | double {first second : Double} (values : first.value = second.value) :
      Equal (double first) (double second)
  | string (value : Text) : Equal (string value) (string value)
  | array {first second : List Json} (length : first.length = second.length)
      (items : ∀ (position : Nat) (one other : Json), first[position]? = some one →
        second[position]? = some other → Equal one other) :
      Equal (array first) (array second)
  | object {first second : List (Text × Json)}
      (keys : ∀ key : Text, (∃ one, (key, one) ∈ first) ↔ ∃ other, (key, other) ∈ second)
      (values : ∀ (key : Text) (one other : Json), (key, one) ∈ first → (key, other) ∈ second →
        Equal one other) :
      Equal (object first) (object second)

namespace Equal

theorem refl (value : Keyed) : Equal value.1 value.1 := by
  obtain ⟨value, keyed⟩ := value
  dsimp only
  induction value using induction_members with
  | null => exact null
  | bool value => exact bool value
  | integer value => exact integer value
  | double value => exact double rfl
  | string value => exact string value
  | array items ih =>
    rw [isKeyed_array_iff] at keyed
    refine array rfl ?_
    intro position one other found otherFound
    obtain rfl := Option.some_inj.mp (found.symm.trans otherFound)
    have member := List.mem_of_getElem? found
    exact ih one member (keyed one member)
  | object fields ih =>
    rw [isKeyed_object_iff] at keyed
    refine object (fun key => Iff.rfl) ?_
    intro key one other member otherMember
    obtain rfl := eq_of_mem_of_mem keyed.1 member otherMember
    exact ih (key, one) member (keyed.2 _ member)

theorem symm (equal : Equal first second) : Equal second first := by
  induction equal with
  | null => exact null
  | bool value => exact bool value
  | integer value => exact integer value
  | double values => exact double values.symm
  | string value => exact string value
  | array length items ih =>
    refine array length.symm ?_
    intro position one other found otherFound
    exact ih position other one otherFound found
  | object keys values ih =>
    refine object (fun key => (keys key).symm) ?_
    intro key one other member otherMember
    exact ih key other one otherMember member

theorem trans (equal : Equal first second) (next : Equal second third) : Equal first third := by
  induction equal generalizing third with
  | null => exact next
  | bool value => exact next
  | integer value => exact next
  | double values =>
    cases next with
    | double nextValues => exact double (values.trans nextValues)
  | string value => exact next
  | array length items ih =>
    cases next with
    | array nextLength nextItems =>
      refine array (length.trans nextLength) ?_
      intro position one other found otherFound
      obtain ⟨inside, -⟩ := List.getElem?_eq_some_iff.mp found
      have between := List.getElem?_eq_getElem (length ▸ inside)
      exact ih position one _ found between (nextItems position _ other between otherFound)
  | object keys values ih =>
    cases next with
    | object nextKeys nextValues =>
      refine object (fun key => (keys key).trans (nextKeys key)) ?_
      intro key one other member otherMember
      obtain ⟨middle, between⟩ := (keys key).mp ⟨one, member⟩
      exact ih key one middle member between (nextValues key middle other between otherMember)

end Equal

/-! ## The comparison -/

theorem sameItems_iff (first second : List Json) : sameItems first second = true ↔
    first.length = second.length ∧ ∀ (position : Nat) (one other : Json),
      first[position]? = some one → second[position]? = some other → same one other = true := by
  induction first generalizing second with
  | nil => cases second <;> simp [sameItems]
  | cons one rest ih =>
    cases second with
    | nil => simp [sameItems]
    | cons other others =>
      rw [sameItems, Bool.and_eq_true, ih, List.length_cons, List.length_cons,
        Nat.add_right_cancel_iff]
      constructor
      · rintro ⟨head, length, later⟩
        refine ⟨length, ?_⟩
        intro position held otherHeld found otherFound
        cases position with
        | zero =>
          cases found
          cases otherFound
          exact head
        | succ position => exact later position held otherHeld found otherFound
      · rintro ⟨length, all⟩
        exact ⟨all 0 one other rfl rfl, length, fun position => all (position + 1)⟩

theorem sameFields_iff (distinct : (secondFields.map Prod.fst).Nodup) :
    sameFields firstFields secondFields = true ↔ ∀ field ∈ firstFields, ∃ other : Json,
      (field.1, other) ∈ secondFields ∧ same field.2 other = true := by
  induction firstFields with
  | nil => simp [sameFields]
  | cons field rest ih =>
    obtain ⟨key, value⟩ := field
    rw [sameFields, Bool.and_eq_true, List.forall_mem_cons, ih]
    refine and_congr_left' ?_
    simp only [← lookup_eq_some_iff_mem distinct]
    cases secondFields.lookup key with
    | some held => simp
    | none => simp

theorem exists_mem_iff_mem_keys : (∃ value, (key, value) ∈ fields) ↔ key ∈ fields.map Prod.fst := by
  simp

/-- Objects with as many fields have the same keys if one has all the keys of the other. -/
theorem keys_perm (distinct : (firstFields.map Prod.fst).Nodup)
    (length : firstFields.length = secondFields.length)
    (subset : firstFields.map Prod.fst ⊆ secondFields.map Prod.fst) :
    (firstFields.map Prod.fst).Perm (secondFields.map Prod.fst) := by
  refine (List.subperm_of_subset distinct subset).perm_of_length_le ?_
  rw [List.length_map, List.length_map, length]

theorem same_object_iff (keyed : (object firstFields).isKeyed = true)
    (secondKeyed : (object secondFields).isKeyed = true)
    (ih : ∀ field ∈ firstFields, ∀ other : Keyed,
      same field.2 other.1 = true ↔ Equal field.2 other.1) :
    same (object firstFields) (object secondFields) = true ↔
      Equal (object firstFields) (object secondFields) := by
  rw [isKeyed_object_iff] at keyed secondKeyed
  rw [same, Bool.and_eq_true, beq_iff_eq, sameFields_iff secondKeyed.1]
  constructor
  · rintro ⟨length, found⟩
    -- Only the keys of the first object were looked up; counting gives the other direction.
    have subset : firstFields.map Prod.fst ⊆ secondFields.map Prod.fst := by
      intro key member
      obtain ⟨field, inFirst, rfl⟩ := List.mem_map.mp member
      obtain ⟨other, inSecond, -⟩ := found field inFirst
      exact List.mem_map.mpr ⟨_, inSecond, rfl⟩
    refine .object (fun key => ?_) ?_
    · rw [exists_mem_iff_mem_keys, exists_mem_iff_mem_keys]
      exact (keys_perm keyed.1 length subset).mem_iff
    · intro key one other member otherMember
      obtain ⟨held, inSecond, agrees⟩ := found (key, one) member
      obtain rfl := eq_of_mem_of_mem secondKeyed.1 inSecond otherMember
      exact (ih (key, one) member ⟨held, secondKeyed.2 _ inSecond⟩).mp agrees
  · intro equal
    cases equal with
    | object keys values =>
      have sameKeys : (firstFields.map Prod.fst).Perm (secondFields.map Prod.fst) := by
        rw [List.perm_ext_iff_of_nodup keyed.1 secondKeyed.1]
        intro key
        rw [← exists_mem_iff_mem_keys, ← exists_mem_iff_mem_keys]
        exact keys key
      have length := sameKeys.length_eq
      rw [List.length_map, List.length_map] at length
      refine ⟨length, ?_⟩
      intro field member
      obtain ⟨other, inSecond⟩ := (keys field.1).mp ⟨field.2, member⟩
      have agrees := values field.1 field.2 other member inSecond
      exact ⟨other, inSecond, (ih field member ⟨other, secondKeyed.2 _ inSecond⟩).mpr agrees⟩

theorem same_array_iff {others : List Json} (otherKeyed : (array others).isKeyed = true)
    (ih : ∀ item ∈ items, ∀ other : Keyed, same item other.1 = true ↔ Equal item other.1) :
    same (array items) (array others) = true ↔ Equal (array items) (array others) := by
  rw [isKeyed_array_iff] at otherKeyed
  have agree {position : Nat} {one other : Json} (found : items[position]? = some one)
      (otherFound : others[position]? = some other) : same one other = true ↔ Equal one other :=
    ih one (List.mem_of_getElem? found)
      ⟨other, otherKeyed other (List.mem_of_getElem? otherFound)⟩
  rw [same, sameItems_iff]
  constructor
  · rintro ⟨length, all⟩
    refine .array length ?_
    intro position one other found otherFound
    exact (agree found otherFound).mp (all position one other found otherFound)
  · intro equal
    cases equal with
    | array length all =>
      refine ⟨length, ?_⟩
      intro position one other found otherFound
      exact (agree found otherFound).mpr (all position one other found otherFound)

/-- The comparison of values without repeated keys decides whether they are equal. -/
theorem same_iff (first second : Keyed) :
    same first.1 second.1 = true ↔ Equal first.1 second.1 := by
  obtain ⟨first, keyed⟩ := first
  obtain ⟨second, secondKeyed⟩ := second
  dsimp only
  induction first using induction_members generalizing second with
  | null =>
    cases second with
    | null => exact iff_of_true rfl .null
    | _ => exact iff_of_false Bool.false_ne_true nofun
  | bool value =>
    cases second with
    | bool other =>
      rw [same, beq_iff_eq]
      exact ⟨fun equal => equal ▸ .bool value, fun | .bool _ => rfl⟩
    | _ => exact iff_of_false Bool.false_ne_true nofun
  | integer value =>
    cases second with
    | integer other =>
      rw [same, beq_iff_eq]
      exact ⟨fun equal => equal ▸ .integer value, fun | .integer _ => rfl⟩
    | _ => exact iff_of_false Bool.false_ne_true nofun
  | double value =>
    cases second with
    | double other =>
      rw [same, Double.same_iff]
      exact ⟨.double, fun | .double values => values⟩
    | _ => exact iff_of_false Bool.false_ne_true nofun
  | string value =>
    cases second with
    | string other =>
      rw [same, beq_iff_eq]
      exact ⟨fun equal => equal ▸ .string value, fun | .string _ => rfl⟩
    | _ => exact iff_of_false Bool.false_ne_true nofun
  | array items ih =>
    cases second with
    | array others =>
      refine same_array_iff secondKeyed ?_
      intro item member other
      exact ih item member (isKeyed_array_iff.mp keyed item member) other.1 other.2
    | _ => exact iff_of_false Bool.false_ne_true nofun
  | object fields ih =>
    cases second with
    | object others =>
      refine same_object_iff keyed secondKeyed ?_
      intro field member other
      exact ih field member ((isKeyed_object_iff.mp keyed).2 field member) other.1 other.2
    | _ => exact iff_of_false Bool.false_ne_true nofun

/-! ## Reordered fields -/

/-- The second value is the first one with the fields of some objects in another order. -/
inductive Reordered : Json → Json → Prop where
  | refl (value : Json) : Reordered value value
  | trans {first second third : Json} (one : Reordered first second)
      (next : Reordered second third) : Reordered first third
  | fields {first second : List (Text × Json)} (shuffled : first.Perm second) :
      Reordered (object first) (object second)
  | item {one other : Json} (before after : List Json) (inside : Reordered one other) :
      Reordered (array (before ++ one :: after)) (array (before ++ other :: after))
  | field {one other : Json} (before after : List (Text × Json)) (key : Text)
      (inside : Reordered one other) :
      Reordered (object (before ++ (key, one) :: after)) (object (before ++ (key, other) :: after))

/-- Arrays are equal if their items are, from the first to the last. -/
theorem Equal.array_of_forall₂ {items others : List Json}
    (equal : List.Forall₂ Equal items others) : Equal (.array items) (.array others) := by
  refine array equal.length_eq ?_
  intro position one other found otherFound
  obtain ⟨inside, rfl⟩ := List.getElem?_eq_some_iff.mp found
  obtain ⟨otherInside, rfl⟩ := List.getElem?_eq_some_iff.mp otherFound
  exact equal.get inside otherInside

/-- An item may be replaced by an equal one. -/
theorem Equal.array_replace {before after : List Json}
    (beforeKeyed : ∀ item ∈ before, item.isKeyed = true)
    (afterKeyed : ∀ item ∈ after, item.isKeyed = true) (equal : Equal one other) :
    Equal (.array (before ++ one :: after)) (.array (before ++ other :: after)) := by
  have unchanged {items : List Json} (keyed : ∀ item ∈ items, item.isKeyed = true) :
      List.Forall₂ Equal items items :=
    List.forall₂_same.mpr fun item member => refl ⟨item, keyed item member⟩
  exact array_of_forall₂
    (List.rel_append (unchanged beforeKeyed) (.cons equal (unchanged afterKeyed)))

/-- The value of a field may be replaced by an equal one. -/
theorem Equal.object_replace {before after : List (Text × Json)}
    (keyed : (Json.object (before ++ (key, one) :: after)).isKeyed = true)
    (equal : Equal one other) :
    Equal (.object (before ++ (key, one) :: after))
      (.object (before ++ (key, other) :: after)) := by
  rw [isKeyed_object_iff] at keyed
  refine object (fun name => ?_) ?_
  · simp only [exists_mem_iff_mem_keys, List.map_append, List.map_cons]
  · intro name held otherHeld member otherMember
    rw [List.mem_append, List.mem_cons] at otherMember
    by_cases replaced : (name, otherHeld) = (key, other)
    · cases replaced
      have original : (key, one) ∈ before ++ (key, one) :: after :=
        List.mem_append_right before List.mem_cons_self
      obtain rfl := eq_of_mem_of_mem keyed.1 member original
      exact equal
    · -- Every other field of the new object is one of the old object, with its only value there.
      have kept : (name, otherHeld) ∈ before ++ (key, one) :: after := by
        rw [List.mem_append, List.mem_cons]
        exact otherMember.imp_right fun found => .inr (found.resolve_left replaced)
      obtain rfl := eq_of_mem_of_mem keyed.1 member kept
      exact refl ⟨held, keyed.2 _ member⟩

/-- Reordered values are equal. -/
theorem Reordered.equal (reordered : Reordered first second) (keyed : first.isKeyed = true) :
    second.isKeyed = true ∧ Equal first second := by
  induction reordered with
  | refl value => exact ⟨keyed, .refl ⟨value, keyed⟩⟩
  | trans one next ih nextIh =>
    obtain ⟨middleKeyed, equal⟩ := ih keyed
    obtain ⟨lastKeyed, nextEqual⟩ := nextIh middleKeyed
    exact ⟨lastKeyed, equal.trans nextEqual⟩
  | fields shuffled =>
    rw [isKeyed_object_iff] at keyed
    refine ⟨isKeyed_object_iff.mpr ⟨?_, ?_⟩, .object (fun key => ?_) ?_⟩
    · exact (shuffled.map Prod.fst).nodup_iff.mp keyed.1
    · intro field member
      exact keyed.2 field (shuffled.mem_iff.mpr member)
    · exact exists_congr fun value => shuffled.mem_iff
    · intro key one other member otherMember
      obtain rfl := eq_of_mem_of_mem keyed.1 member (shuffled.mem_iff.mpr otherMember)
      exact .refl ⟨one, keyed.2 _ member⟩
  | item before after inside ih =>
    rw [isKeyed_array_iff, List.forall_mem_append, List.forall_mem_cons] at keyed
    obtain ⟨beforeKeyed, oneKeyed, afterKeyed⟩ := keyed
    obtain ⟨otherKeyed, equal⟩ := ih oneKeyed
    rw [isKeyed_array_iff, List.forall_mem_append, List.forall_mem_cons]
    exact ⟨⟨beforeKeyed, otherKeyed, afterKeyed⟩, .array_replace beforeKeyed afterKeyed equal⟩
  | field before after key inside ih =>
    have whole := keyed
    rw [isKeyed_object_iff, List.forall_mem_append, List.forall_mem_cons, List.map_append,
      List.map_cons] at keyed
    obtain ⟨distinct, beforeKeyed, oneKeyed, afterKeyed⟩ := keyed
    obtain ⟨otherKeyed, equal⟩ := ih oneKeyed
    rw [isKeyed_object_iff, List.forall_mem_append, List.forall_mem_cons, List.map_append,
      List.map_cons]
    exact ⟨⟨distinct, beforeKeyed, otherKeyed, afterKeyed⟩, .object_replace whole equal⟩

end Beanwright.Json
