import Mathlib.Data.List.Nodup
import Beanwright.Instance
import Beanwright.Proofs.Registry.Reachable

/-!
# The slots of an instance

The slots of an instance stand for the properties of its registry in order. As no two properties
share a name or a backing field, a slot is found by either, and the record of an instance determines
the instance.
-/

namespace Beanwright

namespace Slot

variable {value : Json} {slot : Slot}

/-! ## Held values -/

theorem held_eq_some_iff {given : Json} :
    held given = some value ↔ given = value ∧ value ≠ .null := by
  rw [held]
  split
  · next isNull =>
    rw [Json.isNull_iff] at isNull
    simp [isNull, eq_comm]
  · next notNull =>
    rw [Json.isNull_iff] at notNull
    simp only [Option.some.injEq]
    constructor
    · rintro rfl
      exact ⟨rfl, notNull⟩
    · exact And.left

theorem getD_held (value : Json) : (held value).getD .null = value := by
  rw [held]
  split
  · next isNull => rw [(Json.isNull_iff value).mp isNull, Option.getD_none]
  · rfl

/-- Null in a record is no value in a slot. -/
theorem held_getD (slot : Slot) : held (slot.value.getD .null) = slot.value := by
  cases given : slot.value with
  | none => rfl
  | some value =>
    rw [Option.getD_some, held, if_neg]
    rw [Json.isNull_iff]
    rintro rfl
    exact slot.notNull given

/-! ## Finding slots -/

/-- The field of a record that shows a slot. -/
def shown (slot : Slot) : Text × Json := (slot.field, slot.value.getD .null)

/-- The value of a slot is found by its field. -/
theorem lookup_shown {slots : List Slot} (distinct : (slots.map Slot.field).Nodup)
    (inSlots : slot ∈ slots) :
    (slots.map shown).lookup slot.field = some (slot.value.getD .null) := by
  induction slots with
  | nil => cases inSlots
  | cons first rest ih =>
    rw [List.map_cons, List.nodup_cons] at distinct
    rw [List.map_cons, shown, List.lookup_cons]
    rcases List.mem_cons.mp inSlots with rfl | inRest
    · rw [beq_self_eq_true]
    · have differs : (slot.field == first.field) = false := by
        rw [beq_eq_false_iff_ne]
        intro equal
        exact distinct.1 (equal ▸ List.mem_map_of_mem inRest)
      rw [differs]
      exact ih distinct.2 inRest

end Slot

namespace Instance

open Slot

variable {registry : Registry} {members : List Member} {inst changed other : Instance registry}
  {slot : Slot} {name key className : Text} {value : Json} {property : Property}

theorem map_name_slots (inst : Instance registry) :
    inst.slots.map Slot.name = registry.properties.map Property.name := by
  have names := congrArg (List.map Prod.fst) inst.places
  rw [List.map_map, List.map_map] at names
  exact names

theorem map_field_slots (inst : Instance registry) :
    inst.slots.map Slot.field = registry.fields := by
  have fields := congrArg (List.filterMap Prod.snd) inst.places
  rw [List.filterMap_map, List.filterMap_map] at fields
  rw [← List.filterMap_eq_map]
  exact fields

theorem nodup_map_field_slots (inst : Instance registry) :
    (inst.slots.map Slot.field).Nodup := by
  rw [inst.map_field_slots]
  exact registry.fields_nodup

/-- Every property has a slot with its name and field. -/
theorem exists_slot (inst : Instance registry) (inProperties : property ∈ registry.properties) :
    ∃ slot ∈ inst.slots, slot.name = property.name ∧
      Registry.fieldOf? property.name = some slot.field := by
  have place : (property.name, Registry.fieldOf? property.name) ∈ inst.slots.map Slot.place := by
    rw [inst.places]
    exact List.mem_map_of_mem inProperties
  obtain ⟨slot, inSlots, same⟩ := List.mem_map.mp place
  rw [Slot.place, Prod.mk.injEq] at same
  exact ⟨slot, inSlots, same.1, same.2.symm⟩

/-- A slot is found by its name. -/
theorem slot?_eq_some (inSlots : slot ∈ inst.slots) : inst.slot? slot.name = some slot := by
  have distinct : (inst.slots.map Slot.name).Nodup := by
    rw [inst.map_name_slots]
    exact registry.names_nodup
  exact Registry.find?_key_eq_some Slot.name distinct inSlots

/-- Only registries whose properties all have identifiers have instances. -/
theorem derivable (inst : Instance registry) : registry.Derivable := by
  intro property inProperties
  obtain ⟨slot, -, -, derives⟩ := inst.exists_slot inProperties
  rw [Registry.fieldOf?] at derives
  cases names : MemberNames.ofProperty property.name with
  | error cause =>
    rw [names] at derives
    cases derives
  | ok found => exact ⟨found, names⟩

theorem dump_eq (inst : Instance registry) : inst.dump = .object (inst.slots.map shown) := rfl

/-- Instances with the same record are the same: the registry tells their places, and the record
tells their values. -/
theorem eq_of_dump_eq (same : inst.dump = other.dump) : inst = other := by
  have remade (slots others : List Slot) (places : slots.map Slot.place = others.map Slot.place)
      (records : slots.map shown = others.map shown) : slots = others := by
    induction slots generalizing others with
    | nil => exact (List.map_eq_nil_iff.mp places.symm).symm
    | cons slot rest ih =>
      cases others with
      | nil => cases places
      | cons other later =>
        rw [List.map_cons, List.map_cons, List.cons.injEq] at places records
        have names : slot.name = other.name := congrArg Prod.fst places.1
        have fields : slot.field = other.field := congrArg Prod.fst records.1
        have values : slot.value = other.value := by
          rw [← slot.held_getD, ← other.held_getD]
          exact congrArg (fun field => held field.2) records.1
        rw [Slot.ext names fields values, ih later places.2 records.2]
  exact Instance.ext (remade _ _ (inst.places.trans other.places.symm) (Json.object.inj same))

/-! ## Creating and setting -/

theorem create_eq_of_members (found : registry.members = .ok members) :
    create registry = .ok ⟨members.map Slot.ofMember, places_of_members found⟩ := by
  rw [create]
  split
  · next others collected =>
    obtain rfl := Except.ok.inj (collected.symm.trans found)
    rfl
  · next fails => cases fails.symm.trans found

/-- Instances are created exactly of registries whose properties all have identifiers. -/
theorem succeeds_create_iff : Succeeds (create registry) ↔ registry.Derivable := by
  constructor
  · rintro ⟨inst, -⟩
    exact inst.derivable
  · intro derivable
    obtain ⟨members, found⟩ := Registry.exists_members_iff.mpr derivable
    exact ⟨_, create_eq_of_members found⟩

/-- A new instance holds nothing. -/
theorem value_of_create (created : create registry = .ok inst) (inSlots : slot ∈ inst.slots) :
    slot.value = none := by
  obtain ⟨members, found⟩ := Registry.exists_members_iff.mpr inst.derivable
  rw [create_eq_of_members found] at created
  cases created
  obtain ⟨member, -, rfl⟩ := List.mem_map.mp inSlots
  rfl

/-- A property of the registry is set if it is free to be set and its guards accept the value. -/
theorem set_eq (inst : Instance registry) (inProperties : property ∈ registry.properties)
    (value : Json) : inst.set property.name value =
      if property.immutable && inst.isSet property.name then
        .error (.immutableProperty property.name)
      else if property.guards.all fun guard => guard.accepts value then
        .ok (inst.assign property.name value)
      else .error (.invalidValue property.name value) := by
  rw [set, Registry.find?_eq_some inProperties]

/-- Setting assigns or fails. -/
theorem eq_assign_of_set (set : inst.set name value = .ok changed) :
    changed = inst.assign name value := by
  rw [Instance.set] at set
  split at set
  · cases set
  · split at set
    · cases set
    · split at set
      · cases set
        rfl
      · cases set

/-- The instance after a property is set: as before if that fails. -/
def attempt (inst : Instance registry) (call : Text × Json) : Instance registry :=
  match inst.set call.1 call.2 with
  | .ok changed => changed
  | .error _ => inst

/-- The instance after properties are set one after the other. -/
def after (inst : Instance registry) (calls : List (Text × Json)) : Instance registry :=
  calls.foldl attempt inst

/-! ## Loading -/

/-- A slot after a field of a record is taken over: the slot of that field holds the value. -/
def filled (slot : Slot) (field : Text × Json) : Slot :=
  if slot.field = field.1 then slot.put field.2 else slot

theorem place_filled (slot : Slot) (field : Text × Json) :
    (filled slot field).place = slot.place := by
  rw [filled]
  split <;> rfl

theorem fill?_eq_none {slots : List Slot} (undeclared : key ∉ slots.map Slot.field) :
    fill? key value slots = none := by
  induction slots with
  | nil => rfl
  | cons slot rest ih =>
    rw [List.map_cons, List.mem_cons, not_or] at undeclared
    rw [fill?, if_neg (Ne.symm undeclared.1), ih undeclared.2]
    rfl

/-- If fields are distinct, filling the first slot of a field fills all slots of that field. -/
theorem fill?_eq_some {slots : List Slot} (distinct : (slots.map Slot.field).Nodup)
    (declared : key ∈ slots.map Slot.field) :
    fill? key value slots = some (slots.map fun slot => filled slot (key, value)) := by
  induction slots with
  | nil => cases declared
  | cons slot rest ih =>
    rw [List.map_cons, List.nodup_cons] at distinct
    rw [List.map_cons, List.mem_cons] at declared
    rw [fill?, List.map_cons, filled]
    by_cases here : slot.field = key
    -- No slot after this one has the field, so filling all of them changes this one only.
    · have others : (rest.map fun slot => filled slot (key, value)) = rest := by
        rw [List.map_congr_left (g := id), List.map_id]
        intro other inRest
        rw [filled, if_neg, id]
        intro sameField
        have sameField : other.field = slot.field := sameField.trans here.symm
        apply distinct.1
        rw [← sameField]
        exact List.mem_map_of_mem inRest
      rw [if_pos here, if_pos here, others]
    · have later : key ∈ rest.map Slot.field := declared.resolve_left (Ne.symm here)
      rw [if_neg here, if_neg here, ih distinct.2 later]
      rfl

/-- The instance after a field of a record is taken over. -/
def takeOver (inst : Instance registry) (field : Text × Json) : Instance registry :=
  inst.mapSlots (fun slot => filled slot field) fun slot => place_filled slot field

theorem loadFields_cons_of_mem (declared : key ∈ registry.fields) (rest : List (Text × Json)) :
    inst.loadFields ((key, value) :: rest) = (inst.takeOver (key, value)).loadFields rest := by
  rw [← inst.map_field_slots] at declared
  rw [loadFields]
  split
  · next slots found =>
    rw [fill?_eq_some inst.nodup_map_field_slots declared] at found
    obtain rfl := Option.some.inj found
    rfl
  · next fails =>
    rw [fill?_eq_some inst.nodup_map_field_slots declared] at fails
    cases fails

/-- An undeclared key ends the loading, whether or not there is a class name. -/
theorem loadFields_cons_of_notMem (undeclared : key ∉ registry.fields)
    (rest : List (Text × Json)) : inst.loadFields ((key, value) :: rest) = (do
      let className ← registry.name
      .error (.unsupportedKey key className)) := by
  rw [← inst.map_field_slots] at undeclared
  rw [loadFields]
  split
  · next slots found =>
    rw [fill?_eq_none undeclared] at found
    cases found
  · rfl

/-- A record of declared fields is taken over field by field. -/
theorem loadFields_eq_ok {record : List (Text × Json)}
    (declared : ∀ field ∈ record, field.1 ∈ registry.fields) :
    inst.loadFields record = .ok (record.foldl takeOver inst) := by
  induction record generalizing inst with
  | nil => rfl
  | cons field rest ih =>
    rw [loadFields_cons_of_mem (declared field List.mem_cons_self), List.foldl_cons]
    exact ih fun later inRest => declared later (List.mem_cons_of_mem _ inRest)

/-- The first undeclared key of a record is refused by name. -/
theorem loadFields_eq_error {before after : List (Text × Json)}
    (named : registry.className = some className)
    (declared : ∀ field ∈ before, field.1 ∈ registry.fields) (undeclared : key ∉ registry.fields) :
    inst.loadFields (before ++ (key, value) :: after) =
      .error (.unsupportedKey key className) := by
  induction before generalizing inst with
  | nil =>
    rw [List.nil_append, loadFields_cons_of_notMem undeclared, Registry.name, named]
    rfl
  | cons field rest ih =>
    rw [List.cons_append, loadFields_cons_of_mem (declared field List.mem_cons_self)]
    exact ih fun later inRest => declared later (List.mem_cons_of_mem _ inRest)

theorem slots_foldl_takeOver (inst : Instance registry) (record : List (Text × Json)) :
    (record.foldl takeOver inst).slots = inst.slots.map fun slot => record.foldl filled slot := by
  induction record generalizing inst with
  | nil => exact (List.map_id' _).symm
  | cons field rest ih =>
    rw [List.foldl_cons, ih, takeOver, mapSlots, List.map_map]
    rfl

theorem place_foldl_filled (record : List (Text × Json)) (slot : Slot) :
    (record.foldl filled slot).place = slot.place := by
  induction record generalizing slot with
  | nil => rfl
  | cons field rest ih => rw [List.foldl_cons, ih, place_filled]

/-- After a record is taken over, a slot holds the last value that the record has for its field. -/
theorem value_foldl_filled (record : List (Text × Json)) (slot : Slot) :
    (record.foldl filled slot).value =
      (record.reverse.lookup slot.field).elim slot.value held := by
  induction record generalizing slot with
  | nil => rfl
  | cons field rest ih =>
    obtain ⟨key, value⟩ := field
    have sameField : (filled slot (key, value)).field = slot.field := by
      rw [filled]
      split <;> rfl
    rw [List.foldl_cons, ih, sameField, List.reverse_cons, List.lookup_append]
    -- A later value for the same field wins over this one.
    cases later : rest.reverse.lookup slot.field with
    | some last => rfl
    | none =>
      rw [filled]
      by_cases here : slot.field = key
      · simp [here, put]
      · have differ : (slot.field == key) = false := by simpa using here
        simp [List.lookup_cons, differ, here]

end Instance

end Beanwright
