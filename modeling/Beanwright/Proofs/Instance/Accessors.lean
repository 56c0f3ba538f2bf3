import Beanwright.Proofs.Instance.Slots

/-!
# The contract of accessors

Setting a property is refused for one of three reasons, of which the first that applies is given,
and otherwise it changes that property only. From this alone follows what a property holds after any
number of calls, refused ones among them: nothing that a guard rejects and never a null, the first
value that stayed if the property is immutable, and in any case the last value that was accepted.

## Main definitions

* `Instance.accepted` — the values that a run of calls gives to a property
* `Instance.Contract` — when a call is refused, and what it changes otherwise
* `Instance.Guarded` — every held value passes the guards of its property

## Main results

* `Instance.contract` — every instance follows the contract
* `Instance.Guarded.attempt` — a call keeps held values guarded
* `Instance.value?_attempt_of_immutable` — a call keeps the value of an immutable property
* `Instance.value?_after` — what a property holds after a run
* `Instance.accessors_keep_contract` — all of it, for the runs from a new instance
-/

namespace Beanwright.Instance

open Slot

variable {registry : Registry} {inst changed : Instance registry}
  {name other : Text} {value : Json} {property : Property}

/-! ## Reading -/

theorem get_eq_ok_iff : inst.get name = .ok value ↔ inst.value? name = some value := by
  rw [get, value?]
  cases inst.slot? name with
  | none => simp
  | some slot => cases given : slot.value <;> simp [given]

theorem isSet_iff : inst.isSet name = true ↔ Succeeds (inst.get name) := by
  simp only [isSet, Option.isSome_iff_exists, Succeeds, get_eq_ok_iff]

/-- A declared property has a slot that is found by its name. -/
theorem exists_slot? (inst : Instance registry) (inProperties : property ∈ registry.properties) :
    ∃ slot, slot.name = property.name ∧ inst.slot? property.name = some slot := by
  obtain ⟨slot, inSlots, sameName, -⟩ := inst.exists_slot inProperties
  refine ⟨slot, sameName, ?_⟩
  rw [← sameName]
  exact slot?_eq_some inSlots

/-- A declared property holds a value or is reported to be unset. -/
theorem get_eq (inst : Instance registry) (inProperties : property ∈ registry.properties) :
    inst.get property.name =
      (inst.value? property.name).elim (.error (.propertyNotSet property.name)) .ok := by
  obtain ⟨slot, -, search⟩ := inst.exists_slot? inProperties
  rw [get, value?, search, Option.bind_some]
  dsimp only
  cases slot.value <;> rfl

/-- A value that is held is a value of a declared property, and no null. -/
theorem of_value?_eq_some (held : inst.value? name = some value) :
    value ≠ .null ∧ ∃ property ∈ registry.properties, property.name = name := by
  rw [value?, Option.bind_eq_some_iff] at held
  obtain ⟨slot, search, given⟩ := held
  have inSlots := List.mem_of_find?_eq_some search
  have sameName : slot.name = name := by simpa using List.find?_some search
  constructor
  · rintro rfl
    exact slot.notNull given
  · have inNames : name ∈ registry.properties.map Property.name := by
      rw [← inst.map_name_slots, ← sameName]
      exact List.mem_map_of_mem inSlots
    exact List.mem_map.mp inNames

/-! ## Assigning -/

theorem slot?_assign (inst : Instance registry) (name : Text) (value : Json) (other : Text) :
    (inst.assign name value).slot? other = (inst.slot? other).map (Slot.assign name value) := by
  have sameName (slot : Slot) : (slot.assign name value).name = slot.name :=
    congrArg Prod.fst (place_assign name value slot)
  rw [slot?, assign, mapSlots, List.find?_map, slot?]
  simp only [Function.comp_def, sameName]

/-- Assigning to a property leaves the others as they are. -/
theorem slot?_assign_of_ne (differ : other ≠ name) (inst : Instance registry) (value : Json) :
    (inst.assign name value).slot? other = inst.slot? other := by
  rw [slot?_assign]
  cases search : inst.slot? other with
  | none => rfl
  | some slot =>
    have sameName : slot.name = other := by simpa using List.find?_some search
    rw [Option.map_some, Slot.assign, if_neg (by rwa [sameName])]

/-! ## Setting -/

/-- An immutable property holds a value already. -/
def Locked (inst : Instance registry) (property : Property) : Prop :=
  property.immutable = true ∧ inst.isSet property.name = true

/-- What setting a declared property can do. -/
theorem set_cases (inst : Instance registry) (inProperties : property ∈ registry.properties)
    (value : Json) :
    (inst.Locked property ∧
      inst.set property.name value = .error (.immutableProperty property.name)) ∨
    (¬inst.Locked property ∧ (∃ guard ∈ property.guards, guard.accepts value = false) ∧
      inst.set property.name value = .error (.invalidValue property.name value)) ∨
    (¬inst.Locked property ∧ (∀ guard ∈ property.guards, guard.accepts value = true) ∧
      inst.set property.name value = .ok (inst.assign property.name value)) := by
  rw [inst.set_eq inProperties, Locked, ← Bool.and_eq_true]
  by_cases locked : (property.immutable && inst.isSet property.name) = true
  · exact .inl ⟨locked, if_pos locked⟩
  · rw [if_neg locked]
    by_cases passes : (property.guards.all fun guard => guard.accepts value) = true
    · exact .inr (.inr ⟨locked, List.all_eq_true.mp passes, if_pos passes⟩)
    · refine .inr (.inl ⟨locked, ?_, if_neg passes⟩)
      simpa using passes

/-- A property that is set is declared. -/
theorem exists_property_of_set (set : inst.set name value = .ok changed) :
    ∃ property ∈ registry.properties, property.name = name := by
  rw [Instance.set] at set
  cases search : registry.find? name with
  | none =>
    rw [search] at set
    cases set
  | some property =>
    exact ⟨property, List.mem_of_find?_eq_some search, by simpa using List.find?_some search⟩

/-- When a call on an instance is refused and for what reason, and what it changes otherwise. -/
structure Contract (inst : Instance registry) : Prop where
  /-- A property is set exactly if it can be read. -/
  isSet : ∀ name, inst.isSet name = true ↔ Succeeds (inst.get name)
  /-- A property that is not declared is unknown. -/
  unknown : ∀ name value,
    inst.set name value = .error (.unknownProperty name) ↔ registry.has name = false
  /-- An immutable property that is set stays, whatever the value. -/
  immutable : ∀ property ∈ registry.properties, ∀ value,
    inst.set property.name value = .error (.immutableProperty property.name) ↔
      inst.Locked property
  /-- Otherwise a value that some guard rejects is refused. -/
  rejected : ∀ property ∈ registry.properties, ∀ value,
    inst.set property.name value = .error (.invalidValue property.name value) ↔
      ¬inst.Locked property ∧ ∃ guard ∈ property.guards, guard.accepts value = false
  /-- Otherwise the call succeeds. -/
  accepted : ∀ property ∈ registry.properties, ∀ value,
    Succeeds (inst.set property.name value) ↔
      ¬inst.Locked property ∧ ∀ guard ∈ property.guards, guard.accepts value = true
  /-- A call that is refused leaves everything as it was. -/
  refused : ∀ call, ¬Succeeds (inst.set call.1 call.2) → inst.attempt call = inst
  /-- A call that succeeds leaves the other properties as they were. -/
  others : ∀ name value changed, inst.set name value = .ok changed → ∀ other, other ≠ name →
    changed.get other = inst.get other ∧ changed.isSet other = inst.isSet other

theorem attempt_of_not_succeeds {call : Text × Json}
    (fails : ¬Succeeds (inst.set call.1 call.2)) : inst.attempt call = inst := by
  rw [Instance.attempt]
  cases tried : inst.set call.1 call.2 with
  | error cause => rfl
  | ok changed => exact absurd ⟨changed, tried⟩ fails

/-- Every instance follows the contract. -/
theorem contract (inst : Instance registry) : Contract inst where
  isSet := fun _ => isSet_iff
  unknown := by
    intro name value
    cases search : registry.find? name with
    | none => simp [Instance.set, Registry.has, search]
    | some property =>
      have inProperties := List.mem_of_find?_eq_some search
      obtain rfl : property.name = name := by simpa using List.find?_some search
      rw [Registry.has, search]
      obtain ⟨-, set⟩ | ⟨-, -, set⟩ | ⟨-, -, set⟩ :=
        inst.set_cases inProperties value <;> simp [set]
  immutable := by
    intro property inProperties value
    obtain ⟨locked, set⟩ | ⟨free, -, set⟩ | ⟨free, -, set⟩ :=
      inst.set_cases inProperties value
    · simp [set, locked]
    · simp [set, free]
    · simp [set, free]
  rejected := by
    intro property inProperties value
    obtain ⟨locked, set⟩ | ⟨free, rejects, set⟩ | ⟨-, passes, set⟩ :=
      inst.set_cases inProperties value
    · simp [set, locked]
    · simpa [set, free] using rejects
    · simpa [set] using fun _ => passes
  accepted := by
    intro property inProperties value
    obtain ⟨locked, set⟩ | ⟨-, rejects, set⟩ | ⟨free, passes, set⟩ :=
      inst.set_cases inProperties value
    · simp [Succeeds, set, locked]
    · simpa [Succeeds, set] using fun _ => rejects
    · simpa [Succeeds, set, free] using passes
  refused := fun _ => attempt_of_not_succeeds
  others := by
    intro name value changed set other differ
    rw [eq_assign_of_set set, get, isSet, value?, slot?_assign_of_ne differ]
    exact ⟨rfl, rfl⟩

/-! ## One call -/

/-- Every held value passes the guards of its property. -/
def Guarded (inst : Instance registry) : Prop :=
  ∀ property ∈ registry.properties, ∀ value, inst.value? property.name = some value →
    ∀ guard ∈ property.guards, guard.accepts value = true

/-- What a property holds after it is assigned. -/
theorem value?_assign (inst : Instance registry) (inProperties : property ∈ registry.properties)
    (value : Json) : (inst.assign property.name value).value? property.name = held value := by
  obtain ⟨slot, sameName, search⟩ := inst.exists_slot? inProperties
  rw [value?, slot?_assign, search, Option.map_some, Slot.assign, if_pos sameName,
    Option.bind_some, put]

theorem value?_assign_of_ne (differ : other ≠ name) (inst : Instance registry) (value : Json) :
    (inst.assign name value).value? other = inst.value? other := by
  rw [value?, slot?_assign_of_ne differ, value?]

/-- A call that succeeds sets its property, and every other call leaves it as it was. -/
theorem value?_attempt (inst : Instance registry) (name : Text) (call : Text × Json) :
    (inst.attempt call).value? name =
      if call.1 = name ∧ Succeeds (inst.set call.1 call.2) then held call.2
      else inst.value? name := by
  by_cases succeeds : Succeeds (inst.set call.1 call.2)
  · obtain ⟨changed, set⟩ := succeeds
    obtain ⟨property, inProperties, sameName⟩ := exists_property_of_set set
    rw [Instance.attempt, set]
    dsimp only
    rw [eq_assign_of_set set, ← sameName]
    by_cases here : property.name = name
    · rw [if_pos ⟨here, _, rfl⟩, ← here, inst.value?_assign inProperties]
    · rw [if_neg fun both => here both.1, value?_assign_of_ne (Ne.symm here)]
  · rw [attempt_of_not_succeeds succeeds, if_neg fun both => succeeds both.2]

theorem Guarded.attempt (guarded : Guarded inst) (call : Text × Json) :
    Guarded (inst.attempt call) := by
  intro property inProperties value holds
  rw [value?_attempt] at holds
  split at holds
  · next both =>
    obtain ⟨sameName, succeeds⟩ := both
    rw [sameName] at succeeds
    obtain ⟨rfl, -⟩ := held_eq_some_iff.mp holds
    exact (inst.contract.accepted property inProperties call.2 |>.mp succeeds).2
  · exact guarded property inProperties value holds

/-- A call leaves an immutable property that is set as it was. -/
theorem value?_attempt_of_immutable
    (inProperties : property ∈ registry.properties) (immutable : property.immutable = true)
    (holds : inst.value? property.name = some value) (call : Text × Json) :
    (inst.attempt call).value? property.name = some value := by
  rw [value?_attempt, if_neg, holds]
  rintro ⟨sameName, succeeds⟩
  rw [sameName] at succeeds
  apply (inst.contract.accepted property inProperties call.2 |>.mp succeeds).1
  exact ⟨immutable, by rw [isSet, holds, Option.isSome_some]⟩

/-! ## Runs -/

/-- The values that a run of calls gives to a property: those of the calls on it that succeed, in
order. -/
def accepted (name : Text) : Instance registry → List (Text × Json) → List Json
  | _, [] => []
  | inst, call :: rest =>
    if call.1 = name ∧ Succeeds (inst.set call.1 call.2) then
      call.2 :: accepted name (inst.attempt call) rest
    else accepted name (inst.attempt call) rest

theorem Guarded.after (guarded : Guarded inst) (calls : List (Text × Json)) :
    Guarded (inst.after calls) := by
  induction calls generalizing inst with
  | nil => exact guarded
  | cons call rest ih => exact ih (guarded.attempt call)

/-- An immutable property that is set keeps its value. -/
theorem value?_after_of_immutable
    (inProperties : property ∈ registry.properties) (immutable : property.immutable = true)
    (holds : inst.value? property.name = some value) (calls : List (Text × Json)) :
    (inst.after calls).value? property.name = some value := by
  induction calls generalizing inst with
  | nil => exact holds
  | cons call rest ih =>
    exact ih (value?_attempt_of_immutable inProperties immutable holds call)

/-- After a run a property holds the last value that was accepted, and what it held before if none
was. -/
theorem value?_after (inst : Instance registry) (name : Text) (calls : List (Text × Json)) :
    (inst.after calls).value? name =
      (inst.accepted name calls).getLast?.elim (inst.value? name) held := by
  induction calls generalizing inst with
  | nil => rfl
  | cons call rest ih =>
    change ((inst.attempt call).after rest).value? name = _
    rw [ih, value?_attempt, accepted]
    split
    · rw [List.getLast?_cons]
      cases (accepted name (inst.attempt call) rest).getLast? <;> rfl
    · rfl

/-- Accessors keep their contract in every run of calls, whatever calls are refused, from the new
instance of any registry whose properties all have identifiers. At any time a call is refused
exactly for the reason that the contract gives, and changes nothing else otherwise. What a property
holds is never null and passes its guards. An immutable property that is set keeps its value. And
every property holds the last value that was accepted; it is unset if that was null or if there was
none. -/
theorem accessors_keep_contract (derivable : registry.Derivable) :
    ∃ fresh, create registry = .ok fresh ∧ ∀ calls,
      Contract (fresh.after calls) ∧
      (∀ name value, (fresh.after calls).get name = .ok value → value ≠ .null ∧
        ∃ property ∈ registry.properties, property.name = name ∧
          ∀ guard ∈ property.guards, guard.accepts value = true) ∧
      (∀ property ∈ registry.properties, property.immutable = true →
        ∀ value, (fresh.after calls).get property.name = .ok value →
          ∀ later, (fresh.after (calls ++ later)).get property.name = .ok value) ∧
      ∀ property ∈ registry.properties, (fresh.after calls).get property.name =
        ((fresh.accepted property.name calls).getLast?.bind held).elim
          (.error (.propertyNotSet property.name)) .ok := by
  obtain ⟨fresh, created⟩ := succeeds_create_iff.mpr derivable
  have unset (name : Text) : fresh.value? name = none := by
    rw [value?, slot?, Option.bind_eq_none_iff]
    exact fun slot search => value_of_create created (List.mem_of_find?_eq_some search)
  have guarded : Guarded fresh := by
    intro property _ value holds
    rw [unset] at holds
    cases holds
  refine ⟨fresh, created, fun calls => ⟨(fresh.after calls).contract, ?_, ?_, ?_⟩⟩
  · intro name value reads
    have holds := get_eq_ok_iff.mp reads
    obtain ⟨notNull, property, inProperties, rfl⟩ := of_value?_eq_some holds
    exact ⟨notNull, property, inProperties, rfl,
      guarded.after calls property inProperties value holds⟩
  · intro property inProperties immutable value reads later
    rw [after, List.foldl_append]
    exact get_eq_ok_iff.mpr (value?_after_of_immutable inProperties immutable
      (get_eq_ok_iff.mp reads) later)
  · intro property inProperties
    rw [get_eq _ inProperties, value?_after, unset]
    cases (accepted property.name fresh calls).getLast? <;> rfl

/-- Null leaves an immutable property free, and a number settles it. -/
theorem accessors_keep_contract_sample :
    ∃ fresh, create (Registry.sample (.custom 0 "v => true".toList fun _ => true)) = .ok fresh ∧
      (fresh.after [("a.b".toList, .null), ("a.b".toList, .integer 1),
        ("x".toList, .integer 3), ("a.b".toList, .integer 2)]).get "a.b".toList =
          .ok (.integer 1) := by
  obtain ⟨fresh, created, keeps⟩ := accessors_keep_contract
    (Registry.sample_derivable (.custom 0 "v => true".toList fun _ => true))
  refine ⟨fresh, created, ?_⟩
  cases created
  exact (keeps [("a.b".toList, .null), ("a.b".toList, .integer 1)]).2.2.1 _ List.mem_cons_self rfl
    (.integer 1) rfl [("x".toList, .integer 3), ("a.b".toList, .integer 2)]

end Beanwright.Instance
