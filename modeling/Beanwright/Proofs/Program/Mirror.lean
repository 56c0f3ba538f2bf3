import Beanwright.Proofs.Instance.Slots
import Beanwright.Proofs.Program.Agreement

/-!
# Instances mirror class programs

A class program is executed on the store of an object: the fields with their values. An instance
behaves like the program of its registry: whatever values are set, the record of the instance is the
store of the object, a property is read with the same result, and setting one fails for the same
reason or leads to the same store.

## Main definitions

* `SetterStep.run`, `AccessorPair.runGetter`, `AccessorPair.runSetter` — execution on a store
* `Mirrors` — an instance behaves like a program on a store

## Main results

* `AccessorPair.runSetter_eq` — when a setter throws, and what it stores otherwise
* `Instance.mirrors` — every instance behaves like the program on its record
* `Instance.after_mirrors` — a run of the program and one of the instance stay together
* `Instance.create_mirrors_assembly` — the mirror of every class that is assembled
-/

namespace Beanwright

/-- The fields of an object with their values. -/
abbrev Store := List (Text × Json)

/-- The value of a field. The constructor leaves null in it. -/
def Store.read (store : Store) (field : Text) : Json := (store.lookup field).getD .null

/-- Where a setter throws. -/
inductive Refusal where
  /-- At the check that an immutable property is unset. -/
  | immutable
  /-- At the guard of an index. -/
  | rejected (index : Nat)

/-- The error of an instance for a refusal. -/
def Refusal.error (name : Text) (value : Json) : Refusal → BeanError
  | immutable => .immutableProperty name
  | rejected _ => .invalidValue name value

/-- The store after a step. -/
def SetterStep.run (value : Json) (store : Store) : SetterStep → Except Refusal Store
  | refuseIfSet _ field => if (store.read field).isNull then .ok store else .error .immutable
  | refuseUnless index guard =>
    if guard.accepts value then .ok store else .error (.rejected index)
  | .store field => .ok (Json.assign field value store)

namespace AccessorPair

/-- What a getter returns, if it does not throw. -/
def runGetter (pair : AccessorPair) (store : Store) : Option Json :=
  if (store.read pair.names.field).isNull then none else some (store.read pair.names.field)

/-- The store after a setter. -/
def runSetter (pair : AccessorPair) (value : Json) (store : Store) : Except Refusal Store :=
  pair.steps.foldlM (SetterStep.run value) store

end AccessorPair

namespace ClassProgram

/-- The store of a new object. -/
def start (program : ClassProgram) : Store := program.fields.map fun field => (field, .null)

/-- The accessors of a name. -/
def accessors? (program : ClassProgram) (name : Text) : Option AccessorPair :=
  program.accessors.find? fun pair => pair.name == name

/-- The store after a value is assigned to a property: as before if there is no such property or its
setter throws. -/
def attempt (program : ClassProgram) (store : Store) (call : Text × Json) : Store :=
  match program.accessors? call.1 with
  | none => store
  | some pair =>
    match pair.runSetter call.2 store with
    | .ok changed => changed
    | .error _ => store

/-- The store of a new object after values are assigned one after the other. -/
def after (program : ClassProgram) (calls : List (Text × Json)) : Store :=
  calls.foldl program.attempt program.start

end ClassProgram

/-- An instance behaves like a program on a store. -/
structure Mirrors {registry : Registry} (program : ClassProgram) (store : Store)
    (inst : Instance registry) : Prop where
  /-- The record is the store. -/
  dump : inst.dump = .object store
  /-- A property is unset where the getter throws; otherwise both have the same value. -/
  get : ∀ pair ∈ program.accessors, inst.get pair.name =
    (pair.runGetter store).elim (.error (.propertyNotSet pair.name)) .ok
  /-- Setting a property fails where the setter throws; otherwise the store is changed alike. -/
  set : ∀ pair ∈ program.accessors, ∀ value, (inst.set pair.name value).map Instance.dump =
    ((pair.runSetter value store).map Json.object).mapError (Refusal.error pair.name value)
  /-- Other properties are unknown. -/
  unknown : ∀ name, program.accessors? name = none →
    inst.get name = .error (.unknownProperty name) ∧
      ∀ value, inst.set name value = .error (.unknownProperty name)

/-! ## Setters -/

/-- Guards leave the store as it is, up to the first that rejects the value. -/
theorem SetterStep.foldlM_ofGuards (value : Json) (store : Store) (index : Nat)
    (guards : List Guard) :
    (ofGuards index guards).foldlM (SetterStep.run value) store =
      if guards.all fun guard => guard.accepts value then .ok store
      else .error (.rejected (index + guards.findIdx fun guard => !guard.accepts value)) := by
  induction guards generalizing index with
  | nil => rfl
  | cons guard rest ih =>
    rw [ofGuards, List.foldlM_cons, SetterStep.run, List.all_cons, List.findIdx_cons]
    cases guard.accepts value with
    | false => rfl
    | true =>
      have shifted : index + 1 + rest.findIdx (fun guard => !guard.accepts value) =
          index + (rest.findIdx (fun guard => !guard.accepts value) + 1) := by omega
      rw [if_pos rfl, Bool.true_and, Bool.not_true, cond_false, ← shifted, ← ih]
      rfl

/-- A setter throws if the property is immutable and set, then if a guard rejects the value, at the
first such guard; otherwise it stores the value. -/
theorem AccessorPair.runSetter_eq (member : Member) (value : Json) (store : Store) :
    member.accessors.runSetter value store =
      if member.property.immutable && !(store.read member.names.field).isNull then
        .error .immutable
      else if member.property.guards.all fun guard => guard.accepts value then
        .ok (Json.assign member.names.field value store)
      else
        .error (.rejected (member.property.guards.findIdx fun guard => !guard.accepts value)) := by
  have guarded : (SetterStep.ofGuards 0 member.property.guards ++
      [SetterStep.store member.names.field]).foldlM (SetterStep.run value) store =
      if member.property.guards.all fun guard => guard.accepts value then
        .ok (Json.assign member.names.field value store)
      else
        .error (.rejected (member.property.guards.findIdx fun guard => !guard.accepts value)) := by
    rw [List.foldlM_append, SetterStep.foldlM_ofGuards, Nat.zero_add]
    split <;> rfl
  rw [runSetter, Member.accessors, Member.setterSteps, List.append_assoc, List.foldlM_append,
    ← guarded]
  cases member.property.immutable with
  | false => rfl
  | true =>
    rw [if_pos rfl, List.foldlM_cons, SetterStep.run, Bool.true_and]
    cases (store.read member.names.field).isNull <;> rfl

/-! ## One state -/

namespace Instance

open Slot

variable {registry : Registry} {members : List Member} {inst : Instance registry}
  {className : Text}

/-- Assigning to the property of a slot is assigning to its field in the record. -/
theorem map_shown_assign {slots : List Slot} {slot : Slot}
    (names : (slots.map Slot.name).Nodup) (fields : (slots.map Slot.field).Nodup)
    (inSlots : slot ∈ slots) (value : Json) :
    (slots.map (Slot.assign slot.name value)).map shown =
      Json.assign slot.field value (slots.map shown) := by
  induction slots with
  | nil => cases inSlots
  | cons first rest ih =>
    rw [List.map_cons, List.nodup_cons] at names fields
    rw [List.map_cons, List.map_cons, List.map_cons]
    rcases List.mem_cons.mp inSlots with rfl | inRest
    · have others : rest.map (Slot.assign slot.name value) = rest := by
        refine (List.map_congr_left fun other inRest => ?_).trans (List.map_id _)
        rw [Slot.assign, if_neg, id]
        intro sameName
        exact names.1 (sameName ▸ List.mem_map_of_mem inRest)
      rw [others, Slot.assign, if_pos rfl, put, shown, shown, Json.assign, if_pos rfl, getD_held]
    -- The slot is found by its name here and by its field there, and neither is the first one's.
    · have otherName : first.name ≠ slot.name := by
        intro sameName
        exact names.1 (sameName ▸ List.mem_map_of_mem inRest)
      have otherField : first.field ≠ slot.field := by
        intro sameField
        exact fields.1 (sameField ▸ List.mem_map_of_mem inRest)
      rw [Slot.assign, if_neg otherName, ih names.2 fields.2 inRest]
      nth_rewrite 2 [shown]
      rw [Json.assign, if_neg otherField]
      rfl

/-- What is read from the record at the field of a slot. -/
theorem read_shown {slot : Slot} (inSlots : slot ∈ inst.slots) :
    Store.read (inst.slots.map shown) slot.field = slot.value.getD .null := by
  rw [Store.read, lookup_shown inst.nodup_map_field_slots inSlots, Option.getD_some]

/-- A slot is unset exactly if null is shown. -/
theorem isNull_getD (slot : Slot) : (slot.value.getD .null).isNull = !slot.value.isSome := by
  cases given : slot.value with
  | none => rfl
  | some value =>
    rw [Option.getD_some, Option.isSome_some, Bool.not_true, Bool.eq_false_iff, ne_eq,
      Json.isNull_iff]
    rintro rfl
    exact slot.notNull given

theorem property_mem_of_members (found : registry.members = .ok members) {member : Member}
    (inMembers : member ∈ members) : member.property ∈ registry.properties := by
  rw [← Registry.members_eq_ok_iff.mp found]
  exact List.mem_map_of_mem inMembers

/-- Every member has a slot with its name and field. -/
theorem exists_slot_of_members (inst : Instance registry) (found : registry.members = .ok members)
    {member : Member} (inMembers : member ∈ members) :
    ∃ slot ∈ inst.slots, slot.name = member.property.name ∧ slot.field = member.names.field := by
  obtain ⟨slot, inSlots, name, field⟩ := inst.exists_slot (property_mem_of_members found inMembers)
  exact ⟨slot, inSlots, name, Option.some.inj (field.symm.trans member.fieldOf?_name)⟩

/-- An instance behaves like the program of its registry on its record. -/
theorem mirrors (inst : Instance registry) (found : registry.members = .ok members) :
    Mirrors (.ofMembers members) (inst.slots.map shown) inst where
  dump := rfl
  get := by
    intro pair inProgram
    obtain ⟨member, inMembers, rfl⟩ := List.mem_map.mp inProgram
    obtain ⟨slot, inSlots, name, field⟩ := inst.exists_slot_of_members found inMembers
    have reads : Store.read (inst.slots.map shown) member.accessors.names.field =
        slot.value.getD .null := by
      rw [← read_shown inSlots, field]
      rfl
    have here : inst.slot? member.accessors.name = some slot := by
      rw [← slot?_eq_some inSlots, name]
      rfl
    rw [Instance.get, here, AccessorPair.runGetter, reads, isNull_getD]
    dsimp only
    cases slot.value with
    | none => rfl
    | some value => rfl
  set := by
    intro pair inProgram value
    obtain ⟨member, inMembers, rfl⟩ := List.mem_map.mp inProgram
    obtain ⟨slot, inSlots, name, field⟩ := inst.exists_slot_of_members found inMembers
    have inProperties := property_mem_of_members found inMembers
    have isSet : inst.isSet member.property.name =
        !(Store.read (inst.slots.map shown) member.names.field).isNull := by
      rw [Instance.isSet, Instance.value?, ← name, ← field,
        slot?_eq_some inSlots, read_shown inSlots, isNull_getD, Bool.not_not]
      rfl
    have assigned : (inst.assign member.property.name value).dump =
        .object (Json.assign member.names.field value (inst.slots.map shown)) := by
      have names : (inst.slots.map Slot.name).Nodup := by
        rw [inst.map_name_slots]
        exact registry.names_nodup
      rw [← name, ← field, ← map_shown_assign names inst.nodup_map_field_slots inSlots]
      rfl
    rw [AccessorPair.runSetter_eq, ← isSet]
    change (inst.set member.property.name value).map Instance.dump = _
    rw [inst.set_eq inProperties]
    split
    · rfl
    · split
      · exact congrArg Except.ok assigned
      · rfl
  unknown := by
    intro name absent
    have undeclared : name ∉ registry.properties.map Property.name := by
      intro declared
      rw [← Registry.members_eq_ok_iff.mp found, List.map_map] at declared
      obtain ⟨member, inMembers, rfl⟩ := List.mem_map.mp declared
      rw [ClassProgram.accessors?, List.find?_eq_none] at absent
      exact absent member.accessors (List.mem_map_of_mem inMembers) (beq_self_eq_true _)
    have noSlot : inst.slot? name = none := by
      rw [slot?, List.find?_eq_none]
      intro slot inSlots sameName
      apply undeclared
      rw [← inst.map_name_slots, ← beq_iff_eq.mp sameName]
      exact List.mem_map_of_mem inSlots
    have noProperty : registry.find? name = none := by
      rw [Registry.find?, List.find?_eq_none]
      intro property inProperties sameName
      apply undeclared
      rw [← beq_iff_eq.mp sameName]
      exact List.mem_map_of_mem inProperties
    refine ⟨by rw [Instance.get, noSlot], fun value => ?_⟩
    rw [Instance.set, noProperty]

/-! ## Runs -/

/-- A call keeps the record of an instance and the store of an object together. -/
theorem map_shown_attempt (inst : Instance registry) (found : registry.members = .ok members)
    (call : Text × Json) :
    (inst.attempt call).slots.map shown =
      (ClassProgram.ofMembers members).attempt (inst.slots.map shown) call := by
  obtain ⟨name, value⟩ := call
  have mirrors := inst.mirrors found
  rw [Instance.attempt, ClassProgram.attempt]
  dsimp only
  cases given : (ClassProgram.ofMembers members).accessors? name with
  | none => rw [(mirrors.unknown name given).2 value]
  | some pair =>
    obtain rfl : pair.name = name := by simpa using List.find?_some given
    have alike := mirrors.set pair (List.mem_of_find?_eq_some given) value
    dsimp only
    cases ran : pair.runSetter value (inst.slots.map shown) with
    | error refusal =>
      rw [ran] at alike
      cases tried : inst.set pair.name value with
      | error cause => rfl
      | ok changed =>
        rw [tried] at alike
        cases alike
    | ok store =>
      rw [ran] at alike
      cases tried : inst.set pair.name value with
      | error cause =>
        rw [tried] at alike
        cases alike
      | ok changed =>
        rw [tried] at alike
        exact Json.object.inj (Except.ok.inj alike)

/-- After calls on an instance and on an object that shows its record, they still agree. -/
theorem map_shown_after (inst : Instance registry) (found : registry.members = .ok members)
    (calls : List (Text × Json)) :
    (inst.after calls).slots.map shown =
      calls.foldl (ClassProgram.ofMembers members).attempt (inst.slots.map shown) := by
  -- The record has to be general: each call starts from the record that the call before it left.
  induction calls generalizing inst with
  | nil => rfl
  | cons call rest ih =>
    rw [List.foldl_cons, ← inst.map_shown_attempt found]
    exact ih (inst.attempt call)

/-- A new instance and a new object stay together whatever is assigned. -/
theorem after_mirrors (found : registry.members = .ok members) {fresh : Instance registry}
    (created : create registry = .ok fresh) (calls : List (Text × Json)) :
    Mirrors (.ofMembers members) ((ClassProgram.ofMembers members).after calls)
      (fresh.after calls) := by
  have start : fresh.slots.map shown = (ClassProgram.ofMembers members).start := by
    rw [create_eq_of_members found] at created
    cases created
    rw [ClassProgram.start, ClassProgram.ofMembers, List.map_map, List.map_map]
    rfl
  rw [ClassProgram.after, ← start, ← fresh.map_shown_after found]
  exact (fresh.after calls).mirrors found

/-- Instances mirror the classes that are assembled, for every registry whose class name is set. The
class is assembled exactly if an instance can be created. Then its constructor and its accessors are
the code of the program of its properties in order. And whatever values are assigned, to declared
properties or others, the instance behaves like the program. -/
theorem create_mirrors_assembly (named : registry.className = some className) :
    (Succeeds (ClassText.ofRegistry registry) ↔ Succeeds (create registry)) ∧
      ∀ pieces fresh, ClassText.ofRegistry registry = .ok pieces → create registry = .ok fresh →
        ∃ members, registry.members = .ok members ∧
          pieces.initializers = (ClassProgram.ofMembers members).constructorCode.compact ∧
          pieces.accessors = ((ClassProgram.ofMembers members).accessorCode .done).compact ∧
          ∀ calls, Mirrors (.ofMembers members) ((ClassProgram.ofMembers members).after calls)
            (fresh.after calls) := by
  constructor
  · rw [Generation.succeeds_ofRegistry_iff, succeeds_create_iff]
    exact ⟨And.right, fun derivable => ⟨⟨className, named⟩, derivable⟩⟩
  · intro pieces fresh assembled created
    obtain ⟨members, found⟩ := Registry.exists_members_iff.mpr
      (succeeds_create_iff.mp ⟨fresh, created⟩)
    rw [ClassText.ofRegistry_eq, Registry.name, named, found] at assembled
    cases assembled
    refine ⟨members, found, ?_, ?_, after_mirrors found created⟩
    · exact (ClassProgram.compact_constructorCode members).symm
    · rw [ClassProgram.compact_accessorCode]
      exact (List.append_nil _).symm

/-- An immutable property keeps its value, in the instance as in the program. -/
theorem create_mirrors_assembly_sample :
    ∃ pieces fresh members,
      ClassText.ofRegistry (Registry.sample (.named .uint8)) = .ok pieces ∧
      create (Registry.sample (.named .uint8)) = .ok fresh ∧
      Mirrors (.ofMembers members)
        ((ClassProgram.ofMembers members).after
          [("a.b".toList, .integer 1), ("a.b".toList, .integer 2)])
        (fresh.after [("a.b".toList, .integer 1), ("a.b".toList, .integer 2)]) := by
  obtain ⟨members, -, -, -, mirrors⟩ := (create_mirrors_assembly
    (Registry.sample_className (.named .uint8))).2 _ _ rfl rfl
  exact ⟨_, _, members, rfl, rfl, mirrors _⟩

end Instance

end Beanwright
