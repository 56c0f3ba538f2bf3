import Mathlib.Data.List.Nodup
import Beanwright.Proofs.Registry.Names
import Beanwright.Registry.Basic

/-!
# Reachable registries

A registry is reachable if some history of operations leads to it from the empty registry. What an
operation can do to a registry is said once; what every operation keeps then holds of all reachable
registries. Above all the class name, once it is set, is an identifier.

## Main definitions

* `Succeeds` — an attempt has a result
* `Registry.Reachable` — some history leads to the registry
* `Registry.Derivable` — every property has an identifier

## Main results

* `Registry.perform_cases` — what an operation can do
* `Registry.Reachable.of_perform` — what every operation keeps holds of reachable registries
* `Registry.Reachable.isClassIdentifier` — a class name is an identifier
* `Registry.AllGuards.perform` — an operation keeps what holds of all guards
* `Registry.exists_members_iff` — which registries have members
-/

namespace Beanwright

/-- An attempt has a result. -/
def Succeeds {ε α : Type} (attempt : Except ε α) : Prop := ∃ result, attempt = .ok result

instance {ε α : Type} (attempt : Except ε α) : Decidable (Succeeds attempt) :=
  match attempt with
  | .ok result => .isTrue ⟨result, rfl⟩
  | .error _ => .isFalse (by rintro ⟨result, ⟨⟩⟩)

namespace Registry

variable {registry changed : Registry} {name : Text} {holds : Guard → Prop}

/-- Some history leads from the empty registry to this one. -/
def Reachable (registry : Registry) : Prop :=
  ∃ history : List Operation, registry = empty.after history

/-- Every property has an identifier. -/
def Derivable (registry : Registry) : Prop :=
  ∀ property ∈ registry.properties, ∃ names, property.names = .ok names

/-! ## Operations -/

theorem addProperty_of_conflict {default : Option Json} {immutable : Bool} {conflict : BeanError}
    (taken : registry.conflict? name = some conflict) :
    registry.addProperty name default immutable = .error conflict := by
  rw [addProperty]
  split
  · next found =>
    rw [found] at taken
    rw [Option.some.inj taken]
  · next free =>
    rw [free] at taken
    cases taken

/-- A free name is declared. -/
theorem addProperty_of_free {default : Option Json} {immutable : Bool}
    (free : registry.Free name) : registry.addProperty name default immutable =
      .ok (registry.append ⟨name, default, immutable, []⟩ free) := by
  rw [addProperty]
  split
  · next taken =>
    rw [conflict?_eq_none_iff.mpr free] at taken
    cases taken
  · rfl

/-- Declaring a property appends it, and its name was free. -/
theorem addProperty_eq_ok {default : Option Json} {immutable : Bool}
    (declared : registry.addProperty name default immutable = .ok changed) :
    ∃ free : registry.Free name,
      changed = registry.append ⟨name, default, immutable, []⟩ free := by
  cases taken : registry.conflict? name with
  | some conflict =>
    rw [addProperty_of_conflict taken] at declared
    cases declared
  | none =>
    have free := conflict?_eq_none_iff.mp taken
    rw [addProperty_of_free free] at declared
    exact ⟨free, (Except.ok.inj declared).symm⟩

/-- What an operation can do to a registry: set an accepted class name, append a property without
guards whose name is free, keep some properties only, or replace the guards of a name by guards that
were attached before or come with the operation. -/
theorem perform_cases {operation : Operation}
    (performed : registry.perform operation = .ok changed) :
    (∃ raw, isClassName raw = true ∧ changed =
        { registry with className := some (Text.pascalCased classNameDelimiter raw) }) ∨
      (∃ (property : Property) (free : registry.Free property.name), property.guards = [] ∧
        changed = registry.append property free) ∨
      (∃ kept, changed = registry.keep kept) ∨
      ∃ name guards, changed = registry.withGuards name guards ∧ ∀ guard ∈ guards,
        (∃ property ∈ registry.properties, guard ∈ property.guards) ∨
          operation = .addGuard name guard := by
  cases operation with
  | setName raw =>
    rw [Registry.perform, setName] at performed
    split at performed
    · next accepted =>
      cases performed
      exact .inl ⟨raw, accepted, rfl⟩
    · cases performed
  | addProperty name default immutable =>
    obtain ⟨free, rfl⟩ := addProperty_eq_ok performed
    exact .inr (.inl ⟨_, free, rfl, rfl⟩)
  | removeProperty name =>
    rw [Registry.perform, removeProperty] at performed
    split at performed
    · cases performed
      exact .inr (.inr (.inl ⟨_, rfl⟩))
    · cases performed
  | addGuard name guard =>
    rw [Registry.perform, addGuard] at performed
    split at performed
    · next property found =>
      cases performed
      refine .inr (.inr (.inr ⟨name, _, rfl, fun other inGuards => ?_⟩))
      have inProperties := List.mem_of_find?_eq_some found
      rw [attach] at inGuards
      split at inGuards
      · exact .inl ⟨property, inProperties, inGuards⟩
      · rcases List.mem_append.mp inGuards with inOld | isNew
        · exact .inl ⟨property, inProperties, inOld⟩
        · exact .inr (by rw [List.mem_singleton.mp isNew])
    · cases performed
  | removeGuards name =>
    rw [Registry.perform, removeGuards] at performed
    split at performed
    · cases performed
      exact .inr (.inr (.inr ⟨name, [], rfl, List.forall_mem_nil _⟩))
    · cases performed

/-! ## Histories -/

theorem Reachable.empty : Reachable empty := ⟨[], rfl⟩

/-- A registry stays reachable under operations. -/
theorem Reachable.perform (reachable : Reachable registry) {operation : Operation}
    (performed : registry.perform operation = .ok changed) : Reachable changed := by
  obtain ⟨history, rfl⟩ := reachable
  refine ⟨history ++ [operation], ?_⟩
  rw [Registry.after, List.foldl_append, List.foldl_cons, List.foldl_nil, attempt]
  rw [Registry.after] at performed
  rw [performed]

/-- What holds of the empty registry and is kept by every operation holds of every reachable
registry. -/
theorem Reachable.of_perform (reachable : Reachable registry) {holds : Registry → Prop}
    (start : holds Registry.empty)
    (step : ∀ (registry changed : Registry) (operation : Operation), holds registry →
      registry.perform operation = .ok changed → holds changed) : holds registry := by
  obtain ⟨history, rfl⟩ := reachable
  rw [Registry.after]
  -- The registry has to be general, and so does what is known of it.
  generalize Registry.empty = before at start ⊢
  induction history generalizing before with
  | nil => exact start
  | cons operation rest ih =>
    apply ih
    rw [attempt]
    split
    · next performed => exact step _ _ operation start performed
    · exact start

/-- A class name that is set is an identifier, whatever history led to the registry. -/
theorem Reachable.isClassIdentifier (reachable : Reachable registry)
    (named : registry.className = some name) : isClassIdentifier name = true := by
  suffices all : ∀ name, registry.className = some name →
      Registry.isClassIdentifier name = true from all name named
  apply reachable.of_perform (by rintro name ⟨⟩)
  intro registry changed operation identifier performed
  obtain ⟨raw, accepted, rfl⟩ | ⟨property, free, -, rfl⟩ | ⟨kept, rfl⟩ | ⟨name, guards, rfl, -⟩ :=
    perform_cases performed
  · rintro name ⟨⟩
    exact isClassIdentifier_of_isClassName accepted
  · exact identifier
  · exact identifier
  · exact identifier

/-! ## Guards -/

/-- A property holds of all guards of a registry. -/
def AllGuards (holds : Guard → Prop) (registry : Registry) : Prop :=
  ∀ property ∈ registry.properties, ∀ guard ∈ property.guards, holds guard

/-- All guards of a registry are named type checks. -/
def HasNamedGuards (registry : Registry) : Prop :=
  registry.AllGuards fun guard => ∃ check, guard = .named check

/-- An operation keeps what holds of all guards, if it holds of a guard that the operation
attaches. -/
theorem AllGuards.perform (all : AllGuards holds registry) {operation : Operation}
    (attached : ∀ name guard, operation = .addGuard name guard → holds guard)
    (performed : registry.perform operation = .ok changed) : AllGuards holds changed := by
  obtain ⟨raw, -, rfl⟩ | ⟨property, free, noGuards, rfl⟩ | ⟨kept, rfl⟩ |
    ⟨name, guards, rfl, origin⟩ := perform_cases performed
  · exact all
  · intro other inProperties
    rcases List.mem_append.mp inProperties with inOld | isNew
    · exact all other inOld
    · rw [List.mem_singleton.mp isNew, noGuards]
      exact List.forall_mem_nil _
  · exact fun property inKept => all property (List.mem_filter.mp inKept).1
  · intro property inProperties guard inGuards
    rw [Registry.withGuards, List.mem_map] at inProperties
    obtain ⟨original, inOriginals, rfl⟩ := inProperties
    rw [replaceGuards] at inGuards
    split at inGuards
    · rcases origin guard inGuards with ⟨owner, inOwners, owned⟩ | added
      · exact all owner inOwners guard owned
      · exact attached name guard added
    · exact all original inOriginals guard inGuards

/-! ## Looking up properties -/

/-- An item is found by its key among items with distinct keys. -/
theorem find?_key_eq_some {α : Type} (key : α → Text) {items : List α}
    (distinct : (items.map key).Nodup) {item : α} (inItems : item ∈ items) :
    items.find? (fun other => key other == key item) = some item := by
  cases search : items.find? fun other => key other == key item with
  | none =>
    rw [List.find?_eq_none] at search
    exact absurd (beq_self_eq_true (key item)) (search item inItems)
  | some other =>
    have sameKey : key other = key item := by simpa using List.find?_some search
    rw [List.inj_on_of_nodup_map distinct (List.mem_of_find?_eq_some search) inItems sameKey]

/-- A property is found by its name. -/
theorem find?_eq_some {property : Property} (inProperties : property ∈ registry.properties) :
    registry.find? property.name = some property :=
  find?_key_eq_some Property.name registry.names_nodup inProperties

/-! ## Members -/

/-- A registry has members exactly if every property has an identifier. -/
theorem exists_members_iff : (∃ members, registry.members = .ok members) ↔ registry.Derivable := by
  simp only [members_eq_ok_iff, Derivable]
  constructor
  · rintro ⟨members, properties⟩
    rw [← properties, List.forall_mem_map]
    exact fun member _ => ⟨member.names, member.derived⟩
  · intro derivable
    choose names derived using derivable
    exact ⟨registry.properties.attach.map fun property =>
      ⟨property.1, names property.1 property.2, derived property.1 property.2⟩, by simp⟩

/-! ## A sample -/

/-- A registry with a class name and two properties, of which the first is immutable and has a
guard. -/
def sample (guard : Guard) : Registry :=
  empty.after [.setName ['p'], .addProperty ['a', '.', 'b'] none true,
    .addGuard ['a', '.', 'b'] guard, .addProperty ['c'] none false]

theorem sample_properties (guard : Guard) : (sample guard).properties =
    [⟨['a', '.', 'b'], none, true, [guard]⟩, ⟨['c'], none, false, []⟩] := rfl

theorem sample_reachable (guard : Guard) : (sample guard).Reachable := ⟨_, rfl⟩

theorem sample_className (guard : Guard) : (sample guard).className = some ['P'] := rfl

theorem sample_derivable (guard : Guard) : (sample guard).Derivable := by
  rw [Derivable, sample_properties, List.forall_mem_cons, List.forall_mem_cons]
  exact ⟨⟨_, rfl⟩, ⟨_, rfl⟩, List.forall_mem_nil _⟩

theorem sample_allGuards {guard : Guard} (found : holds guard) :
    (sample guard).AllGuards holds := by
  rw [AllGuards, sample_properties]
  exact List.forall_mem_cons.mpr ⟨List.forall_mem_singleton.mpr found,
    List.forall_mem_singleton.mpr (List.forall_mem_nil _)⟩

end Registry

end Beanwright
