import Beanwright.Bean.Document
import Beanwright.Proofs.Registry.Reachable

/-!
# Resolving beans

The registry that a bean resolves to is reached by operations: the class name is set, and each entry
declares a property and attaches its guard. A document has no way to bring in a guard of its own, so
all guards of a registry from a document are named.
-/

namespace Beanwright

/-! ## Entries -/

namespace BeanEntry

variable {registry changed : Registry} {entry : BeanEntry}

/-- The check of an entry is one that a document can hold. -/
def IsDocumented (entry : BeanEntry) : Prop := ∀ guard, entry.check ≠ .guard guard

theorem isDocumented_entry (key : Text) (record : BeanRecord) :
    (record.entry key).IsDocumented := by
  intro guard
  rw [BeanRecord.entry]
  split <;> rintro ⟨⟩

/-- Every entry that a key and a value make is one of a document. -/
theorem isDocumented_ofJson (key : Text) (value : Json) : (ofJson key value).IsDocumented := by
  rw [ofJson.eq_def]
  dsimp only
  split
  · rintro guard ⟨⟩
  · exact isDocumented_entry key _
  · rintro guard ⟨⟩

/-- An entry is declared by two operations: the second attaches the guard that its check stands
for. -/
theorem exists_guard_of_declare (declared : entry.declare registry = .ok changed) :
    ∃ middle guard, registry.perform (.addProperty entry.propertyName entry.default
        (entry.immutable || entry.isMarked)) = .ok middle ∧
      entry.check.resolve entry.propertyName = .ok guard ∧
        middle.perform (.addGuard entry.propertyName guard) = .ok changed := by
  rw [declare] at declared
  cases added : Registry.addProperty entry.propertyName entry.default
      (entry.immutable || entry.isMarked) registry with
  | error cause =>
    rw [added] at declared
    cases declared
  | ok middle =>
    cases resolved : entry.check.resolve entry.propertyName with
    | error cause =>
      rw [added, resolved] at declared
      cases declared
    | ok guard =>
      rw [added, resolved] at declared
      exact ⟨middle, guard, added, rfl, declared⟩

theorem isNamed_of_resolve (documented : entry.IsDocumented) {field : Text} {guard : Guard}
    (resolved : entry.check.resolve field = .ok guard) : ∃ check, guard = .named check := by
  cases given : entry.check with
  | token word =>
    rw [given, CheckSpec.resolve] at resolved
    split at resolved
    · next check found =>
      cases resolved
      exact ⟨check, rfl⟩
    · cases resolved
  -- This is where a guard from outside would come in.
  | guard supplied => exact absurd given (documented supplied)
  | unsupported value =>
    rw [given, CheckSpec.resolve] at resolved
    cases resolved

theorem reachable_of_declare (reachable : registry.Reachable)
    (declared : entry.declare registry = .ok changed) : changed.Reachable := by
  obtain ⟨middle, guard, added, -, attached⟩ := exists_guard_of_declare declared
  exact (reachable.perform added).perform attached

theorem hasNamedGuards_of_declare (all : registry.HasNamedGuards)
    (documented : entry.IsDocumented) (declared : entry.declare registry = .ok changed) :
    changed.HasNamedGuards := by
  obtain ⟨middle, guard, added, resolved, attached⟩ := exists_guard_of_declare declared
  have middleNamed : middle.HasNamedGuards := by
    refine Registry.AllGuards.perform all ?_ added
    rintro name other ⟨⟩
  refine Registry.AllGuards.perform middleNamed ?_ attached
  rintro name other ⟨⟩
  exact isNamed_of_resolve documented resolved

end BeanEntry

/-! ## Beans -/

namespace Bean

variable {bean : Bean} {registry : Registry}

/-- What every declared entry keeps, the registry of the bean has. -/
theorem of_resolve {holds : Registry → Prop} (resolved : bean.resolve = .ok registry)
    (start : ∀ named, Registry.empty.setName bean.name = .ok named → holds named)
    (step : ∀ entry ∈ bean.entries, ∀ before after, holds before →
      entry.declare before = .ok after → holds after) : holds registry := by
  rw [resolve] at resolved
  cases name : Registry.empty.setName bean.name with
  | error cause =>
    rw [name] at resolved
    cases resolved
  | ok named =>
    rw [name] at resolved
    have begun := start named name
    change bean.entries.foldlM (fun registry entry => entry.declare registry) named = _ at resolved
    clear name start
    generalize bean.entries = entries at step resolved
    induction entries generalizing named with
    | nil =>
      cases resolved
      exact begun
    | cons entry rest ih =>
      rw [List.foldlM_cons] at resolved
      cases declared : entry.declare named with
      | error cause =>
        rw [declared] at resolved
        cases resolved
      | ok changed =>
        rw [declared] at resolved
        exact ih changed (step entry List.mem_cons_self named changed begun declared)
          (fun entry inRest => step entry (List.mem_cons_of_mem _ inRest)) resolved

/-- A resolved registry is reachable. -/
theorem reachable_of_resolve (resolved : bean.resolve = .ok registry) : registry.Reachable := by
  refine of_resolve resolved (fun named name => ?_) fun entry _ before after => ?_
  · have performed : Registry.empty.perform (.setName bean.name) = .ok named := name
    exact Registry.Reachable.empty.perform performed
  · exact BeanEntry.reachable_of_declare

theorem mem_putEntry {entry other : BeanEntry} {entries : List BeanEntry}
    (member : other ∈ putEntry entry entries) : other = entry ∨ other ∈ entries := by
  induction entries with
  | nil => exact .inl (List.mem_singleton.mp member)
  | cons first rest ih =>
    rw [putEntry] at member
    split at member
    · rcases List.mem_cons.mp member with equal | inRest
      · exact .inl equal
      · exact .inr (List.mem_cons_of_mem _ inRest)
    · rcases List.mem_cons.mp member with equal | inPut
      · exact .inr (List.mem_cons.mpr (.inl equal))
      · rcases ih inPut with equal | inRest
        · exact .inl equal
        · exact .inr (List.mem_cons_of_mem _ inRest)

theorem isDocumented_of_mem_ofEntries {name : Text} {entries : List BeanEntry}
    (documented : ∀ entry ∈ entries, entry.IsDocumented) :
    ∀ entry ∈ (ofEntries name entries).entries, entry.IsDocumented := by
  -- Putting an entry replaces one of the same name in its place, so the bean so far is general.
  have extended (start : Bean) (startDocumented : ∀ entry ∈ start.entries, entry.IsDocumented) :
      ∀ entry ∈ (entries.foldl put start).entries, entry.IsDocumented := by
    induction entries generalizing start with
    | nil => exact startDocumented
    | cons first rest ih =>
      refine ih (fun entry inRest => documented entry (List.mem_cons_of_mem _ inRest)) _ ?_
      intro entry member
      rcases mem_putEntry member with rfl | inStart
      · exact documented entry List.mem_cons_self
      · exact startDocumented entry inStart
  exact extended (empty name) (List.forall_mem_nil _)

/-- All entries of a bean from a document are such as a document can hold. -/
theorem isDocumented_of_ofText {name : Text} {format : BeanFormat} {source : Source}
    (read : ofText name format source = .ok bean) :
    ∀ entry ∈ bean.entries, entry.IsDocumented := by
  have ofFields (fields : List (Text × Json)) :
      ∀ entry ∈ (Bean.ofFields name fields).entries, entry.IsDocumented := by
    refine isDocumented_of_mem_ofEntries fun entry member => ?_
    obtain ⟨field, -, rfl⟩ := List.mem_map.mp member
    exact BeanEntry.isDocumented_ofJson _ _
  cases format with
  | json =>
    rw [ofText, ofJsonText] at read
    split at read
    · cases read
      exact ofFields _
    · cases read
  | toml =>
    rw [ofText] at read
    split at read
    · cases read
      exact ofFields _
    · cases read

/-- A document resolves to a registry with named guards only. -/
theorem hasNamedGuards_of_ofText {name : Text} {format : BeanFormat} {source : Source}
    (read : ofText name format source = .ok bean) (resolved : bean.resolve = .ok registry) :
    registry.HasNamedGuards := by
  have documented := isDocumented_of_ofText read
  refine of_resolve resolved (fun named name => ?_) fun entry member before after all => ?_
  · have performed : Registry.empty.perform (.setName bean.name) = .ok named := name
    have begun : Registry.empty.HasNamedGuards := List.forall_mem_nil _
    refine Registry.AllGuards.perform begun ?_ performed
    rintro name other ⟨⟩
  · exact BeanEntry.hasNamedGuards_of_declare all (documented entry member)

end Bean

end Beanwright
