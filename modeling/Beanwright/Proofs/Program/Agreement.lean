import Beanwright.Inspection
import Beanwright.Proofs.Bean.Resolution
import Beanwright.Proofs.Program.Leaves

/-!
# Inspection and generation agree

An inspection accepts exactly the registries of which the strict layout prints a class, under
whatever indentation. What the strict layout prints, the lenient one prints too, character by
character. If all guards are balanced, as they are in every registry from a document, then nothing
but a missing class name and a property without identifier stands in the way of any of them.
-/

namespace Beanwright

open Layout

/-- The class name is set and every property has an identifier. -/
def Registry.IsComplete (registry : Registry) : Prop :=
  (∃ className, registry.className = some className) ∧ registry.Derivable

namespace Generation

variable {registry : Registry} {pieces : ClassText}

/-- A registry is assembled exactly if it is complete. -/
theorem succeeds_ofRegistry_iff :
    Succeeds (ClassText.ofRegistry registry) ↔ registry.IsComplete := by
  rw [Registry.IsComplete, ← Registry.exists_members_iff, ClassText.ofRegistry_eq, Registry.name]
  cases registry.className with
  | none =>
    constructor
    · rintro ⟨pieces, ⟨⟩⟩
    · rintro ⟨⟨className, ⟨⟩⟩, -⟩
  | some className =>
    cases registry.members with
    | error cause =>
      constructor
      · rintro ⟨pieces, ⟨⟩⟩
      · rintro ⟨-, members, ⟨⟩⟩
    | ok members => exact ⟨fun _ => ⟨⟨className, rfl⟩, members, rfl⟩, fun _ => ⟨_, rfl⟩⟩

/-- The lenient layout prints every class that is assembled. -/
theorem succeeds_lenient_iff (indent : Indent) :
    Succeeds (preview registry ⟨indent, false⟩) ↔ registry.IsComplete := by
  rw [← succeeds_ofRegistry_iff, preview]
  cases ClassText.ofRegistry registry with
  | error cause =>
    constructor
    · rintro ⟨text, ⟨⟩⟩
    · rintro ⟨pieces, ⟨⟩⟩
  | ok pieces => exact ⟨fun _ => ⟨pieces, rfl⟩, fun _ => ⟨_, rfl⟩⟩

theorem preview_strict_of_balanced (assembled : ClassText.ofRegistry registry = .ok pieces)
    (balanced : Balanced pieces.render) (indent : Indent) :
    preview registry ⟨indent, true⟩ = preview registry ⟨indent, false⟩ := by
  rw [preview, preview, assembled]
  dsimp only
  rw [format, format, run_strict_of_balanced balanced]

/-- The strict layout prints exactly the classes that are assembled to a balanced text. -/
theorem succeeds_strict_iff (indent : Indent) :
    Succeeds (preview registry ⟨indent, true⟩) ↔
      ∃ pieces, ClassText.ofRegistry registry = .ok pieces ∧ Balanced pieces.render := by
  constructor
  · rintro ⟨text, printed⟩
    cases assembled : ClassText.ofRegistry registry with
    | error cause =>
      rw [preview, assembled] at printed
      cases printed
    | ok pieces =>
      refine ⟨pieces, rfl, ?_⟩
      rw [preview, assembled] at printed
      dsimp only at printed
      rw [format] at printed
      cases laid : run ⟨indent, true⟩ pieces.render with
      | error cause =>
        rw [laid] at printed
        cases printed
      | ok draft => exact balanced_of_run_strict laid
  · rintro ⟨pieces, assembled, balanced⟩
    rw [preview_strict_of_balanced assembled balanced, succeeds_lenient_iff,
      ← succeeds_ofRegistry_iff]
    exact ⟨pieces, assembled⟩

/-- So does an inspection. -/
theorem succeeds_inspection_iff (bean : Text) :
    Succeeds (Inspection.ofRegistry registry bean) ↔
      ∃ pieces, ClassText.ofRegistry registry = .ok pieces ∧ Balanced pieces.render := by
  rw [Inspection.ofRegistry]
  constructor
  · rintro ⟨inspection, inspected⟩
    cases found : registry.members with
    | error cause =>
      rw [found] at inspected
      cases inspected
    | ok members =>
      cases assembled : ClassText.ofRegistry registry with
      | error cause =>
        rw [found, assembled] at inspected
        cases inspected
      | ok pieces =>
        cases laid : run ⟨.standard, true⟩ pieces.render with
        | error cause =>
          rw [found, assembled] at inspected
          dsimp only at inspected
          rw [laid] at inspected
          cases inspected
        | ok draft => exact ⟨pieces, rfl, balanced_of_run_strict laid⟩
  -- The inspection lays out under the standard indentation, but balance does not depend on it.
  · rintro ⟨pieces, assembled, balanced⟩
    have complete := succeeds_ofRegistry_iff.mp ⟨pieces, assembled⟩
    obtain ⟨members, found⟩ := Registry.exists_members_iff.mpr complete.2
    rw [found, assembled]
    dsimp only
    rw [run_strict_of_balanced balanced, run_eq_of_lenient]
    exact ⟨_, rfl⟩

/-- A reachable registry with balanced guards is assembled to a balanced text. -/
theorem balanced_of_reachable (reachable : registry.Reachable)
    (guards : registry.AllGuards fun guard => Balanced guard.source)
    (assembled : ClassText.ofRegistry registry = .ok pieces) : Balanced pieces.render := by
  obtain ⟨⟨className, named⟩, derivable⟩ := succeeds_ofRegistry_iff.mp ⟨pieces, assembled⟩
  obtain ⟨members, found⟩ := Registry.exists_members_iff.mpr derivable
  have properties := Registry.members_eq_ok_iff.mp found
  rw [ClassText.ofRegistry_eq, Registry.name, named, found] at assembled
  cases assembled
  refine ClassProgram.balanced_render (fun member inMembers => ?_)
    (Registry.isName_of_isClassIdentifier (reachable.isClassIdentifier named))
  apply guards
  rw [← properties]
  exact List.mem_map_of_mem inMembers

/-- Inspection, strict and lenient generation agree. An inspection succeeds if and only if strict
generation does, under any indentation; then lenient generation prints the same text. With balanced
guards, as in every registry that a document resolves to, each of the three succeeds if and only if
the registry is complete. -/
theorem inspection_agrees (registry : Registry) (bean : Text) :
    (∀ indent, Succeeds (Inspection.ofRegistry registry bean) ↔
      Succeeds (preview registry ⟨indent, true⟩)) ∧
    (Succeeds (Inspection.ofRegistry registry bean) → ∀ indent, ∃ text,
      preview registry ⟨indent, false⟩ = .ok text ∧ preview registry ⟨indent, true⟩ = .ok text) ∧
    (registry.Reachable → registry.AllGuards (fun guard => Balanced guard.source) →
      (Succeeds (Inspection.ofRegistry registry bean) ↔ registry.IsComplete) ∧ ∀ indent,
        (Succeeds (preview registry ⟨indent, true⟩) ↔ registry.IsComplete) ∧
        (Succeeds (preview registry ⟨indent, false⟩) ↔ registry.IsComplete)) ∧
    (∀ name format source document, Bean.ofText name format source = .ok document →
      document.resolve = .ok registry →
        registry.Reachable ∧ registry.AllGuards fun guard => Balanced guard.source) := by
  refine ⟨fun indent => ?_, fun inspected indent => ?_, fun reachable guards => ?_,
    fun name format source document read resolved => ?_⟩
  · rw [succeeds_inspection_iff, succeeds_strict_iff]
  · obtain ⟨pieces, assembled, balanced⟩ := (succeeds_inspection_iff bean).mp inspected
    rw [preview_strict_of_balanced assembled balanced]
    obtain ⟨text, printed⟩ := (succeeds_lenient_iff indent).mpr
      (succeeds_ofRegistry_iff.mp ⟨pieces, assembled⟩)
    exact ⟨text, printed, printed⟩
  · have balanced : (∃ pieces, ClassText.ofRegistry registry = .ok pieces ∧
        Balanced pieces.render) ↔ registry.IsComplete := by
      rw [← succeeds_ofRegistry_iff]
      constructor
      · rintro ⟨pieces, assembled, -⟩
        exact ⟨pieces, assembled⟩
      · rintro ⟨pieces, assembled⟩
        exact ⟨pieces, assembled, balanced_of_reachable reachable guards assembled⟩
    refine ⟨by rw [succeeds_inspection_iff, balanced], fun indent => ⟨?_, ?_⟩⟩
    · rw [succeeds_strict_iff, balanced]
    · exact succeeds_lenient_iff indent
  · refine ⟨Bean.reachable_of_resolve resolved, fun property inProperties guard inGuards => ?_⟩
    obtain ⟨check, rfl⟩ :=
      Bean.hasNamedGuards_of_ofText read resolved property inProperties guard inGuards
    exact ClassProgram.balanced_source check

/-- An inspection and both kinds of generation accept a registry with a custom guard that has
balanced braces. -/
theorem inspection_agrees_sample :
    Succeeds (Inspection.ofRegistry
        (Registry.sample (.custom 0 "v => \x7b return true; \x7d".toList fun _ => true)) []) ∧
      ∀ indent strict, Succeeds (preview
        (Registry.sample (.custom 0 "v => \x7b return true; \x7d".toList fun _ => true))
        ⟨indent, strict⟩) := by
  have complete : (Registry.sample
      (.custom 0 "v => \x7b return true; \x7d".toList fun _ => true)).IsComplete :=
    ⟨⟨_, Registry.sample_className _⟩, Registry.sample_derivable _⟩
  obtain ⟨inspected, printed⟩ := (inspection_agrees
    (Registry.sample (.custom 0 "v => \x7b return true; \x7d".toList fun _ => true)) []).2.2.1
      (Registry.sample_reachable _) (Registry.sample_allGuards (by decide))
  refine ⟨inspected.mpr complete, fun indent strict => ?_⟩
  cases strict with
  | false => exact (printed indent).2.mpr complete
  | true => exact (printed indent).1.mpr complete

end Generation

end Beanwright
