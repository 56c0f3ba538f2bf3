import Beanwright.Proofs.Layout.Solid

/-!
# Balanced texts

A text is balanced if no beginning of it closes more blocks than it opens and all of it closes as
many as it opens. The check of balance accepts exactly the lines that make a balanced text, and
balanced texts are closed under putting together and under enclosing in braces.
-/

namespace Beanwright.Layout

open Text

variable {first second text : Text}

/-- No beginning of a text closes more blocks than it opens, and the whole closes as many as it
opens. -/
def Balanced (text : Text) : Prop :=
  (∀ beginning, beginning <+: text → beginning.count '}' ≤ beginning.count '{') ∧
    text.count '{' = text.count '}'

/-! ## Depths

A walk through a text fails exactly where more blocks are closed than were open before and opened
since. -/

theorem depthAfter?_eq_some_iff (depth result : Nat) (text : Text) :
    depthAfter? depth text = some result ↔
      (∀ beginning, beginning <+: text → beginning.count '}' ≤ depth + beginning.count '{') ∧
        depth + text.count '{' = result + text.count '}' := by
  induction text generalizing depth with
  | nil => simp [depthAfter?]
  | cons character rest ih =>
    have beginnings (bound : Text → Prop) :
        (∀ beginning, beginning <+: character :: rest → bound beginning) ↔
          bound [] ∧ ∀ beginning, beginning <+: rest → bound (character :: beginning) := by
      constructor
      · intro all
        exact ⟨all [] (List.nil_prefix ..),
          fun beginning prefixed => all _ (List.cons_prefix_cons.mpr ⟨rfl, prefixed⟩)⟩
      · rintro ⟨atStart, later⟩ beginning prefixed
        rcases List.prefix_cons_iff.mp prefixed with rfl | ⟨shorter, rfl, shorterPrefixed⟩
        · exact atStart
        · exact later shorter shorterPrefixed
    rw [beginnings, depthAfter?.eq_def]
    dsimp only
    split
    · next opening =>
      subst opening
      rw [ih]
      simp [Nat.add_right_comm, Nat.add_assoc]
    · split
      · next opens closing =>
        subst closing
        -- At depth zero the brace itself is a beginning that closes too much.
        cases depth with
        | zero =>
          simp only [reduceCtorEq, false_iff, not_and]
          intro later
          have atOnce := later.2 [] (List.nil_prefix ..)
          simp at atOnce
        | succ depth =>
          dsimp only
          rw [ih]
          simp only [List.count_cons_self, List.count_cons_of_ne opens, List.count_nil]
          constructor
          · rintro ⟨later, total⟩
            exact ⟨⟨by omega, fun beginning prefixed => by
              have := later beginning prefixed
              omega⟩, by omega⟩
          · rintro ⟨⟨-, later⟩, total⟩
            exact ⟨fun beginning prefixed => by
              have := later beginning prefixed
              omega, by omega⟩
      · next opens closes =>
        rw [ih]
        simp [List.count_cons_of_ne opens, List.count_cons_of_ne closes]

theorem balanced_iff (text : Text) : Balanced text ↔ depthAfter? 0 text = some 0 := by
  simp [depthAfter?_eq_some_iff, Balanced]

instance : DecidablePred Balanced := fun text => decidable_of_iff _ (balanced_iff text).symm

theorem depthAfter?_append (depth : Nat) (first second : Text) :
    depthAfter? depth (first ++ second) =
      (depthAfter? depth first).bind fun between => depthAfter? between second := by
  induction first generalizing depth with
  | nil => rfl
  | cons character rest ih =>
    rw [List.cons_append, depthAfter?.eq_def, depthAfter?.eq_def depth (character :: rest)]
    dsimp only
    split
    · exact ih _
    · split
      · cases depth with
        | zero => rfl
        | succ depth => exact ih depth
      · exact ih depth

/-- A balanced text keeps every depth. -/
theorem Balanced.depthAfter? (balanced : Balanced text) (depth : Nat) :
    depthAfter? depth text = some depth := by
  rw [depthAfter?_eq_some_iff]
  refine ⟨fun beginning prefixed => ?_, by rw [balanced.2]⟩
  have := balanced.1 beginning prefixed
  omega

/-! ## Building balanced texts -/

/-- Whether a character is no brace. -/
def isNoBrace (character : Char) : Bool := character != '{' && character != '}'

theorem depthAfter?_eq_some_of_noBrace (noBrace : text.all isNoBrace = true) (depth : Nat) :
    Layout.depthAfter? depth text = some depth := by
  induction text with
  | nil => rfl
  | cons character rest ih =>
    rw [List.all_cons, Bool.and_eq_true, isNoBrace, Bool.and_eq_true, bne_iff_ne, bne_iff_ne]
      at noBrace
    obtain ⟨⟨opens, closes⟩, noBrace⟩ := noBrace
    rw [Layout.depthAfter?.eq_def]
    dsimp only
    rw [if_neg opens, if_neg closes]
    exact ih noBrace

theorem balanced_of_noBrace (noBrace : text.all isNoBrace = true) : Balanced text :=
  (balanced_iff text).mpr (depthAfter?_eq_some_of_noBrace noBrace 0)

theorem Balanced.append (firstBalanced : Balanced first) (secondBalanced : Balanced second) :
    Balanced (first ++ second) := by
  rw [balanced_iff, depthAfter?_append, firstBalanced.depthAfter? 0]
  exact secondBalanced.depthAfter? 0

theorem Balanced.enclosed (balanced : Balanced text) : Balanced ('{' :: text ++ ['}']) := by
  rw [balanced_iff, depthAfter?_append]
  change (Layout.depthAfter? 1 text).bind _ = _
  rw [balanced.depthAfter? 1]
  rfl

/-! ## Blanks and lines -/

theorem depthAfter?_solid (depth : Nat) (text : Text) :
    Layout.depthAfter? depth (solid text) = Layout.depthAfter? depth text := by
  induction text generalizing depth with
  | nil => rfl
  | cons character rest ih =>
    cases blank : isBlank character with
    | true =>
      have noBrace : [character].all isNoBrace = true := by
        have opens : character ≠ '{' := by
          rintro rfl
          exact absurd blank (by decide)
        have closes : character ≠ '}' := by
          rintro rfl
          exact absurd blank (by decide)
        simp [isNoBrace, opens, closes]
      rw [solid_cons_of_isBlank blank, ih, ← List.singleton_append, depthAfter?_append,
        depthAfter?_eq_some_of_noBrace noBrace]
      rfl
    | false =>
      have kept : solid [character] = [character] := by simp [solid, blank]
      rw [solid_cons, kept, depthAfter?_append, ← List.singleton_append (l := rest),
        depthAfter?_append]
      congr 1
      funext between
      exact ih between

/-- Blanks do not matter for balance. -/
theorem balanced_solid_iff (text : Text) : Balanced (solid text) ↔ Balanced text := by
  rw [balanced_iff, balanced_iff, depthAfter?_solid]

theorem checkBalanceFrom_eq_ok_iff (before depth : Nat) (lines : List Text) :
    checkBalanceFrom before depth lines = .ok () ↔
      Layout.depthAfter? depth lines.flatten = some 0 := by
  induction lines generalizing before depth with
  | nil =>
    rw [checkBalanceFrom, List.flatten_nil, Layout.depthAfter?]
    split <;> simp [*]
  | cons line rest ih =>
    rw [checkBalanceFrom, List.flatten_cons, depthAfter?_append]
    cases Layout.depthAfter? depth line with
    | none => simp
    | some after => exact ih (before + 1) after

/-- Lines pass the check of balance exactly if together they are balanced. -/
theorem checkBalance_eq_ok_iff (lines : List Text) :
    checkBalance lines = .ok () ↔ Balanced lines.flatten := by
  rw [checkBalance, checkBalanceFrom_eq_ok_iff, balanced_iff]

/-! ## Strict layout -/

/-- The check of balance sees the text that is laid out. -/
theorem checkBalance_shape_eq_ok_iff (text : Text) :
    checkBalance (shape text) = .ok () ↔ Balanced text := by
  rw [checkBalance_eq_ok_iff, ← balanced_solid_iff, solid_shape, balanced_solid_iff]

/-- A balanced text is laid out in strict mode as it is otherwise. -/
theorem run_strict_of_balanced (balanced : Balanced text) (indent : Indent) :
    run ⟨indent, true⟩ text = run ⟨indent, false⟩ text := by
  rw [run_eq_of_strict, (checkBalance_shape_eq_ok_iff text).mpr balanced, run_eq_of_lenient]
  rfl

/-- A text that is laid out in strict mode is balanced. -/
theorem balanced_of_run_strict {indent : Indent} {draft : Draft}
    (laid : run ⟨indent, true⟩ text = .ok draft) : Balanced text := by
  rw [run_eq_of_strict] at laid
  rw [← checkBalance_shape_eq_ok_iff]
  cases checked : checkBalance (shape text) with
  | error cause =>
    rw [checked] at laid
    cases laid
  | ok done => rfl

end Beanwright.Layout
