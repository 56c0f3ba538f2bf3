import Beanwright.Proofs.Layout.Openers

/-!
# Strict layout is brace balance

The strict layout checks the braces line by line, after the lines were broken, separated and spaced,
and before they are indented. None of this shows in what it accepts: it refuses exactly the texts
that are not balanced, and counts the lines that the lenient layout prints.
-/

namespace Beanwright.Layout

open Text

variable {text : Text} {lines others : List Text} {indent : Indent}

/-! ## Texts that close too much -/

/-- Some beginning of a text closes more blocks than it opens. -/
def Overclosed (text : Text) : Prop :=
  ∃ beginning, beginning <+: text ∧ beginning.count '{' < beginning.count '}'

theorem overclosed_iff (text : Text) : Overclosed text ↔ depthAfter? 0 text = none := by
  constructor
  · rintro ⟨beginning, prefixed, more⟩
    rw [Option.eq_none_iff_forall_ne_some]
    intro result walked
    have bounded := ((depthAfter?_eq_some_iff 0 result text).mp walked).1 beginning prefixed
    omega
  · intro fails
    obtain ⟨read, rest, rfl, ended⟩ := (depthAfter?_eq_none_iff 0 text).mp fails
    have total := ((depthAfter?_eq_some_iff 0 0 read).mp ended).2
    refine ⟨read ++ ['}'], ⟨rest, by simp⟩, ?_⟩
    simp
    omega

theorem not_overclosed_of_balanced (balanced : Balanced text) : ¬Overclosed text := by
  rw [overclosed_iff, (balanced_iff text).mp balanced]
  exact Option.some_ne_none 0

/-- A closing brace after a balanced text closes too much. -/
theorem overclosed_append_closing (balanced : Balanced text) : Overclosed (text ++ ['}']) :=
  ⟨text ++ ['}'], List.prefix_refl _, by simp [balanced.2]⟩

/-- A text that does not close too much leaves as many blocks open as it opens more than it
closes. -/
theorem depthAfter?_of_not_overclosed (closes : ¬Overclosed text) :
    ∃ depth, depthAfter? 0 text = some depth ∧ text.count '{' = depth + text.count '}' := by
  rw [overclosed_iff, ← ne_eq, Option.ne_none_iff_exists'] at closes
  obtain ⟨depth, walked⟩ := closes
  have total := ((depthAfter?_eq_some_iff 0 depth text).mp walked).2
  exact ⟨depth, walked, by omega⟩

/-! ## Where the check fails -/

theorem checkBalanceFrom_congr (same : List.Forall₂ (fun line other => solid other = solid line)
    lines others) (before depth : Nat) :
    checkBalanceFrom before depth others = checkBalanceFrom before depth lines := by
  induction same generalizing before depth with
  | nil => rfl
  | @cons line other _ _ first _ ih =>
    have walked : depthAfter? depth other = depthAfter? depth line := by
      rw [← depthAfter?_solid, first, depthAfter?_solid]
    rw [checkBalanceFrom, checkBalanceFrom, walked]
    cases depthAfter? depth line with
    | none => rfl
    | some after => exact ih (before + 1) after

/-- The check sees the lines that are printed. -/
theorem checkBalance_nest (indent : Indent) (lines : List Text) :
    checkBalance (nest indent lines).1 = checkBalance lines :=
  checkBalanceFrom_congr (forall₂_solid_nestFrom indent 0 lines) 0 0

theorem checkBalanceFrom_of_depthAfter?_some {depth surplus : Nat} (before : Nat)
    (walked : depthAfter? depth lines.flatten = some (surplus + 1)) :
    checkBalanceFrom before depth lines = .error ⟨before + lines.length, surplus + 1⟩ := by
  induction lines generalizing before depth with
  | nil =>
    obtain rfl : depth = surplus + 1 := Option.some.inj walked
    rfl
  | cons line rest ih =>
    rw [List.flatten_cons, depthAfter?_append] at walked
    rw [checkBalanceFrom]
    cases between : depthAfter? depth line with
    | none =>
      rw [between] at walked
      cases walked
    | some after =>
      rw [between] at walked
      dsimp only
      rw [ih (before + 1) walked, List.length_cons, Nat.add_assoc, Nat.add_comm 1]

theorem checkBalanceFrom_of_depthAfter?_none {depth : Nat} (before : Nat)
    (fails : depthAfter? depth lines.flatten = none) :
    ∃ earlier line later between, lines = earlier ++ line :: later ∧
      depthAfter? depth earlier.flatten = some between ∧ depthAfter? between line = none ∧
      checkBalanceFrom before depth lines = .error ⟨before + earlier.length + 1, -1⟩ := by
  induction lines generalizing before depth with
  | nil => cases fails
  | cons line rest ih =>
    rw [List.flatten_cons, depthAfter?_append] at fails
    rw [checkBalanceFrom]
    cases between : depthAfter? depth line with
    | none => exact ⟨[], line, rest, depth, rfl, rfl, between, rfl⟩
    | some after =>
      rw [between] at fails
      obtain ⟨earlier, failing, later, reached, rfl, walked, stops, found⟩ := ih (before + 1) fails
      refine ⟨line :: earlier, failing, later, reached, rfl, ?_, stops, ?_⟩
      · rw [List.flatten_cons, depthAfter?_append, between]
        exact walked
      · dsimp only
        rw [found, List.length_cons, Nat.add_right_comm before 1, Nat.add_assoc before]

/-! ## Texts -/

/-- Lines hold the first closing brace of a text that closes too much in the line of a number: what
stands before it in the text is, blanks apart, what stands before it in the lines. -/
def StrayIn (text : Text) (lines : List Text) (number : Nat) : Prop :=
  ∃ read rest before start stop after,
    text = read ++ '}' :: rest ∧ ¬Overclosed read ∧ Overclosed (read ++ ['}']) ∧
    lines = before ++ (start ++ '}' :: stop) :: after ∧
    solid read = solid (before.flatten ++ start) ∧ number = before.length + 1

theorem run_strict_eq (indent : Indent) (text : Text) :
    run ⟨indent, true⟩ text = (checkBalance (nest indent (shape text)).1).map
      fun _ => Draft.ofNest (nest indent (shape text)) := by
  rw [run_eq_of_strict, checkBalance_nest]

theorem depthAfter?_nest_shape (indent : Indent) (text : Text) :
    depthAfter? 0 (nest indent (shape text)).1.flatten = depthAfter? 0 text := by
  rw [← depthAfter?_solid, solid_nest_shape, depthAfter?_solid]

/-- A text that closes too much is refused for the first brace that does. -/
theorem run_strict_of_overclosed (overclosed : Overclosed text) (indent : Indent) :
    ∃ number, run ⟨indent, true⟩ text = .error ⟨number, -1⟩ ∧
      StrayIn text (nest indent (shape text)).1 number := by
  rw [overclosed_iff, ← depthAfter?_nest_shape indent] at overclosed
  obtain ⟨before, line, after, between, cut, walked, stops, found⟩ :=
    checkBalanceFrom_of_depthAfter?_none 0 overclosed
  obtain ⟨start, stop, rfl, closed⟩ := (depthAfter?_eq_none_iff between line).mp stops
  refine ⟨before.length + 1, ?_, ?_⟩
  · rw [run_strict_eq, checkBalance, found, Nat.zero_add]
    rfl
  · have balanced : Balanced (before.flatten ++ start) := by
      rw [balanced_iff, depthAfter?_append, walked]
      exact closed
    have whole : solid text = solid (before.flatten ++ start) ++
        solid ('}' :: stop ++ after.flatten) := by
      rw [← solid_nest_shape indent text, cut]
      simp
    obtain ⟨read, later, rfl, sameRead, sameLater⟩ := exists_append_of_solid_eq whole
    rw [List.cons_append, solid_cons_of_not_isBlank (by decide)] at sameLater
    obtain ⟨blanks, rest, rfl, areBlank, -, -⟩ := List.filter_eq_cons_iff.mp sameLater
    have noSolid : solid blanks = [] := List.filter_eq_nil_iff.mpr areBlank
    have same : solid (read ++ blanks) = solid (before.flatten ++ start) := by
      rw [solid_append, noSolid, List.append_nil, sameRead]
    have readBalanced : Balanced (read ++ blanks) := by
      rwa [← balanced_solid_iff, same, balanced_solid_iff]
    exact ⟨read ++ blanks, rest, before, start, stop, after, (List.append_assoc ..).symm,
      not_overclosed_of_balanced readBalanced, overclosed_append_closing readBalanced, cut, same,
      rfl⟩

/-- A text that leaves blocks open is refused after its last line. -/
theorem run_strict_of_depthAfter? {surplus : Nat}
    (walked : depthAfter? 0 text = some (surplus + 1)) (indent : Indent) :
    run ⟨indent, true⟩ text =
      .error ⟨(nest indent (shape text)).1.length, surplus + 1⟩ := by
  rw [← depthAfter?_nest_shape indent] at walked
  rw [run_strict_eq, checkBalance, checkBalanceFrom_of_depthAfter?_some 0 walked, Nat.zero_add]
  rfl

theorem residual_of_depthAfter? {depth : Nat} (walked : depthAfter? 0 text = some depth)
    (indent : Indent) : (nest indent (shape text)).2 = depth := by
  rw [residual_nest_shape, length_openers, foldl_levelNext_of_depthAfter? walked]

/-- The strict layout accepts exactly the balanced texts, and prints them as the lenient one does,
with no block left open. Of any other text it tells the line, among those that the lenient layout
prints, of the first brace that closes too much; if there is none, the number of lines, and how many
blocks are left open. -/
theorem strict_exact (indent : Indent) (text : Text) :
    ∃ draft, run ⟨indent, false⟩ text = .ok draft ∧
      ((∃ laid, run ⟨indent, true⟩ text = .ok laid) ↔ Balanced text) ∧
      (∀ laid, run ⟨indent, true⟩ text = .ok laid → laid = draft ∧ draft.residual = 0) ∧
      ∀ error, run ⟨indent, true⟩ text = .error error →
        (Overclosed text → error.depth = -1 ∧ StrayIn text draft.lines error.line) ∧
        (¬Overclosed text → error.line = draft.lines.length ∧ 0 < error.depth ∧
          error.depth = text.count '{' - text.count '}' ∧ error.depth = draft.residual) := by
  refine ⟨_, run_eq_of_lenient indent text, ⟨?_, ?_⟩, ?_, fun error refused => ⟨?_, ?_⟩⟩
  · rintro ⟨laid, accepted⟩
    exact balanced_of_run_strict accepted
  · intro balanced
    exact ⟨_, run_strict_of_balanced balanced indent⟩
  · intro laid accepted
    have balanced := balanced_of_run_strict accepted
    rw [run_strict_of_balanced balanced, run_eq_of_lenient] at accepted
    exact ⟨(Except.ok.inj accepted).symm,
      residual_of_depthAfter? ((balanced_iff text).mp balanced) indent⟩
  · intro overclosed
    obtain ⟨number, found, stray⟩ := run_strict_of_overclosed overclosed indent
    obtain rfl := Except.error.inj (found.symm.trans refused)
    exact ⟨rfl, stray⟩
  · intro closes
    obtain ⟨depth, walked, total⟩ := depthAfter?_of_not_overclosed closes
    have residual := residual_of_depthAfter? walked indent
    cases depth with
    | zero =>
      have balanced := (balanced_iff text).mpr walked
      rw [run_strict_of_balanced balanced, run_eq_of_lenient] at refused
      cases refused
    | succ surplus =>
      obtain rfl := Except.error.inj ((run_strict_of_depthAfter? walked indent).symm.trans refused)
      refine ⟨rfl, ?_, ?_, ?_⟩
      · dsimp only
        omega
      · dsimp only
        omega
      · change (surplus + 1 : Int) = (nest indent (shape text)).2
        rw [residual]
        rfl

end Beanwright.Layout
