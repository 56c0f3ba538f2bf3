import Beanwright.Proofs.Layout.Controls
import Beanwright.Proofs.Layout.EqualsRuns

/-!
# The normal form of a line

A line is spaced if nothing is left to do for any of the three steps of spacing. Spacing makes a
line spaced: each step has nothing left to do after itself, and later steps only change gaps. What
it means for a line to be spaced can be told without the steps, by what stands next to its first
brace, to the parentheses behind its control words, and to its operators.
-/

namespace Beanwright.Layout

open Text

variable {left : Option Char} {length : Nat} {afterOperator : Bool}
  {line text gap rest before after word read : Text}

/-! ## Spaced lines -/

/-- No step of spacing changes the line. -/
structure IsSpaced (line : Text) : Prop where
  /-- The first brace is spaced. -/
  brace : spaceBrace line = line
  /-- The control words are spaced. -/
  controls : spaceControls line = line
  /-- The operators are spaced. -/
  operators : spaceOperators line = line

theorem IsSpaced.spaceLine_eq (spaced : IsSpaced line) : spaceLine line = line := by
  rw [spaceLine, spaced.brace, spaced.controls, spaced.operators]

theorem respaced_spaceLine (line : Text) : Respaced none none line (spaceLine line) :=
  ((respaced_spaceBrace line).trans (respaced_spaceControls none _)).trans
    (respaced_spaceOperators _)

/-- Spacing leaves nothing to do, since later steps only respace the line. -/
theorem isSpaced_spaceLine (line : Text) : IsSpaced (spaceLine line) := by
  have controlled := respaced_spaceControls none (spaceBrace line)
  have braced : spaceBrace (spaceControls (spaceBrace line)) = spaceControls (spaceBrace line) :=
    controlled.spaceBrace_eq_self (spaceBrace_spaceBrace line)
  have operated := respaced_spaceOperators (spaceControls (spaceBrace line))
  exact ⟨operated.spaceBrace_eq_self braced,
    operated.spaceControls_eq_self (spaceControls_spaceControls (spaceBrace line)),
    spaceOperators_spaceOperators _⟩

/-! ## The first brace -/

/-- A line in which the first brace is spaced has it at its start or behind a blank. -/
theorem all_isBlank_of_spaceBrace_eq_self (fixed : spaceBrace line = line)
    (cut : line = before ++ '{' :: after) (noBrace : '{' ∉ before) :
    before.getLast?.all isBlank = true := by
  subst cut
  rw [spaceBrace, spaceBraceAfter_append none noBrace, List.append_cancel_left_eq,
    spaceBraceAfter_brace_eq_self_iff, Option.or_none] at fixed
  exact fixed

/-! ## Control words -/

theorem spaceControlsAfter_eq_self_of_append
    (fixed : spaceControlsAfter before (text ++ rest) = text ++ rest) :
    spaceControlsAfter (text.reverse ++ before) rest = rest := by
  induction text generalizing before with
  | nil => exact fixed
  | cons first others ih =>
    rw [List.cons_append, spaceControlsAfter_cons_eq_self_iff] at fixed
    have later := ih fixed.2
    rwa [List.reverse_cons, List.append_assoc]

/-- A line in which the control words are spaced has no parenthesis right behind a control word that
begins at a word boundary. -/
theorem any_isWordCharacter_of_spaceControls_eq_self (fixed : spaceControls line = line)
    (control : word ∈ controlWords) (cut : line = before ++ (word ++ '(' :: after)) :
    before.getLast?.any isWordCharacter = true := by
  rw [cut, ← List.append_assoc] at fixed
  have notControl := (spaceControlsAfter_cons_eq_self_iff.mp
    (spaceControlsAfter_eq_self_of_append fixed)).1
  rw [List.append_nil, List.reverse_append] at notControl
  have letters : ∀ letter ∈ word.reverse, isWordCharacter letter = true := fun letter member =>
    controlWords_wordCharacters word control letter (List.mem_reverse.mp member)
  by_contra boundary
  have ended : lastWord before.reverse = [] := by
    rw [← List.head?_reverse] at boundary
    rw [lastWord]
    cases reversed : before.reverse with
    | nil => rfl
    | cons last others =>
      rw [reversed] at boundary
      exact List.takeWhile_cons_of_neg boundary
  have last : lastWord (word.reverse ++ before.reverse) = word.reverse := by
    rw [lastWord, List.takeWhile_append_of_pos letters, ← lastWord, ended, List.append_nil]
  rw [last, List.reverse_reverse] at notControl
  exact notControl ⟨rfl, control⟩

/-! ## Operators -/

/-- Nothing stands before an operator, or exactly one space. -/
def EndsSpaced (before : Text) : Prop :=
  before = [] ∨ ∃ others last, before = others ++ [last, ' '] ∧ isBlank last = false

/-- Nothing stands after an operator, or exactly one space. -/
def BeginsSpaced (after : Text) : Prop :=
  after = [] ∨ ∃ first others, after = ' ' :: first :: others ∧ isBlank first = false

/-- Before an operator stands exactly one space, unless the line begins with it. -/
theorem endsSpaced_spaceRight (reads : read.getLast? = left)
    (follows : Follows left afterOperator line) (gap : Text) :
    EndsSpaced (read ++ spaceRight left.isSome true gap) := by
  rw [spaceRight, if_pos rfl]
  cases blank : isBlankText gap with
  | true =>
    rw [trimEnd_of_isBlankText blank, List.nil_append]
    cases follows with
    | start =>
      rw [List.getLast?_eq_none_iff] at reads
      exact .inl (by rw [reads]; rfl)
    | run =>
      obtain ⟨others, rfl⟩ := List.getLast?_eq_some_iff.mp reads
      exact .inr ⟨others, '=', List.append_assoc .., by decide⟩
  | false =>
    obtain ⟨others, last, blanks, isSolid, ending, rfl⟩ := exists_append_blanks blank
    refine .inr ⟨read ++ others, last, ?_, isSolid⟩
    rw [List.append_cons, trimEnd_append_blanks ending, trimEnd_concat_of_not_isBlank isSolid]
    simp

/-- After an operator a gap begins with one space. -/
theorem exists_spaceRight_spaceLeft (operator : Bool) (gap : Text) : ∃ others,
    spaceRight true operator (spaceLeft true gap) = ' ' :: others ∧
      ∀ first, others.head? = some first → isBlank first = false := by
  rw [spaceLeft, if_pos rfl, spaceRight]
  cases blank : isBlankText gap with
  | true =>
    rw [trimStart_eq_nil_iff.mpr blank]
    cases operator <;> exact ⟨[], rfl, by rintro _ ⟨⟩⟩
  | false =>
    obtain ⟨blanks, first, rest, beginning, isSolid, rfl⟩ := exists_blanks_append blank
    rw [trimStart_blanks_append beginning, trimStart_cons_of_not_isBlank isSolid]
    cases operator with
    | false => exact ⟨first :: rest, rfl, by rintro _ ⟨⟩; exact isSolid⟩
    | true =>
      rw [if_pos rfl, trimEnd_space, trimEnd_cons_of_not_isBlank isSolid,
        if_neg (List.cons_ne_nil _ _)]
      exact ⟨first :: trimEnd rest ++ [' '], rfl, by rintro _ ⟨⟩; exact isSolid⟩

/-- After an operator stands exactly one space, unless the line ends with it. -/
theorem beginsSpaced_spaceOperatorsFrom (apart : rest.head? ≠ some '=') :
    BeginsSpaced (spaceOperatorsFrom (some '=') true rest) := by
  cases runs rest with
  | gap noEquals =>
    rw [spaceOperatorsFrom_gap _ _ noEquals, spaceLast]
    cases blank : isBlankText rest with
    | true => exact .inl rfl
    | false =>
      obtain ⟨blanks, first, others, beginning, isSolid, rfl⟩ := exists_blanks_append blank
      rw [Bool.and_false, if_neg Bool.false_ne_true, spaceLeft, if_pos rfl,
        trimStart_blanks_append beginning, trimStart_cons_of_not_isBlank isSolid]
      exact .inr ⟨first, others, rfl, isSolid⟩
  | @run gap later length noEquals apart' _ =>
    rw [spaceOperatorsFrom_run (.run apart) noEquals apart' rfl, Option.isSome_some]
    obtain ⟨others, equal, isSolid⟩ := exists_spaceRight_spaceLeft
      (isOperator gap.getLast? (length + 1) (Piece.ofText later)) gap
    rw [equal]
    cases others with
    | nil => exact .inr ⟨'=', _, rfl, by decide⟩
    | cons first others => exact .inr ⟨first, _, rfl, isSolid first rfl⟩

/-- In a line in which the operators are spaced, each of them has one space on both sides. The line
is read from left to right, and the induction is on its runs. -/
theorem spaced_of_spaceOperatorsFrom_eq_self (reads : read.getLast? = left)
    (follows : Follows left afterOperator line)
    (fixed : spaceOperatorsFrom left afterOperator line = line)
    (run : RunAt line before length after)
    (isOperatorHere : isOperator before.getLast? length (Piece.ofText after) = true) :
    EndsSpaced (read ++ before) ∧ BeginsSpaced after := by
  induction runs line generalizing left afterOperator read before with
  | gap noEquals =>
    obtain ⟨cut, positive, -, -⟩ := run
    obtain ⟨length, rfl⟩ := Nat.exists_eq_add_one_of_ne_zero (Nat.ne_of_gt positive)
    rw [cut] at noEquals
    exact absurd (by simp) noEquals
  | @run gap rest number noEquals apart _ ih =>
    obtain ⟨operator, isOperatorFirst⟩ : ∃ operator,
        isOperator gap.getLast? (number + 1) (Piece.ofText rest) = operator := ⟨_, rfl⟩
    have later : Follows (some '=') operator rest := .run apart
    have noEquals' : '=' ∉ spaceRight left.isSome operator (spaceLeft afterOperator gap) :=
      ((respaced_spaceLeft follows.left_eq).trans
        (respaced_spaceRight left operator _)).notMem (by decide) noEquals
    rw [spaceOperatorsFrom_run follows noEquals apart isOperatorFirst] at fixed
    -- What is fixed as a whole is fixed before and after its first run.
    have whole : RunAt (gap ++ (List.replicate (number + 1) '=' ++ rest))
        (spaceRight left.isSome operator (spaceLeft afterOperator gap)) (number + 1)
        (spaceOperatorsFrom (some '=') operator rest) :=
      ⟨fixed.symm, Nat.succ_pos number, fun ends => noEquals' (List.mem_of_getLast? ends),
        later.spaceOperatorsFrom.head?_ne⟩
    obtain ⟨gapFixed, restFixed⟩ : spaceRight left.isSome operator (spaceLeft afterOperator gap) =
        gap ∧ spaceOperatorsFrom (some '=') operator rest = rest := by
      rcases whole.first_or_later noEquals apart with ⟨same, -, same'⟩ | ⟨_, -, same, -⟩
      · exact ⟨same, same'⟩
      · rw [same] at noEquals'
        exact absurd (by simp) noEquals'
    rcases run.first_or_later noEquals apart with ⟨rfl, rfl, rfl⟩ | ⟨between, some, rfl, next⟩
    · rw [isOperatorFirst] at isOperatorHere
      subst isOperatorHere
      rw [← gapFixed, ← restFixed]
      exact ⟨endsSpaced_spaceRight reads follows _, beginsSpaced_spaceOperatorsFrom apart⟩
    · rw [List.getLast?_append_of_ne_nil _ (by simp), List.getLast?_append_of_ne_nil _ some]
        at isOperatorHere
      have readsMore : (read ++ (gap ++ List.replicate (number + 1) '=')).getLast? = '=' := by
        rw [List.replicate_succ', ← List.append_assoc, ← List.append_assoc, List.getLast?_concat]
      have found := ih readsMore later restFixed next isOperatorHere
      rwa [List.append_assoc, List.append_assoc] at found

/-! ## The normal form -/

/-- The normal form of a line. -/
structure IsNormal (line : Text) : Prop where
  /-- The first brace stands at the start or directly after a blank. -/
  brace : ∀ before after, line = before ++ '{' :: after → '{' ∉ before →
    before.getLast?.all isBlank = true
  /-- A parenthesis directly after the letters of a control word belongs to a longer word. -/
  controls : ∀ word ∈ controlWords, ∀ before after, line = before ++ (word ++ '(' :: after) →
    before.getLast?.any isWordCharacter = true
  /-- Next to a run of one to three equals signs stands a comparison sign, or exactly one space on
  each side, unless the line begins or ends there. -/
  operators : ∀ before length after, RunAt line before length after → length ≤ 3 →
    before.getLast?.any isComparison = false → after.head?.any isComparison = false →
      EndsSpaced before ∧ BeginsSpaced after

/-- A line on which nothing is left to do has the normal form. -/
theorem IsSpaced.isNormal (spaced : IsSpaced line) : IsNormal line where
  brace _ _ cut noBrace := all_isBlank_of_spaceBrace_eq_self spaced.brace cut noBrace
  controls _ control _ _ cut :=
    any_isWordCharacter_of_spaceControls_eq_self spaced.controls control cut
  operators before length after run short leftPlain rightPlain := by
    have isOperatorHere : isOperator before.getLast? length (Piece.ofText after) = true := by
      rw [isOperator_ofText run.right, leftPlain, rightPlain, longestOperator,
        decide_eq_true short]
      rfl
    have reads : ([] : Text).getLast? = none := rfl
    exact spaced_of_spaceOperatorsFrom_eq_self reads .start spaced.operators run isOperatorHere

/-- Spacing makes the normal form of a line. It keeps the runs of equals signs and the comparison
signs that touch them, and it leaves the normal form that it has made alone. -/
theorem spaceLine_normal (line : Text) :
    IsNormal (spaceLine line) ∧ touchedRuns (spaceLine line) = touchedRuns line ∧
      spaceLine (spaceLine line) = spaceLine line :=
  ⟨(isSpaced_spaceLine line).isNormal, touchedRuns_spaceLine line,
    (isSpaced_spaceLine line).spaceLine_eq⟩

end Beanwright.Layout
