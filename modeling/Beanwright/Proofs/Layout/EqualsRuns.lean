import Mathlib.Data.List.Basic
import Beanwright.Proofs.Layout.Operators

/-!
# The equals signs of a line

The longest runs of equals signs of a line, in order, with the comparison signs that touch them.
Spacing puts blanks before braces, before parentheses and next to operators. None of these places
lies inside a run or between a run and a comparison sign, so the runs stay what they are.
-/

namespace Beanwright.Layout

open Text

variable {left : Option Char} {length number : Nat} {afterOperator : Bool}
  {gap rest line before after text : Text}

/-! ## Runs at a place -/

/-- A run of equals signs stands at a place of a line and is as long as possible. -/
structure RunAt (line before : Text) (length : Nat) (after : Text) : Prop where
  /-- What stands before and after the run. -/
  cut : line = before ++ (List.replicate length '=' ++ after)
  /-- There is an equals sign. -/
  positive : 0 < length
  /-- No equals sign comes before. -/
  left : before.getLast? ≠ some '='
  /-- No equals sign comes after. -/
  right : after.head? ≠ some '='

/-- Runs that do not go on have the same length if the texts that begin with them are the same. -/
theorem replicate_append_inj (apart : rest.head? ≠ some '=') (apart' : after.head? ≠ some '=')
    (same : List.replicate length '=' ++ rest = List.replicate number '=' ++ after) :
    length = number ∧ rest = after := by
  induction length generalizing number with
  | zero =>
    cases number with
    | zero => exact ⟨rfl, same⟩
    | succ number => exact absurd (congrArg List.head? same) apart
  | succ length ih =>
    cases number with
    | zero => exact absurd (congrArg List.head? same).symm apart'
    | succ number =>
      rw [List.replicate_succ, List.replicate_succ] at same
      obtain ⟨equal, later⟩ := ih (List.cons.inj same).2
      exact ⟨congrArg Nat.succ equal, later⟩

/-- A run of a line is its first one, or it is a run of what follows the first one. -/
theorem RunAt.first_or_later (noEquals : '=' ∉ gap) (apart : rest.head? ≠ some '=')
    (run : RunAt (gap ++ (List.replicate (length + 1) '=' ++ rest)) before number after) :
    (before = gap ∧ number = length + 1 ∧ after = rest) ∨
      ∃ between, between ≠ [] ∧ before = gap ++ (List.replicate (length + 1) '=' ++ between) ∧
        RunAt rest between number after := by
  obtain ⟨same, positive, leftApart, rightApart⟩ := run
  obtain ⟨number, rfl⟩ := Nat.exists_eq_add_one_of_ne_zero (Nat.ne_of_gt positive)
  rcases List.append_eq_append_iff.mp same with ⟨between, rfl, later⟩ | ⟨beginning, rfl, later⟩
  · rcases List.append_eq_append_iff.mp later with ⟨others, rfl, found⟩ | ⟨others, equals, found⟩
    · by_cases empty : others = []
      · subst empty
        rw [List.append_nil, List.replicate_succ', ← List.append_assoc, List.getLast?_concat]
          at leftApart
        exact absurd rfl leftApart
      · refine .inr ⟨others, empty, rfl, found, positive, ?_, rightApart⟩
        rwa [List.getLast?_append_of_ne_nil _ (by simp [empty]),
          List.getLast?_append_of_ne_nil _ empty] at leftApart
    · by_cases empty : between = []
      · subst empty
        rw [List.nil_append] at equals
        rw [← equals] at found
        obtain ⟨equal, rfl⟩ := replicate_append_inj rightApart apart found
        exact .inl ⟨List.append_nil gap, equal, rfl⟩
      · have lastEquals : between.getLast? = some '=' := by
          rw [List.getLast?_eq_some_getLast empty]
          have inRun : between.getLast empty ∈ List.replicate (length + 1) '=' := by
            rw [equals]
            exact List.mem_append_left _ (List.getLast_mem empty)
          rw [List.eq_of_mem_replicate inRun]
        rw [List.getLast?_append_of_ne_nil _ empty] at leftApart
        exact absurd lastEquals leftApart
  · cases beginning with
    | nil =>
      rw [List.nil_append] at later
      obtain ⟨equal, rfl⟩ := replicate_append_inj rightApart apart later
      exact .inl ⟨(List.append_nil before).symm, equal, rfl⟩
    | cons first others =>
      rw [List.replicate_succ, List.cons_append, List.cons_append] at later
      obtain rfl := (List.cons.inj later).1
      exact absurd (List.mem_append_right _ List.mem_cons_self) noEquals

/-! ## The runs of a line -/

/-- A run of equals signs and the comparison signs that touch it. -/
structure TouchedRun where
  /-- The number of equals signs. -/
  length : Nat
  /-- The comparison sign right before the run, if there is one. -/
  left : Option Char
  /-- The comparison sign right after the run, if there is one. -/
  right : Option Char
deriving DecidableEq, Repr

/-- The run that ends between two characters; none if no equals sign has been read. -/
def TouchedRun.ended (left : Option Char) : (length : Nat) → (right : Option Char) →
    List TouchedRun
  | 0, _ => []
  | length + 1, right => [⟨length + 1, comparisonSign left, comparisonSign right⟩]

/-- The runs of a text in order, when a number of equals signs has been read already; `left` is the
character before these. -/
def touchedRunsFrom : (left : Option Char) → (length : Nat) → Text → List TouchedRun
  | left, length, [] => TouchedRun.ended left length none
  | left, length, character :: rest =>
    if character = '=' then touchedRunsFrom left (length + 1) rest
    else TouchedRun.ended left length (some character) ++ touchedRunsFrom (some character) 0 rest

/-- The longest runs of equals signs of a line, in order. -/
def touchedRuns (line : Text) : List TouchedRun := touchedRunsFrom none 0 line

theorem touchedRunsFrom_equals (left : Option Char) (length : Nat) (rest : Text) :
    touchedRunsFrom left length ('=' :: rest) = touchedRunsFrom left (length + 1) rest := if_pos rfl

theorem touchedRunsFrom_cons_of_ne {character : Char} (differs : character ≠ '=')
    (left : Option Char) (length : Nat) (rest : Text) :
    touchedRunsFrom left length (character :: rest) =
      TouchedRun.ended left length (some character) ++ touchedRunsFrom (some character) 0 rest :=
  if_neg differs

theorem touchedRunsFrom_gap (noEquals : '=' ∉ gap) (left : Option Char) (rest : Text) :
    touchedRunsFrom left 0 (gap ++ rest) = touchedRunsFrom (gap.getLast?.or left) 0 rest := by
  induction gap generalizing left with
  | nil => rfl
  | cons first others ih =>
    rw [List.mem_cons, not_or] at noEquals
    rw [List.cons_append, touchedRunsFrom_cons_of_ne (Ne.symm noEquals.1), ih noEquals.2,
      List.getLast?_cons]
    cases others.getLast? <;> rfl

theorem touchedRunsFrom_replicate (apart : rest.head? ≠ some '=') (left : Option Char)
    (length number : Nat) : touchedRunsFrom left length (List.replicate number '=' ++ rest) =
      TouchedRun.ended left (length + number) rest.head? ++ touchedRunsFrom (some '=') 0 rest := by
  induction number generalizing length with
  | zero =>
    cases rest with
    | nil =>
      change touchedRunsFrom left length [] = TouchedRun.ended left length none ++ []
      rw [List.append_nil, touchedRunsFrom]
    | cons first others =>
      have differs : first ≠ '=' := fun same => apart (congrArg some same)
      rw [List.replicate_zero, List.nil_append, touchedRunsFrom_cons_of_ne differs,
        touchedRunsFrom_cons_of_ne differs]
      rfl
  | succ number ih =>
    rw [List.replicate_succ, List.cons_append, touchedRunsFrom_equals, ih, Nat.succ_add_eq_add_succ]

/-- The runs of a line are its first run and the runs of what follows. -/
theorem touchedRunsFrom_run (noEquals : '=' ∉ gap) (apart : rest.head? ≠ some '=')
    (left : Option Char) (length : Nat) :
    touchedRunsFrom left 0 (gap ++ (List.replicate (length + 1) '=' ++ rest)) =
      ⟨length + 1, comparisonSign (gap.getLast?.or left), comparisonSign rest.head?⟩ ::
        touchedRunsFrom (some '=') 0 rest := by
  rw [touchedRunsFrom_gap noEquals, touchedRunsFrom_replicate apart, Nat.zero_add]
  rfl

example : touchedRuns "a==b<=c=>d".toList =
    [⟨2, none, none⟩, ⟨1, some '<', none⟩, ⟨1, none, some '>'⟩] := by decide

/-! ## Spacing keeps the runs -/

/-- A space before a character that is no equals sign and no comparison sign. -/
theorem touchedRunsFrom_space {character : Char} (differs : character ≠ '=')
    (plain : isComparison character = false) (left : Option Char) (length : Nat) (rest : Text) :
    touchedRunsFrom left length (' ' :: character :: rest) =
      touchedRunsFrom left length (character :: rest) := by
  have noSign : comparisonSign (some character) = none := by
    rw [comparisonSign, Option.filter_some, plain]
    rfl
  have sameEnd : TouchedRun.ended left length (some ' ') =
      TouchedRun.ended left length (some character) := by
    cases length with
    | zero => rfl
    | succ length =>
      rw [TouchedRun.ended, TouchedRun.ended, noSign, comparisonSign_of_isBlank isBlank_space]
  rw [touchedRunsFrom_cons_of_ne (by decide), touchedRunsFrom_cons_of_ne differs,
    touchedRunsFrom_cons_of_ne differs, sameEnd]
  rfl

/-- Texts that begin with the same character have the same runs if what follows it has. -/
theorem touchedRunsFrom_cons_congr {first second : Text}
    (same : ∀ left length, touchedRunsFrom left length first = touchedRunsFrom left length second)
    (character : Char) (left : Option Char) (length : Nat) :
    touchedRunsFrom left length (character :: first) =
      touchedRunsFrom left length (character :: second) := by
  rw [touchedRunsFrom, touchedRunsFrom, same, same]

theorem touchedRunsFrom_spaceBraceAfter (previous left : Option Char) (length : Nat)
    (text : Text) : touchedRunsFrom left length (spaceBraceAfter previous text) =
      touchedRunsFrom left length text := by
  induction text generalizing previous left length with
  | nil => rfl
  | cons first others ih =>
    rw [spaceBraceAfter.eq_def]
    dsimp only
    split
    · next brace =>
      subst brace
      split
      · rfl
      · split
        · rfl
        · exact touchedRunsFrom_space (by decide) (by decide) left length others
    · exact touchedRunsFrom_cons_congr (ih (some first)) first left length

theorem touchedRunsFrom_spaceControlsAfter (before : Text) (left : Option Char) (length : Nat)
    (text : Text) : touchedRunsFrom left length (spaceControlsAfter before text) =
      touchedRunsFrom left length text := by
  induction text generalizing before left length with
  | nil => rfl
  | cons first others ih =>
    have later := touchedRunsFrom_cons_congr (ih (first :: before)) first left length
    rw [spaceControlsAfter]
    split
    · next spaced =>
      rw [Bool.and_eq_true, decide_eq_true_eq] at spaced
      obtain ⟨rfl, -⟩ := spaced
      rw [touchedRunsFrom_space (by decide) (by decide), later]
    · exact later

/-- Before a text that follows a run or is a whole line stands no comparison sign. -/
theorem Follows.comparisonSign_or (follows : Follows left afterOperator line)
    (character : Option Char) :
    comparisonSign (character.or left) = comparisonSign character := by
  cases character with
  | some character => rfl
  | none => cases follows <;> rfl

theorem touchedRunsFrom_spaceOperatorsFrom (follows : Follows left afterOperator line) :
    touchedRunsFrom left 0 (spaceOperatorsFrom left afterOperator line) =
      touchedRunsFrom left 0 line := by
  induction runs line generalizing left afterOperator with
  | gap noEquals =>
    have noEquals' := (respaced_spaceLast follows.left_eq).notMem (by decide) noEquals
    have noRuns {gap : Text} (noEquals : '=' ∉ gap) : touchedRunsFrom left 0 gap = [] := by
      rw [← List.append_nil gap, touchedRunsFrom_gap noEquals, touchedRunsFrom]
      rfl
    rw [spaceOperatorsFrom_gap left afterOperator noEquals, noRuns noEquals, noRuns noEquals']
  | @run gap rest length noEquals apart _ ih =>
    obtain ⟨operator, isOperatorHere⟩ : ∃ operator,
        isOperator gap.getLast? (length + 1) (Piece.ofText rest) = operator := ⟨_, rfl⟩
    have later : Follows (some '=') operator rest := .run apart
    have noEquals' : '=' ∉ spaceRight left.isSome operator (spaceLeft afterOperator gap) :=
      ((respaced_spaceLeft follows.left_eq).trans
        (respaced_spaceRight left operator _)).notMem (by decide) noEquals
    have signs := sameSigns_spaced apart isOperatorHere left.isSome afterOperator
    rw [spaceOperatorsFrom_run follows noEquals apart isOperatorHere,
      touchedRunsFrom_run noEquals' later.spaceOperatorsFrom.head?_ne,
      touchedRunsFrom_run noEquals apart, ih later, follows.comparisonSign_or,
      follows.comparisonSign_or, signs.left, signs.right]

/-- Spacing keeps the runs of equals signs and the comparison signs that touch them. -/
theorem touchedRuns_spaceLine (line : Text) : touchedRuns (spaceLine line) = touchedRuns line := by
  rw [touchedRuns, spaceLine, spaceOperators_eq, touchedRunsFrom_spaceOperatorsFrom .start,
    spaceControls, touchedRunsFrom_spaceControlsAfter, spaceBrace, touchedRunsFrom_spaceBraceAfter]
  rfl

end Beanwright.Layout
