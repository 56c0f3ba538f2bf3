import Beanwright.Proofs.Layout.Respacing
import Beanwright.Proofs.Layout.Spacing

/-!
# Operators run by run

A line is a gap, or a gap, a run of equals signs and a line that does not begin with another one.
The spacing of operators goes along the runs: whether a run is an operator is told by its length and
by the characters next to it, and the gaps around it get their spaces by that alone. These spaces
make no operator of a run that was none and leave every operator one, so a second pass spaces the
same runs and has nothing left to do.

## Main definitions

* `Layout.Runs` — the runs of a line, for induction
* `Layout.spaceOperatorsFrom` — the spacing of what follows a run, or of a whole line
* `Layout.spaceLeft`, `Layout.spaceRight`, `Layout.spaceLast` — the spacing of a gap

## Main results

* `Layout.spaceOperatorsFrom_run` — spacing goes along the runs
* `Layout.respaced_spaceOperators` — it respaces a line
* `Layout.spaceOperators_spaceOperators` — a second pass has nothing left to do
* `Layout.trimStart_spaceOperators_blanks_append` — indentation does not matter
-/

namespace Beanwright.Layout

open Text

variable {left right : Option Char} {after written operator : Bool} {length : Nat}
  {blanks gap rest line text : Text}

/-- A line is made up of gaps and runs of equals signs that are as long as possible. -/
inductive Runs : (line : Text) → Prop
  /-- A gap without a run. -/
  | gap {gap : Text} : '=' ∉ gap → Runs gap
  /-- A gap, a run and what follows it. -/
  | run {gap rest : Text} (length : Nat) : '=' ∉ gap → rest.head? ≠ some '=' → Runs rest →
      Runs (gap ++ (List.replicate (length + 1) '=' ++ rest))

theorem head?_ne_of_notMem (noEquals : '=' ∉ text) : text.head? ≠ some '=' :=
  fun starts => noEquals (List.mem_of_mem_head? starts)

theorem runs (line : Text) : Runs line := by
  induction line with
  | nil => exact .gap List.not_mem_nil
  | cons character rest ih =>
    by_cases equals : character = '='
    · subst equals
      cases ih with
      | gap noEquals => exact .run 0 List.not_mem_nil (head?_ne_of_notMem noEquals) (.gap noEquals)
      | @run gap rest length noEquals apart later =>
        cases gap with
        | nil => exact .run (length + 1) List.not_mem_nil apart later
        | cons first others =>
          have starts : (first :: others).head? ≠ some '=' := head?_ne_of_notMem noEquals
          exact .run 0 List.not_mem_nil starts (.run length noEquals apart later)
    · have extended {gap : Text} (noEquals : '=' ∉ gap) : '=' ∉ character :: gap := by
        rw [List.mem_cons, not_or]
        exact ⟨Ne.symm equals, noEquals⟩
      cases ih with
      | gap noEquals => exact .gap (extended noEquals)
      | run length noEquals apart later => exact .run length (extended noEquals) apart later

/-! ## Gaps -/

/-- A gap with one space at its left end, if an operator stands there. -/
def spaceLeft (operator : Bool) (gap : Text) : Text :=
  if operator then ' ' :: trimStart gap else gap

/-- A gap with one space at its right end, if an operator stands there; blanks at the start of a
line are dropped instead. -/
def spaceRight (written operator : Bool) (gap : Text) : Text :=
  if operator then trimEnd gap ++ (if written || !isBlankText gap then [' '] else []) else gap

/-- The last gap of a line. -/
def spaceLast (operator : Bool) (gap : Text) : Text :=
  if operator && isBlankText gap then [] else spaceLeft operator gap

/-- What the spacing of operators makes of a text between the character before it and the end of the
line; `after` says that an operator stands before it. -/
def spaceOperatorsFrom (left : Option Char) (after : Bool) (line : Text) : Text :=
  spacePieces left.isSome after left (Piece.ofText line)

theorem spaceOperators_eq (line : Text) :
    spaceOperators line = spaceOperatorsFrom none false line := rfl

/-- A text is all of a line, or what follows a run. -/
inductive Follows : (left : Option Char) → (after : Bool) → (line : Text) → Prop
  /-- A line stands at its start. -/
  | start {line : Text} : Follows none false line
  /-- A run does not go on. -/
  | run {after : Bool} {line : Text} : line.head? ≠ some '=' → Follows (some '=') after line

theorem spaceOperatorsFrom_gap (left : Option Char) (after : Bool) (noEquals : '=' ∉ gap) :
    spaceOperatorsFrom left after gap = spaceLast after gap := by
  cases gap with
  | nil => cases after <;> rfl
  | cons first others =>
    rw [spaceOperatorsFrom, ofText_eq_gap_cons noEquals (List.cons_ne_nil _ _), spaceLast]
    cases after with
    | false => simp [spacePieces, operatorFollows, spaceLeft]
    | true =>
      cases blank : isBlankText (first :: others) with
      | true => simp [spacePieces, operatorFollows, trimStart_eq_nil_iff.mpr blank]
      | false =>
        have solidRest : trimStart (first :: others) ≠ [] := by
          rw [Ne, trimStart_eq_nil_iff, blank]
          exact Bool.false_ne_true
        simp [spacePieces, operatorFollows, spaceLeft, solidRest]

/-- Whether a run is an operator depends on its length and on the characters next to it. -/
theorem isOperator_ofText (apart : rest.head? ≠ some '=') (before : Option Char) (length : Nat) :
    isOperator before length (Piece.ofText rest) =
      (decide (length ≤ longestOperator) && !before.any isComparison &&
        !rest.head?.any isComparison) := by
  rw [isOperator]
  cases rest with
  | nil => rfl
  | cons first others =>
    rw [firstCharacter_ofText fun same => apart (congrArg some same)]
    rfl

theorem ofText_gap_run (noEquals : '=' ∉ gap) (nonempty : gap ≠ [])
    (apart : rest.head? ≠ some '=') (length : Nat) :
    Piece.ofText (gap ++ (List.replicate (length + 1) '=' ++ rest)) =
      .gap gap :: .run (length + 1) :: Piece.ofText rest := by
  rw [← ofText_replicate apart]
  exact ofText_append_equals noEquals nonempty (List.replicate length '=' ++ rest)

/-- Spacing goes along the runs. -/
theorem spaceOperatorsFrom_run
    (follows : Follows left after (gap ++ (List.replicate (length + 1) '=' ++ rest)))
    (noEquals : '=' ∉ gap) (apart : rest.head? ≠ some '=')
    (isOperatorHere : isOperator gap.getLast? (length + 1) (Piece.ofText rest) = operator) :
    spaceOperatorsFrom left after (gap ++ (List.replicate (length + 1) '=' ++ rest)) =
      spaceRight left.isSome operator (spaceLeft after gap) ++
        (List.replicate (length + 1) '=' ++ spaceOperatorsFrom (some '=') operator rest) := by
  by_cases nonempty : gap = []
  · subst nonempty
    cases follows with
    | start =>
      rw [List.getLast?_nil] at isOperatorHere
      rw [spaceOperatorsFrom, List.nil_append, ofText_replicate apart, spacePieces, isOperatorHere]
      cases operator <;> rfl
    | run notAgain => exact absurd rfl notAgain
  · rw [spaceOperatorsFrom, ofText_gap_run noEquals nonempty apart]
    simp only [spacePieces, operatorFollows, isOperatorHere]
    cases after with
    | false => cases operator <;> simp [spaceLeft, spaceRight, spaceOperatorsFrom]
    | true =>
      cases follows with
      | run =>
        cases operator with
        | false => simp [spaceLeft, spaceRight, spaceOperatorsFrom]
        | true =>
          -- One space serves two operators with nothing else between them.
          by_cases empty : trimEnd (trimStart gap) = [] <;>
            simp [spaceLeft, spaceRight, spaceOperatorsFrom, trimEnd_space, empty]

/-! ## Gaps are respaced -/

theorem respaced_space_trimStart (isSolid : isBlankText gap = false) :
    Respaced right (some '=') gap (' ' :: trimStart gap) := by
  obtain ⟨blanks, character, rest, blank, characterSolid, rfl⟩ := exists_blanks_append isSolid
  have spaced : GapChange (some '=') (some character) blanks [' '] :=
    .spaced (.inr (.inl (by decide)))
  rw [trimStart_blanks_append blank, trimStart_cons_of_not_isBlank characterSolid]
  exact .solid blank characterSolid spaced (.refl rest)

theorem respaced_spaceLeft (boundary : operator = true → left = some '=') :
    Respaced (some '=') left gap (spaceLeft operator gap) := by
  rw [spaceLeft]
  split
  · next isOperatorHere =>
    rw [boundary isOperatorHere]
    cases blank : isBlankText gap with
    | true =>
      rw [trimStart_eq_nil_iff.mpr blank]
      exact .blanks blank (.spaced (.inr (.inl (by decide))))
    | false => exact respaced_space_trimStart blank
  · exact .refl gap

theorem respaced_spaceLast (boundary : operator = true → left = some '=') :
    Respaced none left gap (spaceLast operator gap) := by
  rw [spaceLast, spaceLeft]
  cases operator with
  | false => exact .refl gap
  | true =>
    rw [boundary rfl, Bool.true_and, if_pos rfl]
    split
    · next blank => exact .blanks blank (.edge (.inr rfl) rfl)
    · next isSolid => exact respaced_space_trimStart (by simpa using isSolid)

theorem respaced_spaceRight (left : Option Char) (operator : Bool) (gap : Text) :
    Respaced (some '=') left gap (spaceRight left.isSome operator gap) := by
  have boundary : isWordCharacter '=' = false := by decide
  rw [spaceRight]
  split
  · cases blank : isBlankText gap with
    | true =>
      rw [trimEnd_of_isBlankText blank]
      cases left with
      | none => exact .blanks blank (.edge (.inl rfl) rfl)
      | some previous => exact .blanks blank (.spaced (.inr (.inr boundary)))
    | false =>
      obtain ⟨rest, character, blanks, characterSolid, ending, rfl⟩ := exists_append_blanks blank
      have spaced : GapChange (some character) (some '=') blanks [' '] :=
        .spaced (.inr (.inr boundary))
      rw [List.append_cons, trimEnd_append_blanks ending,
        trimEnd_concat_of_not_isBlank characterSolid, Bool.not_false, Bool.or_true, if_pos rfl,
        List.append_assoc, List.append_assoc]
      exact .append (.refl rest) characterSolid (.blanks ending spaced)
  · exact .refl gap

theorem Follows.left_eq (follows : Follows left after line) : after = true → left = some '=' := by
  rintro rfl
  cases follows
  rfl

/-- The spacing of operators respaces a line. -/
theorem respaced_spaceOperatorsFrom (follows : Follows left after line) :
    Respaced none left line (spaceOperatorsFrom left after line) := by
  have isSolid : isBlank '=' = false := by decide
  induction runs line generalizing left after with
  | gap noEquals =>
    rw [spaceOperatorsFrom_gap left after noEquals]
    exact respaced_spaceLast follows.left_eq
  | @run gap rest length noEquals apart _ ih =>
    rw [spaceOperatorsFrom_run follows noEquals apart rfl]
    generalize isOperator gap.getLast? (length + 1) (Piece.ofText rest) = operator
    have first : Respaced (some '=') left gap
        (spaceRight left.isSome operator (spaceLeft after gap)) :=
      (respaced_spaceLeft follows.left_eq).trans (respaced_spaceRight left operator _)
    have later : Respaced none (some '=') rest (spaceOperatorsFrom (some '=') operator rest) :=
      ih (.run apart)
    exact .append first isSolid (.replicate_append isSolid length later)

theorem respaced_spaceOperators (line : Text) : Respaced none none line (spaceOperators line) :=
  respaced_spaceOperatorsFrom .start

/-! ## A second pass -/

/-- Between solid characters no gap closes, so a run that does not go on does not do so later. -/
theorem Follows.spaceOperatorsFrom (follows : Follows left after line) :
    Follows left after (spaceOperatorsFrom left after line) := by
  have respaced := respaced_spaceOperatorsFrom follows
  cases follows with
  | start => exact .start
  | run apart => exact .run (respaced.head?_ne (by decide) apart)

theorem Follows.head?_ne (follows : Follows (some '=') after line) : line.head? ≠ some '=' := by
  cases follows
  assumption

theorem isComparison_of_isBlank {character : Char} (blank : isBlank character = true) :
    isComparison character = false := by
  cases comparison : isComparison character with
  | false => rfl
  | true =>
    simp only [isComparison, Bool.or_eq_true, beq_iff_eq] at comparison
    rcases comparison with (rfl | rfl) | rfl <;> exact absurd blank (by decide)

/-- The comparison sign at an end of a text, if one stands there. -/
def comparisonSign (character : Option Char) : Option Char := character.filter isComparison

theorem any_isComparison (character : Option Char) :
    character.any isComparison = (comparisonSign character).isSome := Option.isSome_filter.symm

theorem comparisonSign_of_isBlank {character : Char} (blank : isBlank character = true) :
    comparisonSign (some character) = none := by
  rw [comparisonSign, Option.filter_some, isComparison_of_isBlank blank]
  rfl

theorem comparisonSign_head?_append {first second : Text}
    (plain : comparisonSign second.head? = none) :
    comparisonSign (first ++ second).head? = comparisonSign first.head? := by
  cases first with
  | nil => exact plain
  | cons character rest => rfl

theorem comparisonSign_of_isBlankText (blank : isBlankText blanks = true) :
    comparisonSign blanks.head? = none := by
  cases blanks with
  | nil => rfl
  | cons first others =>
    rw [isBlankText, List.all_cons, Bool.and_eq_true] at blank
    exact comparisonSign_of_isBlank blank.1

theorem comparisonSign_getLast?_append (blank : isBlankText blanks = true) (text : Text) :
    comparisonSign (blanks ++ text).getLast? = comparisonSign text.getLast? := by
  rw [List.getLast?_append]
  cases text.getLast? with
  | some last => rfl
  | none =>
    cases found : blanks.getLast? with
    | none => rfl
    | some last =>
      exact comparisonSign_of_isBlank (List.all_eq_true.mp blank last (List.mem_of_getLast? found))

theorem comparisonSign_head?_spaceRight (written operator : Bool) (gap : Text) :
    comparisonSign (spaceRight written operator gap).head? = comparisonSign gap.head? := by
  rw [spaceRight]
  split
  · obtain ⟨blanks, blank, equal⟩ := exists_trimEnd_append gap
    have same : comparisonSign (trimEnd gap ++ blanks).head? =
        comparisonSign (trimEnd gap).head? :=
      comparisonSign_head?_append (comparisonSign_of_isBlankText blank)
    rw [← equal] at same
    rw [same, comparisonSign_head?_append]
    split <;> rfl
  · rfl

theorem comparisonSign_head?_spaceLast (gap : Text) :
    comparisonSign (spaceLast true gap).head? = none := by
  rw [spaceLast]
  split
  · rfl
  · exact comparisonSign_of_isBlank isBlank_space

theorem comparisonSign_head?_spaceLeft (gap : Text) :
    comparisonSign (spaceLeft true gap).head? = none :=
  comparisonSign_of_isBlank isBlank_space

/-- What follows a run is next to a comparison as it was before, and what follows an operator is not
next to one. -/
theorem comparisonSign_head?_spaceOperatorsFrom (apart : rest.head? ≠ some '=')
    (plain : operator = true → comparisonSign rest.head? = none) :
    comparisonSign (spaceOperatorsFrom (some '=') operator rest).head? =
      comparisonSign rest.head? := by
  have equalsPlain (length : Nat) (text : Text) :
      comparisonSign (List.replicate (length + 1) '=' ++ text).head? = none := rfl
  cases runs rest with
  | gap noEquals =>
    rw [spaceOperatorsFrom_gap _ _ noEquals]
    cases operator with
    | false => rfl
    | true => rw [comparisonSign_head?_spaceLast, plain rfl]
  | @run gap others length noEquals apart' _ =>
    rw [spaceOperatorsFrom_run (.run apart) noEquals apart' rfl,
      comparisonSign_head?_append (equalsPlain length _), comparisonSign_head?_spaceRight]
    cases operator with
    | false => rw [comparisonSign_head?_append (equalsPlain length _)]; rfl
    | true => rw [comparisonSign_head?_spaceLeft, plain rfl]

theorem comparisonSign_getLast?_spaceLeft (operator : Bool) (gap : Text) :
    comparisonSign (spaceLeft operator gap).getLast? = comparisonSign gap.getLast? := by
  rw [spaceLeft]
  split
  · have cut : gap = gap.takeWhile isBlank ++ trimStart gap := List.takeWhile_append_dropWhile.symm
    have blank : isBlankText (gap.takeWhile isBlank) = true := List.all_takeWhile
    have same := comparisonSign_getLast?_append blank (trimStart gap)
    rw [← cut] at same
    rw [← List.singleton_append, comparisonSign_getLast?_append rfl, same]
  · rfl

theorem comparisonSign_getLast?_spaceRight (written : Bool) (gap : Text) :
    comparisonSign (spaceRight written true gap).getLast? = none := by
  rw [spaceRight, if_pos rfl]
  split
  · rw [List.getLast?_concat]
    exact comparisonSign_of_isBlank isBlank_space
  · next nothing =>
    rw [Bool.not_eq_true, Bool.or_eq_false_iff, Bool.not_eq_false'] at nothing
    rw [trimEnd_of_isBlankText nothing.2]
    rfl

/-- The characters next to a run are comparison signs after spacing as they were before. -/
structure SameSigns (before before' after after' : Text) : Prop where
  /-- The sign before the run is the same. -/
  left : comparisonSign before'.getLast? = comparisonSign before.getLast?
  /-- The sign after the run is the same. -/
  right : comparisonSign after'.head? = comparisonSign after.head?

/-- Next to a run that is no operator the characters stay. Next to an operator stand spaces, and no
comparison sign stood there. -/
theorem sameSigns_spaced (apart : rest.head? ≠ some '=')
    (isOperatorHere : isOperator gap.getLast? length (Piece.ofText rest) = operator)
    (written after : Bool) :
    SameSigns gap (spaceRight written operator (spaceLeft after gap)) rest
      (spaceOperatorsFrom (some '=') operator rest) := by
  cases operator with
  | false =>
    refine ⟨?_, comparisonSign_head?_spaceOperatorsFrom apart nofun⟩
    rw [spaceRight, if_neg Bool.false_ne_true, comparisonSign_getLast?_spaceLeft]
  | true =>
    rw [isOperator_ofText apart, any_isComparison, any_isComparison, Bool.and_eq_true,
      Bool.and_eq_true, Bool.not_eq_true', Bool.not_eq_true', Option.isSome_eq_false_iff,
      Option.isSome_eq_false_iff, Option.isNone_iff_eq_none,
      Option.isNone_iff_eq_none] at isOperatorHere
    obtain ⟨⟨-, leftPlain⟩, rightPlain⟩ := isOperatorHere
    refine ⟨?_, comparisonSign_head?_spaceOperatorsFrom apart fun _ => rightPlain⟩
    rw [comparisonSign_getLast?_spaceRight, leftPlain]

/-- A run is an operator after spacing exactly if it was one before. -/
theorem isOperator_spaced (apart : rest.head? ≠ some '=')
    (isOperatorHere : isOperator gap.getLast? length (Piece.ofText rest) = operator)
    (written after : Bool) :
    isOperator (spaceRight written operator (spaceLeft after gap)).getLast? length
      (Piece.ofText (spaceOperatorsFrom (some '=') operator rest)) = operator := by
  have later : Follows (some '=') operator rest := .run apart
  have signs := sameSigns_spaced apart isOperatorHere written after
  rw [isOperator_ofText later.spaceOperatorsFrom.head?_ne, any_isComparison, any_isComparison,
    signs.left, signs.right, ← any_isComparison, ← any_isComparison, ← isOperator_ofText apart]
  exact isOperatorHere

theorem spaceRight_spaceRight (written operator : Bool) (gap : Text) :
    spaceRight written operator (spaceRight written operator gap) =
      spaceRight written operator gap := by
  cases operator with
  | false => rfl
  | true =>
    have spaceBlank (condition : Bool) :
        isBlankText (if condition then [' '] else []) = true := by
      cases condition <;> decide
    simp only [spaceRight, if_true, isBlankText_append, isBlankText_trimEnd, spaceBlank,
      Bool.and_true, trimEnd_append_blanks, trimEnd_trimEnd]

theorem spaceLeft_spaceLeft (operator : Bool) (gap : Text) :
    spaceLeft operator (spaceLeft operator gap) = spaceLeft operator gap := by
  cases operator <;> simp [spaceLeft]

theorem spaceLeft_spaceRight (operator next : Bool) (gap : Text) :
    spaceLeft operator (spaceRight true next (spaceLeft operator gap)) =
      spaceRight true next (spaceLeft operator gap) := by
  cases next with
  | false => exact spaceLeft_spaceLeft operator gap
  | true =>
    cases operator with
    | false => rfl
    | true =>
      simp only [spaceLeft, spaceRight, if_true, Bool.true_or]
      cases blank : isBlankText gap with
      | true =>
        rw [trimStart_eq_nil_iff.mpr blank]
        decide
      | false =>
        obtain ⟨blanks, character, rest, beginning, isSolid, rfl⟩ := exists_blanks_append blank
        rw [trimStart_blanks_append beginning, trimStart_cons_of_not_isBlank isSolid, trimEnd_space,
          trimEnd_cons_of_not_isBlank isSolid, if_neg (List.cons_ne_nil _ _), List.cons_append,
          trimStart_space, List.cons_append, trimStart_cons_of_not_isBlank isSolid]

theorem spaceLast_spaceLast (operator : Bool) (gap : Text) :
    spaceLast operator (spaceLast operator gap) = spaceLast operator gap := by
  cases operator with
  | false => rfl
  | true =>
    cases blank : isBlankText gap with
    | true =>
      have dropped : spaceLast true gap = [] := by
        rw [spaceLast, blank]
        rfl
      rw [dropped]
      rfl
    | false =>
      have stillSolid : isBlankText (' ' :: trimStart gap) = false := by
        rw [← List.singleton_append, isBlankText_append, isBlankText_trimStart, blank,
          Bool.and_false]
      simp [spaceLast, spaceLeft, blank, stillSolid]

/-- A second pass has nothing left to do. -/
theorem spaceOperatorsFrom_spaceOperatorsFrom (follows : Follows left after line) :
    spaceOperatorsFrom left after (spaceOperatorsFrom left after line) =
      spaceOperatorsFrom left after line := by
  have isSolid : isBlank '=' = false := by decide
  induction runs line generalizing left after with
  | gap noEquals =>
    have noEquals' := (respaced_spaceLast follows.left_eq).notMem isSolid noEquals
    rw [spaceOperatorsFrom_gap left after noEquals, spaceOperatorsFrom_gap left after noEquals',
      spaceLast_spaceLast]
  | @run gap rest length noEquals apart _ ih =>
    obtain ⟨operator, isOperatorHere⟩ : ∃ operator,
        isOperator gap.getLast? (length + 1) (Piece.ofText rest) = operator := ⟨_, rfl⟩
    have later : Follows (some '=') operator rest := .run apart
    have noEquals' : '=' ∉ spaceRight left.isSome operator (spaceLeft after gap) :=
      ((respaced_spaceLeft follows.left_eq).trans
        (respaced_spaceRight left operator _)).notMem isSolid noEquals
    -- What the first pass leaves has the same runs, and the same of them are operators.
    have follows' := follows.spaceOperatorsFrom
    rw [spaceOperatorsFrom_run follows noEquals apart isOperatorHere] at follows' ⊢
    rw [spaceOperatorsFrom_run follows' noEquals' later.spaceOperatorsFrom.head?_ne
      (isOperator_spaced apart isOperatorHere left.isSome after), ih later]
    congr 1
    cases follows with
    | start => exact spaceRight_spaceRight false operator gap
    | run => rw [Option.isSome_some, spaceLeft_spaceRight, spaceRight_spaceRight]

theorem spaceOperators_spaceOperators (line : Text) :
    spaceOperators (spaceOperators line) = spaceOperators line :=
  spaceOperatorsFrom_spaceOperatorsFrom .start

/-! ## Indentation -/

theorem spaceRight_blanks_append (blank : isBlankText blanks = true) (operator : Bool)
    (gap rest : Text) : trimStart (spaceRight false operator (blanks ++ gap) ++ rest) =
      trimStart (spaceRight false operator gap ++ rest) := by
  cases operator with
  | false =>
    simp only [spaceRight, Bool.false_eq_true, if_false, List.append_assoc]
    exact trimStart_blanks_append blank _
  | true =>
    simp only [spaceRight, if_true, isBlankText_append, blank, Bool.true_and, Bool.false_or]
    cases gapBlank : isBlankText gap with
    | true =>
      rw [trimEnd_append_blanks gapBlank, trimEnd_of_isBlankText blank,
        trimEnd_of_isBlankText gapBlank]
    | false =>
      obtain ⟨others, last, ending, lastSolid, endingBlank, rfl⟩ := exists_append_blanks gapBlank
      rw [List.append_cons others, ← List.append_assoc blanks, trimEnd_append_blanks endingBlank,
        trimEnd_append_blanks endingBlank, ← List.append_assoc blanks,
        trimEnd_concat_of_not_isBlank lastSolid, trimEnd_concat_of_not_isBlank lastSolid]
      simp only [List.append_assoc]
      exact trimStart_blanks_append blank _

/-- Indentation does not matter for the spacing of operators. -/
theorem trimStart_spaceOperators_blanks_append (blank : isBlankText blanks = true) (line : Text) :
    trimStart (spaceOperators (blanks ++ line)) = trimStart (spaceOperators line) := by
  have blanksNoEquals : '=' ∉ blanks := notMem_of_isBlankText blank (by decide)
  have extended {gap : Text} (noEquals : '=' ∉ gap) : '=' ∉ blanks ++ gap := by
    rw [List.mem_append, not_or]
    exact ⟨blanksNoEquals, noEquals⟩
  rw [spaceOperators_eq, spaceOperators_eq]
  cases runs line with
  | gap noEquals =>
    rw [spaceOperatorsFrom_gap none false noEquals,
      spaceOperatorsFrom_gap none false (extended noEquals)]
    exact trimStart_blanks_append blank line
  | @run gap rest length noEquals apart _ =>
    have sameOperator : isOperator (blanks ++ gap).getLast? (length + 1) (Piece.ofText rest) =
        isOperator gap.getLast? (length + 1) (Piece.ofText rest) := by
      rw [isOperator, isOperator, any_isComparison, comparisonSign_getLast?_append blank,
        ← any_isComparison]
    rw [spaceOperatorsFrom_run .start noEquals apart rfl, ← List.append_assoc,
      spaceOperatorsFrom_run .start (extended noEquals) apart sameOperator]
    exact spaceRight_blanks_append blank _ gap _

end Beanwright.Layout
