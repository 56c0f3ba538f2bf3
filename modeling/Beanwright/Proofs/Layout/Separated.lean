import Mathlib.Data.List.Chain
import Beanwright.Layout.Basic
import Beanwright.Proofs.Text.Name

/-!
# Broken and separated lines

Breaking and separating see the solid part of a line only: where its boundaries are, whether it
closes a block, and whether it holds a header. Lines that are broken and separated once have nothing
left to be broken or separated, and this stays so however their blanks are changed.
-/

namespace Beanwright.Layout

open Text

variable {character : Char} {text line piece : Text} {lines changed : List Text}

/-! ## Breaking -/

/-- Whether at most blanks follow the first boundary of a line. -/
def endsAtBoundary : Text → Bool
  | [] => true
  | character :: rest => if isBoundary character then isBlankText rest else endsAtBoundary rest

theorem isBlank_of_isBoundary (boundary : isBoundary character = true) :
    isBlank character = false := by
  simp only [isBoundary, Bool.or_eq_true, beq_iff_eq] at boundary
  rcases boundary with (rfl | rfl) | rfl <;> decide

/-- Only the solid part of a line matters for its boundaries. -/
theorem endsAtBoundary_solid (text : Text) :
    endsAtBoundary (solid text) = endsAtBoundary text := by
  induction text with
  | nil => rfl
  | cons character rest ih =>
    cases blank : isBlank character with
    | true =>
      have noBoundary : isBoundary character = false := by
        by_contra boundary
        rw [isBlank_of_isBoundary (by simpa using boundary)] at blank
        cases blank
      rw [solid_cons_of_isBlank blank, ih, endsAtBoundary, noBoundary, if_neg Bool.false_ne_true]
    | false =>
      rw [solid_cons_of_not_isBlank blank, endsAtBoundary, endsAtBoundary, isBlankText_solid, ih]

theorem breakLine_eq_self (ends : endsAtBoundary line = true) : breakLine line = [line] := by
  rw [breakLine]
  induction line with
  | nil => rfl
  | cons character rest ih =>
    rw [endsAtBoundary] at ends
    rw [pieces, Bool.false_and, if_neg Bool.false_ne_true]
    split
    · next boundary =>
      rw [if_pos boundary] at ends
      rw [if_pos ends]
    · next inner =>
      rw [if_neg inner] at ends
      rw [ih ends]

/-- Skipping drops the blanks at the start of a text. -/
theorem pieces_true (text : Text) : pieces true text = pieces false (trimStart text) := by
  induction text with
  | nil => rfl
  | cons character rest ih =>
    cases blank : isBlank character with
    | true =>
      rw [pieces, blank, trimStart, List.dropWhile_cons_of_pos blank]
      exact ih
    | false =>
      rw [trimStart_cons_of_not_isBlank blank, pieces, pieces, blank]
      rfl

theorem endsAtBoundary_of_mem_pieces {skipping : Bool} (member : piece ∈ pieces skipping text) :
    endsAtBoundary piece = true := by
  induction text generalizing skipping piece with
  | nil =>
    rw [pieces, List.mem_singleton] at member
    rw [member]
    rfl
  | cons character rest ih =>
    rw [pieces] at member
    split at member
    · exact ih member
    · split at member
      · next boundary =>
        split at member
        · next blank =>
          rw [List.mem_singleton.mp member, endsAtBoundary, if_pos boundary]
          exact blank
        · rcases List.mem_cons.mp member with rfl | later
          · rw [endsAtBoundary, if_pos boundary]
            rfl
          · exact ih later
      · next inner =>
        split at member
        · rw [List.mem_singleton.mp member, endsAtBoundary, if_neg inner]
          rfl
        · next first others cut =>
          rcases List.mem_cons.mp member with rfl | later
          · rw [endsAtBoundary, if_neg inner]
            exact ih (by rw [cut]; exact List.mem_cons_self)
          · exact ih (by rw [cut]; exact List.mem_cons_of_mem _ later)

/-- Breaking drops characters and adds none. -/
theorem flatten_pieces_sublist (skipping : Bool) (text : Text) :
    (pieces skipping text).flatten.Sublist text := by
  induction text generalizing skipping with
  | nil => exact List.Sublist.refl _
  | cons character rest ih =>
    rw [pieces]
    split
    · exact (ih true).cons character
    · split
      · split
        · simp
        · exact (ih true).cons_cons character
      · split
        · simp
        · next first others cut =>
          have inner := ih false
          rw [cut] at inner
          exact inner.cons_cons character

theorem all_of_mem_breakLines {holds : Char → Bool}
    (all : ∀ line ∈ lines, line.all holds = true) (member : line ∈ breakLines lines) :
    line.all holds = true := by
  obtain ⟨origin, inLines, inPieces⟩ := List.mem_flatMap.mp member
  rw [List.all_eq_true]
  intro character inLine
  have inOrigin := (flatten_pieces_sublist false origin).subset
    (List.mem_flatten_of_mem inPieces inLine)
  exact List.all_eq_true.mp (all origin inLines) character inOrigin

theorem endsAtBoundary_of_mem_breakLines (member : line ∈ breakLines lines) :
    endsAtBoundary line = true := by
  obtain ⟨origin, -, inPieces⟩ := List.mem_flatMap.mp member
  exact endsAtBoundary_of_mem_pieces inPieces

/-- Lines that need no break are not broken. -/
theorem breakLines_eq_self (ends : ∀ line ∈ lines, endsAtBoundary line = true) :
    breakLines lines = lines := by
  induction lines with
  | nil => rfl
  | cons line rest ih =>
    rw [List.forall_mem_cons] at ends
    have later := ih ends.2
    rw [breakLines] at later ⊢
    rw [List.flatMap_cons, breakLine_eq_self ends.1, later, List.singleton_append]

/-! ## Headers -/

theorem goesOnWith_solid (character : Char) (text : Text) :
    goesOnWith character (solid text) = goesOnWith character text := by
  rw [goesOnWith, goesOnWith, head?_trimStart, head?_trimStart, solid_solid]

theorem closesIntoBlock_solid (noLineFeed : '\n' ∉ text) :
    closesIntoBlock (solid text) = closesIntoBlock text := by
  induction text with
  | nil => rfl
  | cons character rest ih =>
    rw [List.mem_cons, not_or] at noLineFeed
    cases blank : isBlank character with
    | true =>
      have noParenthesis : (character == ')') = false := by
        rw [beq_eq_false_iff_ne]
        rintro rfl
        exact absurd blank (by decide)
      rw [solid_cons_of_isBlank blank, ih noLineFeed.2, closesIntoBlock,
        if_neg (Ne.symm noLineFeed.1), noParenthesis, Bool.false_and, Bool.false_or]
    | false =>
      rw [solid_cons_of_not_isBlank blank, closesIntoBlock, closesIntoBlock, goesOnWith_solid,
        ih noLineFeed.2]

theorem opensIntoBlock_solid (noLineFeed : '\n' ∉ text) :
    opensIntoBlock (solid text) = opensIntoBlock text := by
  induction text with
  | nil => rfl
  | cons character rest ih =>
    rw [List.mem_cons, not_or] at noLineFeed
    cases blank : isBlank character with
    | true =>
      rw [solid_cons_of_isBlank blank, ih noLineFeed.2, opensIntoBlock, opensIntoBlock,
        trimStart, trimStart, List.dropWhile_cons_of_pos blank]
    | false =>
      rw [solid_cons_of_not_isBlank blank, opensIntoBlock, opensIntoBlock,
        trimStart_cons_of_not_isBlank blank, trimStart_cons_of_not_isBlank blank]
      split
      · next rest' equal =>
        obtain ⟨rfl, rfl⟩ := List.cons.inj equal
        exact closesIntoBlock_solid noLineFeed.2
      · next other =>
        split
        · next rest' equal =>
          obtain ⟨rfl, rfl⟩ := List.cons.inj equal
          exact absurd rfl (other (solid rest))
        · rfl

/-- Only the solid part of a line matters for its headers. -/
theorem isHeader_solid (noLineFeed : '\n' ∉ text) : isHeader (solid text) = isHeader text := by
  induction text with
  | nil => rfl
  | cons character rest ih =>
    rw [List.mem_cons, not_or] at noLineFeed
    cases blank : isBlank character with
    | true =>
      rw [solid_cons_of_isBlank blank, ih noLineFeed.2, isHeader,
        isWordCharacter_of_isBlank blank, Bool.false_and, Bool.false_or]
    | false =>
      rw [solid_cons_of_not_isBlank blank, isHeader, isHeader, opensIntoBlock_solid noLineFeed.2,
        ih noLineFeed.2]

/-! ## Separating -/

/-- No line that closes a block is followed by a line that holds a header. -/
def Separated (lines : List Text) : Prop :=
  lines.IsChain fun line next => ¬('}' ∈ line ∧ isHeader next = true)

theorem head?_separateBlocks (lines : List Text) :
    (separateBlocks lines).head? = lines.head? := by
  cases lines using separateBlocks.fun_cases with
  | case1 => rfl
  | case2 line => rfl
  | case3 line next rest separate => rw [separateBlocks, if_pos separate]; rfl
  | case4 line next rest together => rw [separateBlocks, if_neg together]; rfl

theorem separated_separateBlocks (lines : List Text) : Separated (separateBlocks lines) := by
  induction lines using separateBlocks.induct with
  | case1 => exact List.IsChain.nil
  | case2 line => exact List.IsChain.singleton line
  | case3 line next rest separate ih =>
    have apart : Separated ([] :: separateBlocks (next :: rest)) := by
      refine List.isChain_cons.mpr ⟨?_, ih⟩
      rintro other - ⟨inEmpty, -⟩
      cases inEmpty
    rw [separateBlocks, if_pos separate]
    exact List.isChain_cons_cons.mpr ⟨fun both => Bool.false_ne_true both.2, apart⟩
  | case4 line next rest together ih =>
    rw [separateBlocks, if_neg together]
    refine List.isChain_cons.mpr ⟨?_, ih⟩
    intro other isNext
    rw [head?_separateBlocks] at isNext
    obtain rfl : next = other := Option.some.inj isNext
    rwa [Bool.and_eq_true, List.contains_iff_mem] at together

theorem separateBlocks_eq_self (separated : Separated lines) : separateBlocks lines = lines := by
  induction separated with
  | nil => rfl
  | singleton line => rfl
  | cons_cons together rest ih =>
    rw [separateBlocks, if_neg, ih]
    rw [Bool.and_eq_true, List.contains_iff_mem]
    exact together

/-- Empty lines are all that separating adds. -/
theorem mem_separateBlocks (member : line ∈ separateBlocks lines) : line = [] ∨ line ∈ lines := by
  induction lines using separateBlocks.induct with
  | case1 => cases member
  | case2 only => exact .inr member
  | case3 first next rest separate ih =>
    rw [separateBlocks, if_pos separate] at member
    rcases List.mem_cons.mp member with rfl | member
    · exact .inr List.mem_cons_self
    · rcases List.mem_cons.mp member with rfl | later
      · exact .inl rfl
      · exact (ih later).imp_right (List.mem_cons_of_mem _)
  | case4 first next rest together ih =>
    rw [separateBlocks, if_neg together] at member
    rcases List.mem_cons.mp member with rfl | later
    · exact .inr List.mem_cons_self
    · exact (ih later).imp_right (List.mem_cons_of_mem _)

/-- Two lines have the same solid part, and neither has a line end in it. -/
structure SameSolid (line other : Text) : Prop where
  /-- The solid parts agree. -/
  solid : solid other = solid line
  /-- The first line has no line end. -/
  inLine : line.all isInLine = true
  /-- The second line has no line end. -/
  otherInLine : other.all isInLine = true

namespace SameSolid

variable {other : Text}

theorem mem_iff (same : SameSolid line other) (isSolid : isBlank character = false) :
    character ∈ other ↔ character ∈ line := by
  have inSolid (text : Text) : character ∈ Text.solid text ↔ character ∈ text := by
    rw [mem_solid_iff, and_iff_left isSolid]
  rw [← inSolid other, same.solid, inSolid line]

theorem isHeader (same : SameSolid line other) : isHeader other = isHeader line := by
  have noLineFeed {text : Text} (inLine : text.all isInLine = true) : '\n' ∉ text := by
    intro member
    exact absurd (List.all_eq_true.mp inLine _ member) (by decide)
  rw [← isHeader_solid (noLineFeed same.otherInLine), same.solid,
    isHeader_solid (noLineFeed same.inLine)]

theorem endsAtBoundary (same : SameSolid line other) :
    endsAtBoundary other = endsAtBoundary line := by
  rw [← endsAtBoundary_solid, same.solid, endsAtBoundary_solid]

end SameSolid

/-- Lines stay separated however their blanks are changed. -/
theorem Separated.of_sameSolid (separated : Separated lines)
    (same : List.Forall₂ SameSolid lines changed) : Separated changed := by
  induction same with
  | nil => exact List.IsChain.nil
  | cons first later ih =>
    cases later with
    | nil => exact List.IsChain.singleton _
    | cons second others =>
      obtain ⟨together, separated⟩ := List.isChain_cons_cons.mp separated
      refine List.isChain_cons_cons.mpr ⟨?_, ih separated⟩
      rwa [first.mem_iff (by decide), second.isHeader]

/-- Lines stay broken however their blanks are changed. -/
theorem endsAtBoundary_of_sameSolid (ends : ∀ line ∈ lines, endsAtBoundary line = true)
    (same : List.Forall₂ SameSolid lines changed) :
    ∀ line ∈ changed, endsAtBoundary line = true := by
  induction same with
  | nil => exact List.forall_mem_nil _
  | cons first later ih =>
    rw [List.forall_mem_cons] at ends ⊢
    exact ⟨by rw [first.endsAtBoundary, ends.1], ih ends.2⟩

end Beanwright.Layout
