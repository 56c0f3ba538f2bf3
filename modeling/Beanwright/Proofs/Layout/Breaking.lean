import Mathlib.Data.List.Forall2
import Beanwright.Proofs.Layout.Separated

/-!
# The pieces of a line

Breaking stops at the first boundary of a line that something solid follows, drops the blanks behind
it, and goes on with the rest as a line of its own. The line is what its pieces are when the dropped
blanks are put back. Every piece ends at its first boundary, so it has no second one, and a second
pass finds nothing to break.
-/

namespace Beanwright.Layout

open Text

variable {boundary first : Char} {line rest head before after blanks : Text} {group : List Text}

/-! ## Lines that need no break -/

theorem endsAtBoundary_append (noBoundary : ∀ character ∈ head, isBoundary character = false)
    (isEnd : isBoundary boundary = true) (rest : Text) :
    endsAtBoundary (head ++ boundary :: rest) = isBlankText rest := by
  induction head with
  | nil => simp [endsAtBoundary, isEnd]
  | cons character others ih =>
    rw [List.forall_mem_cons] at noBoundary
    simp [endsAtBoundary, noBoundary.1, ih noBoundary.2]

/-- A line without boundaries needs no break. -/
theorem endsAtBoundary_of_noBoundary
    (noBoundary : ∀ character ∈ line, isBoundary character = false) :
    endsAtBoundary line = true := by
  induction line with
  | nil => rfl
  | cons character others ih =>
    rw [List.forall_mem_cons] at noBoundary
    simp [endsAtBoundary, noBoundary.1, ih noBoundary.2]

/-- A line that needs a break has a first boundary, with blanks behind it and then something
solid. -/
theorem exists_break (needsBreak : endsAtBoundary line = false) :
    ∃ head boundary blanks first rest,
      line = head ++ boundary :: (blanks ++ first :: rest) ∧
        (∀ character ∈ head, isBoundary character = false) ∧ isBoundary boundary = true ∧
        isBlankText blanks = true ∧ isBlank first = false := by
  cases found : line.find? isBoundary with
  | none =>
    have whole : endsAtBoundary line = true :=
      endsAtBoundary_of_noBoundary (by simpa using found)
    rw [whole] at needsBreak
    cases needsBreak
  | some boundary =>
    obtain ⟨isEnd, head, behind, rfl, noBoundary⟩ := List.find?_eq_some_iff_append.mp found
    have noBoundary : ∀ character ∈ head, isBoundary character = false := by simpa using noBoundary
    rw [endsAtBoundary_append noBoundary isEnd] at needsBreak
    obtain ⟨blanks, first, rest, blank, resumes, rfl⟩ := exists_blanks_append needsBreak
    exact ⟨head, boundary, blanks, first, rest, rfl, noBoundary, isEnd, blank, resumes⟩

/-- A line needs no break if only blanks follow its first boundary. -/
theorem endsAtBoundary_iff_first : endsAtBoundary line = true ↔
    ∀ head boundary rest, line = head ++ boundary :: rest →
      (∀ character ∈ head, isBoundary character = false) → isBoundary boundary = true →
        isBlankText rest = true := by
  constructor
  · rintro ends head boundary rest rfl noBoundary isEnd
    rwa [endsAtBoundary_append noBoundary isEnd] at ends
  · intro ends
    by_contra needsBreak
    rw [Bool.not_eq_true] at needsBreak
    obtain ⟨head, boundary, blanks, first, rest, cut, noBoundary, isEnd, -, resumes⟩ :=
      exists_break needsBreak
    have blank := ends head boundary _ cut noBoundary isEnd
    simp [isBlankText, resumes] at blank

/-- The first boundary of such a line is its last one, so only blanks follow any boundary. -/
theorem endsAtBoundary_iff : endsAtBoundary line = true ↔
    ∀ before boundary after, line = before ++ boundary :: after → isBoundary boundary = true →
      isBlankText after = true := by
  constructor
  · intro ends before boundary after cut isEnd
    induction before generalizing line with
    | nil => simpa [cut, endsAtBoundary, isEnd] using ends
    | cons character others ih =>
      rw [cut, List.cons_append, endsAtBoundary] at ends
      split at ends
      · -- A boundary is no blank, so it does not stand behind another one.
        simp [isBlankText, isBlank_of_isBoundary isEnd] at ends
      · exact ih ends rfl
  · intro ends
    rw [endsAtBoundary_iff_first]
    exact fun head boundary rest cut _ => ends head boundary rest cut

theorem countP_isBoundary_le_one (ends : endsAtBoundary line = true) :
    line.countP isBoundary ≤ 1 := by
  induction line with
  | nil => simp
  | cons character others ih =>
    rw [endsAtBoundary] at ends
    split at ends
    · next isEnd =>
      have none : others.countP isBoundary = 0 := by
        rw [List.countP_eq_zero]
        intro other member isOther
        have blank := List.all_eq_true.mp ends other member
        rw [isBlank_of_isBoundary isOther] at blank
        cases blank
      simp [isEnd, none]
    · next inner => simpa [inner] using ih ends

/-! ## Breaks -/

/-- Breaking cuts behind the first boundary, drops the blanks there, and goes on with the rest. -/
theorem breakLine_append (noBoundary : ∀ character ∈ head, isBoundary character = false)
    (isEnd : isBoundary boundary = true) (blank : isBlankText blanks = true)
    (resumes : isBlank first = false) (rest : Text) :
    breakLine (head ++ boundary :: (blanks ++ first :: rest)) =
      (head ++ [boundary]) :: breakLine (first :: rest) := by
  unfold breakLine
  induction head with
  | nil =>
    have solidRest : isBlankText (blanks ++ first :: rest) = false := by
      simp [isBlankText, resumes]
    simp [pieces, isEnd, solidRest, pieces_true, trimStart_blanks_append blank,
      trimStart_cons_of_not_isBlank resumes]
  | cons character others ih =>
    rw [List.forall_mem_cons] at noBoundary
    rw [List.cons_append, pieces, ih noBoundary.2]
    simp [noBoundary.1]

/-- How a line is cut at its boundaries. -/
inductive FallsInto : Text → List Text → Prop where
  /-- A line that needs no break is a piece as it is. -/
  | whole {line : Text} (ends : endsAtBoundary line = true) : FallsInto line [line]
  /-- A piece ends with the first boundary. The blanks behind it are dropped, all of them, and what
  begins with the solid character after them is cut in the same way. -/
  | broken {head blanks rest : Text} {boundary first : Char} {group : List Text}
      (noBoundary : ∀ character ∈ head, isBoundary character = false)
      (isEnd : isBoundary boundary = true) (blank : isBlankText blanks = true)
      (resumes : isBlank first = false) (later : FallsInto (first :: rest) group) :
      FallsInto (head ++ boundary :: (blanks ++ first :: rest)) ((head ++ [boundary]) :: group)

theorem FallsInto.ne_nil (falls : FallsInto line group) : group ≠ [] := by
  cases falls <;> exact List.cons_ne_nil _ _

theorem FallsInto.eq_breakLine (falls : FallsInto line group) : group = breakLine line := by
  induction falls with
  | whole ends => exact (breakLine_eq_self ends).symm
  | broken noBoundary isEnd blank resumes _ ih =>
    rw [breakLine_append noBoundary isEnd blank resumes, ih]

theorem fallsInto_breakLine (line : Text) : FallsInto line (breakLine line) := by
  induction size : line.length using Nat.strongRecOn generalizing line with
  | ind length ih =>
    cases ends : endsAtBoundary line with
    | true =>
      rw [breakLine_eq_self ends]
      exact .whole ends
    | false =>
      obtain ⟨head, boundary, blanks, first, rest, rfl, noBoundary, isEnd, blank, resumes⟩ :=
        exists_break ends
      rw [breakLine_append noBoundary isEnd blank resumes]
      have shorter : (first :: rest).length < length := by
        simp only [List.length_append, List.length_cons] at size ⊢
        omega
      exact .broken noBoundary isEnd blank resumes (ih _ shorter _ rfl)

/-- A line falls into the pieces that breaking makes of it, and into no others. -/
theorem fallsInto_iff : FallsInto line group ↔ group = breakLine line := by
  constructor
  · exact FallsInto.eq_breakLine
  · rintro rfl
    exact fallsInto_breakLine line

/-- One pass is enough. Each line that it leaves has at most one boundary, and only blanks behind
it. Each line that it reads becomes a group of lines, in order: the pieces of the line, and the line
itself if only blanks follow its first boundary. A second pass changes nothing. -/
theorem breakLines_settled (lines : List Text) :
    (∀ line ∈ breakLines lines, line.countP isBoundary ≤ 1 ∧
      ∀ before boundary after, line = before ++ boundary :: after → isBoundary boundary = true →
        isBlankText after = true) ∧
    (∃ groups : List (List Text), breakLines lines = groups.flatten ∧
      List.Forall₂ (fun line group => group ≠ [] ∧ FallsInto line group ∧
        ((∀ head boundary rest, line = head ++ boundary :: rest →
          (∀ character ∈ head, isBoundary character = false) → isBoundary boundary = true →
            isBlankText rest = true) → group = [line])) lines groups) ∧
    breakLines (breakLines lines) = breakLines lines := by
  refine ⟨fun line member => ?_, ⟨lines.map breakLine, rfl, ?_⟩, ?_⟩
  · have ends := endsAtBoundary_of_mem_breakLines member
    exact ⟨countP_isBoundary_le_one ends, endsAtBoundary_iff.mp ends⟩
  · rw [List.forall₂_map_right_iff, List.forall₂_same]
    intro line _
    have falls := fallsInto_breakLine line
    refine ⟨falls.ne_nil, falls, fun ends => ?_⟩
    exact breakLine_eq_self (endsAtBoundary_iff_first.mpr ends)
  · exact breakLines_eq_self fun line => endsAtBoundary_of_mem_breakLines

example : breakLines ["if(é)\x7b  f();\t\x7d;  ".toList, [], "b = 1;  ".toList] =
    ["if(é)\x7b".toList, "f();".toList, "\x7d".toList, ";  ".toList, [], "b = 1;  ".toList] := by
  decide

end Beanwright.Layout
