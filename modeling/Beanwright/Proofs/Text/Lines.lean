import Beanwright.Proofs.Text.Solid

/-!
# Lines that are put together

Lines without line ends are cut out of the text that they make up. The lines of a text have no line
ends, unless it has a carriage return that ends no line.
-/

namespace Beanwright.Text

variable {character : Char} {text line : Text} {ls : List Text}

/-- Whether each carriage return is directly followed by a line feed. -/
def returnsEndLines : Text → Bool
  | [] => true
  | character :: rest =>
    (character != '\r' || rest.head? == some '\n') && returnsEndLines rest

/-- Lines without line ends are what their text is cut into, unless there are none. -/
theorem lines_ofLines (nonempty : ls ≠ [])
    (inLine : ∀ line ∈ ls, line.all isInLine = true) : lines (ofLines ls) = ls := by
  induction ls with
  | nil => exact absurd rfl nonempty
  | cons line rest ih =>
    rw [List.forall_mem_cons] at inLine
    cases rest with
    | nil =>
      rw [ofLines_singleton, lines_append_lineFeed inLine.1]
      rfl
    | cons next others =>
      rw [ofLines_cons, lines_append_lineFeed inLine.1, ih (List.cons_ne_nil _ _) inLine.2]

/-- A character that ends no line in a text where carriage returns end lines. -/
theorem isInLine_of_returnsEndLines {rest : Text}
    (returns : returnsEndLines (character :: rest) = true)
    (notLineFeed : character = '\n' → False)
    (notReturn : ∀ others, character = '\r' → rest = '\n' :: others → False) :
    isInLine character = true := by
  rw [isInLine, Bool.and_eq_true, bne_iff_ne, bne_iff_ne]
  refine ⟨notLineFeed, ?_⟩
  rintro rfl
  cases rest with
  | nil => simp [returnsEndLines] at returns
  | cons next others =>
    obtain rfl : next = '\n' := by
      simp only [returnsEndLines, bne_self_eq_false, Bool.false_or, Bool.and_eq_true] at returns
      simpa using returns.1
    exact notReturn others rfl rfl

/-- If every carriage return ends a line, no line has a line end in it. -/
theorem isInLine_of_mem_lines (returns : returnsEndLines text = true) (member : line ∈ lines text) :
    line.all isInLine = true := by
  have tail {character : Char} {rest : Text}
      (returns : returnsEndLines (character :: rest) = true) : returnsEndLines rest = true := by
    rw [returnsEndLines, Bool.and_eq_true] at returns
    exact returns.2
  induction text using lines.induct generalizing line with
  | case1 => cases member
  | case2 rest ih =>
    rw [lines] at member
    rcases List.mem_cons.mp member with rfl | later
    · rfl
    · exact ih (tail returns) later
  | case3 rest ih =>
    rw [lines] at member
    rcases List.mem_cons.mp member with rfl | later
    · rfl
    · exact ih (tail (tail returns)) later
  | case4 character rest notLineFeed notReturn empty ih =>
    rw [lines.eq_4 character rest notLineFeed notReturn, empty, List.mem_singleton] at member
    rw [member, List.all_cons, isInLine_of_returnsEndLines returns notLineFeed notReturn]
    rfl
  | case5 character rest notLineFeed notReturn first others cut ih =>
    rw [lines.eq_4 character rest notLineFeed notReturn, cut] at member
    rw [cut] at ih
    rcases List.mem_cons.mp member with rfl | later
    · rw [List.all_cons, isInLine_of_returnsEndLines returns notLineFeed notReturn,
        ih (tail returns) List.mem_cons_self]
      rfl
    · exact ih (tail returns) (List.mem_cons_of_mem _ later)

end Beanwright.Text
