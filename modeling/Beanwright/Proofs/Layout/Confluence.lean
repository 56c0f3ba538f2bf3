import Beanwright.Proofs.Layout.Balance
import Beanwright.Proofs.Layout.NormalForm
import Beanwright.Proofs.Layout.Separated
import Beanwright.Proofs.Layout.Signature
import Beanwright.Proofs.Text.Lines

/-!
# Layout is confluent

Indentation comes last and looks at a line from its first solid character on. What the rules before
it make of a text that is laid out differs from what they made of the text itself at most before
these characters: every line of it is the line of a shape with other blanks at its start, so nothing
is left to be broken, separated or spaced. It does not matter, therefore, how often a text is laid
out and with which options, but for the last time.

## Main definitions

* `Layout.Finished` — a line of a layout and the line it was spaced and indented from

## Main results

* `Layout.format_congr` — lines that differ in their indentation are laid out alike
* `Layout.map_trimStart_shape_ofLines` — the shape of a text that is laid out
* `Layout.format_confluent` — a text that is laid out is laid out like the text it came from
-/

namespace Beanwright.Layout

open Text

variable {indent : Indent} {text laid line source target : Text} {lines changed : List Text}

/-! ## Indentation does not matter -/

theorem nestFrom_map_trimStart (indent : Indent) (level : Nat) (lines : List Text) :
    nestFrom indent level (lines.map trimStart) = nestFrom indent level lines := by
  induction lines generalizing level with
  | nil => rfl
  | cons line rest ih => rw [List.map_cons, nestFrom, nestFrom, trimStart_trimStart, ih]

theorem checkBalanceFrom_map_trimStart (before depth : Nat) (lines : List Text) :
    checkBalanceFrom before depth (lines.map trimStart) = checkBalanceFrom before depth lines := by
  have trimmed (depth : Nat) (line : Text) :
      depthAfter? depth (trimStart line) = depthAfter? depth line := by
    rw [← depthAfter?_solid, solid_trimStart, depthAfter?_solid]
  induction lines generalizing before depth with
  | nil => rfl
  | cons line rest ih =>
    rw [List.map_cons, checkBalanceFrom, checkBalanceFrom, trimmed]
    cases depthAfter? depth line with
    | none => rfl
    | some after => exact ih (before + 1) after

/-- Texts whose shapes differ in their indentation only are laid out alike. -/
theorem format_congr {first second : Text}
    (same : (shape first).map trimStart = (shape second).map trimStart) (options : Options) :
    format options first = format options second := by
  have balance : checkBalance (shape first) = checkBalance (shape second) := by
    rw [checkBalance, ← checkBalanceFrom_map_trimStart, same, checkBalanceFrom_map_trimStart,
      checkBalance]
  have nested : nest options.indent (shape first) = nest options.indent (shape second) := by
    rw [nest, ← nestFrom_map_trimStart, same, nestFrom_map_trimStart, nest]
  rw [format_eq, format_eq, balance, nested]

/-! ## Lines that are spaced and indented -/

/-- A line is what spacing and indentation make of another one. -/
def Finished (source target : Text) : Prop :=
  ∃ indentation, indentation.all isIndentation = true ∧
    target = indentation ++ trimStart (spaceLine source)

theorem forall₂_finished (indent : Indent) (level : Nat) (lines : List Text) :
    List.Forall₂ Finished lines (nestFrom indent level (lines.map spaceLine)).1 := by
  induction lines generalizing level with
  | nil => exact .nil
  | cons line rest ih =>
    rw [List.map_cons, nestFrom]
    refine .cons ?_ (ih _)
    cases content : trimStart (spaceLine line) with
    | nil => exact ⟨[], rfl, by rw [content]; rfl⟩
    | cons first others => exact ⟨_, all_isIndentation_repeated indent _, by rw [content]; rfl⟩

/-- Indentation respaces a line. -/
theorem respaced_indented {indentation : Text} (indents : indentation.all isIndentation = true)
    (line : Text) : Respaced none none line (indentation ++ trimStart line) := by
  cases blank : isBlankText line with
  | true =>
    rw [trimStart_eq_nil_iff.mpr blank, List.append_nil]
    exact .blanks blank (.edge (.inl rfl) indents)
  | false =>
    obtain ⟨blanks, character, rest, beginning, isSolid, rfl⟩ := exists_blanks_append blank
    rw [trimStart_blanks_append beginning, trimStart_cons_of_not_isBlank isSolid]
    exact .solid beginning isSolid (.edge (.inl rfl) indents) (.refl rest)

namespace Finished

theorem trimStart_eq (finished : Finished source target) :
    trimStart target = trimStart (spaceLine source) := by
  obtain ⟨indentation, indents, rfl⟩ := finished
  rw [trimStart_blanks_append (isBlankText_of_all_isIndentation indents), trimStart_trimStart]

theorem respaced (finished : Finished source target) : Respaced none none source target := by
  obtain ⟨indentation, indents, rfl⟩ := finished
  exact (respaced_spaceLine source).trans (respaced_indented indents (spaceLine source))

/-- Spacing has nothing left to do on a finished line but before its first solid character. -/
theorem trimStart_spaceLine (finished : Finished source target) :
    trimStart (spaceLine target) = trimStart target := by
  obtain ⟨indentation, indents, rfl⟩ := finished
  have spaced := isSpaced_spaceLine source
  have indented := respaced_indented indents (spaceLine source)
  rw [spaceLine, indented.spaceBrace_eq_self spaced.brace,
    indented.spaceControls_eq_self spaced.controls]
  have indentationBlank := isBlankText_of_all_isIndentation indents
  generalize spaceLine source = line at spaced
  have cut : line.takeWhile isBlank ++ trimStart line = line := List.takeWhile_append_dropWhile
  have beginningBlank : isBlankText (line.takeWhile isBlank) = true := List.all_takeWhile
  calc trimStart (spaceOperators (indentation ++ trimStart line))
      = trimStart (spaceOperators (trimStart line)) :=
        trimStart_spaceOperators_blanks_append indentationBlank _
    _ = trimStart (spaceOperators (line.takeWhile isBlank ++ trimStart line)) :=
        (trimStart_spaceOperators_blanks_append beginningBlank _).symm
    _ = trimStart (trimStart line) := by rw [cut, spaced.operators, trimStart_trimStart]
    _ = trimStart (indentation ++ trimStart line) :=
        (trimStart_blanks_append indentationBlank _).symm

end Finished

/-! ## Settled lines -/

/-- Lines on which the rules before spacing have nothing left to do. -/
structure Settled (lines : List Text) : Prop where
  /-- No line has a line end in it. -/
  inLine : ∀ line ∈ lines, line.all isInLine = true
  /-- Every line is broken. -/
  broken : ∀ line ∈ lines, endsAtBoundary line = true
  /-- The blocks are separated. -/
  separated : Separated lines
  /-- The signature is spaced. -/
  signed : spaceSignatures lines = lines

theorem forall₂_spaceSignatures (inLine : ∀ line ∈ lines, line.all isInLine = true) :
    List.Forall₂ SameSolid lines (spaceSignatures lines) := by
  have kept {lines : List Text} (inLine : ∀ line ∈ lines, line.all isInLine = true) :
      List.Forall₂ SameSolid lines lines :=
    List.forall₂_same.mpr fun line member => ⟨rfl, inLine line member, inLine line member⟩
  induction lines with
  | nil => exact .nil
  | cons line rest ih =>
    rw [List.forall_mem_cons] at inLine
    rw [spaceSignatures]
    split
    · next spaced found =>
      have same : SameSolid line spaced :=
        ⟨solid_spaceSignature? found, inLine.1, all_isInLine_spaceSignature? inLine.1 found⟩
      exact .cons same (kept inLine.2)
    · exact .cons ⟨rfl, inLine.1, inLine.1⟩ (ih inLine.2)

theorem all_isInLine_of_sameSolid (same : List.Forall₂ SameSolid lines changed) :
    ∀ line ∈ changed, line.all isInLine = true := by
  induction same with
  | nil => exact List.forall_mem_nil _
  | cons first _ ih => exact List.forall_mem_cons.mpr ⟨first.otherInLine, ih⟩

/-- The lines of a text are settled before they are spaced. -/
theorem settled_spaceSignatures (returns : returnsEndLines text = true) :
    Settled (spaceSignatures (separateBlocks (breakLines (Text.lines text)))) := by
  have inLine : ∀ line ∈ separateBlocks (breakLines (Text.lines text)),
      line.all isInLine = true := by
    intro line member
    rcases mem_separateBlocks member with rfl | inBroken
    · rfl
    · exact all_of_mem_breakLines (fun _ inLines => isInLine_of_mem_lines returns inLines) inBroken
  have broken : ∀ line ∈ separateBlocks (breakLines (Text.lines text)),
      endsAtBoundary line = true := by
    intro line member
    rcases mem_separateBlocks member with rfl | inBroken
    · rfl
    · exact endsAtBoundary_of_mem_breakLines inBroken
  have same := forall₂_spaceSignatures inLine
  exact ⟨all_isInLine_of_sameSolid same, endsAtBoundary_of_sameSolid broken same,
    (separated_separateBlocks _).of_sameSolid same, spaceSignatures_spaceSignatures _⟩

namespace Settled

/-- Lines stay settled when they are respaced. -/
theorem of_respaced (settled : Settled lines)
    (respaced : List.Forall₂ (Respaced none none) lines changed) : Settled changed := by
  have same : List.Forall₂ SameSolid lines changed := by
    have inLine := settled.inLine
    clear settled
    induction respaced with
    | nil => exact .nil
    | cons first _ ih =>
      rw [List.forall_mem_cons] at inLine
      exact .cons ⟨first.solid_eq, inLine.1, first.all_isInLine inLine.1⟩ (ih inLine.2)
  exact ⟨all_isInLine_of_sameSolid same, endsAtBoundary_of_sameSolid settled.broken same,
    settled.separated.of_sameSolid same,
    spaceSignatures_eq_self_of_respaced respaced settled.signed⟩

/-- Settled lines are only spaced. -/
theorem shape_ofLines (settled : Settled lines) (nonempty : lines ≠ []) :
    shape (ofLines lines) = lines.map spaceLine := by
  rw [shape, lines_ofLines nonempty settled.inLine, breakLines_eq_self settled.broken,
    separateBlocks_eq_self settled.separated, settled.signed]

end Settled

/-! ## Texts that are laid out -/

/-- The shape of a text that is laid out is the shape of the text but for indentation. -/
theorem map_trimStart_shape_ofLines (returns : returnsEndLines text = true)
    (nonempty : shape text ≠ []) (indent : Indent) :
    (shape (ofLines (nest indent (shape text)).1)).map trimStart =
      (shape text).map trimStart := by
  obtain ⟨lines, shaped, settled⟩ : ∃ lines, shape text = lines.map spaceLine ∧ Settled lines :=
    ⟨_, rfl, settled_spaceSignatures returns⟩
  have finished := forall₂_finished indent 0 lines
  rw [shaped] at nonempty ⊢
  rw [nest]
  generalize (nestFrom indent 0 (lines.map spaceLine)).1 = placed at finished ⊢
  have respaced := finished.imp fun _ _ => Finished.respaced
  have placedNonempty : placed ≠ [] := by
    rintro rfl
    cases finished
    exact nonempty rfl
  -- The lines of the layout are settled, so their shape is their spacing.
  rw [(settled.of_respaced respaced).shape_ofLines placedNonempty]
  clear settled respaced nonempty placedNonempty shaped
  induction finished with
  | nil => rfl
  | cons first _ ih =>
    simp only [List.map_cons] at ih ⊢
    rw [first.trimStart_spaceLine, first.trimStart_eq, ih]

/-- A text without lines is laid out as an empty line, and so is an empty line. -/
theorem format_lineFeed (empty : shape text = []) (options : Options) :
    format options ['\n'] = format options text := by
  have shapeLineFeed : shape ['\n'] = [[]] := rfl
  rw [format_eq, format_eq, empty, shapeLineFeed]
  rfl

/-- Layout is confluent: whatever the options were that a text was laid out with, laying it out
again with others gives what they give for the text itself, be it a text or the place where the
braces are unbalanced. With the same options, nothing is left to do. -/
theorem format_confluent {first : Options} (returns : returnsEndLines text = true)
    (formatted : format first text = .ok laid) :
    (∀ second : Options, format second laid = format second text) ∧
      format first laid = .ok laid := by
  have same (second : Options) : format second laid = format second text := by
    rw [eq_of_format_eq_ok formatted]
    -- A text without lines becomes one empty line, which differs from no line in the shape only.
    by_cases empty : shape text = []
    · rw [empty]
      exact format_lineFeed empty second
    · exact format_congr (map_trimStart_shape_ofLines returns empty first.indent) second
  exact ⟨same, (same first).trans formatted⟩

/-- A brace too many is found in the same place before and after a layout, and an operator at the
start of a line keeps no indentation. -/
theorem format_confluent_sample :
    returnsEndLines "if(a==b)\x7bc=1;\x7d\x7d\r\n  =d".toList = true ∧
    format ⟨.tab, false⟩ "if(a==b)\x7bc=1;\x7d\x7d\r\n  =d".toList =
      .ok "if (a == b) \x7b\n\tc = 1;\n\x7d\n\x7d\n= d\n".toList ∧
    format ⟨.spaces 4, true⟩ "if (a == b) \x7b\n\tc = 1;\n\x7d\n\x7d\n= d\n".toList =
      .error ⟨4, -1⟩ ∧
    format ⟨.tab, false⟩ "if (a == b) \x7b\n\tc = 1;\n\x7d\n\x7d\n= d\n".toList =
      .ok "if (a == b) \x7b\n\tc = 1;\n\x7d\n\x7d\n= d\n".toList := by
  have returns : returnsEndLines "if(a==b)\x7bc=1;\x7d\x7d\r\n  =d".toList = true := by
    decide +kernel
  have formatted : format ⟨.tab, false⟩ "if(a==b)\x7bc=1;\x7d\x7d\r\n  =d".toList =
      .ok "if (a == b) \x7b\n\tc = 1;\n\x7d\n\x7d\n= d\n".toList :=
    congrArg Except.ok (by decide +kernel)
  have unbalanced : format ⟨.spaces 4, true⟩ "if(a==b)\x7bc=1;\x7d\x7d\r\n  =d".toList =
      .error ⟨4, -1⟩ := congrArg Except.error (by decide)
  obtain ⟨again, same⟩ := format_confluent returns formatted
  exact ⟨returns, formatted, (again _).trans unbalanced, same⟩

end Beanwright.Layout
