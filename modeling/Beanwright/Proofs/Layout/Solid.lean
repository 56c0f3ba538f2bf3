import Beanwright.Layout.Basic
import Beanwright.Proofs.Text.Solid

/-!
# Layout moves blanks only

The rules make new lines and change blanks, and nothing else: the solid part of all lines together
stays the same. So does every property of the solid part, such as the sequence of braces.
-/

namespace Beanwright.Layout

open Text

/-! ## Breaking and separating -/

theorem solid_pieces (skipping : Bool) (text : Text) :
    solid (pieces skipping text).flatten = solid text := by
  induction text generalizing skipping with
  | nil => rfl
  | cons character rest ih =>
    rw [pieces]
    split
    · next dropped =>
      rw [Bool.and_eq_true] at dropped
      rw [ih, solid_cons_of_isBlank dropped.2]
    · split
      · split
        · simp
        · rw [List.flatten_cons, List.singleton_append, solid_cons, ih, ← solid_cons]
      · rw [solid_cons, ← ih false]
        split
        · next none => simp [none]
        · next first others cut =>
          rw [cut, List.flatten_cons, List.cons_append, solid_cons, List.flatten_cons]

theorem solid_breakLines (lines : List Text) :
    solid (breakLines lines).flatten = solid lines.flatten := by
  induction lines with
  | nil => rfl
  | cons line rest ih =>
    rw [breakLines, List.flatMap_cons, List.flatten_append, solid_append, List.flatten_cons,
      solid_append, breakLine, solid_pieces]
    rw [breakLines] at ih
    rw [ih]

/-- Separating blocks adds empty lines only. -/
theorem flatten_separateBlocks (lines : List Text) :
    (separateBlocks lines).flatten = lines.flatten := by
  induction lines using separateBlocks.induct with
  | case1 => rfl
  | case2 => rfl
  | case3 line next rest separate ih =>
    rw [separateBlocks, if_pos separate, List.flatten_cons, List.flatten_cons, ih]
    rfl
  | case4 line next rest together ih =>
    rw [separateBlocks, if_neg together, List.flatten_cons, ih]
    rfl

/-! ## The signature -/

theorem without?_eq_some {beginning text rest : Text}
    (found : without? beginning text = some rest) : text = beginning ++ rest := by
  induction beginning generalizing text with
  | nil => simpa [without?] using found
  | cons expected beginning ih =>
    cases text with
    | nil => simp [without?] at found
    | cons character text =>
      rw [without?] at found
      split at found
      · next equal => rw [equal, List.cons_append, ← ih found]
      · cases found

theorem without?_append (beginning rest : Text) :
    without? beginning (beginning ++ rest) = some rest := by
  induction beginning with
  | nil => rfl
  | cons first others ih => rw [List.cons_append, without?, if_pos rfl, ih]

theorem wordAtStart?_eq_some {word text rest : Text} (found : wordAtStart? word text = some rest) :
    text = word ++ rest := by
  rw [wordAtStart?] at found
  split at found
  · next rest' cut =>
    split at found
    · cases found
    · cases found
      exact without?_eq_some cut
  · cases found

/-- A cut loses nothing. -/
theorem cutAfterWord?_eq_some {word text before after : Text} {inside : Bool}
    (cut : cutAfterWord? word inside text = some (before, after)) : text = before ++ after := by
  induction text generalizing inside before with
  | nil => simp [cutAfterWord?] at cut
  | cons character rest ih =>
    rw [cutAfterWord?] at cut
    split at cut
    · next found =>
      cases cut
      split at found
      · cases found
      · exact wordAtStart?_eq_some found
    · split at cut
      · next found =>
        cases cut
        rw [ih found, List.cons_append]
      · cases cut

theorem solid_spaceSignature? {line spaced : Text} (found : spaceSignature? line = some spaced) :
    solid spaced = solid line := by
  rw [spaceSignature?] at found
  split at found
  · cases found
  · next before after cut =>
    split at found
    · cases found
      rfl
    · cases found
      rw [cutAfterWord?_eq_some cut, solid_append, solid_space, solid_trimStart, solid_append]

theorem solid_spaceSignatures (lines : List Text) :
    solid (spaceSignatures lines).flatten = solid lines.flatten := by
  induction lines with
  | nil => rfl
  | cons line rest ih =>
    rw [spaceSignatures]
    split
    · next found => simp only [List.flatten_cons, solid_append, solid_spaceSignature? found]
    · simp only [List.flatten_cons, solid_append, ih]

/-! ## Spacing -/

theorem solid_spaceBraceAfter (previous : Option Char) (text : Text) :
    solid (spaceBraceAfter previous text) = solid text := by
  induction text generalizing previous with
  | nil => rfl
  | cons character rest ih =>
    unfold spaceBraceAfter
    split
    · split
      · rfl
      · split <;> simp
    · rw [solid_cons, ih, ← solid_cons]

theorem solid_spaceControlsAfter (before text : Text) :
    solid (spaceControlsAfter before text) = solid text := by
  induction text generalizing before with
  | nil => rfl
  | cons character rest ih =>
    rw [spaceControlsAfter]
    split
    · rw [solid_space, solid_cons, ih, ← solid_cons]
    · rw [solid_cons, ih, ← solid_cons]

/-- The text of a part of a line. -/
def Piece.text : Piece → Text
  | gap text => text
  | run length => List.replicate length '='

/-- The parts of a line make up the line. -/
theorem flatMap_ofText (line : Text) : (Piece.ofText line).flatMap Piece.text = line := by
  induction line with
  | nil => rfl
  | cons character rest ih =>
    rw [Piece.ofText]
    split
    · next equals =>
      split
      · next found =>
        rw [found] at ih
        rw [← ih, equals]
        rfl
      · rw [List.flatMap_cons, ih, equals]
        rfl
    · split
      · next found =>
        rw [found] at ih
        rw [← ih]
        rfl
      · rw [List.flatMap_cons, ih]
        rfl

theorem solid_spacePieces (written afterOperator : Bool) (before : Option Char)
    (parts : List Piece) :
    solid (spacePieces written afterOperator before parts) =
      solid (parts.flatMap Piece.text) := by
  have optionalSpace (condition : Bool) : solid (if condition then [' '] else []) = [] := by
    cases condition <;> simp
  induction parts generalizing written afterOperator before with
  | nil => rfl
  | cons part rest ih =>
    cases part with
    | gap text =>
      simp only [spacePieces, solid_append, optionalSpace, ih, List.flatMap_cons, Piece.text,
        List.nil_append]
      congr 1
      split <;> split <;> simp
    | run length =>
      simp only [spacePieces, solid_append, optionalSpace, ih, List.flatMap_cons, Piece.text,
        List.nil_append]

/-- Spacing keeps the solid part of a line. -/
@[simp] theorem solid_spaceLine (line : Text) : solid (spaceLine line) = solid line := by
  rw [spaceLine, spaceOperators, solid_spacePieces, flatMap_ofText, spaceControls,
    solid_spaceControlsAfter, spaceBrace, solid_spaceBraceAfter]

/-! ## The shape of a text -/

/-- The lines of a text after all rules but the check of balance and the indentation. -/
def shape (text : Text) : List Text :=
  (spaceSignatures (separateBlocks (breakLines (Text.lines text)))).map spaceLine

theorem solid_shape (text : Text) : solid (shape text).flatten = solid text := by
  have spaced (lines : List Text) : solid (lines.map spaceLine).flatten = solid lines.flatten := by
    induction lines with
    | nil => rfl
    | cons line rest ih => simp [ih]
  rw [shape, spaced, solid_spaceSignatures, flatten_separateBlocks, solid_breakLines,
    solid_flatten_lines]

/-- The draft that indentation makes of lines. -/
def Draft.ofNest (nested : List Text × Nat) : Draft := ⟨nested.1, nested.2⟩

theorem run_eq_of_lenient (indent : Indent) (text : Text) :
    run ⟨indent, false⟩ text = .ok (Draft.ofNest (nest indent (shape text))) := rfl

theorem run_eq_of_strict (indent : Indent) (text : Text) :
    run ⟨indent, true⟩ text =
      (checkBalance (shape text)).map fun _ => Draft.ofNest (nest indent (shape text)) := by
  change ((checkBalance (shape text)).map _ >>= _) = _
  cases checkBalance (shape text) <;> rfl

/-! ## Indentation -/

/-- Whether a character indents lines. -/
def isIndentation (character : Char) : Bool := character == ' ' || character == '\t'

theorem isBlankText_of_all_isIndentation {text : Text} (indents : text.all isIndentation = true) :
    isBlankText text = true := by
  rw [isBlankText, List.all_eq_true] at *
  intro character member
  have indents := indents character member
  simp only [isIndentation, Bool.or_eq_true, beq_iff_eq] at indents
  rcases indents with rfl | rfl <;> decide

theorem all_isIndentation_repeated (indent : Indent) (level : Nat) :
    (indent.repeated level).all isIndentation = true := by
  have unit : indent.unit.all isIndentation = true := by
    cases indent with
    | spaces width =>
      rw [Indent.unit, List.all_replicate]
      simp [isIndentation]
    | tab => decide
  induction level with
  | zero => rfl
  | succ level ih => rw [Indent.repeated_succ, List.all_append, unit, ih, Bool.and_self]

theorem isBlankText_repeated (indent : Indent) (level : Nat) :
    isBlankText (indent.repeated level) = true :=
  isBlankText_of_all_isIndentation (all_isIndentation_repeated indent level)

theorem solid_nestFrom (indent : Indent) (level : Nat) (lines : List Text) :
    solid (nestFrom indent level lines).1.flatten = solid lines.flatten := by
  induction lines generalizing level with
  | nil => rfl
  | cons line rest ih =>
    -- A line without content loses its blanks, and every other one gets blanks for those it had.
    have placed (content : Text) (stands : Nat) :
        solid (if content.isEmpty then [] else indent.repeated stands ++ content) =
          solid content := by
      cases content with
      | nil => rfl
      | cons first others =>
        rw [if_neg (by simp), solid_append,
          solid_eq_nil_iff.mpr (isBlankText_repeated indent stands), List.nil_append]
    rw [nestFrom, List.flatten_cons, List.flatten_cons, solid_append, solid_append, placed,
      solid_trimStart, ih]

theorem run_eq (options : Options) (text : Text) :
    run options text = (if options.strict then checkBalance (shape text) else .ok ()).map
      fun _ => Draft.ofNest (nest options.indent (shape text)) := by
  obtain ⟨indent, strict⟩ := options
  cases strict with
  | false => exact run_eq_of_lenient indent text
  | true => exact run_eq_of_strict indent text

/-- A text is laid out as its indented shape, if the options let it pass. -/
theorem format_eq (options : Options) (text : Text) :
    format options text = (if options.strict then checkBalance (shape text) else .ok ()).map
      fun _ => ofLines (nest options.indent (shape text)).1 := by
  rw [format, run_eq]
  cases if options.strict then checkBalance (shape text) else .ok () <;> rfl

theorem eq_of_format_eq_ok {options : Options} {text laid : Text}
    (formatted : format options text = .ok laid) :
    laid = ofLines (nest options.indent (shape text)).1 := by
  rw [format_eq] at formatted
  cases checked : if options.strict then checkBalance (shape text) else .ok () with
  | error cause =>
    rw [checked] at formatted
    cases formatted
  | ok done =>
    rw [checked] at formatted
    exact (Except.ok.inj formatted).symm

/-- Layout changes blanks only: without its blanks, a text that is laid out is the text that was
given, character by character. -/
theorem solid_of_format {options : Options} {text laid : Text}
    (formatted : format options text = .ok laid) : solid laid = solid text := by
  rw [eq_of_format_eq_ok formatted, solid_ofLines, nest, solid_nestFrom, solid_shape]

/-- A stray brace, a long run of equals signs and a wide space lose nothing. -/
theorem solid_of_format_sample :
    format ⟨.tab, false⟩ "\x7da====b ==\u3000c;d".toList =
      .ok "\x7d\na====b == c;\nd\n".toList ∧
    solid "\x7d\na====b == c;\nd\n".toList = solid "\x7da====b ==\u3000c;d".toList := by
  have formatted : format ⟨.tab, false⟩ "\x7da====b ==\u3000c;d".toList =
      .ok "\x7d\na====b == c;\nd\n".toList := congrArg Except.ok (by decide +kernel)
  exact ⟨formatted, solid_of_format formatted⟩

end Beanwright.Layout
