import Beanwright.Text.Blank

/-!
# The solid part of a text

The solid part of a text is what is left of it without its blank characters. Trimming and cutting a
text into lines remove nothing else.
-/

namespace Beanwright.Text

variable {character : Char} {text : Text}

/-! ## Literals

A literal is the string of a list of characters, so a check of it need not decode the string. -/

theorem check_literal {check : Text → Bool} {characters : Text}
    (passed : check characters = true) : check (String.ofList characters).toList = true := by
  rwa [String.toList_ofList]

theorem all_literal {holds : Char → Bool} {characters : Text}
    (checked : characters.all holds = true) :
    (String.ofList characters).toList.all holds = true := by
  rwa [String.toList_ofList]

/-! ## Solid characters -/

/-- The characters of a text that are not blank, in order. -/
def solid (text : Text) : Text := text.filter fun character => !isBlank character

@[simp] theorem solid_nil : solid [] = [] := rfl

theorem solid_cons (character : Char) (text : Text) :
    solid (character :: text) = solid [character] ++ solid text := by
  rw [← List.singleton_append, solid, List.filter_append]
  rfl

@[simp] theorem solid_append (first second : Text) :
    solid (first ++ second) = solid first ++ solid second :=
  List.filter_append ..

theorem solid_cons_of_isBlank (blank : isBlank character = true) (text : Text) :
    solid (character :: text) = solid text := by
  simp [solid, blank]

theorem solid_cons_of_not_isBlank (isSolid : isBlank character = false) (text : Text) :
    solid (character :: text) = character :: solid text := by
  simp [solid, isSolid]

@[simp] theorem solid_solid (text : Text) : solid (solid text) = solid text := by
  simp [solid]

@[simp] theorem solid_space (text : Text) : solid (' ' :: text) = solid text :=
  solid_cons_of_isBlank isBlank_space text

theorem mem_solid_iff : character ∈ solid text ↔ character ∈ text ∧ isBlank character = false := by
  simp [solid]

theorem isBlankText_solid (text : Text) : isBlankText (solid text) = isBlankText text := by
  induction text with
  | nil => rfl
  | cons character rest ih =>
    cases blank : isBlank character with
    | true =>
      rw [solid_cons_of_isBlank blank, ih]
      simp [isBlankText, blank]
    | false => simp [isBlankText, solid_cons_of_not_isBlank blank, blank]

/-- A text of blanks only has no solid part. -/
theorem solid_eq_nil_iff : solid text = [] ↔ isBlankText text = true := by
  simp [solid, isBlankText]

/-! ## Trimming -/

@[simp] theorem solid_trimStart (text : Text) : solid (trimStart text) = solid text := by
  induction text with
  | nil => rfl
  | cons first rest ih =>
    rw [trimStart, List.dropWhile_cons]
    split
    · next blank =>
      rw [solid_cons_of_isBlank blank]
      exact ih
    · rfl

@[simp] theorem solid_trimEnd (text : Text) : solid (trimEnd text) = solid text := by
  induction text with
  | nil => rfl
  | cons first rest ih =>
    rw [solid_cons, ← ih, trimEnd]
    split
    · next empty =>
      rw [empty]
      split
      · next blank => simp [solid_cons_of_isBlank blank]
      · simp
    · rw [solid_cons]

/-- A text with a solid beginning loses nothing at its start. -/
theorem trimStart_cons_of_not_isBlank (solidFirst : isBlank character = false) (text : Text) :
    trimStart (character :: text) = character :: text := by
  simp [trimStart, solidFirst]

theorem head?_trimStart (text : Text) : (trimStart text).head? = (solid text).head? := by
  induction text with
  | nil => rfl
  | cons character rest ih =>
    cases blank : isBlank character with
    | true =>
      rw [solid_cons_of_isBlank blank, ← ih, trimStart, List.dropWhile_cons_of_pos blank]
      rfl
    | false =>
      rw [trimStart_cons_of_not_isBlank blank, solid_cons_of_not_isBlank blank]
      rfl

theorem trimStart_eq_nil_iff : trimStart text = [] ↔ isBlankText text = true := by
  rw [← solid_eq_nil_iff, ← List.head?_eq_none_iff, head?_trimStart, List.head?_eq_none_iff]

theorem trimStart_blanks_append {blanks : Text} (blank : isBlankText blanks = true) (rest : Text) :
    trimStart (blanks ++ rest) = trimStart rest :=
  List.dropWhile_append_of_pos (List.all_eq_true.mp blank)

@[simp] theorem trimStart_space (text : Text) : trimStart (' ' :: text) = trimStart text :=
  List.dropWhile_cons_of_pos isBlank_space

@[simp] theorem trimStart_trimStart (text : Text) :
    trimStart (trimStart text) = trimStart text := by
  induction text with
  | nil => rfl
  | cons character rest ih =>
    cases blank : isBlank character with
    | true =>
      have skipped : trimStart (character :: rest) = trimStart rest :=
        List.dropWhile_cons_of_pos blank
      rw [skipped, ih]
    | false => rw [trimStart_cons_of_not_isBlank blank, trimStart_cons_of_not_isBlank blank]

theorem isBlankText_append (first second : Text) :
    isBlankText (first ++ second) = (isBlankText first && isBlankText second) := List.all_append

theorem trimEnd_cons_of_not_isBlank (isSolid : isBlank character = false) (text : Text) :
    trimEnd (character :: text) = character :: trimEnd text := by
  rw [trimEnd]
  split
  · next empty => simp [isSolid, empty]
  · rfl

/-- A text of blanks has nothing left when it is trimmed. -/
theorem trimEnd_of_isBlankText (blank : isBlankText text = true) : trimEnd text = [] := by
  induction text with
  | nil => rfl
  | cons first others ih =>
    rw [isBlankText, List.all_cons, Bool.and_eq_true] at blank
    rw [trimEnd, ih blank.2, blank.1]
    rfl

theorem trimEnd_space (text : Text) :
    trimEnd (' ' :: text) = if trimEnd text = [] then [] else ' ' :: trimEnd text := by
  rw [trimEnd]
  split
  · next empty => rw [if_pos isBlank_space, if_pos empty]
  · next kept => rw [if_neg kept]

theorem trimEnd_append_blanks {blanks : Text} (blank : isBlankText blanks = true) (text : Text) :
    trimEnd (text ++ blanks) = trimEnd text := by
  induction text with
  | nil => exact trimEnd_of_isBlankText blank
  | cons first rest ih => rw [List.cons_append, trimEnd, ih, trimEnd]

@[simp] theorem isBlankText_trimStart (text : Text) :
    isBlankText (trimStart text) = isBlankText text := by
  rw [← isBlankText_solid, solid_trimStart, isBlankText_solid]

@[simp] theorem isBlankText_trimEnd (text : Text) :
    isBlankText (trimEnd text) = isBlankText text := by
  rw [← isBlankText_solid, solid_trimEnd, isBlankText_solid]

@[simp] theorem trimEnd_trimEnd (text : Text) : trimEnd (trimEnd text) = trimEnd text := by
  induction text with
  | nil => rfl
  | cons first rest ih =>
    rw [trimEnd]
    split
    · split
      · rfl
      · next isSolid => simp [trimEnd, isSolid]
    · next kept =>
      rw [trimEnd, ih]
      split
      · next empty => exact absurd empty kept
      · rfl

/-- What is trimmed at the end of a text is blank. -/
theorem exists_trimEnd_append (text : Text) :
    ∃ blanks, isBlankText blanks = true ∧ text = trimEnd text ++ blanks := by
  induction text with
  | nil => exact ⟨[], rfl, rfl⟩
  | cons first rest ih =>
    obtain ⟨blanks, blank, equal⟩ := ih
    rw [trimEnd]
    split
    · next empty =>
      rw [empty, List.nil_append] at equal
      split
      · next firstBlank =>
        refine ⟨first :: rest, ?_, rfl⟩
        rw [isBlankText, List.all_cons, firstBlank, equal]
        exact blank
      · exact ⟨blanks, blank, by rw [equal]; rfl⟩
    · exact ⟨blanks, blank, congrArg (first :: ·) equal⟩

/-- A text that is not blank has a first solid character. -/
theorem exists_blanks_append (isSolid : isBlankText text = false) :
    ∃ blanks character rest, isBlankText blanks = true ∧ isBlank character = false ∧
      text = blanks ++ character :: rest := by
  induction text with
  | nil => cases isSolid
  | cons first rest ih =>
    cases blank : isBlank first with
    | false => exact ⟨[], first, rest, rfl, blank, rfl⟩
    | true =>
      rw [isBlankText, List.all_cons, blank, Bool.true_and] at isSolid
      obtain ⟨blanks, character, later, blanksBlank, characterSolid, rfl⟩ := ih isSolid
      refine ⟨first :: blanks, character, later, ?_, characterSolid, rfl⟩
      rw [isBlankText, List.all_cons, blank]
      exact blanksBlank

/-- A text that is not blank has a last solid character. -/
theorem exists_append_blanks (isSolid : isBlankText text = false) :
    ∃ rest character blanks, isBlank character = false ∧ isBlankText blanks = true ∧
      text = rest ++ character :: blanks := by
  induction text with
  | nil => cases isSolid
  | cons first rest ih =>
    cases blank : isBlankText rest with
    | true =>
      rw [isBlankText] at isSolid blank
      rw [List.all_cons, blank, Bool.and_true] at isSolid
      exact ⟨[], first, rest, isSolid, blank, rfl⟩
    | false =>
      obtain ⟨others, character, blanks, characterSolid, blanksBlank, rfl⟩ := ih blank
      exact ⟨first :: others, character, blanks, characterSolid, blanksBlank, rfl⟩

/-- A text with a solid ending loses nothing at its end. -/
theorem trimEnd_concat_of_not_isBlank (solidLast : isBlank character = false) (text : Text) :
    trimEnd (text ++ [character]) = text ++ [character] := by
  induction text with
  | nil => simp [trimEnd, solidLast]
  | cons first rest ih =>
    rw [List.cons_append, trimEnd, ih]
    cases rest <;> rfl

/-! ## Lines -/

theorem lines_cons_of_ne (notLineFeed : character ≠ '\n') (notReturn : character ≠ '\r')
    (text : Text) :
    lines (character :: text) =
      match lines text with
      | [] => [[character]]
      | first :: others => (character :: first) :: others :=
  lines.eq_4 character text (fun equal => notLineFeed equal)
    (fun _ equal _ => notReturn equal)

/-- Cutting a text into lines loses line ends only. -/
theorem solid_flatten_lines (text : Text) : solid (lines text).flatten = solid text := by
  induction text using lines.induct with
  | case1 => rfl
  | case2 rest ih =>
    rw [lines, List.flatten_cons, List.nil_append, ih, solid_cons_of_isBlank isBlank_lineFeed]
  | case3 rest ih =>
    rw [lines, List.flatten_cons, List.nil_append, ih,
      solid_cons_of_isBlank isBlank_carriageReturn, solid_cons_of_isBlank isBlank_lineFeed]
  | case4 character rest _ _ empty ih =>
    rw [lines, empty]
    · rw [empty] at ih
      rw [solid_cons, ← ih]
      simp
    all_goals assumption
  | case5 character rest _ _ first others cut ih =>
    rw [lines, cut]
    · rw [cut] at ih
      rw [solid_cons character rest, ← ih, List.flatten_cons, List.cons_append, solid_cons,
        List.flatten_cons]
    all_goals assumption

/-- Lines are put together with line ends only. -/
theorem solid_ofLines (lines : List Text) : solid (ofLines lines) = solid lines.flatten := by
  have joined (lines : List Text) : solid (joined ['\n'] lines) = solid lines.flatten := by
    induction lines with
    | nil => rfl
    | cons line rest ih =>
      cases rest with
      | nil => simp [Text.joined]
      | cons next others =>
        rw [Text.joined, solid_append, solid_append, ih,
          solid_cons_of_isBlank isBlank_lineFeed, solid_nil, List.append_nil, ← solid_append]
        rfl
  rw [ofLines, solid_append, joined, solid_cons_of_isBlank isBlank_lineFeed, solid_nil,
    List.append_nil]

/-- Whether a character can stand inside a line whatever follows it. -/
def isInLine (character : Char) : Bool := character != '\n' && character != '\r'

/-- What stands before the first line feed is the first line. -/
theorem lines_append_lineFeed {line : Text} (inLine : line.all isInLine = true) (rest : Text) :
    lines (line ++ '\n' :: rest) = line :: lines rest := by
  induction line with
  | nil => rfl
  | cons first others ih =>
    rw [List.all_cons, Bool.and_eq_true, isInLine, Bool.and_eq_true, bne_iff_ne, bne_iff_ne]
      at inLine
    obtain ⟨⟨notLineFeed, notReturn⟩, inLine⟩ := inLine
    rw [List.cons_append, lines_cons_of_ne notLineFeed notReturn, ih inLine]

end Beanwright.Text
