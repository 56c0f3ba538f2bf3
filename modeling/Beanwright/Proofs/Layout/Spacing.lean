import Beanwright.Proofs.Layout.Solid

/-!
# Spacing piece by piece

What spacing does to a line can be told from its pieces. Before the first brace only the character
in front of it counts; the spacing of control words treats both sides of a character that belongs to
no word on its own; and the spacing of operators treats the text before the first run of equals
signs on its own.
-/

namespace Beanwright.Layout

open Text

variable {character last : Char} {text before rest word : Text}

/-! ## The first brace -/

theorem spaceBraceAfter_append (previous : Option Char) (noBrace : '{' ∉ text) (rest : Text) :
    spaceBraceAfter previous (text ++ rest) =
      text ++ spaceBraceAfter (text.getLast?.or previous) rest := by
  induction text generalizing previous with
  | nil => rfl
  | cons first others ih =>
    rw [List.mem_cons, not_or] at noBrace
    have later := ih (some first) noBrace.2
    rw [List.cons_append, spaceBraceAfter.eq_def]
    dsimp only
    rw [if_neg (Ne.symm noBrace.1), later]
    cases others with
    | nil => rfl
    | cons second others => simp [List.getLast?_cons]

theorem spaceBraceAfter_of_notMem (previous : Option Char) (noBrace : '{' ∉ text) :
    spaceBraceAfter previous text = text := by
  have walked := spaceBraceAfter_append previous noBrace []
  rwa [spaceBraceAfter, List.append_nil] at walked

theorem spaceBrace_of_notMem (noBrace : '{' ∉ text) : spaceBrace text = text :=
  spaceBraceAfter_of_notMem none noBrace

theorem spaceBraceAfter_cons_of_ne (previous : Option Char) (differs : character ≠ '{')
    (text : Text) : spaceBraceAfter previous (character :: text) =
      character :: spaceBraceAfter (some character) text := by
  rw [spaceBraceAfter.eq_def]
  dsimp only
  rw [if_neg differs]

/-- A brace is left alone at the start of the line and after a blank. -/
theorem spaceBraceAfter_brace_eq_self_iff {previous : Option Char} :
    spaceBraceAfter previous ('{' :: text) = '{' :: text ↔ previous.all isBlank = true := by
  cases previous with
  | none => simp [spaceBraceAfter]
  | some before => cases blank : isBlank before <;> simp [spaceBraceAfter, blank]

/-- The first brace gets a space before it, unless a blank stands there already. -/
theorem spaceBrace_append_brace (noBrace : '{' ∉ text ++ [last]) (rest : Text) :
    spaceBrace (text ++ [last] ++ '{' :: rest) =
      text ++ [last] ++ (if isBlank last then [] else [' ']) ++ '{' :: rest := by
  rw [spaceBrace, spaceBraceAfter_append none noBrace, List.getLast?_concat,
    List.append_assoc (text ++ [last])]
  congr 1
  rw [spaceBraceAfter.eq_def]
  dsimp only [Option.or]
  rw [if_pos rfl]
  split <;> rfl

/-! ## Control words -/

/-- Whether a text ends in a control word that begins at a word boundary. -/
def endsInControlWord (text : Text) : Bool :=
  controlWords.any fun word => endsInWord word text.reverse

theorem controlWords_wordCharacters :
    ∀ word ∈ controlWords, ∀ character ∈ word, isWordCharacter character = true := by
  have checked : controlWords.all (fun word => word.all isWordCharacter) = true := by decide
  intro word inWords character inWord
  exact List.all_eq_true.mp (List.all_eq_true.mp checked word inWords) character inWord

theorem without?_append_boundary {pattern : Text}
    (letters : ∀ character ∈ pattern, isWordCharacter character = true)
    (boundary : isWordCharacter character = false) (text before : Text) :
    without? pattern (text ++ character :: before) =
      (without? pattern text).map (· ++ character :: before) := by
  induction pattern generalizing text with
  | nil => simp [without?]
  | cons expected pattern ih =>
    have expectedLetter := letters expected List.mem_cons_self
    cases text with
    | nil =>
      have differ : character ≠ expected := by
        rintro rfl
        rw [boundary] at expectedLetter
        cases expectedLetter
      simp [without?, differ]
    | cons first others =>
      rw [List.cons_append, without?, without?]
      split
      · exact ih (fun letter member => letters letter (List.mem_cons_of_mem _ member)) others
      · rfl

/-- What stands before a word boundary does not matter for the word after it. -/
theorem endsInWord_append_boundary
    (letters : ∀ character ∈ word, isWordCharacter character = true)
    (boundary : isWordCharacter character = false) (text before : Text) :
    endsInWord word (text ++ character :: before) = endsInWord word text := by
  have reversedLetters : ∀ letter ∈ word.reverse, isWordCharacter letter = true :=
    fun letter member => letters letter (List.mem_reverse.mp member)
  rw [endsInWord, endsInWord, without?_append_boundary reversedLetters boundary]
  cases without? word.reverse text with
  | none => rfl
  | some remaining =>
    -- Only a word at the very start sees what stands before it, and a boundary is as good there as
    -- nothing.
    cases remaining with
    | nil => simp [boundary]
    | cons first others => rfl

theorem controlWords_any_append_boundary (boundary : isWordCharacter character = false)
    (text before : Text) :
    (controlWords.any fun word => endsInWord word (text ++ character :: before)) =
      controlWords.any fun word => endsInWord word text := by
  rw [Bool.eq_iff_iff, List.any_eq_true, List.any_eq_true]
  constructor
  · rintro ⟨word, member, ends⟩
    rw [endsInWord_append_boundary (controlWords_wordCharacters word member) boundary] at ends
    exact ⟨word, member, ends⟩
  · rintro ⟨word, member, ends⟩
    rw [← endsInWord_append_boundary (controlWords_wordCharacters word member) boundary] at ends
    exact ⟨word, member, ends⟩

theorem spaceControlsAfter_append (before first second : Text) :
    spaceControlsAfter before (first ++ second) =
      spaceControlsAfter before first ++ spaceControlsAfter (first.reverse ++ before) second := by
  induction first generalizing before with
  | nil => rfl
  | cons character rest ih =>
    rw [List.cons_append, spaceControlsAfter, spaceControlsAfter, ih]
    split <;> simp

theorem spaceControlsAfter_boundary (boundary : isWordCharacter character = false)
    (before behind text : Text) :
    spaceControlsAfter (before ++ character :: behind) text = spaceControlsAfter before text := by
  induction text generalizing before with
  | nil => rfl
  | cons first others ih =>
    rw [spaceControlsAfter, spaceControlsAfter, controlWords_any_append_boundary boundary,
      ← List.cons_append, ih]

/-- Control words are spaced on each side of a character that belongs to no word on its own. -/
theorem spaceControls_append_boundary (boundary : isWordCharacter character = false)
    (notParenthesis : character ≠ '(') (first second : Text) :
    spaceControls (first ++ character :: second) =
      spaceControls first ++ character :: spaceControls second := by
  rw [spaceControls, spaceControlsAfter_append, List.append_nil, spaceControlsAfter]
  simp only [notParenthesis, decide_false, Bool.false_and, Bool.false_eq_true, if_false]
  -- The walk carries what it has passed in reverse, and that ends at the boundary.
  rw [← List.nil_append (character :: first.reverse), spaceControlsAfter_boundary boundary]
  rfl

/-- A parenthesis gets a space before it exactly after a control word. -/
theorem spaceControls_append_parenthesis (first second : Text) :
    spaceControls (first ++ '(' :: second) =
      spaceControls first ++ (if endsInControlWord first then [' '] else []) ++
        '(' :: spaceControls second := by
  have boundary : isWordCharacter '(' = false := by decide
  have later : spaceControlsAfter ('(' :: first.reverse) second = spaceControls second := by
    rw [← List.nil_append ('(' :: first.reverse), spaceControlsAfter_boundary boundary]
    rfl
  rw [spaceControls, spaceControlsAfter_append, List.append_nil, spaceControlsAfter, later,
    endsInControlWord]
  simp only [decide_true, Bool.true_and, List.append_assoc]
  split <;> rfl

theorem spaceControlsAfter_of_notMem (before : Text) (noParenthesis : '(' ∉ text) :
    spaceControlsAfter before text = text := by
  induction text generalizing before with
  | nil => rfl
  | cons first others ih =>
    rw [List.mem_cons, not_or] at noParenthesis
    rw [spaceControlsAfter, ih (first :: before) noParenthesis.2]
    simp [Ne.symm noParenthesis.1]

theorem spaceControls_of_notMem (noParenthesis : '(' ∉ text) : spaceControls text = text :=
  spaceControlsAfter_of_notMem [] noParenthesis

theorem endsInControlWord_append_boundary (boundary : isWordCharacter character = false)
    (first second : Text) :
    endsInControlWord (first ++ character :: second) = endsInControlWord second := by
  rw [endsInControlWord, List.reverse_append, List.reverse_cons, List.append_assoc,
    List.singleton_append, controlWords_any_append_boundary boundary]
  rfl

/-- A whole word that begins unlike every control word is none. -/
theorem endsInControlWord_eq_false (letters : ∀ letter ∈ text, isWordCharacter letter = true)
    (begins : ∀ word ∈ controlWords, text.head? ≠ word.head?) :
    endsInControlWord text = false := by
  rw [endsInControlWord, List.any_eq_false]
  intro word member ends
  rw [endsInWord] at ends
  split at ends
  · cases ends
  · next cut =>
    have equal := without?_eq_some cut
    rw [List.append_nil, List.reverse_inj] at equal
    exact begins word member (by rw [equal])
  · next first others cut =>
    have equal := without?_eq_some cut
    have isLetter := letters first (by
      rw [← List.mem_reverse, equal]
      simp)
    simp [isLetter] at ends

/-! ## Operators -/

theorem ofText_eq_gap_cons (noEquals : '=' ∉ text) (nonempty : text ≠ []) :
    Piece.ofText text = [.gap text] := by
  induction text with
  | nil => exact absurd rfl nonempty
  | cons first others ih =>
    rw [List.mem_cons, not_or] at noEquals
    rw [Piece.ofText, if_neg (Ne.symm noEquals.1)]
    cases others with
    | nil => rfl
    | cons second others => rw [ih noEquals.2 (List.cons_ne_nil _ _)]

theorem ofText_equals (rest : Text) :
    ∃ length others, Piece.ofText ('=' :: rest) = .run length :: others := by
  rw [Piece.ofText, if_pos rfl]
  split <;> exact ⟨_, _, rfl⟩

/-- The text before the first run of equals signs is the first gap. -/
theorem ofText_append_equals (noEquals : '=' ∉ text) (nonempty : text ≠ []) (rest : Text) :
    Piece.ofText (text ++ '=' :: rest) = .gap text :: Piece.ofText ('=' :: rest) := by
  induction text with
  | nil => exact absurd rfl nonempty
  | cons first others ih =>
    rw [List.mem_cons, not_or] at noEquals
    rw [List.cons_append, Piece.ofText, if_neg (Ne.symm noEquals.1)]
    cases others with
    | nil =>
      obtain ⟨length, pieces, found⟩ := ofText_equals rest
      rw [List.nil_append, found]
    | cons second others => rw [ih noEquals.2 (List.cons_ne_nil _ _)]

/-- A text that does not begin with an equals sign begins with a gap. -/
theorem ofText_cons_of_ne (differs : character ≠ '=') (text : Text) :
    ∃ others pieces, Piece.ofText (character :: text) = .gap (character :: others) :: pieces := by
  rw [Piece.ofText, if_neg differs]
  split <;> exact ⟨_, _, rfl⟩

/-- A run of equals signs that does not go on is a piece. -/
theorem ofText_replicate (apart : text.head? ≠ some '=') (length : Nat) :
    Piece.ofText (List.replicate (length + 1) '=' ++ text) =
      .run (length + 1) :: Piece.ofText text := by
  induction length with
  | zero =>
    rw [List.replicate_one, List.singleton_append, Piece.ofText, if_pos rfl]
    cases text with
    | nil => rfl
    | cons character rest =>
      have differs : character ≠ '=' := fun same => apart (congrArg some same)
      obtain ⟨others, pieces, found⟩ := ofText_cons_of_ne differs rest
      rw [found]
  | succ length ih =>
    rw [List.replicate_succ, List.cons_append, Piece.ofText, if_pos rfl, ih]

theorem firstCharacter_ofText (differs : character ≠ '=') (text : Text) :
    firstCharacter (Piece.ofText (character :: text)) = some character := by
  obtain ⟨others, pieces, found⟩ := ofText_cons_of_ne differs text
  rw [found]
  rfl

theorem spaceOperators_of_notMem (noEquals : '=' ∉ text) : spaceOperators text = text := by
  cases text with
  | nil => rfl
  | cons first others =>
    rw [spaceOperators, ofText_eq_gap_cons noEquals (List.cons_ne_nil _ _)]
    simp [spacePieces, operatorFollows]

/-- The text after an operator, with one space before it. -/
def spaceAfterOperator (text : Text) : Text :=
  spacePieces true true (some '=') (Piece.ofText text)

/-- A first run of equals signs that is an operator gets exactly one space on both sides. -/
theorem spaceOperators_append_operator (noEquals : '=' ∉ text ++ [last])
    (solidText : isBlankText (text ++ [last]) = false) (lastPlain : isComparison last = false)
    (differs : character ≠ '=') (characterPlain : isComparison character = false)
    {length : Nat} (short : length < longestOperator) (rest : Text) :
    spaceOperators (text ++ [last] ++ (List.replicate (length + 1) '=' ++ character :: rest)) =
      trimEnd (text ++ [last]) ++ ' ' :: List.replicate (length + 1) '=' ++
        spaceAfterOperator (character :: rest) := by
  have operator :
      isOperator (some last) (length + 1) (Piece.ofText (character :: rest)) = true := by
    simp [isOperator, Nat.succ_le_of_lt short, lastPlain, firstCharacter_ofText differs,
      characterPlain]
  rw [List.replicate_succ, List.cons_append, spaceOperators,
    ofText_append_equals noEquals (by simp), ← List.cons_append, ← List.replicate_succ,
    ofText_replicate (by simpa using differs)]
  simp only [spacePieces, operatorFollows, List.getLast?_concat, operator, solidText,
    Bool.false_and, Bool.not_false, Bool.or_true, Bool.and_true, Bool.false_eq_true, if_true,
    if_false, List.nil_append, List.append_assoc, spaceAfterOperator, List.cons_append]

/-- A first run of equals signs that is no operator stays as it is. -/
theorem spaceOperators_append_comparison (noEquals : '=' ∉ text ++ [last])
    (comparison : isComparison last = true) (differs : character ≠ '=') (length : Nat)
    (restNoEquals : '=' ∉ character :: rest) :
    spaceOperators (text ++ [last] ++ (List.replicate (length + 1) '=' ++ character :: rest)) =
      text ++ [last] ++ (List.replicate (length + 1) '=' ++ character :: rest) := by
  have operator (after : List Piece) : isOperator (some last) (length + 1) after = false := by
    simp [isOperator, comparison]
  rw [List.replicate_succ, List.cons_append, spaceOperators,
    ofText_append_equals noEquals (by simp), ← List.cons_append, ← List.replicate_succ,
    ofText_replicate (by simpa using differs),
    ofText_eq_gap_cons restNoEquals (List.cons_ne_nil _ _)]
  simp only [spacePieces, operatorFollows, List.getLast?_concat, operator, Bool.false_and,
    Bool.false_eq_true, if_false, List.nil_append, List.append_nil, List.append_assoc]

theorem spaceAfterOperator_of_notMem (noEquals : '=' ∉ text) (nonempty : trimStart text ≠ []) :
    spaceAfterOperator text = ' ' :: trimStart text := by
  have textNonempty : text ≠ [] := by
    rintro rfl
    exact nonempty rfl
  rw [spaceAfterOperator, ofText_eq_gap_cons noEquals textNonempty]
  simp [spacePieces, operatorFollows, nonempty]

/-! ## The beginning of a line -/

theorem head?_spaceOperators (solidFirst : isBlank character = false) (rest : Text) :
    (spaceOperators (character :: rest)).head? = some character := by
  have trimmed (text : Text) : (trimEnd (character :: text)).head? = some character := by
    rw [trimEnd]
    split
    · simp [solidFirst]
    · rfl
  rw [spaceOperators]
  by_cases equals : character = '='
  · subst equals
    obtain ⟨length, others, found⟩ : ∃ length others,
        Piece.ofText ('=' :: rest) = .run (length + 1) :: others := by
      rw [Piece.ofText, if_pos rfl]
      split <;> exact ⟨_, _, rfl⟩
    simp [found, spacePieces, List.replicate_succ]
  · obtain ⟨others, pieces, found⟩ := ofText_cons_of_ne equals rest
    simp only [found, spacePieces, Bool.false_and, Bool.false_eq_true, if_false, List.nil_append]
    split <;> simp [trimmed]

/-- A line that begins with a solid character begins with it after spacing. -/
theorem head?_spaceLine (solidFirst : isBlank character = false) (rest : Text) :
    (spaceLine (character :: rest)).head? = some character := by
  obtain ⟨braced, bracedEq⟩ : ∃ braced, spaceBrace (character :: rest) = character :: braced := by
    rw [spaceBrace, spaceBraceAfter]
    split <;> exact ⟨_, rfl⟩
  obtain ⟨controlled, controlledEq⟩ :
      ∃ controlled, spaceControls (character :: braced) = character :: controlled := by
    have atStart : (controlWords.any fun word => endsInWord word []) = false := by decide
    rw [spaceControls, spaceControlsAfter, atStart, Bool.and_false, if_neg Bool.false_ne_true]
    exact ⟨_, rfl⟩
  rw [spaceLine, bracedEq, controlledEq]
  exact head?_spaceOperators solidFirst controlled

end Beanwright.Layout
