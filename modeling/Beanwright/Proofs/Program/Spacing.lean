import Beanwright.Proofs.Program.Leaves

/-!
# The spacing of the lines of a class

Spacing treats every statement and header of a class program as one would write it by hand,
whatever the names in it are. A name keeps apart from the words around it, so it is never taken for
a control word, even if it ends like one.
-/

namespace Beanwright.Layout

open Code Text

variable {character last : Char} {name text target value rest parameters : Text}

/-! ## Literals -/

theorem spaceLine_literal {content spaced : Text}
    (computed : spaceLine (content ++ [last]) = spaced) :
    spaceLine ((String.ofList content).toList ++ [last]) = (String.ofList spaced).toList := by
  rwa [String.toList_ofList, String.toList_ofList]

theorem spaceLine_if_literal {condition spaced : Text}
    (computed : spaceLine ("if(".toList ++ condition ++ ")".toList ++ ['{']) = spaced) :
    spaceLine ("if(".toList ++ (String.ofList condition).toList ++ ")".toList ++ ['{']) =
      (String.ofList spaced).toList := by
  have characters : (String.ofList condition).toList = condition := String.toList_ofList
  rw [characters, computed, String.toList_ofList]

/-! ## Lines that stay as they are -/

/-- Nothing is spaced where there is no brace, parenthesis or equals sign. -/
theorem spaceLine_of_notMem (noBrace : '{' ∉ text) (noParenthesis : '(' ∉ text)
    (noEquals : '=' ∉ text) : spaceLine text = text := by
  rw [spaceLine, spaceBrace_of_notMem noBrace, spaceControls_of_notMem noParenthesis,
    spaceOperators_of_notMem noEquals]

/-- A single parenthesis after no control word stays where it is. -/
theorem spaceControls_parenthesis (noControl : endsInControlWord text = false)
    (textFree : '(' ∉ text) (restFree : '(' ∉ rest) :
    spaceControls (text ++ '(' :: rest) = text ++ '(' :: rest := by
  rw [spaceControls_append_parenthesis, noControl, spaceControls_of_notMem textFree,
    spaceControls_of_notMem restFree]
  simp

/-- Whether spacing finds nothing to do at a character. -/
def isPlain (character : Char) : Bool :=
  character != '{' && character != '(' && character != '='

theorem notMem_of_isPlain (plain : text.all isPlain = true)
    (special : isPlain character = false) : character ∉ text := by
  intro member
  have found := List.all_eq_true.mp plain character member
  rw [special] at found
  cases found

theorem isPlain_of_isNameCharacter (allowed : isNameCharacter character = true) :
    isPlain character = true :=
  of_isNameCharacter isPlain (by decide) allowed

theorem all_isPlain_of_isName (named : isName name = true) : name.all isPlain = true := by
  rw [List.all_eq_true]
  intro character member
  exact isPlain_of_isNameCharacter (isNameCharacter_of_mem named member)

/-- A property with an identifier has a plain name. -/
theorem all_isPlain_name (member : Member) :
    member.property.name.all isPlain = true :=
  MemberNames.all_of_isNameCharacter (fun _ => isPlain_of_isNameCharacter) (by decide)
    member.derived

theorem all_isPlain_append (textPlain : text.all isPlain = true)
    (restPlain : rest.all isPlain = true) : (text ++ rest).all isPlain = true := by
  rw [List.all_append, textPlain, restPlain]
  rfl

theorem notMem_append_of_isPlain (plain : text.all isPlain = true)
    (special : isPlain character = false) (restFree : character ∉ rest) :
    character ∉ text ++ rest := by
  rw [List.mem_append, not_or]
  exact ⟨notMem_of_isPlain plain special, restFree⟩

theorem notMem_append_parenthesis (textFree : character ∉ text) (differs : character ≠ '(')
    (restFree : character ∉ rest) : character ∉ text ++ '(' :: rest := by
  rw [List.mem_append, List.mem_cons, not_or, not_or]
  exact ⟨textFree, differs, restFree⟩

theorem spaceLine_of_isPlain (plain : text.all isPlain = true) : spaceLine text = text :=
  spaceLine_of_notMem (notMem_of_isPlain plain (by decide)) (notMem_of_isPlain plain (by decide))
    (notMem_of_isPlain plain (by decide))

/-- The statement that throws an error stays as it is. -/
theorem spaceLine_throw (plain : text.all isPlain = true) :
    spaceLine ("throw new Error(".toList ++ text ++ ")".toList ++ [';']) =
      "throw new Error(".toList ++ text ++ ");".toList := by
  have ended : (text ++ ");".toList).all isPlain = true :=
    all_isPlain_append plain (by decide)
  have noControl : endsInControlWord "throw new Error".toList = false := by decide
  have started : "throw new Error".toList.all isPlain = true := by decide
  have whole : "throw new Error(".toList ++ text ++ ")".toList ++ [';'] =
      "throw new Error".toList ++ '(' :: (text ++ ");".toList) := by
    repeat rw [String.toList_ofList]
    simp only [List.append_assoc, List.cons_append, List.nil_append]
  have free (character : Char) (differs : character ≠ '(') (special : isPlain character = false) :
      character ∉ "throw new Error".toList ++ '(' :: (text ++ ");".toList) :=
    notMem_append_parenthesis (notMem_of_isPlain started special) differs
      (notMem_of_isPlain ended special)
  rw [whole, spaceLine, spaceBrace_of_notMem (free '{' (by decide) (by decide)),
    spaceControls_parenthesis noControl (notMem_of_isPlain started (by decide))
      (notMem_of_isPlain ended (by decide)),
    spaceOperators_of_notMem (free '=' (by decide) (by decide)), ← whole]
  repeat rw [String.toList_ofList]
  simp only [List.append_assoc, List.cons_append, List.nil_append]

/-- The header of a method stays as it is. -/
theorem spaceLine_method (namePlain : name.all isPlain = true)
    (plain : parameters.all isPlain = true) :
    spaceLine (name ++ " (".toList ++ parameters ++ ") ".toList ++ ['{']) =
      name ++ " (".toList ++ parameters ++ ") \x7b".toList := by
  have spaced : (name ++ [' ']).all isPlain = true :=
    all_isPlain_append namePlain (by decide)
  have ended : (parameters ++ ") ".toList).all isPlain = true :=
    all_isPlain_append plain (by decide)
  have whole : name ++ " (".toList ++ parameters ++ ") ".toList ++ ['{'] =
      (name ++ [' ']) ++ '(' :: (parameters ++ [')']) ++ [' '] ++ '{' :: [] := by
    repeat rw [String.toList_ofList]
    simp only [List.append_assoc, List.cons_append, List.nil_append]
  have inner : (name ++ [' ']) ++ '(' :: (parameters ++ [')']) ++ [' '] =
      (name ++ [' ']) ++ '(' :: (parameters ++ ") ".toList) := by
    repeat rw [String.toList_ofList]
    simp only [List.append_assoc, List.cons_append, List.nil_append]
  have noBrace : '{' ∉ (name ++ [' ']) ++ '(' :: (parameters ++ [')']) ++ [' '] := by
    rw [inner]
    exact notMem_append_parenthesis (notMem_of_isPlain spaced (by decide)) (by decide)
      (notMem_of_isPlain ended (by decide))
  -- The blank in front of the parenthesis hides the name, which may end in a control word.
  have noControl : endsInControlWord (name ++ [' ']) = false := by
    rw [endsInControlWord_append_boundary (by decide)]
    decide
  have braced : spaceBrace (name ++ " (".toList ++ parameters ++ ") ".toList ++ ['{']) =
      (name ++ [' ']) ++ '(' :: (parameters ++ ") \x7b".toList) := by
    rw [whole, spaceBrace_append_brace noBrace, isBlank_space]
    simp only [if_true]
    repeat rw [String.toList_ofList]
    simp only [List.append_assoc, List.cons_append, List.nil_append]
  have noParenthesis : '(' ∉ parameters ++ ") \x7b".toList :=
    notMem_append_of_isPlain plain (by decide) (by decide)
  have noEquals : '=' ∉ (name ++ [' ']) ++ '(' :: (parameters ++ ") \x7b".toList) :=
    notMem_append_parenthesis (notMem_of_isPlain spaced (by decide)) (by decide)
      (notMem_append_of_isPlain plain (by decide) (by decide))
  rw [spaceLine, braced, spaceControls_parenthesis noControl
    (notMem_of_isPlain spaced (by decide)) noParenthesis, spaceOperators_of_notMem noEquals]
  repeat rw [String.toList_ofList]
  simp only [List.append_assoc, List.cons_append, List.nil_append]

/-- The header of a class gets a blank before its brace. -/
theorem spaceLine_class (named : isName name = true) :
    spaceLine ("class ".toList ++ name ++ ['{']) = "class ".toList ++ name ++ " \x7b".toList := by
  obtain ⟨front, last, rfl, allowed⟩ := exists_concat_of_isName named
  have plain : ("class ".toList ++ (front ++ [last])).all isPlain = true :=
    all_isPlain_append (by decide) (all_isPlain_of_isName named)
  have noBrace : '{' ∉ ("class ".toList ++ front) ++ [last] := by
    rw [List.append_assoc]
    exact notMem_of_isPlain plain (by decide)
  have braced : spaceBrace ("class ".toList ++ (front ++ [last]) ++ ['{']) =
      "class ".toList ++ (front ++ [last]) ++ " \x7b".toList := by
    rw [← List.append_assoc "class ".toList, spaceBrace_append_brace noBrace,
      isBlank_of_isNameCharacter allowed]
    simp only [Bool.false_eq_true, if_false]
    repeat rw [String.toList_ofList]
    simp only [List.append_assoc, List.cons_append, List.nil_append]
  rw [spaceLine, braced,
    spaceControls_of_notMem (notMem_append_of_isPlain plain (by decide) (by decide)),
    spaceOperators_of_notMem (notMem_append_of_isPlain plain (by decide) (by decide))]

/-! ## Assignments -/

/-- A first run of equals signs after a name is an operator if it is short and nothing after it
speaks against it. -/
theorem spaceOperators_name_operator (noEquals : '=' ∉ text) (named : isName name = true)
    (differs : character ≠ '=') (noComparison : isComparison character = false) {length : Nat}
    (short : length < longestOperator) (rest : Text) :
    spaceOperators (text ++ name ++ (List.replicate (length + 1) '=' ++ character :: rest)) =
      text ++ name ++ ' ' :: List.replicate (length + 1) '=' ++
        spaceAfterOperator (character :: rest) := by
  have nameFree := notMem_of_isPlain (all_isPlain_of_isName named) (by decide : isPlain '=' = false)
  obtain ⟨front, last, rfl, allowed⟩ := exists_concat_of_isName named
  have lastNoComparison : isComparison last = false := by
    have found := of_isNameCharacter (fun last => !isComparison last)
      (by decide) allowed
    simpa using found
  have solidLast := isBlank_of_isNameCharacter allowed
  have solid : isBlankText (text ++ front ++ [last]) = false := by simp [isBlankText, solidLast]
  have targetFree : '=' ∉ text ++ front ++ [last] := by
    rw [List.append_assoc, List.mem_append, not_or]
    exact ⟨noEquals, nameFree⟩
  rw [← List.append_assoc text, spaceOperators_append_operator targetFree solid lastNoComparison
    differs noComparison short, trimEnd_concat_of_not_isBlank solidLast]

/-- An assignment to a target that ends in a name gets blanks around its operator, if its value
needs no spacing of its own. -/
theorem spaceLine_assignment (plain : text.all isPlain = true) (named : isName name = true)
    (noBrace : '{' ∉ value) (begins : value.head? = some character) (differs : character ≠ '=')
    (noComparison : isComparison character = false) (controlled : spaceControls value = value)
    (spaced : spaceAfterOperator value = ' ' :: value) :
    spaceLine (text ++ name ++ '=' :: value) = text ++ name ++ " = ".toList ++ value := by
  obtain ⟨rest, rfl⟩ := List.head?_eq_some_iff.mp begins
  have targetPlain := all_isPlain_append plain (all_isPlain_of_isName named)
  have wholeNoBrace : '{' ∉ text ++ name ++ '=' :: character :: rest := by
    refine notMem_append_of_isPlain targetPlain (by decide) ?_
    rw [List.mem_cons, not_or]
    exact ⟨by decide, noBrace⟩
  have operated : spaceOperators (text ++ name ++ (List.replicate (0 + 1) '=' ++
      character :: rest)) = text ++ name ++ ' ' :: List.replicate (0 + 1) '=' ++
        spaceAfterOperator (character :: rest) :=
    spaceOperators_name_operator (notMem_of_isPlain plain (by decide)) named differs noComparison
      (by decide) rest
  rw [List.replicate_one, List.singleton_append, spaced] at operated
  rw [spaceLine, spaceBrace_of_notMem wholeNoBrace,
    spaceControls_append_boundary (by decide) (by decide), controlled,
    spaceControls_of_notMem (notMem_of_isPlain targetPlain (by decide)), operated]
  repeat rw [String.toList_ofList]
  simp only [List.append_assoc, List.cons_append, List.nil_append]

/-! ## Conditions -/

/-- The header of a conditional block is spaced around its condition. -/
theorem spaceLine_if (noBrace : '{' ∉ text) :
    spaceLine ("if(".toList ++ text ++ ")".toList ++ ['{']) =
      spaceOperators ("if (".toList ++ spaceControls (text ++ ") \x7b".toList)) := by
  have wholeNoBrace : '{' ∉ ("if(".toList ++ text) ++ [')'] := by
    rw [List.mem_append, List.mem_append, not_or, not_or]
    exact ⟨⟨by decide, noBrace⟩, by decide⟩
  have braced : spaceBrace ("if(".toList ++ text ++ ")".toList ++ ['{']) =
      "if".toList ++ '(' :: (text ++ ") \x7b".toList) := by
    have isSolid : isBlank ')' = false := by decide
    have spaced := spaceBrace_append_brace wholeNoBrace []
    rw [isSolid] at spaced
    simp only [Bool.false_eq_true, if_false] at spaced ⊢
    repeat rw [String.toList_ofList] at spaced
    repeat rw [String.toList_ofList]
    simp only [List.append_assoc, List.cons_append, List.nil_append] at spaced ⊢
    exact spaced
  have control : endsInControlWord "if".toList = true := by decide
  rw [spaceLine, braced, spaceControls_append_parenthesis, control,
    spaceControls_of_notMem (by decide)]
  simp only [if_true]
  repeat rw [String.toList_ofList]
  simp only [List.cons_append, List.nil_append]

theorem spaceLine_if_unset (named : isName name = true) :
    spaceLine ("if(".toList ++ ("this.".toList ++ name ++ "===null".toList) ++ ")".toList ++
      ['{']) = "if (this.".toList ++ name ++ " === null) \x7b".toList := by
  have targetPlain : ("this.".toList ++ name).all isPlain = true :=
    all_isPlain_append (by decide) (all_isPlain_of_isName named)
  have noBrace : '{' ∉ "this.".toList ++ name ++ "===null".toList :=
    notMem_append_of_isPlain targetPlain (by decide) (by decide)
  have noParenthesis :
      '(' ∉ "this.".toList ++ name ++ "===null".toList ++ ") \x7b".toList := by
    rw [List.append_assoc _ "===null".toList]
    exact notMem_append_of_isPlain targetPlain (by decide) (by decide)
  have spaced : spaceAfterOperator "null) \x7b".toList = " null) \x7b".toList := by decide
  have operated : spaceOperators ("if (this.".toList ++ name ++ (List.replicate 3 '=' ++
      'n' :: "ull) \x7b".toList)) = "if (this.".toList ++ name ++ ' ' :: List.replicate 3 '=' ++
        spaceAfterOperator ('n' :: "ull) \x7b".toList) :=
    spaceOperators_name_operator (by decide) named (by decide) (by decide) (by decide) _
  rw [spaceLine_if noBrace, spaceControls_of_notMem noParenthesis]
  simp only [String.reduceToList, List.append_assoc, List.cons_append, List.nil_append,
    List.replicate] at operated spaced ⊢
  rw [operated, spaced]

theorem spaceLine_if_set (named : isName name = true) :
    spaceLine ("if(".toList ++ ("this.".toList ++ name ++ " !== null".toList) ++ ")".toList ++
      ['{']) = "if (this.".toList ++ name ++ " !== null) \x7b".toList := by
  have targetPlain : ("this.".toList ++ name).all isPlain = true :=
    all_isPlain_append (by decide) (all_isPlain_of_isName named)
  have noBrace : '{' ∉ "this.".toList ++ name ++ " !== null".toList :=
    notMem_append_of_isPlain targetPlain (by decide) (by decide)
  have noParenthesis :
      '(' ∉ "this.".toList ++ name ++ " !== null".toList ++ ") \x7b".toList := by
    rw [List.append_assoc _ " !== null".toList]
    exact notMem_append_of_isPlain targetPlain (by decide) (by decide)
  have noEquals : '=' ∉ ("if (this.".toList ++ name ++ [' ']) ++ ['!'] := by
    rw [List.append_assoc, List.append_assoc, List.mem_append, not_or]
    exact ⟨by decide,
      notMem_append_of_isPlain (all_isPlain_of_isName named) (by decide) (by decide)⟩
  have restNoEquals : '=' ∉ ' ' :: "null) \x7b".toList := by decide
  have operated := spaceOperators_append_comparison noEquals (by decide) (by decide) 1 restNoEquals
  rw [spaceLine_if noBrace, spaceControls_of_notMem noParenthesis]
  repeat rw [String.toList_ofList] at operated
  repeat rw [String.toList_ofList]
  simp only [List.append_assoc, List.cons_append, List.nil_append, List.replicate] at operated ⊢
  exact operated

theorem spaceLine_if_rejected (named : isName name = true)
    (noControl : endsInControlWord name = false) :
    spaceLine ("if(".toList ++ ('!' :: name ++ "(value)".toList) ++ ")".toList ++ ['{']) =
      "if (!".toList ++ name ++ "(value)) \x7b".toList := by
  have plain : (['!'] ++ name).all isPlain = true :=
    all_isPlain_append (by decide) (all_isPlain_of_isName named)
  have noBrace : '{' ∉ '!' :: name ++ "(value)".toList :=
    notMem_append_of_isPlain plain (by decide) (by decide)
  -- A guard that is called like a control word would get a space before its argument.
  have markedNoControl : endsInControlWord ('!' :: name) = false := by
    rw [← List.nil_append ('!' :: name), endsInControlWord_append_boundary (by decide)]
    exact noControl
  have controlled : spaceControls ('!' :: name ++ "(value)".toList ++ ") \x7b".toList) =
      '!' :: name ++ "(value)) \x7b".toList := by
    rw [List.append_assoc _ "(value)".toList]
    have noParenthesis : '(' ∉ "value)) \x7b".toList := by decide
    exact spaceControls_parenthesis markedNoControl (notMem_of_isPlain plain (by decide))
      noParenthesis
  have noEquals : '=' ∉ "if (".toList ++ ('!' :: name ++ "(value)) \x7b".toList) := by
    rw [List.mem_append, not_or]
    exact ⟨by decide, notMem_append_of_isPlain plain (by decide) (by decide)⟩
  rw [spaceLine_if noBrace, controlled, spaceOperators_of_notMem noEquals]
  repeat rw [String.toList_ofList]
  simp only [List.cons_append, List.nil_append]

theorem spaceLine_if_foreign (named : isName name = true) :
    spaceLine ("if(".toList ++ ("object instanceof ".toList ++ name) ++ ")".toList ++ ['{']) =
      "if (object instanceof ".toList ++ name ++ ") \x7b".toList := by
  have plain : ("object instanceof ".toList ++ name).all isPlain = true :=
    all_isPlain_append (by decide) (all_isPlain_of_isName named)
  have noEquals : '=' ∉ "if (".toList ++ ("object instanceof ".toList ++ name ++
      ") \x7b".toList) := by
    rw [List.mem_append, not_or]
    exact ⟨by decide, notMem_append_of_isPlain plain (by decide) (by decide)⟩
  rw [spaceLine_if (notMem_of_isPlain plain (by decide)),
    spaceControls_of_notMem (notMem_append_of_isPlain plain (by decide) (by decide)),
    spaceOperators_of_notMem noEquals]
  repeat rw [String.toList_ofList]
  simp only [List.cons_append, List.nil_append]

end Beanwright.Layout
