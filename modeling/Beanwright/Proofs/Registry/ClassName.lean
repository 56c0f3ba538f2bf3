import Beanwright.Proofs.Registry.Reachable

/-!
# The class name

A registry accepts a class name that is made of words with hyphens between them. It stores the words
without the hyphens, each with its first letter in upper case; a word that begins with a digit or an
underscore has no such letter and stays as it is. What is stored is an identifier, and an identifier
is a single word that stays as it is too, so that storing it again changes nothing.
-/

namespace Beanwright.Registry

open Text

variable {registry : Registry} {raw name : Text} {words : List Text}

/-- A text is made of words with hyphens between them. A word has ASCII letters, digits and
underscores, at least one of them, and the first word does not begin with a digit. -/
structure Hyphenated (words : List Text) (raw : Text) : Prop where
  /-- There are words. -/
  someWords : words ≠ []
  /-- No word is empty. -/
  nonempty : ∀ word ∈ words, word ≠ []
  /-- What a word consists of. -/
  characters : ∀ word ∈ words, ∀ character ∈ word,
    character.isAlpha = true ∨ character.isDigit = true ∨ character = '_'
  /-- The words are put together with hyphens. -/
  joined : raw = ['-'].intercalate words
  /-- The text does not begin with a digit. -/
  begins : ∀ first, raw.head? = some first → first.isDigit = false

theorem isNameCharacter_iff {character : Char} : isNameCharacter character = true ↔
    character.isAlpha = true ∨ character.isDigit = true ∨ character = '_' := by
  rw [isNameCharacter, Char.isAlphanum, Bool.or_eq_true, Bool.or_eq_true, beq_iff_eq, or_assoc]

namespace Hyphenated

theorem isNameCharacter (hyphenated : Hyphenated words raw) {word : Text} (found : word ∈ words)
    {character : Char} (member : character ∈ word) : Text.isNameCharacter character = true :=
  isNameCharacter_iff.mpr (hyphenated.characters word found character member)

/-- Cutting the text at its hyphens gives the words back. -/
theorem splitOn_eq (hyphenated : Hyphenated words raw) : raw.splitOn '-' = words := by
  rw [hyphenated.joined]
  apply List.splitOn_intercalate '-' _ hyphenated.someWords
  intro word found hyphen
  exact absurd (hyphenated.isNameCharacter found hyphen) (by decide)

/-- Every character of the text is a hyphen or stands in a word. -/
theorem isNameCharacter_of_ne (hyphenated : Hyphenated words raw) {character : Char}
    (member : character ∈ raw) (differs : character ≠ '-') :
    Text.isNameCharacter character = true := by
  have inWords : character ∈ (raw.splitOn '-').flatten := by
    rw [← segments_eq_splitOn, flatten_segments, List.mem_filter, bne_iff_ne]
    exact ⟨member, differs⟩
  rw [hyphenated.splitOn_eq, List.mem_flatten] at inWords
  obtain ⟨word, found, inWord⟩ := inWords
  exact hyphenated.isNameCharacter found inWord

theorem raw_ne_nil (hyphenated : Hyphenated words raw) : raw ≠ [] := by
  rintro rfl
  have cut : words = [[]] := hyphenated.splitOn_eq.symm
  exact hyphenated.nonempty [] (cut ▸ List.mem_cons_self) rfl

/-- The stored name is made of the words. -/
theorem pascalCased_eq (hyphenated : Hyphenated words raw) :
    pascalCased classNameDelimiter raw = words.flatMap raised := by
  rw [Text.pascalCased_eq, wordsOf, classNameDelimiter, hyphenated.splitOn_eq]
  exact fun character member differs =>
    toNat_lt_of_isNameCharacter (hyphenated.isNameCharacter_of_ne member differs)

end Hyphenated

/-- The accepted class names are the hyphenated ones. -/
theorem isClassName_iff : isClassName raw = true ↔ ∃ words, Hyphenated words raw := by
  constructor
  · intro accepted
    cases raw with
    | nil => cases accepted
    | cons first rest =>
      rw [isClassName, Bool.and_eq_true, Bool.and_eq_true, Bool.not_eq_true',
        segments_eq_splitOn] at accepted
      obtain ⟨⟨notDigit, characters⟩, wordsNonempty⟩ := accepted
      rw [List.all_eq_true] at characters wordsNonempty
      refine ⟨(first :: rest).splitOn '-', List.splitOn_ne_nil _ _, ?_, ?_, ?_, ?_⟩
      · intro word found
        simpa using wordsNonempty word found
      · intro word found character member
        rw [← segments_eq_splitOn] at found
        have origin := mem_of_mem_segments found member
        have allowed := characters character origin.1
        rw [isClassNameCharacter, Bool.or_eq_true, beq_iff_eq] at allowed
        exact isNameCharacter_iff.mp (allowed.resolve_right origin.2)
      · exact (List.intercalate_splitOn '-').symm
      · intro head begins
        rw [← Option.some.inj begins]
        exact notDigit
  · rintro ⟨words, hyphenated⟩
    have nonempty := hyphenated.raw_ne_nil
    cases raw with
    | nil => exact absurd rfl nonempty
    | cons first rest =>
      rw [isClassName, Bool.and_eq_true, Bool.and_eq_true, Bool.not_eq_true', segments_eq_splitOn,
        classNameDelimiter, hyphenated.splitOn_eq, List.all_eq_true, List.all_eq_true]
      refine ⟨⟨hyphenated.begins first rfl, ?_⟩, ?_⟩
      · intro character member
        rw [isClassNameCharacter, Bool.or_eq_true, beq_iff_eq]
        by_cases hyphen : character = '-'
        · exact .inr hyphen
        · exact .inl (hyphenated.isNameCharacter_of_ne member hyphen)
      · intro word found
        simpa using hyphenated.nonempty word found

theorem setName_of_hyphenated (hyphenated : Hyphenated words raw) (registry : Registry) :
    registry.setName raw = .ok { registry with className := some (words.flatMap raised) } := by
  rw [setName, if_pos (isClassName_iff.mpr ⟨words, hyphenated⟩), hyphenated.pascalCased_eq]

theorem setName_of_not_hyphenated (notHyphenated : ¬∃ words, Hyphenated words raw)
    (registry : Registry) : registry.setName raw = .error (.invalidClassName raw) := by
  rw [setName, if_neg fun accepted => notHyphenated (isClassName_iff.mp accepted)]

/-! ## Storing a name again -/

/-- An identifier does not begin with a digit or a lower-case letter, and its first character has no
other upper-case form. -/
theorem exists_cons_of_isClassIdentifier (identifier : isClassIdentifier name = true) :
    ∃ first rest, name = first :: rest ∧ first.isDigit = false ∧ first.isLower = false ∧
      first.toUpper = first := by
  have isName := isName_of_isClassIdentifier identifier
  obtain ⟨first, rest, rfl, firstName⟩ := exists_cons_of_isName isName
  have checked := of_isNameCharacter
    (fun character => !(character.isUpper || character == '_') ||
      (!character.isDigit && (!character.isLower && character.toUpper == character)))
    (by decide) firstName
  rw [isClassIdentifier, Bool.and_eq_true] at identifier
  have capital : (first.isUpper || first == '_') = true := identifier.2
  rw [capital, Bool.not_true, Bool.false_or, Bool.and_eq_true, Bool.and_eq_true,
    Bool.not_eq_true', Bool.not_eq_true', beq_iff_eq] at checked
  exact ⟨first, rest, rfl, checked⟩

/-- An identifier is a single word. -/
theorem hyphenated_of_isClassIdentifier (identifier : isClassIdentifier name = true) :
    Hyphenated [name] name := by
  have isName := isName_of_isClassIdentifier identifier
  obtain ⟨first, rest, rfl, notDigit, -⟩ := exists_cons_of_isClassIdentifier identifier
  refine ⟨List.cons_ne_nil _ _, ?_, ?_, ?_, ?_⟩
  · exact List.forall_mem_singleton.mpr (List.cons_ne_nil _ _)
  · rw [List.forall_mem_singleton]
    exact fun character member => isNameCharacter_iff.mp (isNameCharacter_of_mem isName member)
  · exact (List.intercalate_singleton ..).symm
  · intro head begins
    rw [← Option.some.inj begins]
    exact notDigit

/-- An identifier is stored as it is. -/
theorem setName_of_isClassIdentifier (identifier : isClassIdentifier name = true)
    (registry : Registry) :
    registry.setName name = .ok { registry with className := some name } := by
  have same : raised name = name := by
    obtain ⟨first, rest, rfl, -, -, capital⟩ := exists_cons_of_isClassIdentifier identifier
    rw [raised, List.modifyHead_cons, capital]
  rw [setName_of_hyphenated (hyphenated_of_isClassIdentifier identifier), List.flatMap_singleton,
    same]

/-- A registry accepts the hyphenated class names and no others. What it stores is an identifier:
the name without its hyphens, with the first letter of each word in upper case. Storing that again
changes nothing. A refusal tells the name that was refused and keeps the name that was set
before. -/
theorem setName_exact (registry : Registry) (raw : Text) :
    (Succeeds (registry.setName raw) ↔ ∃ words, Hyphenated words raw) ∧
    (∀ changed, registry.setName raw = .ok changed → ∃ name,
      changed = { registry with className := some name } ∧ changed.name = .ok name ∧
        isClassIdentifier name = true ∧
        (∃ words, Hyphenated words raw ∧ words.flatten = bare (some '-') raw ∧
          name = words.flatMap raised) ∧
        changed.setName name = .ok changed) ∧
    ∀ cause, registry.setName raw = .error cause →
      cause = .invalidClassName raw ∧ registry.attempt (.setName raw) = registry := by
  by_cases accepted : ∃ words, Hyphenated words raw
  · have isAccepted := isClassName_iff.mpr accepted
    obtain ⟨words, hyphenated⟩ := accepted
    have stored := setName_of_hyphenated hyphenated registry
    have identifier := isClassIdentifier_of_isClassName isAccepted
    rw [hyphenated.pascalCased_eq] at identifier
    have withoutHyphens := flatten_wordsOf (some '-') raw
    rw [wordsOf, hyphenated.splitOn_eq] at withoutHyphens
    rw [stored]
    refine ⟨iff_of_true ⟨_, rfl⟩ ⟨words, hyphenated⟩, ?_, by rintro cause ⟨⟩⟩
    rintro changed ⟨⟩
    exact ⟨_, rfl, rfl, identifier, ⟨words, hyphenated, withoutHyphens, rfl⟩,
      setName_of_isClassIdentifier identifier _⟩
  · have refused := setName_of_not_hyphenated accepted registry
    rw [refused]
    refine ⟨iff_of_false (by rintro ⟨_, ⟨⟩⟩) accepted, by rintro changed ⟨⟩, ?_⟩
    rintro cause ⟨⟩
    exact ⟨rfl, by rw [attempt, perform, refused]⟩

/-- A later word can begin with a digit, and what is stored for it is stored again. -/
theorem setName_exact_sample :
    setName "_my-2nd-bean".toList empty = .ok (withoutProperties (some "_my2ndBean".toList)) ∧
    setName "_my2ndBean".toList (withoutProperties (some "_my2ndBean".toList)) =
      .ok (withoutProperties (some "_my2ndBean".toList)) ∧
    attempt (withoutProperties (some "_my2ndBean".toList)) (.setName "2nd-bean".toList) =
      withoutProperties (some "_my2ndBean".toList) := by
  have stored : setName "_my-2nd-bean".toList empty =
      .ok (withoutProperties (some "_my2ndBean".toList)) := rfl
  have refused : setName "2nd-bean".toList (withoutProperties (some "_my2ndBean".toList)) =
      .error (.invalidClassName "2nd-bean".toList) := rfl
  obtain ⟨name, changed, -, -, -, again⟩ := (setName_exact _ _).2.1 _ stored
  obtain rfl : "_my2ndBean".toList = name := Option.some.inj (congrArg className changed)
  exact ⟨stored, again, ((setName_exact _ _).2.2 _ refused).2⟩

end Beanwright.Registry
