import Mathlib.Data.List.Basic
import Beanwright.Identifier
import Beanwright.Proofs.Text.Words

/-!
# Which names give identifiers

A name gives an identifier if it consists of words of letters with a delimiter between them. Two
passes decide this together. Validation goes by positions and finds every character that is out of
place; building goes by words and finds the empty ones. A delimiter that is itself a letter is out
of place for building only, at an end of the name.
-/

namespace Beanwright.Identifier

open Text

variable {raw other : Text} {delimiter : Option Char} {position : Nat} {character : Char}
  {identifier : Identifier}

/-- A name consists of words of ASCII letters, none of them empty, between delimiters. -/
structure IsWordy (delimiter : Option Char) (raw : Text) : Prop where
  /-- There is a name. -/
  nonempty : raw ≠ []
  /-- It has only letters and delimiters. -/
  characters : ∀ character ∈ raw, character.isAlpha = true ∨ delimiter = some character
  /-- Cutting it at the delimiter leaves no empty word. -/
  words : ∀ separator, delimiter = some separator → [] ∉ raw.splitOn separator

/-- A character stands at a position of a name where it must not stand: it is neither an ASCII
letter nor a delimiter strictly inside. -/
structure Offends (delimiter : Option Char) (raw : Text) (position : Nat) (character : Char) :
    Prop where
  /-- The character stands there. -/
  found : raw[position]? = some character
  /-- It is no letter. -/
  notLetter : character.isAlpha = false
  /-- It is no delimiter strictly inside the name. -/
  notInside : ¬(delimiter = some character ∧ 0 < position ∧ position + 1 < raw.length)

/-! ## Validation -/

/-- Validation finds the characters that are out of place. -/
theorem mem_offenders_iff :
    (position, character) ∈ offenders raw delimiter ↔ Offends delimiter raw position character := by
  rw [offenders, List.mem_map]
  constructor
  · rintro ⟨⟨found, place⟩, member, equal⟩
    obtain ⟨rfl, rfl⟩ := Prod.mk.inj equal
    rw [List.mem_filter, List.mk_mem_zipIdx_iff_getElem?] at member
    obtain ⟨inRaw, refused⟩ := member
    simp only [allows, Bool.not_eq_true', Bool.or_eq_false_iff] at refused
    refine ⟨inRaw, refused.1, ?_⟩
    rintro ⟨rfl, positive, inside⟩
    simp [positive, inside] at refused
  · rintro ⟨found, notLetter, notInside⟩
    refine ⟨(character, position), List.mem_filter.mpr ⟨?_, ?_⟩, rfl⟩
    · exact List.mk_mem_zipIdx_iff_getElem?.mpr found
    · simp only [allows, notLetter, Bool.false_or, Bool.not_eq_true', ← Bool.not_eq_true]
      simpa [and_assoc] using notInside

/-- Validation finds them in order. -/
theorem pairwise_offenders (raw : Text) (delimiter : Option Char) :
    (offenders raw delimiter).Pairwise fun first second => first.1 < second.1 := by
  have positions : raw.zipIdx.Pairwise fun first second => first.2 < second.2 := by
    rw [← List.pairwise_map, List.zipIdx_map_snd]
    exact List.pairwise_lt_range'
  rw [offenders, List.pairwise_map]
  exact positions.filter _

/-- A name without offending characters consists of letters and delimiters. -/
theorem isAlpha_or_eq_of_offenders_eq_nil (clean : offenders raw delimiter = [])
    (member : character ∈ raw) : character.isAlpha = true ∨ delimiter = some character := by
  obtain ⟨position, bound, rfl⟩ := List.getElem_of_mem member
  by_contra neither
  rw [not_or, Bool.not_eq_true] at neither
  have offends : Offends delimiter raw position raw[position] :=
    ⟨List.getElem?_eq_getElem bound, neither.1, fun inside => neither.2 inside.1⟩
  rw [← mem_offenders_iff, clean] at offends
  cases offends

/-- Validation finds nothing in a name that consists of words: a delimiter at an end of the name
would make an empty one. -/
theorem offenders_eq_nil (wordy : IsWordy delimiter raw) : offenders raw delimiter = [] := by
  rw [List.eq_nil_iff_forall_not_mem]
  rintro ⟨position, character⟩ member
  obtain ⟨found, notLetter, notInside⟩ := mem_offenders_iff.mp member
  rcases wordy.characters character (List.mem_of_getElem? found) with letter | separates
  · rw [notLetter] at letter
    cases letter
  · exact notInside ⟨separates, inside_of_nil_notMem_splitOn (wordy.words _ separates) found⟩

/-! ## Building -/

theorem any_isEmpty_segments_eq_true_iff {separator : Char} :
    (segments separator raw).any List.isEmpty = true ↔ [] ∈ raw.splitOn separator := by
  rw [segments_eq_splitOn, List.any_eq_true]
  constructor
  · rintro ⟨word, member, empty⟩
    rwa [List.isEmpty_iff.mp empty] at member
  · exact fun member => ⟨[], member, rfl⟩

/-- Validation comes first, and then the name is cut into words. -/
theorem ofName_eq (raw : Text) (delimiter : Option Char) : ofName raw delimiter =
    if offenders raw delimiter ≠ [] then
      .error (.invalidCharacters raw (offenders raw delimiter))
    else if raw = [] then .error .empty
    else (pascalName raw delimiter).map fun pascal => ⟨raw, delimiter, some [], some pascal⟩ := by
  rw [ofName, validate]
  cases clean : offenders raw delimiter with
  | cons offender others => simp [fresh, clean]
  | nil =>
    simp only [fresh, clean, List.isEmpty_nil, if_true, build, ne_eq, not_true_eq_false, if_false,
      List.isEmpty_iff]
    split
    · rfl
    · cases pascalName raw delimiter <;> rfl

theorem pascalName_of_isWordy (wordy : IsWordy delimiter raw) :
    pascalName raw delimiter = .ok ((wordsOf delimiter raw).flatMap raised) := by
  have ascii : ∀ character ∈ raw, delimiter ≠ some character → character.toNat < 128 := by
    intro character member differs
    have letter := (wordy.characters character member).resolve_right differs
    exact toNat_lt_of_isNameCharacter (isNameCharacter_of_isAlpha letter)
  cases delimiter with
  | none =>
    have lettersAscii : ∀ character ∈ raw, character.toNat < 128 :=
      fun character member => ascii character member nofun
    rw [pascalName, capitalized_eq_raised lettersAscii, wordsOf, List.flatMap_singleton]
  | some separator =>
    have apart := wordy.words separator rfl
    rw [← any_isEmpty_segments_eq_true_iff] at apart
    rw [pascalName, if_neg apart, pascalCased_eq]
    exact fun character member differs =>
      ascii character member fun same => differs (Option.some.inj same).symm

/-- A name that consists of words gives an identifier. -/
theorem ofName_of_isWordy (wordy : IsWordy delimiter raw) : ofName raw delimiter =
    .ok ⟨raw, delimiter, some [], some ((wordsOf delimiter raw).flatMap raised)⟩ := by
  rw [ofName_eq, offenders_eq_nil wordy, if_neg (not_not.mpr rfl), if_neg wordy.nonempty,
    pascalName_of_isWordy wordy]
  rfl

/-- Any other name is refused, and validation comes first. -/
theorem ofName_of_not_isWordy (notWordy : ¬IsWordy delimiter raw) : ofName raw delimiter =
    .error (if offenders raw delimiter ≠ [] then
      .invalidCharacters raw (offenders raw delimiter)
    else if raw = [] then .empty else .emptySegment raw) := by
  rw [ofName_eq]
  split
  · rfl
  · next clean =>
    rw [not_not] at clean
    split
    · rfl
    · next nonempty =>
      -- Letters and delimiters alone do not make words, so one word is empty.
      have characters : ∀ character ∈ raw, character.isAlpha = true ∨ delimiter = some character :=
        fun character member => isAlpha_or_eq_of_offenders_eq_nil clean member
      cases delimiter with
      | none => exact absurd ⟨nonempty, characters, nofun⟩ notWordy
      | some separator =>
        have cut : [] ∈ raw.splitOn separator := by
          by_contra apart
          refine notWordy ⟨nonempty, characters, fun _ same => ?_⟩
          rwa [← Option.some.inj same]
        rw [pascalName, if_pos (any_isEmpty_segments_eq_true_iff.mpr cut)]
        rfl

theorem isWordy_of_ofName (built : ofName raw delimiter = .ok identifier) :
    IsWordy delimiter raw := by
  by_contra notWordy
  rw [ofName_of_not_isWordy notWordy] at built
  cases built

/-! ## The derived names -/

namespace IsWordy

variable (wordy : IsWordy delimiter raw)

include wordy

/-- Words have letters only. -/
theorem isAlpha_of_mem_word {word : Text} (found : word ∈ wordsOf delimiter raw)
    (member : character ∈ word) : character.isAlpha = true := by
  have origin := mem_of_mem_wordsOf found member
  exact (wordy.characters character origin.1).resolve_right origin.2

theorem isAlpha_of_mem_pascal (member : character ∈ (wordsOf delimiter raw).flatMap raised) :
    character.isAlpha = true := by
  obtain ⟨word, found, inWord⟩ := List.mem_flatMap.mp member
  apply of_mem_raised _ inWord
  intro letter inWord
  have isLetter := wordy.isAlpha_of_mem_word found inWord
  refine ⟨isLetter, ?_⟩
  have upper := of_isNameCharacter
    (fun character => !character.isAlpha || character.toUpper.isAlpha) (by decide)
    (isNameCharacter_of_isAlpha isLetter)
  rwa [isLetter] at upper

theorem exists_first_word : ∃ first rest words,
    wordsOf delimiter raw = (first :: rest) :: words := by
  cases delimiter with
  | none =>
    obtain ⟨first, rest, rfl⟩ := List.exists_cons_of_ne_nil wordy.nonempty
    exact ⟨first, rest, [], rfl⟩
  | some separator =>
    obtain ⟨word, words, cut⟩ := List.exists_cons_of_ne_nil (List.splitOn_ne_nil separator raw)
    have apart := wordy.words separator rfl
    rw [cut, List.mem_cons, not_or] at apart
    obtain ⟨first, rest, rfl⟩ := List.exists_cons_of_ne_nil (Ne.symm apart.1)
    exact ⟨first, rest, words, cut⟩

/-- The joined words begin with a capital letter. -/
theorem exists_isUpper : ∃ first rest,
    (wordsOf delimiter raw).flatMap raised = first :: rest ∧ first.isUpper = true := by
  obtain ⟨first, rest, words, cut⟩ := wordy.exists_first_word
  have letter : first.isAlpha = true :=
    wordy.isAlpha_of_mem_word (cut ▸ List.mem_cons_self) List.mem_cons_self
  have upper := of_isNameCharacter
    (fun character => !character.isAlpha || character.toUpper.isUpper) (by decide)
    (isNameCharacter_of_isAlpha letter)
  rw [letter] at upper
  exact ⟨first.toUpper, rest ++ words.flatMap raised, by rw [cut]; rfl, upper⟩

theorem lowercased_pascal : lowercased ((wordsOf delimiter raw).flatMap raised) =
    lowercased (bare delimiter raw) := by
  rw [lowercased_flatMap_raised, flatten_wordsOf]
  intro word found character member
  exact toNat_lt_of_isNameCharacter
    (isNameCharacter_of_isAlpha (wordy.isAlpha_of_mem_word found member))

end IsWordy

theorem read_field (built : ofName raw delimiter = .ok identifier) :
    identifier.read .field = .ok ("__".toList ++ lowercased (bare delimiter raw)) := by
  have wordy := isWordy_of_ofName built
  rw [ofName_of_isWordy wordy] at built
  cases built
  rw [← wordy.lowercased_pascal]
  rfl

/-- Names that consist of words of letters give identifiers, and no others do. A name is refused for
all its characters that are out of place, in order, or else for being empty, or else for an empty
word. The pascal name of an identifier has letters only and begins with a capital letter; it is the
name without its delimiters, with the first letter of each word in upper case. The backing field
shows neither delimiters nor case, so two names have the same field exactly if they differ in
nothing else. -/
theorem ofName_exact (raw : Text) (delimiter : Option Char) :
    ((∃ identifier, ofName raw delimiter = .ok identifier) ↔ IsWordy delimiter raw) ∧
    (∀ cause, ofName raw delimiter = .error cause → ∃ found : List (Nat × Char),
      found.Pairwise (fun first second => first.1 < second.1) ∧
      (∀ position character,
        (position, character) ∈ found ↔ Offends delimiter raw position character) ∧
      cause = if found ≠ [] then .invalidCharacters raw found
        else if raw = [] then .empty else .emptySegment raw) ∧
    (∀ identifier, ofName raw delimiter = .ok identifier →
      ∃ pascal, identifier.read .pascal = .ok pascal ∧
        (∀ character ∈ pascal, character.isAlpha = true) ∧
        (∃ first rest, pascal = first :: rest ∧ first.isUpper = true) ∧
        pascal = (wordsOf delimiter raw).flatMap raised ∧
        (wordsOf delimiter raw).flatten = bare delimiter raw ∧
        identifier.read .field = .ok ("__".toList ++ lowercased (bare delimiter raw))) ∧
    ∀ other first second, ofName raw delimiter = .ok first → ofName other delimiter = .ok second →
      (first.read .field = second.read .field ↔
        lowercased (bare delimiter raw) = lowercased (bare delimiter other)) := by
  refine ⟨⟨?_, ?_⟩, ?_, ?_, ?_⟩
  · rintro ⟨identifier, built⟩
    exact isWordy_of_ofName built
  · exact fun wordy => ⟨_, ofName_of_isWordy wordy⟩
  · intro cause refused
    have notWordy : ¬IsWordy delimiter raw := by
      intro wordy
      rw [ofName_of_isWordy wordy] at refused
      cases refused
    rw [ofName_of_not_isWordy notWordy] at refused
    exact ⟨offenders raw delimiter, pairwise_offenders raw delimiter,
      fun position character => mem_offenders_iff, (Except.error.inj refused).symm⟩
  · intro identifier built
    have wordy := isWordy_of_ofName built
    have field := read_field built
    rw [ofName_of_isWordy wordy] at built
    cases built
    exact ⟨_, rfl, fun _ => wordy.isAlpha_of_mem_pascal, wordy.exists_isUpper, rfl,
      flatten_wordsOf delimiter raw, field⟩
  · intro other first second firstBuilt secondBuilt
    rw [read_field firstBuilt, read_field secondBuilt, Except.ok.injEq, List.append_cancel_left_eq]

/-- A letter can separate words, and where it stands makes no difference to the field. -/
theorem ofName_exact_sample : ∃ first second,
    ofName "barnacle".toList (some 'n') = .ok first ∧
    ofName "bnaRAcle".toList (some 'n') = .ok second ∧
    first.read .field = second.read .field := by
  obtain ⟨-, -, -, sameField⟩ := ofName_exact "barnacle".toList (some 'n')
  exact ⟨_, _, rfl, rfl, (sameField "bnaRAcle".toList _ _ rfl rfl).mpr (by decide)⟩

end Beanwright.Identifier
