import Beanwright.Proofs.Text.Solid
import Beanwright.Text.UpperCase
import Beanwright.Text.WordCharacter

/-!
# Names

A name consists of ASCII letters, digits and underscores. Joining capitalized words of such
characters makes a name.
-/

namespace Beanwright.Text

variable {character delimiter : Char} {text segment : Text}

/-- Whether a character can stand in a name. -/
def isNameCharacter (character : Char) : Bool := character.isAlphanum || character == '_'

/-- Whether a text is a name. -/
def isName (text : Text) : Bool := !text.isEmpty && text.all isNameCharacter

/-! ## Characters

There are few ASCII characters, so what holds of all of them is checked one by one. -/

theorem of_ascii (property : Char → Bool)
    (checked : ((List.range 128).all fun code => property (Char.ofNat code)) = true)
    (ascii : character.toNat < 128) : property character = true := by
  have found := List.all_eq_true.mp checked character.toNat (List.mem_range.mpr ascii)
  rwa [Char.ofNat_toNat] at found

theorem toNat_lt_of_isNameCharacter (name : isNameCharacter character = true) :
    character.toNat < 128 := by
  rw [isNameCharacter, Bool.or_eq_true, beq_iff_eq] at name
  rcases name with alphanumeric | rfl
  · delta Char.isAlphanum Char.isAlpha Char.isUpper Char.isLower Char.isDigit at alphanumeric
    simp only [Bool.or_eq_true, Bool.and_eq_true, decide_eq_true_eq, UInt32.le_iff_toNat_le,
      ge_iff_le] at alphanumeric
    have value : character.toNat = character.val.toNat := rfl
    have lastUpper : 'Z'.val.toNat = 90 := rfl
    have lastLower : 'z'.val.toNat = 122 := rfl
    have lastDigit : '9'.val.toNat = 57 := rfl
    omega
  · decide

/-- A property of all ASCII name characters is a property of all name characters. -/
theorem of_isNameCharacter (property : Char → Bool)
    (checked : ((List.range 128).all fun code =>
      !isNameCharacter (Char.ofNat code) || property (Char.ofNat code)) = true)
    (name : isNameCharacter character = true) : property character = true := by
  have found := of_ascii (fun character => !isNameCharacter character || property character)
    checked (toNat_lt_of_isNameCharacter name)
  rw [name] at found
  exact found

theorem isWordCharacter_of_isNameCharacter (name : isNameCharacter character = true) :
    isWordCharacter character = true := by
  rw [isWordCharacter, if_pos (toNat_lt_of_isNameCharacter name)]
  exact name

theorem isBlank_of_isNameCharacter (name : isNameCharacter character = true) :
    isBlank character = false := by
  have found := of_isNameCharacter (fun character => !isBlank character)
    (by decide) name
  simpa using found

/-- Words have no blanks. -/
theorem isWordCharacter_of_isBlank (blank : isBlank character = true) :
    isWordCharacter character = false := by
  -- The blank characters are few enough to go through.
  have checked : (blankRanges.all fun range => (List.range' range.1 (range.2 + 1 - range.1)).all
      fun code => !isWordCharacter (Char.ofNat code)) = true := by decide +kernel
  rw [isBlank, inRanges, List.any_eq_true] at blank
  obtain ⟨range, inRanges, between⟩ := blank
  simp only [Bool.and_eq_true, decide_eq_true_eq] at between
  have found := List.all_eq_true.mp (List.all_eq_true.mp checked range inRanges) character.toNat
    (List.mem_range'_1.mpr ⟨between.1, by omega⟩)
  simpa [Char.ofNat_toNat] using found

theorem isNameCharacter_toUpper (name : isNameCharacter character = true) :
    isNameCharacter character.toUpper = true :=
  of_isNameCharacter (fun character => isNameCharacter character.toUpper)
    (by decide) name

theorem isNameCharacter_toLower (name : isNameCharacter character = true) :
    isNameCharacter character.toLower = true :=
  of_isNameCharacter (fun character => isNameCharacter character.toLower)
    (by decide) name

theorem toLower_toUpper (ascii : character.toNat < 128) :
    character.toUpper.toLower = character.toLower := by
  have found := of_ascii (fun character => character.toUpper.toLower == character.toLower)
    (by decide) ascii
  exact beq_iff_eq.mp found

theorem isNameCharacter_of_isAlpha (letter : character.isAlpha = true) :
    isNameCharacter character = true := by
  simp [isNameCharacter, Char.isAlphanum, letter]

/-! ## Texts -/

theorem exists_cons_of_isName (name : isName text = true) :
    ∃ first others, text = first :: others ∧ isNameCharacter first = true := by
  cases text with
  | nil => cases name
  | cons first others =>
    rw [isName, List.all_cons, Bool.and_eq_true, Bool.and_eq_true] at name
    exact ⟨first, others, rfl, name.2.1⟩

theorem exists_concat_of_isName (name : isName text = true) :
    ∃ others last, text = others ++ [last] ∧ isNameCharacter last = true := by
  rw [isName, Bool.and_eq_true] at name
  rcases List.eq_nil_or_concat text with rfl | ⟨others, last, rfl⟩
  · cases name.1
  · refine ⟨others, last, List.concat_eq_append .., List.all_eq_true.mp name.2 last ?_⟩
    rw [List.concat_eq_append]
    exact List.mem_append_right others List.mem_cons_self

theorem isNameCharacter_of_mem (name : isName text = true) (member : character ∈ text) :
    isNameCharacter character = true := by
  rw [isName, Bool.and_eq_true] at name
  exact List.all_eq_true.mp name.2 character member

theorem notMem_of_isName (name : isName text = true) (special : isNameCharacter character = false) :
    character ∉ text := by
  intro member
  have := isNameCharacter_of_mem name member
  rw [special] at this
  cases this

theorem isName_lowercased (name : isName text = true) : isName (lowercased text) = true := by
  rw [isName, Bool.and_eq_true] at name ⊢
  refine ⟨by simpa [lowercased] using name.1, ?_⟩
  rw [lowercased, List.all_map, List.all_eq_true]
  intro character member
  exact isNameCharacter_toLower (List.all_eq_true.mp name.2 character member)

/-! ## Words -/

/-- A segment has characters of the text only, and no delimiter. -/
theorem mem_of_mem_segments (found : segment ∈ segments delimiter text)
    (member : character ∈ segment) : character ∈ text ∧ character ≠ delimiter := by
  induction text generalizing segment with
  | nil =>
    rw [segments_nil, List.mem_singleton] at found
    rw [found] at member
    cases member
  | cons first rest ih =>
    rw [segments] at found
    split at found
    · rcases List.mem_cons.mp found with rfl | later
      · cases member
      · have := ih later member
        exact ⟨List.mem_cons_of_mem _ this.1, this.2⟩
    · next differs =>
      split at found
      · next empty => exact absurd empty (segments_ne_nil delimiter rest)
      · next head others cut =>
        rcases List.mem_cons.mp found with rfl | later
        · rcases List.mem_cons.mp member with rfl | inHead
          · exact ⟨List.mem_cons_self, differs⟩
          · have := ih (by rw [cut]; exact List.mem_cons_self) inHead
            exact ⟨List.mem_cons_of_mem _ this.1, this.2⟩
        · have := ih (by rw [cut]; exact List.mem_cons_of_mem _ later) member
          exact ⟨List.mem_cons_of_mem _ this.1, this.2⟩

/-- A text that does not begin with the delimiter begins its first segment. -/
theorem segments_cons_of_ne (differs : character ≠ delimiter) (text : Text) :
    ∃ head others, segments delimiter (character :: text) = (character :: head) :: others := by
  rw [segments, if_neg differs]
  split <;> exact ⟨_, _, rfl⟩

/-- Cutting a text into segments loses delimiters only. -/
theorem flatten_segments (delimiter : Char) (text : Text) :
    (segments delimiter text).flatten = text.filter (· != delimiter) := by
  induction text with
  | nil => rfl
  | cons first rest ih =>
    rw [segments]
    split
    · next equal => simp [equal, ih]
    · next differs =>
      split
      · next empty => exact absurd empty (segments_ne_nil delimiter rest)
      · next head others cut =>
        rw [cut, List.flatten_cons] at ih
        simp [differs, ← ih]

theorem capitalized_cons_ascii (ascii : character.toNat < 128) (text : Text) :
    capitalized (character :: text) = character.toUpper :: text := by
  rw [capitalized_cons, upperCase_ascii ascii, List.singleton_append]

theorem head?_pascalCased (differs : character ≠ delimiter) (ascii : character.toNat < 128)
    (text : Text) :
    (pascalCased delimiter (character :: text)).head? = some character.toUpper := by
  obtain ⟨head, others, cut⟩ := segments_cons_of_ne differs text
  rw [pascalCased, cut, List.map_cons, List.flatten_cons, capitalized_cons_ascii ascii]
  rfl

/-! ## Lower case

Capital letters tell words apart once the delimiters are gone, and in lower case nothing does. -/

/-- The text without delimiters, in lower case. -/
def folded (delimiter : Char) (text : Text) : Text :=
  lowercased (text.filter (· != delimiter))

theorem lowercased_append (first second : Text) :
    lowercased (first ++ second) = lowercased first ++ lowercased second :=
  List.map_append

theorem lowercased_capitalized (ascii : ∀ character ∈ text, character.toNat < 128) :
    lowercased (capitalized text) = lowercased text := by
  cases text with
  | nil => rfl
  | cons first rest =>
    have firstAscii := ascii first List.mem_cons_self
    rw [capitalized_cons_ascii firstAscii, lowercased, lowercased, List.map_cons, List.map_cons,
      toLower_toUpper firstAscii]

/-- In lower case, capitalized and joined words are the text without delimiters. -/
theorem lowercased_pascalCased
    (ascii : ∀ character ∈ text, character ≠ delimiter → character.toNat < 128) :
    lowercased (pascalCased delimiter text) = folded delimiter text := by
  have joined (words : List Text)
      (wordsAscii : ∀ word ∈ words, ∀ character ∈ word, character.toNat < 128) :
      lowercased (words.map capitalized).flatten = lowercased words.flatten := by
    induction words with
    | nil => rfl
    | cons word rest ih =>
      rw [List.forall_mem_cons] at wordsAscii
      rw [List.map_cons, List.flatten_cons, List.flatten_cons, lowercased_append,
        lowercased_append, lowercased_capitalized wordsAscii.1, ih wordsAscii.2]
  rw [pascalCased, joined, flatten_segments, folded]
  intro word inWords character inWord
  have origin := mem_of_mem_segments inWords inWord
  exact ascii character origin.1 origin.2

/-- Words of characters with a property that upper case keeps are joined to a text of such
characters. -/
theorem of_mem_pascalCased {property : Char → Bool}
    (allowed : ∀ character ∈ text, character ≠ delimiter →
      character.toNat < 128 ∧ property character = true ∧ property character.toUpper = true)
    (member : character ∈ pascalCased delimiter text) : property character = true := by
  rw [pascalCased, List.mem_flatten] at member
  obtain ⟨word, wordMember, member⟩ := member
  obtain ⟨segment, found, rfl⟩ := List.mem_map.mp wordMember
  have allowedHere : ∀ character ∈ segment,
      character.toNat < 128 ∧ property character = true ∧ property character.toUpper = true := by
    intro character member
    have origin := mem_of_mem_segments found member
    exact allowed character origin.1 origin.2
  cases segment with
  | nil => cases member
  | cons first others =>
    obtain ⟨ascii, -, upper⟩ := allowedHere first List.mem_cons_self
    rw [capitalized_cons_ascii ascii] at member
    rcases List.mem_cons.mp member with rfl | later
    · exact upper
    · exact (allowedHere character (List.mem_cons_of_mem _ later)).2.1

/-- Capitalized and joined words of name characters are a name. -/
theorem isName_pascalCased
    (allowed : ∀ other ∈ character :: text, other ≠ delimiter → isNameCharacter other = true)
    (differs : character ≠ delimiter) :
    isName (pascalCased delimiter (character :: text)) = true := by
  have ascii := toNat_lt_of_isNameCharacter (allowed character List.mem_cons_self differs)
  have nonempty := head?_pascalCased differs ascii text
  rw [isName, Bool.and_eq_true, List.all_eq_true]
  constructor
  · cases found : pascalCased delimiter (character :: text) with
    | nil =>
      rw [found] at nonempty
      cases nonempty
    | cons first others => rfl
  · intro other member
    refine of_mem_pascalCased (fun other member differs => ?_) member
    have name := allowed other member differs
    exact ⟨toNat_lt_of_isNameCharacter name, name, isNameCharacter_toUpper name⟩

end Beanwright.Text
