import Beanwright.Proofs.Text.Name

/-!
# Words

The words of a text are its pieces between the occurrences of a delimiter. Putting capitalized words
together changes nothing but their first letters, and if all letters are ASCII, it changes them one
by one.
-/

namespace Beanwright.Text

variable {character delimiter : Char} {text word : Text} {words : List Text}

/-- The pieces of a text between delimiters, as the standard library cuts it. -/
theorem segments_eq_splitOn (delimiter : Char) (text : Text) :
    segments delimiter text = text.splitOn delimiter := by
  induction text with
  | nil => rfl
  | cons first rest ih =>
    rw [segments, List.splitOn_cons_eq_if_modifyHead, ← ih]
    simp only [beq_iff_eq]
    split
    · rfl
    · cases found : segments delimiter rest with
      | nil => exact absurd found (segments_ne_nil delimiter rest)
      | cons head others => rfl

/-! ## Raised words -/

/-- A word with its first letter in upper case. -/
def raised (word : Text) : Text := word.modifyHead Char.toUpper

theorem capitalized_eq_raised (ascii : ∀ character ∈ word, character.toNat < 128) :
    capitalized word = raised word := by
  cases word with
  | nil => rfl
  | cons first rest => exact capitalized_cons_ascii (ascii first List.mem_cons_self) rest

theorem of_mem_raised {property : Char → Prop}
    (allowed : ∀ character ∈ word, property character ∧ property character.toUpper)
    (member : character ∈ raised word) : property character := by
  cases word with
  | nil => cases member
  | cons first rest =>
    rcases List.mem_cons.mp member with rfl | later
    · exact (allowed first List.mem_cons_self).2
    · exact (allowed character (List.mem_cons_of_mem _ later)).1

theorem lowercased_raised (ascii : ∀ character ∈ word, character.toNat < 128) :
    lowercased (raised word) = lowercased word := by
  rw [← capitalized_eq_raised ascii, lowercased_capitalized ascii]

theorem lowercased_flatMap_raised
    (ascii : ∀ word ∈ words, ∀ character ∈ word, character.toNat < 128) :
    lowercased (words.flatMap raised) = lowercased words.flatten := by
  induction words with
  | nil => rfl
  | cons word rest ih =>
    rw [List.forall_mem_cons] at ascii
    rw [List.flatMap_cons, List.flatten_cons, lowercased_append, lowercased_append,
      lowercased_raised ascii.1, ih ascii.2]

/-! ## The words of a text -/

/-- The words of a text. Without a delimiter the text is one word. -/
def wordsOf (delimiter : Option Char) (text : Text) : List Text :=
  match delimiter with
  | none => [text]
  | some delimiter => text.splitOn delimiter

/-- The text without its delimiters. -/
def bare (delimiter : Option Char) (text : Text) : Text :=
  text.filter fun character => delimiter != some character

/-- The words hold all of the text but the delimiters. -/
theorem flatten_wordsOf (delimiter : Option Char) (text : Text) :
    (wordsOf delimiter text).flatten = bare delimiter text := by
  cases delimiter with
  | none =>
    have kept : bare none text = text := List.filter_eq_self.mpr fun _ _ => rfl
    rw [wordsOf, kept, List.flatten_singleton]
  | some delimiter =>
    rw [wordsOf, ← segments_eq_splitOn, flatten_segments, bare]
    congr 1
    funext character
    simp [bne, eq_comm, Bool.beq_eq_decide_eq]

theorem mem_of_mem_wordsOf {delimiter : Option Char} (found : word ∈ wordsOf delimiter text)
    (member : character ∈ word) : character ∈ text ∧ delimiter ≠ some character := by
  have inWords : character ∈ (wordsOf delimiter text).flatten :=
    List.mem_flatten.mpr ⟨word, found, member⟩
  rw [flatten_wordsOf, bare, List.mem_filter, bne_iff_ne] at inWords
  exact inWords

/-- Capitalized and joined words are raised words put together. -/
theorem pascalCased_eq
    (ascii : ∀ character ∈ text, character ≠ delimiter → character.toNat < 128) :
    pascalCased delimiter text = (wordsOf (some delimiter) text).flatMap raised := by
  have sameWords : (segments delimiter text).map capitalized =
      (segments delimiter text).map raised := by
    refine List.map_congr_left fun word found => capitalized_eq_raised fun character member => ?_
    have origin := mem_of_mem_segments found member
    exact ascii character origin.1 origin.2
  rw [pascalCased, sameWords, segments_eq_splitOn, wordsOf, List.flatMap]

/-- A delimiter at an end of a text makes an empty word. -/
theorem inside_of_nil_notMem_splitOn {position : Nat} (apart : [] ∉ text.splitOn delimiter)
    (found : text[position]? = some delimiter) : 0 < position ∧ position + 1 < text.length := by
  obtain ⟨bound, equal⟩ := List.getElem?_eq_some_iff.mp found
  have cut : text = text.take position ++ delimiter :: text.drop (position + 1) := by
    rw [← equal, ← List.drop_eq_getElem_cons bound, List.take_append_drop]
  rw [cut, List.splitOn_append_cons_self, List.mem_append, not_or] at apart
  constructor
  · rw [Nat.pos_iff_ne_zero]
    rintro rfl
    exact apart.1 List.mem_cons_self
  · rw [← Nat.not_le]
    intro last
    rw [List.drop_eq_nil_of_le last] at apart
    exact apart.2 List.mem_cons_self

end Beanwright.Text
