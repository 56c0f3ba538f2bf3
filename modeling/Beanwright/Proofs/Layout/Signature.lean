import Mathlib.Data.List.Forall2
import Beanwright.Proofs.Layout.Respacing
import Beanwright.Proofs.Layout.Solid

/-!
# The signature under respacing

The first occurrence of a word is found at the same place however the gaps of a line change, as no
gap opens or closes inside a word. So the line that is found to hold the signature is the same
before and after the other rules, and the one space that stands in it stays.
-/

namespace Beanwright.Layout

open Text

variable {left right : Option Char} {character letter : Char} {inside : Bool}
  {blanks changed source target word text rest before after line : Text}

/-! ## Letters -/

theorem isBlank_of_isWordCharacter (isLetter : isWordCharacter letter = true) :
    isBlank letter = false := by
  cases blank : isBlank letter with
  | false => rfl
  | true =>
    rw [isWordCharacter_of_isBlank blank] at isLetter
    cases isLetter

/-- After a letter, a line goes on with another letter on both sides of a respacing or on none. -/
theorem Respaced.goesOn {previous : Char} (respaced : Respaced right (some previous) source target)
    (previousLetter : isWordCharacter previous = true) (isLetter : isWordCharacter letter = true) :
    (∃ source' target', source = letter :: source' ∧ target = letter :: target' ∧
      Respaced right (some letter) source' target') ∨
      (source.head? ≠ some letter ∧ target.head? ≠ some letter) := by
  have isSolid := isBlank_of_isWordCharacter isLetter
  by_cases starts : source.head? = some letter
  · left
    cases respaced with
    | blanks blank change =>
      rw [List.all_eq_true.mp blank letter (List.mem_of_mem_head? starts)] at isSolid
      cases isSolid
    | solid blank _ change later =>
      obtain ⟨rfl, rfl⟩ := eq_nil_of_head?_append blank isSolid starts
      rw [(change.eq_nil_iff previousLetter isLetter).mpr rfl]
      exact ⟨_, _, rfl, rfl, later⟩
  · exact .inr ⟨starts, respaced.head?_ne isSolid starts⟩

theorem beginsWithWordCharacter_iff : beginsWithWordCharacter text = true ↔
    ∃ letter, text.head? = some letter ∧ isWordCharacter letter = true := by
  cases text <;> simp [beginsWithWordCharacter]

theorem Respaced.beginsWithWordCharacter {previous : Char}
    (respaced : Respaced right (some previous) source target)
    (previousLetter : isWordCharacter previous = true) :
    beginsWithWordCharacter target = beginsWithWordCharacter source := by
  rw [Bool.eq_iff_iff, beginsWithWordCharacter_iff, beginsWithWordCharacter_iff]
  apply exists_congr
  intro letter
  apply and_congr_left
  intro isLetter
  rcases respaced.goesOn previousLetter isLetter with ⟨_, _, rfl, rfl, -⟩ | ⟨stops, stops'⟩
  · rfl
  · exact iff_of_false stops' stops

/-! ## Words -/

/-- A word consists of letters, at least one. -/
structure IsWord (word : Text) : Prop where
  /-- All characters are letters. -/
  letters : ∀ letter ∈ word, isWordCharacter letter = true
  /-- There is one. -/
  nonempty : word ≠ []

/-- What follows a word on both sides of a respacing. -/
def RespacedAfterLetter (right : Option Char) (source target : Text) : Prop :=
  ∃ letter, isWordCharacter letter = true ∧ Respaced right (some letter) source target

theorem without?_respaced (letters : ∀ letter ∈ word, isWordCharacter letter = true)
    {previous : Char} (previousLetter : isWordCharacter previous = true)
    (respaced : Respaced right (some previous) source target) :
    Option.Rel (RespacedAfterLetter right) (without? word source) (without? word target) := by
  induction word generalizing previous source target with
  | nil => exact .some ⟨previous, previousLetter, respaced⟩
  | cons letter others ih =>
    rw [List.forall_mem_cons] at letters
    rcases respaced.goesOn previousLetter letters.1 with ⟨_, _, rfl, rfl, later⟩ | ⟨stops, stops'⟩
    · rw [without?, without?, if_pos rfl, if_pos rfl]
      exact ih letters.2 letters.1 later
    · have notFound {text : Text} (stops : text.head? ≠ some letter) :
          without? (letter :: others) text = none := by
        cases text with
        | nil => rfl
        | cons first rest => exact if_neg fun same => stops (congrArg some same)
      rw [notFound stops, notFound stops']
      exact .none

theorem wordAtStart?_respaced (isWord : IsWord word)
    (respaced : Respaced right (some character) source target) :
    Option.Rel (RespacedAfterLetter right) (wordAtStart? word (character :: source))
      (wordAtStart? word (character :: target)) := by
  obtain ⟨letter, others, rfl⟩ := List.exists_cons_of_ne_nil isWord.nonempty
  have letters := List.forall_mem_cons.mp isWord.letters
  rw [wordAtStart?, wordAtStart?, without?, without?]
  by_cases same : character = letter
  · subst same
    have rests := without?_respaced letters.2 letters.1 respaced
    rw [if_pos rfl, if_pos rfl]
    generalize without? others source = found, without? others target = found' at rests
    cases rests with
    | none => exact .none
    | some after =>
      obtain ⟨last, lastLetter, respaced⟩ := after
      dsimp only
      rw [respaced.beginsWithWordCharacter lastLetter]
      split
      · exact .none
      · exact .some ⟨last, lastLetter, respaced⟩
  · rw [if_neg same, if_neg same]
    exact .none

theorem wordAtStart?_eq_none_of_boundary (isWord : IsWord word)
    (boundary : isWordCharacter character = false) (rest : Text) :
    wordAtStart? word (character :: rest) = none := by
  obtain ⟨letter, others, rfl⟩ := List.exists_cons_of_ne_nil isWord.nonempty
  have differs : character ≠ letter := by
    rintro rfl
    rw [isWord.letters character List.mem_cons_self] at boundary
    cases boundary
  rw [wordAtStart?, without?, if_neg differs]

/-! ## Cuts -/

/-- Cuts of both sides of a respacing after the same word. -/
def RespacedCut (right : Option Char) (cut cut' : Text × Text) : Prop :=
  RespacedAfterLetter right cut.2 cut'.2

/-- A cut is at the start of the text or in the rest of it. -/
theorem cutAfterWord?_cons (word : Text) (inside : Bool) (character : Char) (rest : Text) :
    cutAfterWord? word inside (character :: rest) =
      ((if inside then none else wordAtStart? word (character :: rest)).map (word, ·)).or
        ((cutAfterWord? word (isWordCharacter character) rest).map
          (Prod.map (character :: ·) id)) := by
  rw [cutAfterWord?]
  split
  · next found => rw [found]; rfl
  · next found =>
    rw [found]
    cases cutAfterWord? word (isWordCharacter character) rest <;> rfl

/-- A cut behind blanks is a cut behind a gap. -/
theorem cutAfterWord?_blanks (isWord : IsWord word) (inside : Bool)
    (blank : isBlankText blanks = true) (rest : Text) :
    cutAfterWord? word inside (blanks ++ rest) =
      (cutAfterWord? word (inside && blanks.isEmpty) rest).map (Prod.map (blanks ++ ·) id) := by
  induction blanks generalizing inside with
  | nil =>
    rw [List.isEmpty_nil, Bool.and_true, List.nil_append]
    cases cutAfterWord? word inside rest <;> rfl
  | cons first others ih =>
    rw [isBlankText, List.all_cons, Bool.and_eq_true] at blank
    have boundary := isWordCharacter_of_isBlank blank.1
    rw [List.cons_append, cutAfterWord?_cons,
      wordAtStart?_eq_none_of_boundary isWord boundary, ite_self, boundary,
      ih false blank.2, List.isEmpty_cons, Bool.false_and, Bool.and_false, Option.map_map]
    rfl

/-- A word is looked for on both sides of a respacing or on none, wherever one can begin. -/
theorem GapChange.inside_eq (change : GapChange left (some letter) blanks changed)
    (isLetter : isWordCharacter letter = true) :
    (left.any isWordCharacter && changed.isEmpty) =
      (left.any isWordCharacter && blanks.isEmpty) := by
  cases left with
  | none => rfl
  | some previous =>
    rw [Option.any_some]
    cases previousLetter : isWordCharacter previous with
    | false => rfl
    | true =>
      rw [Bool.true_and, Bool.true_and, Bool.eq_iff_iff, List.isEmpty_iff, List.isEmpty_iff]
      exact change.eq_nil_iff previousLetter isLetter

/-- Whether a word begins at the first solid character after a gap, on both sides of a respacing. -/
theorem GapChange.wordAtStart?_respaced (change : GapChange left (some character) blanks changed)
    (isWord : IsWord word) (later : Respaced right (some character) source target) :
    Option.Rel (RespacedAfterLetter right)
      (if left.any isWordCharacter && blanks.isEmpty then none
        else wordAtStart? word (character :: source))
      (if left.any isWordCharacter && changed.isEmpty then none
        else wordAtStart? word (character :: target)) := by
  cases isLetter : isWordCharacter character with
  | false =>
    rw [wordAtStart?_eq_none_of_boundary isWord isLetter, ite_self,
      wordAtStart?_eq_none_of_boundary isWord isLetter, ite_self]
    exact .none
  | true =>
    rw [change.inside_eq isLetter]
    split
    · exact .none
    · exact Layout.wordAtStart?_respaced isWord later

/-- What stands before a word does not matter for what stands after it. -/
theorem rel_cuts {start start' : Option Text} {later later' : Option (Text × Text)}
    (starts : Option.Rel (RespacedAfterLetter right) start start')
    (laters : Option.Rel (RespacedCut right) later later') :
    Option.Rel (RespacedCut right)
      (((start.map (word, ·)).or (later.map (Prod.map (character :: ·) id))).map
        (Prod.map (blanks ++ ·) id))
      (((start'.map (word, ·)).or (later'.map (Prod.map (character :: ·) id))).map
        (Prod.map (changed ++ ·) id)) := by
  cases starts with
  | some after => exact .some after
  | none =>
    cases laters with
    | none => exact .none
    | some after => exact .some after

/-- A respaced line is cut after the same word. -/
theorem cutAfterWord?_respaced (isWord : IsWord word)
    (respaced : Respaced right left source target) :
    Option.Rel (RespacedCut right) (cutAfterWord? word (left.any isWordCharacter) source)
      (cutAfterWord? word (left.any isWordCharacter) target) := by
  induction respaced with
  | blanks blank change =>
    have notFound {text : Text} (blank : isBlankText text = true) (inside : Bool) :
        cutAfterWord? word inside text = none := by
      rw [← List.append_nil text, cutAfterWord?_blanks isWord inside blank]
      rfl
    rw [notFound blank, notFound (change.isBlankText blank)]
    exact .none
  | solid blank _ change later ih =>
    rw [cutAfterWord?_blanks isWord _ blank,
      cutAfterWord?_blanks isWord _ (change.isBlankText blank), cutAfterWord?_cons,
      cutAfterWord?_cons]
    exact rel_cuts (change.wordAtStart?_respaced isWord later) ih

/-! ## The signature -/

theorem isWord_signatureWord : IsWord signatureWord :=
  ⟨List.all_eq_true.mp (by decide), by decide⟩

/-- A line that has the signature word gets one space after it, if anything solid follows. -/
theorem spaceSignature?_eq (line : Text) : spaceSignature? line =
    (cutAfterWord? signatureWord false line).map fun cut =>
      if isBlankText cut.2 then line else cut.1 ++ ' ' :: trimStart cut.2 := by
  rw [spaceSignature?]
  cases cutAfterWord? signatureWord false line with
  | none => rfl
  | some cut =>
    obtain ⟨before, after⟩ := cut
    rw [Option.map_some]
    dsimp only
    split
    · next empty => rw [if_pos (trimStart_eq_nil_iff.mp empty)]
    · next solidRest => rw [if_neg fun blank => solidRest (trimStart_eq_nil_iff.mpr blank)]

theorem all_isInLine_spaceSignature? {spaced : Text} (inLine : line.all isInLine = true)
    (found : spaceSignature? line = some spaced) : spaced.all isInLine = true := by
  rw [spaceSignature?_eq, Option.map_eq_some_iff] at found
  obtain ⟨cut, isCut, rfl⟩ := found
  split
  · exact inLine
  · rw [cutAfterWord?_eq_some isCut, List.all_append, Bool.and_eq_true] at inLine
    have trimmed : (trimStart cut.2).all isInLine = true := by
      rw [List.all_eq_true]
      intro character member
      exact List.all_eq_true.mp inLine.2 character
        ((List.dropWhile_sublist isBlank).subset member)
    rw [List.all_append, List.all_cons, inLine.1, trimmed]
    decide

/-- One space between two solid characters stays. -/
theorem GapChange.eq_space {left right : Char}
    (change : GapChange (some left) (some right) [' '] changed) : changed = [' '] := by
  cases change with
  | kept => rfl
  | edge atEnd => simp at atEnd
  | spaced apart => rfl

theorem Respaced.isBlankText_eq (respaced : Respaced right left source target) :
    isBlankText target = isBlankText source := by
  rw [← isBlankText_solid, respaced.solid_eq, isBlankText_solid]

/-- One space at the start of what follows a solid character stays. -/
theorem Respaced.space_trimStart_eq_self {previous : Char}
    (respaced : Respaced right (some previous) source target) (isSolid : isBlankText source = false)
    (spaced : ' ' :: trimStart source = source) : ' ' :: trimStart target = target := by
  cases respaced with
  | blanks blank =>
    rw [blank] at isSolid
    cases isSolid
  | @solid _ blanks changed character source target blank characterSolid change later =>
    rw [trimStart_blanks_append blank, trimStart_cons_of_not_isBlank characterSolid,
      ← List.singleton_append] at spaced
    obtain ⟨rfl, -⟩ := blanks_append_inj rfl blank characterSolid characterSolid spaced
    rw [trimStart_blanks_append (change.isBlankText blank),
      trimStart_cons_of_not_isBlank characterSolid, change.eq_space]
    rfl

/-- A line without the signature has none when it is respaced, and a line whose signature is spaced
stays so. -/
theorem spaceSignature?_respaced (respaced : Respaced none none source target) :
    Option.Rel (fun spaced spaced' => spaced = source → spaced' = target)
      (spaceSignature? source) (spaceSignature? target) := by
  have cuts := cutAfterWord?_respaced isWord_signatureWord respaced
  rw [Option.any_none] at cuts
  rw [spaceSignature?_eq, spaceSignature?_eq]
  cases found : cutAfterWord? signatureWord false source <;>
    cases found' : cutAfterWord? signatureWord false target <;> rw [found, found'] at cuts
  · exact .none
  · cases cuts
  · cases cuts
  · next cut cut' =>
    obtain ⟨last, -, later⟩ : RespacedCut none cut cut' := by
      cases cuts
      assumption
    refine .some fun spaced => ?_
    dsimp only at spaced ⊢
    rw [later.isBlankText_eq]
    split at spaced
    · next blank => rw [if_pos blank]
    · next solidRest =>
      rw [cutAfterWord?_eq_some found, List.append_cancel_left_eq] at spaced
      rw [if_neg solidRest, cutAfterWord?_eq_some found', List.append_cancel_left_eq]
      exact later.space_trimStart_eq_self (by simpa using solidRest) spaced

/-- The lines stay as they are once the signature is spaced, however their gaps change then. -/
theorem spaceSignatures_eq_self_of_respaced {lines changed : List Text}
    (respaced : List.Forall₂ (Respaced none none) lines changed)
    (spaced : spaceSignatures lines = lines) : spaceSignatures changed = changed := by
  induction respaced with
  | nil => rfl
  | @cons line line' rest rest' first later ih =>
    have signatures := spaceSignature?_respaced first
    rw [spaceSignatures] at spaced ⊢
    cases found : spaceSignature? line <;> cases found' : spaceSignature? line' <;>
      rw [found, found'] at signatures <;> rw [found] at spaced
    · rw [ih (List.cons.inj spaced).2]
    · cases signatures
    · cases signatures
    · cases signatures with
      | some kept => rw [kept (List.cons.inj spaced).1]

/-! ## A second pass -/

theorem without?_append_of_length_le (enough : word.length ≤ before.length) (after : Text) :
    without? word (before ++ after) = (without? word before).map (· ++ after) := by
  induction word generalizing before with
  | nil => rfl
  | cons letter others ih =>
    cases before with
    | nil => simp at enough
    | cons first before =>
      rw [List.cons_append, without?, without?]
      split
      · exact ih (Nat.le_of_succ_le_succ enough)
      · rfl

/-- Whether a text begins with a word can be told from a beginning that is longer than the word. -/
theorem wordAtStart?_append_of_length_lt (longer : word.length < before.length) (after : Text) :
    wordAtStart? word (before ++ after) = (wordAtStart? word before).map (· ++ after) := by
  rw [wordAtStart?, wordAtStart?, without?_append_of_length_le (Nat.le_of_lt longer)]
  cases found : without? word before with
  | none => rfl
  | some rest =>
    have equal := congrArg List.length (without?_eq_some found)
    rw [List.length_append] at equal
    cases rest with
    | nil =>
      rw [List.length_nil] at equal
      omega
    | cons first others =>
      have same : beginsWithWordCharacter (first :: others ++ after) =
          beginsWithWordCharacter (first :: others) := rfl
      rw [Option.map_some]
      dsimp only
      rw [same]
      split <;> rfl

theorem cutAfterWord?_cons_eq_some (cut : cutAfterWord? word inside (character :: rest) =
      some (before, after)) :
    (inside = false ∧ wordAtStart? word (character :: rest) = some after ∧ before = word) ∨
      (inside = false → wordAtStart? word (character :: rest) = none) ∧
        ∃ before', cutAfterWord? word (isWordCharacter character) rest = some (before', after) ∧
          before = character :: before' := by
  rw [cutAfterWord?_cons, Option.or_eq_some_iff, Option.map_eq_some_iff, Option.map_eq_none_iff,
    Option.map_eq_some_iff] at cut
  rcases cut with ⟨after', found, same⟩ | ⟨notFound, ⟨before', after'⟩, found, same⟩
  · cases inside with
    | true => cases found
    | false =>
      obtain ⟨rfl, rfl⟩ := Prod.mk.inj same
      exact .inl ⟨rfl, found, rfl⟩
  · obtain ⟨rfl, rfl⟩ := Prod.mk.inj same
    refine .inr ⟨?_, before', found, rfl⟩
    rintro rfl
    exact notFound

theorem length_le_of_cutAfterWord? (cut : cutAfterWord? word inside text = some (before, after)) :
    word.length ≤ before.length := by
  induction text generalizing inside before with
  | nil => cases cut
  | cons character rest ih =>
    rcases cutAfterWord?_cons_eq_some cut with ⟨-, -, rfl⟩ | ⟨-, before', found, rfl⟩
    · exact Nat.le_refl _
    · exact Nat.le_succ_of_le (ih found)

/-- A cut does not depend on what follows it, as long as no word goes on there. -/
theorem cutAfterWord?_append (isWord : IsWord word)
    (cut : cutAfterWord? word inside text = some (before, after)) {after' : Text}
    (ends : beginsWithWordCharacter after' = false) :
    cutAfterWord? word inside (before ++ after') = some (before, after') := by
  induction text generalizing inside before with
  | nil => cases cut
  | cons character rest ih =>
    rcases cutAfterWord?_cons_eq_some cut with ⟨rfl, -, rfl⟩ | ⟨notFound, before', found, rfl⟩
    · have atStart : wordAtStart? before (before ++ after') = some after' := by
        rw [wordAtStart?, without?_append]
        dsimp only
        rw [ends, if_neg Bool.false_ne_true]
      obtain ⟨letter, others, rfl⟩ := List.exists_cons_of_ne_nil isWord.nonempty
      rw [List.cons_append] at atStart ⊢
      rw [cutAfterWord?_cons, if_neg Bool.false_ne_true, atStart]
      rfl
    -- Later, what stands before the cut is longer than the word and tells that it is not here.
    · have longer : word.length < (character :: before').length :=
        Nat.lt_succ_of_le (length_le_of_cutAfterWord? found)
      have stillNotFound : (if inside then none
          else wordAtStart? word (character :: (before' ++ after'))) = none := by
        cases inside with
        | true => rfl
        | false =>
          have notFound := notFound rfl
          rw [cutAfterWord?_eq_some found, ← List.cons_append,
            wordAtStart?_append_of_length_lt longer, Option.map_eq_none_iff] at notFound
          rw [if_neg Bool.false_ne_true, ← List.cons_append,
            wordAtStart?_append_of_length_lt longer, notFound]
          rfl
      rw [List.cons_append, cutAfterWord?_cons, stillNotFound, ih found]
      rfl

/-- The signature is spaced once and for all. -/
theorem spaceSignature?_eq_self_of_eq_some {spaced : Text}
    (found : spaceSignature? line = some spaced) : spaceSignature? spaced = some spaced := by
  rw [spaceSignature?_eq, Option.map_eq_some_iff] at found
  obtain ⟨⟨before, after⟩, cut, rfl⟩ := found
  dsimp only
  split
  · next blank => rw [spaceSignature?_eq, cut, Option.map_some, if_pos blank]
  · next solidRest =>
    have boundary : beginsWithWordCharacter (' ' :: trimStart after) = false :=
      isWordCharacter_of_isBlank isBlank_space
    rw [spaceSignature?_eq, cutAfterWord?_append isWord_signatureWord cut boundary, Option.map_some]
    dsimp only
    rw [trimStart_space, trimStart_trimStart, ite_self]

/-- A second pass has nothing left to do. -/
theorem spaceSignatures_spaceSignatures (lines : List Text) :
    spaceSignatures (spaceSignatures lines) = spaceSignatures lines := by
  induction lines with
  | nil => rfl
  | cons line rest ih =>
    rw [spaceSignatures]
    split
    · next spaced found => rw [spaceSignatures, spaceSignature?_eq_self_of_eq_some found]
    · next notFound => rw [spaceSignatures, notFound, ih]

end Beanwright.Layout
