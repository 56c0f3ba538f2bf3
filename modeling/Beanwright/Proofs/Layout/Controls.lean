import Beanwright.Proofs.Layout.Respacing
import Beanwright.Proofs.Layout.Spacing

/-!
# The first brace and the control words under respacing

A brace that stands at the start of the line or behind a blank does so however the gaps change, and
a parenthesis that follows no control word gets none in front of it, as words stay the words they
were. So the first two steps of spacing have nothing left to do on a line that was respaced after
them.
-/

namespace Beanwright.Layout

open Text

variable {left right : Option Char} {character : Char}
  {blanks changed source target text before before' : Text}

/-! ## The first brace -/

/-- Spacing the first brace once is enough. -/
theorem spaceBraceAfter_spaceBraceAfter (previous : Option Char) (text : Text) :
    spaceBraceAfter previous (spaceBraceAfter previous text) = spaceBraceAfter previous text := by
  induction text generalizing previous with
  | nil => rfl
  | cons first others ih =>
    by_cases brace : first = '{'
    · subst brace
      cases kept : previous.all isBlank with
      | true =>
        rw [spaceBraceAfter_brace_eq_self_iff.mpr kept, spaceBraceAfter_brace_eq_self_iff.mpr kept]
      | false =>
        have spaced : spaceBraceAfter previous ('{' :: others) = ' ' :: '{' :: others := by
          cases previous with
          | none => cases kept
          | some last =>
            rw [Option.all_some] at kept
            simp [spaceBraceAfter, kept]
        have afterSpace : (some ' ').all isBlank = true := isBlank_space
        rw [spaced, spaceBraceAfter_cons_of_ne _ (by decide),
          spaceBraceAfter_brace_eq_self_iff.mpr afterSpace]
    · rw [spaceBraceAfter_cons_of_ne _ brace, spaceBraceAfter_cons_of_ne _ brace, ih]

theorem spaceBrace_spaceBrace (line : Text) : spaceBrace (spaceBrace line) = spaceBrace line :=
  spaceBraceAfter_spaceBraceAfter none line

theorem respaced_spaceBrace (line : Text) : Respaced none none line (spaceBrace line) := by
  by_cases hasBrace : '{' ∈ line
  · obtain ⟨before, rest, rfl, noBrace⟩ := List.eq_append_cons_of_mem hasBrace
    rcases List.eq_nil_or_concat before with rfl | ⟨others, last, rfl⟩
    · exact .refl _
    · rw [List.concat_eq_append] at noBrace ⊢
      rw [spaceBrace_append_brace noBrace]
      cases blank : isBlank last with
      | true =>
        rw [if_pos rfl, List.append_nil]
        exact .refl _
      | false =>
        rw [if_neg Bool.false_ne_true]
        simp only [List.append_assoc, List.singleton_append]
        exact .openGap blank (by decide) (by decide) others (.refl rest)
  · rw [spaceBrace_of_notMem hasBrace]
    exact .refl line

/-- A line in which the first brace is spaced stays so. -/
theorem Respaced.spaceBraceAfter_eq_self (respaced : Respaced none left source target)
    (spaced : spaceBraceAfter left source = source) : spaceBraceAfter left target = target := by
  induction respaced with
  | blanks blank change =>
    exact spaceBraceAfter_of_notMem _
      (notMem_of_isBlankText (change.isBlankText blank) (by decide))
  | @solid left blanks changed character source target blank isSolid change later ih =>
    have changedBlank := change.isBlankText blank
    rw [spaceBraceAfter_append _ (notMem_of_isBlankText blank (by decide))] at spaced
    rw [spaceBraceAfter_append _ (notMem_of_isBlankText changedBlank (by decide))]
    have spaced := List.append_cancel_left spaced
    congr 1
    by_cases brace : character = '{'
    · subst brace
      rw [spaceBraceAfter_brace_eq_self_iff] at spaced ⊢
      cases change with
      | kept => exact spaced
      | edge atEnd _ =>
        obtain rfl : left = none := by simpa using atEnd
        rw [Option.or_none, Option.all_eq_true]
        intro last isLast
        exact List.all_eq_true.mp changedBlank last (List.mem_of_getLast? isLast)
      | spaced apart => exact isBlank_space
    · rw [spaceBraceAfter_cons_of_ne _ brace] at spaced ⊢
      rw [ih (List.cons.inj spaced).2]

theorem Respaced.spaceBrace_eq_self (respaced : Respaced none none source target)
    (spaced : spaceBrace source = source) : spaceBrace target = target :=
  respaced.spaceBraceAfter_eq_self spaced

/-! ## Control words -/

/-- The letters of the word that a text, given from its end to its start, ends in. -/
def lastWord (before : Text) : Text := before.takeWhile isWordCharacter

/-- A text ends in a word exactly if the word is the last one of the text. -/
theorem endsInWord_iff {word : Text} (letters : ∀ letter ∈ word, isWordCharacter letter = true) :
    endsInWord word before = true ↔ lastWord before = word.reverse := by
  have reversedLetters : ∀ letter ∈ word.reverse, isWordCharacter letter = true :=
    fun letter member => letters letter (List.mem_reverse.mp member)
  rw [endsInWord, lastWord]
  constructor
  · intro ends
    split at ends
    · cases ends
    · next cut =>
      rw [without?_eq_some cut, List.takeWhile_append_of_pos reversedLetters, List.takeWhile_nil,
        List.append_nil]
    · next first others cut =>
      rw [without?_eq_some cut, List.takeWhile_append_of_pos reversedLetters,
        List.takeWhile_cons_of_neg (by simpa using ends), List.append_nil]
  · intro last
    -- What is left before the word does not begin with a letter, or the word would be longer.
    have cut := without?_append word.reverse (before.dropWhile isWordCharacter)
    rw [← last, List.takeWhile_append_dropWhile] at cut
    rw [← last, cut]
    cases rest : before.dropWhile isWordCharacter with
    | nil => rfl
    | cons first others =>
      have stops := List.head?_dropWhile_not isWordCharacter before
      rw [rest] at stops
      simpa using stops

/-- Whether a text, given from its end to its start, ends in a control word. -/
theorem controlWords_any_iff : (controlWords.any fun word => endsInWord word before) = true ↔
    (lastWord before).reverse ∈ controlWords := by
  rw [List.any_eq_true]
  constructor
  · rintro ⟨word, inWords, ends⟩
    rw [endsInWord_iff (controlWords_wordCharacters word inWords)] at ends
    rwa [ends, List.reverse_reverse]
  · intro inWords
    refine ⟨_, inWords, ?_⟩
    rw [endsInWord_iff (controlWords_wordCharacters _ inWords), List.reverse_reverse]

theorem lastWord_cons (character : Char) (before : Text) : lastWord (character :: before) =
    if isWordCharacter character then character :: lastWord before else [] := List.takeWhile_cons

/-- A gap ends the word before it. -/
theorem lastWord_blanks (blank : isBlankText blanks = true) (before : Text) :
    lastWord (blanks.reverse ++ before) = if blanks = [] then lastWord before else [] := by
  rcases List.eq_nil_or_concat blanks with rfl | ⟨others, last, rfl⟩
  · rfl
  · rw [List.concat_eq_append] at blank ⊢
    have lastBlank := List.all_eq_true.mp blank last (by simp)
    rw [List.reverse_concat, List.cons_append, lastWord_cons, isWordCharacter_of_isBlank lastBlank]
    simp

theorem spaceControlsAfter_cons_eq_self_iff :
    spaceControlsAfter before (character :: text) = character :: text ↔
      ¬(character = '(' ∧ (lastWord before).reverse ∈ controlWords) ∧
        spaceControlsAfter (character :: before) text = text := by
  rw [spaceControlsAfter, ← controlWords_any_iff]
  split
  · next spaced =>
    rw [Bool.and_eq_true, decide_eq_true_eq] at spaced
    refine iff_of_false ?_ fun both => both.1 spaced
    intro same
    rw [spaced.1] at same
    exact absurd (List.cons.inj same).1 (by decide)
  · next kept =>
    rw [Bool.and_eq_true, decide_eq_true_eq] at kept
    rw [List.cons.injEq, eq_self, true_and, and_iff_right kept]

/-- Spacing the control words once is enough. -/
theorem spaceControlsAfter_spaceControlsAfter (same : lastWord before' = lastWord before)
    (text : Text) : spaceControlsAfter before' (spaceControlsAfter before text) =
      spaceControlsAfter before text := by
  induction text generalizing before before' with
  | nil => rfl
  | cons first others ih =>
    rw [spaceControlsAfter]
    split
    · next spaced =>
      rw [Bool.and_eq_true, decide_eq_true_eq] at spaced
      rw [spaceControlsAfter_cons_eq_self_iff, spaceControlsAfter_cons_eq_self_iff, spaced.1]
      have ended : lastWord (' ' :: before') = [] :=
        List.takeWhile_cons_of_neg (by rw [isWordCharacter_of_isBlank isBlank_space]; decide)
      refine ⟨fun both => absurd both.1 (by decide), fun both => ?_, ih rfl⟩
      rw [ended] at both
      exact absurd both.2 (by decide)
    · next kept =>
      rw [Bool.and_eq_true, decide_eq_true_eq, controlWords_any_iff, ← same] at kept
      rw [spaceControlsAfter_cons_eq_self_iff]
      exact ⟨kept, ih (by rw [lastWord_cons, lastWord_cons, same])⟩

theorem spaceControls_spaceControls (line : Text) :
    spaceControls (spaceControls line) = spaceControls line :=
  spaceControlsAfter_spaceControlsAfter rfl line

/-- The blanks before a character do not get in the way of a walk to it. -/
theorem spaceControlsAfter_blanks (blank : isBlankText blanks = true) (before rest : Text) :
    spaceControlsAfter before (blanks ++ rest) =
      blanks ++ spaceControlsAfter (blanks.reverse ++ before) rest := by
  rw [spaceControlsAfter_append,
    spaceControlsAfter_of_notMem before (notMem_of_isBlankText blank (by decide))]

theorem respaced_spaceControls (left : Option Char) (line : Text) :
    Respaced none left line (spaceControls line) := by
  by_cases hasParenthesis : '(' ∈ line
  · obtain ⟨first, second, rfl, noParenthesis⟩ := List.eq_append_cons_of_mem hasParenthesis
    have later := respaced_spaceControls (some '(') second
    rw [spaceControls_append_parenthesis, spaceControls_of_notMem noParenthesis]
    cases ends : endsInControlWord first with
    | false =>
      rw [if_neg Bool.false_ne_true, List.append_nil]
      exact .append (.refl first) (by decide) later
    | true =>
      -- The parenthesis directly follows a letter, so the space opens a gap that was none.
      rw [endsInControlWord, controlWords_any_iff] at ends
      rcases List.eq_nil_or_concat first with rfl | ⟨others, last, rfl⟩
      · exact absurd ends (by decide)
      · rw [List.concat_eq_append] at ends ⊢
        have lastSolid : isBlank last = false := by
          cases blank : isBlank last with
          | false => rfl
          | true =>
            rw [List.reverse_concat, lastWord_cons, isWordCharacter_of_isBlank blank,
              if_neg Bool.false_ne_true] at ends
            exact absurd ends (by decide)
        rw [if_pos rfl]
        simp only [List.append_assoc, List.singleton_append]
        exact .openGap lastSolid (by decide) (by decide) others later
  · rw [spaceControls_of_notMem hasParenthesis]
    exact .refl line
termination_by line.length

/-- What a walk carries on both sides of a respacing: the same last word, and none unless a letter
stands last. -/
structure SameLastWord (left : Option Char) (before before' : Text) : Prop where
  /-- The last words agree. -/
  same : lastWord before' = lastWord before
  /-- Without a last letter there is no last word. -/
  boundary : left.any isWordCharacter = false → lastWord before = []

namespace SameLastWord

/-- After a gap the last words still agree, unless the gap that ends the word is new and before a
character that goes on with no word. -/
theorem gap (carried : SameLastWord left before before')
    (change : GapChange left (some character) blanks changed) (blank : isBlankText blanks = true) :
    lastWord (changed.reverse ++ before') = lastWord (blanks.reverse ++ before) ∨
      isWordCharacter character = false ∧ lastWord (changed.reverse ++ before') = [] := by
  rw [lastWord_blanks blank, lastWord_blanks (change.isBlankText blank), carried.same]
  cases change with
  | kept => exact .inl rfl
  | edge atEnd indents =>
    obtain rfl : left = none := by simpa using atEnd
    rw [carried.boundary rfl, ite_self, ite_self]
    exact .inl rfl
  | spaced apart =>
    rw [if_neg (List.cons_ne_nil _ _)]
    rcases apart with gap | boundary | boundary
    · rw [if_neg gap]
      exact .inl rfl
    · rw [carried.boundary boundary, ite_self]
      exact .inl rfl
    · exact .inr ⟨boundary, rfl⟩

theorem step (carried : SameLastWord left before before')
    (change : GapChange left (some character) blanks changed) (blank : isBlankText blanks = true) :
    SameLastWord (some character) (character :: (blanks.reverse ++ before))
      (character :: (changed.reverse ++ before')) := by
  constructor
  · rw [lastWord_cons, lastWord_cons]
    rcases carried.gap change blank with same | ⟨boundary, -⟩
    · rw [same]
    · rw [boundary]
      rfl
  · intro boundary
    rw [Option.any_some] at boundary
    rw [lastWord_cons, boundary]
    rfl

end SameLastWord

/-- A line in which the control words are spaced stays so. -/
theorem Respaced.spaceControlsAfter_eq_self (respaced : Respaced none left source target)
    (carried : SameLastWord left before before')
    (spaced : spaceControlsAfter before source = source) :
    spaceControlsAfter before' target = target := by
  induction respaced generalizing before before' with
  | blanks blank change =>
    exact spaceControlsAfter_of_notMem _
      (notMem_of_isBlankText (change.isBlankText blank) (by decide))
  | @solid left blanks changed character source target blank isSolid change later ih =>
    rw [spaceControlsAfter_blanks blank, List.append_cancel_left_eq,
      spaceControlsAfter_cons_eq_self_iff] at spaced
    rw [spaceControlsAfter_blanks (change.isBlankText blank), List.append_cancel_left_eq,
      spaceControlsAfter_cons_eq_self_iff]
    refine ⟨?_, ih (carried.step change blank) spaced.2⟩
    rintro ⟨parenthesis, inWords⟩
    rcases carried.gap change blank with same | ⟨-, ended⟩
    · rw [same] at inWords
      exact spaced.1 ⟨parenthesis, inWords⟩
    · rw [ended] at inWords
      exact absurd inWords (by decide)

theorem Respaced.spaceControls_eq_self (respaced : Respaced none none source target)
    (spaced : spaceControls source = source) : spaceControls target = target :=
  respaced.spaceControlsAfter_eq_self ⟨rfl, fun _ => rfl⟩ spaced

end Beanwright.Layout
