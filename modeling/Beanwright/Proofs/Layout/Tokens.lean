import Beanwright.Proofs.Layout.Controls
import Beanwright.Proofs.Layout.Operators

/-!
# The tokens of source text

The rules of layout know no string literals. A text is read here as the target language reads it:
from a quote to the next same quote that no backslash escapes stands a literal, and everything else
is code. Where the characters that the rules react to stand in code only, the rules move blanks in
code only, so that literals stay as they are.

An equals sign directly after an arithmetic character makes a compound assignment. The rules put a
blank between the two if the run of equals signs is one that is spaced as an operator, and keep the
others together.
-/

namespace Beanwright.Layout

open Text

/-! ## Literals -/

/-- The quotes that literals stand in. -/
inductive Quote where
  /-- An apostrophe. -/
  | single
  /-- A quotation mark. -/
  | double
deriving DecidableEq, Repr

/-- The character of a quote. -/
def Quote.mark : Quote → Char
  | single => '\''
  | double => '"'

/-- The quote that a character is. -/
def quote? (character : Char) : Option Quote :=
  if character = Quote.single.mark then some .single
  else if character = Quote.double.mark then some .double
  else none

/-- Where a reader of source text is. -/
inductive Reading where
  /-- Outside literals. -/
  | code
  /-- In a literal. -/
  | literal (quote : Quote)
  /-- In a literal, right after a backslash. -/
  | escape (quote : Quote)
deriving DecidableEq, Repr

/-- Where a reader is after one more character. -/
def Reading.next : Reading → Char → Reading
  | code, character => (quote? character).elim code literal
  | literal quote, character =>
    if character = quote.mark then code
    else if character = '\\' then escape quote
    else literal quote
  | escape quote, _ => literal quote

/-- Where a reader is after a text. -/
def Reading.after (reading : Reading) (text : Text) : Reading := text.foldl next reading

/-- The literals of a text with their quotes; `begun` is what was read of the literal that the text
begins in. A literal without an end is none. -/
def literalsFrom : Reading → (begun : Text) → Text → List Text
  | _, _, [] => []
  | .code, _, character :: rest => literalsFrom (Reading.code.next character) [character] rest
  | reading, begun, character :: rest =>
    let later := literalsFrom (reading.next character) (begun ++ [character]) rest
    if reading.next character = .code then (begun ++ [character]) :: later else later

/-- The string literals of a text in order. -/
def literals (text : Text) : List Text := literalsFrom .code [] text

/-! ## Compound assignments -/

/-- Whether a character makes a compound assignment of an equals sign after it. -/
def isAssigning (character : Char) : Bool := "+-*/%&|^".toList.contains character

/-- The number of equals signs that a text begins with, and whether what follows them makes them a
comparison or an arrow. -/
def glance : Text → Nat × Bool
  | [] => (0, false)
  | character :: rest =>
    if character = '=' then ((glance rest).1 + 1, (glance rest).2)
    else (0, isComparison character)

/-- Whether a compound assignment begins with a character that a text follows; `counts` says which
runs of equals signs count. -/
def beginsCompound (counts : Nat → Bool → Bool) (character : Char) (rest : Text) : Bool :=
  isAssigning character && decide (0 < (glance rest).1) && counts (glance rest).1 (glance rest).2

/-- The first characters of the compound assignments in code. -/
def compoundsFrom (counts : Nat → Bool → Bool) : Reading → Text → Text
  | _, [] => []
  | reading, character :: rest =>
    let later := compoundsFrom counts (reading.next character) rest
    if reading == .code && beginsCompound counts character rest then character :: later else later

/-- Every run of equals signs counts. -/
def everyRun (_length : Nat) (_compares : Bool) : Bool := true

/-- Only a run that is not spaced as an operator counts: one that is too long, or that is part of a
comparison or an arrow. -/
def isSolidRun (length : Nat) (compares : Bool) : Bool :=
  decide (longestOperator < length) || compares

/-- The compound assignments of a text, each by its first character. -/
def compounds (text : Text) : Text := compoundsFrom everyRun .code text

/-- The compound assignments of a text whose equals signs are not spaced as an operator. -/
def lastingCompounds (text : Text) : Text := compoundsFrom isSolidRun .code text

example : literals "v => v !== 'it\\'s' + \"a b\"".toList =
    ["'it\\'s'".toList, "\"a b\"".toList] := by decide

example : compounds "a += b; c = '+='; d *=!e".toList = "+*".toList ∧
    lastingCompounds "a += b; c = '+='; d *=!e".toList = "*".toList := by decide

/-! ## Calm texts -/

/-- Whether a rule reacts to a character after the text `before`, given from its end to its
start. -/
def isShaping (before : Text) (character : Char) : Bool :=
  isBoundary character || character == '\n' || character == '=' ||
    (character == '(' && controlWords.any fun word => endsInWord word before)

/-- Whether every literal ends and the rules react to nothing in it. The text is read after the text
`before`, given from its end to its start. -/
def isCalm : (before : Text) → Reading → Text → Bool
  | _, reading, [] => reading == .code
  | before, reading, character :: rest =>
    (reading == .code || !isShaping before character) &&
      isCalm (character :: before) (reading.next character) rest

variable {before before' : Text} {reading : Reading} {character : Char} {rest text : Text}
  {counts counts' : Nat → Bool → Bool}

theorem isCalm_cons : isCalm before reading (character :: rest) = true ↔
    (reading = .code ∨ isShaping before character = false) ∧
      isCalm (character :: before) (reading.next character) rest = true := by
  rw [isCalm, Bool.and_eq_true, Bool.or_eq_true, beq_iff_eq, Bool.not_eq_true']

/-- Where a shaping character stands, a calm text is in code. -/
theorem eq_code_of_isCalm (calm : isCalm before reading (character :: rest) = true)
    (shaping : isShaping before character = true) : reading = .code := by
  obtain inCode | plain := (isCalm_cons.mp calm).1
  · exact inCode
  · rw [shaping] at plain
    cases plain

theorem lastWord_quote {quote : Quote} (begins : quote? character = some quote) (before : Text) :
    lastWord (character :: before) = [] := by
  have noLetter : isWordCharacter character = false := by
    unfold quote? at begins
    split at begins
    · next apostrophe =>
      rw [apostrophe]
      decide
    · split at begins
      · next quotationMark =>
        rw [quotationMark]
        decide
      · cases begins
  rw [lastWord_cons, noLetter, if_neg Bool.false_ne_true]

/-- Only the last word before a text matters. -/
theorem isCalm_congr (same : lastWord before = lastWord before') (reading : Reading) (text : Text) :
    isCalm before reading text = isCalm before' reading text := by
  induction text generalizing before before' reading with
  | nil => rfl
  | cons character rest ih =>
    have shaping : isShaping before character = isShaping before' character := by
      have words : (controlWords.any fun word => endsInWord word before) =
          controlWords.any fun word => endsInWord word before' := by
        rw [Bool.eq_iff_iff, controlWords_any_iff, controlWords_any_iff, same]
      rw [isShaping, isShaping, words]
    have later : lastWord (character :: before) = lastWord (character :: before') := by
      rw [lastWord_cons, lastWord_cons, same]
    rw [isCalm, isCalm, shaping, ih later]

/-- In code nothing before a text matters. -/
theorem isCalm_code (before before' text : Text) :
    isCalm before .code text = isCalm before' .code text := by
  induction text generalizing before before' with
  | nil => rfl
  | cons character rest ih =>
    rw [isCalm, isCalm, beq_self_eq_true, Bool.true_or, Bool.true_or, Bool.true_and, Bool.true_and,
      Reading.next]
    cases begins : quote? character with
    | none => exact ih _ _
    | some quote =>
      have same := (lastWord_quote begins before).trans (lastWord_quote begins before').symm
      exact isCalm_congr same (.literal quote) rest

/-! ## Blanks -/

theorem ne_mark_of_isBlank (blank : isBlank character = true) (quote : Quote) :
    character ≠ quote.mark := by
  rintro rfl
  revert blank
  cases quote <;> decide

/-- A blank in code leaves a reader in code. -/
theorem next_blank (blank : isBlank character = true) : Reading.code.next character = .code := by
  have noQuote : quote? character = none := by
    rw [quote?, if_neg (ne_mark_of_isBlank blank .single),
      if_neg (ne_mark_of_isBlank blank .double)]
  rw [Reading.next, noQuote]
  rfl

/-- A blank does not lead into code. -/
theorem eq_code_of_next_blank (blank : isBlank character = true)
    (inCode : reading.next character = .code) : reading = .code := by
  cases reading with
  | code => rfl
  | literal quote =>
    rw [Reading.next, if_neg (ne_mark_of_isBlank blank quote)] at inCode
    split at inCode <;> cases inCode
  | escape quote => cases inCode

theorem after_append (reading : Reading) (first second : Text) :
    reading.after (first ++ second) = (reading.after first).after second := List.foldl_append

theorem after_blanks {blanks : Text} (blank : isBlankText blanks = true) :
    Reading.code.after blanks = .code := by
  induction blanks with
  | nil => rfl
  | cons character rest ih =>
    rw [isBlankText, List.all_cons, Bool.and_eq_true] at blank
    rw [Reading.after, List.foldl_cons, next_blank blank.1]
    exact ih blank.2

/-- Blanks do not lead into code. -/
theorem eq_code_of_after_blanks {blanks : Text} (blank : isBlankText blanks = true)
    (inCode : reading.after blanks = .code) : reading = .code := by
  induction blanks generalizing reading with
  | nil => exact inCode
  | cons character rest ih =>
    rw [isBlankText, List.all_cons, Bool.and_eq_true] at blank
    exact eq_code_of_next_blank blank.1 (ih blank.2 inCode)

/-! ## Tokens -/

/-- The characters of a text apart from the blanks in code, each with the answer whether a compound
assignment begins with it. -/
def tokens (counts : Nat → Bool → Bool) : Reading → Text → List (Char × Bool)
  | _, [] => []
  | reading, character :: rest =>
    let later := tokens counts (reading.next character) rest
    if reading == .code && isBlank character then later
    else (character, reading == .code && beginsCompound counts character rest) :: later

theorem tokens_blank (counts : Nat → Bool → Bool) (blank : isBlank character = true)
    (rest : Text) : tokens counts .code (character :: rest) = tokens counts .code rest := by
  rw [tokens, blank, next_blank blank]
  rfl

theorem tokens_blanks_append (counts : Nat → Bool → Bool) {blanks : Text}
    (blank : isBlankText blanks = true) (text : Text) :
    tokens counts .code (blanks ++ text) = tokens counts .code text := by
  induction blanks with
  | nil => rfl
  | cons character rest ih =>
    rw [isBlankText, List.all_cons, Bool.and_eq_true] at blank
    rw [List.cons_append, tokens_blank counts blank.1, ih blank.2]

/-- The characters of the tokens do not depend on what counts. -/
theorem map_fst_tokens (counts counts' : Nat → Bool → Bool) (reading : Reading) (text : Text) :
    (tokens counts reading text).map Prod.fst = (tokens counts' reading text).map Prod.fst := by
  induction text generalizing reading with
  | nil => rfl
  | cons character rest ih =>
    rw [tokens, tokens]
    split
    · exact ih _
    · rw [List.map_cons, List.map_cons, ih]

theorem literalsFrom_code (begun text : Text) :
    literalsFrom .code begun text = literalsFrom .code [] text := by
  cases text <;> rfl

/-- The literals are read off the tokens. -/
theorem literalsFrom_tokens (counts : Nat → Bool → Bool) (reading : Reading) (begun text : Text) :
    literalsFrom reading begun ((tokens counts reading text).map Prod.fst) =
      literalsFrom reading begun text := by
  induction text generalizing reading begun with
  | nil => rfl
  | cons character rest ih =>
    rw [tokens]
    cases reading with
    | code =>
      split
      · next dropped =>
        rw [Bool.and_eq_true] at dropped
        rw [next_blank dropped.2, ih, literalsFrom, next_blank dropped.2,
          literalsFrom_code begun rest, literalsFrom_code [character] rest]
      · rw [List.map_cons, literalsFrom, literalsFrom, ih]
    | literal quote =>
      have inside : ¬(Reading.literal quote == .code && isBlank character) = true := by simp
      rw [if_neg inside, List.map_cons]
      simp only [literalsFrom, ih]
    | escape quote =>
      have inside : ¬(Reading.escape quote == .code && isBlank character) = true := by simp
      rw [if_neg inside, List.map_cons]
      simp only [literalsFrom, ih]

/-- What holds of all arithmetic characters holds of a character that makes a compound
assignment. -/
theorem of_isAssigning {property : Char → Bool}
    (checked : "+-*/%&|^".toList.all property = true) (assigning : isAssigning character = true) :
    property character = true := by
  rw [isAssigning, List.contains_eq_mem, decide_eq_true_iff] at assigning
  exact List.all_eq_true.mp checked character assigning

theorem beginsCompound_of_isBlank (blank : isBlank character = true) :
    beginsCompound counts character rest = false := by
  have notAssigning : isAssigning character = false := by
    rw [Bool.eq_false_iff]
    intro assigning
    have solid : (!isBlank character) = true :=
      @of_isAssigning character (fun character => !isBlank character) (all_literal (by decide))
        assigning
    rw [blank] at solid
    cases solid
  rw [beginsCompound, notAssigning, Bool.false_and, Bool.false_and]

/-- So are the compound assignments. -/
theorem compoundsFrom_eq (counts : Nat → Bool → Bool) (reading : Reading) (text : Text) :
    compoundsFrom counts reading text =
      ((tokens counts reading text).filter Prod.snd).map Prod.fst := by
  induction text generalizing reading with
  | nil => rfl
  | cons character rest ih =>
    rw [compoundsFrom, tokens, ih]
    split
    · next counted =>
      rw [Bool.and_eq_true] at counted
      rw [if_neg, List.filter_cons_of_pos (by simp [counted.1, counted.2]), List.map_cons]
      rw [Bool.and_eq_true, not_and, Bool.not_eq_true]
      intro _
      cases blank : isBlank character with
      | false => rfl
      | true =>
        rw [beginsCompound_of_isBlank blank] at counted
        cases counted.2
    · next notCounted =>
      split
      · rfl
      · rw [List.filter_cons, if_neg notCounted]

/-- Whether a text is calm is read off its tokens. -/
theorem isCalm_tokens (counts : Nat → Bool → Bool) (before : Text) (reading : Reading)
    (text : Text) : isCalm before reading ((tokens counts reading text).map Prod.fst) =
      isCalm before reading text := by
  induction text generalizing before reading with
  | nil => rfl
  | cons character rest ih =>
    rw [tokens]
    split
    · next dropped =>
      rw [Bool.and_eq_true, beq_iff_eq] at dropped
      obtain ⟨rfl, blank⟩ := dropped
      rw [next_blank blank, ih, isCalm, beq_self_eq_true, Bool.true_or, Bool.true_and,
        next_blank blank]
      exact isCalm_code _ _ rest
    · rw [List.map_cons, isCalm, isCalm, ih]

/-- Where a reader is after a text is read off the tokens of the text. -/
theorem after_tokens (counts : Nat → Bool → Bool) (reading : Reading) (text : Text) :
    reading.after ((tokens counts reading text).map Prod.fst) = reading.after text := by
  induction text generalizing reading with
  | nil => rfl
  | cons character rest ih =>
    rw [tokens]
    split
    · next dropped =>
      rw [Bool.and_eq_true, beq_iff_eq] at dropped
      obtain ⟨rfl, blank⟩ := dropped
      rw [next_blank blank, ih, Reading.after, Reading.after, List.foldl_cons, next_blank blank]
    · exact ih (reading.next character)

/-- A calm text ends in code. -/
theorem after_of_isCalm (calm : isCalm before reading text = true) :
    reading.after text = .code := by
  induction text generalizing before reading with
  | nil => exact beq_iff_eq.mp calm
  | cons character rest ih => exact ih (isCalm_cons.mp calm).2

/-! ## Runs of equals signs -/

theorem glance_of_head?_ne (apart : text.head? ≠ some '=') :
    glance text = (0, text.head?.any isComparison) := by
  cases text with
  | nil => rfl
  | cons character rest =>
    have differs : character ≠ '=' := fun same => apart (congrArg some same)
    rw [glance, if_neg differs]
    rfl

theorem glance_replicate (apart : rest.head? ≠ some '=') (length : Nat) :
    glance (List.replicate length '=' ++ rest) = (length, rest.head?.any isComparison) := by
  induction length with
  | zero => exact glance_of_head?_ne apart
  | succ length ih =>
    rw [List.replicate_succ, List.cons_append, glance, if_pos rfl, ih]

/-- What begins neither with an equals sign nor with a comparison does not matter to a text before
it. -/
theorem glance_append {follow : Text} (plain : glance follow = (0, false)) (text : Text) :
    glance (text ++ follow) = glance text := by
  induction text with
  | nil => exact plain
  | cons character others ih => rw [List.cons_append, glance, glance, ih]

/-- No compound assignment begins where no equals sign follows. -/
theorem beginsCompound_of_head?_ne (apart : rest.head? ≠ some '=') :
    beginsCompound counts character rest = false := by
  rw [beginsCompound, glance_of_head?_ne apart]
  simp

theorem beginsCompound_congr {rest' : Text} (same : glance rest = glance rest') :
    beginsCompound counts character rest = beginsCompound counts character rest' := by
  rw [beginsCompound, beginsCompound, same]

end Beanwright.Layout
