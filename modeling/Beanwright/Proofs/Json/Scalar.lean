import Beanwright.Json.Reader
import Beanwright.Proofs.Text.Name

/-!
# Scalars read back

A string in written form is read back whatever characters it has, because every escape that the
printer makes is one that the reader takes for the same character. An integer is read back if it has
a form of 64 bits and nothing follows that would continue the number.
-/

namespace Beanwright

namespace Text

variable {digits rest : Text}

/-- A property of all ASCII digits is a property of all digits. -/
theorem of_isDigit {character : Char} (property : Char → Bool)
    (checked : ((List.range 128).all fun code =>
      !(Char.ofNat code).isDigit || property (Char.ofNat code)) = true)
    (digit : character.isDigit = true) : property character = true := by
  have name : isNameCharacter character = true := by
    rw [isNameCharacter, Char.isAlphanum, digit, Bool.or_true, Bool.true_or]
  have found := of_ascii (fun character => !character.isDigit || property character) checked
    (toNat_lt_of_isNameCharacter name)
  rw [digit] at found
  exact found

theorem isDigit_of_mem_ofNat {number : Nat} {character : Char}
    (inDigits : character ∈ ofNat number) : character.isDigit = true :=
  Nat.isDigit_of_mem_toDigits (by decide) (by decide) inDigits

theorem exists_digit (number : Nat) :
    ∃ digit rest, ofNat number = digit :: rest ∧ digit.isDigit = true := by
  cases digits : ofNat number with
  | nil => exact absurd digits Nat.toDigits_ne_nil
  | cons digit rest =>
    refine ⟨digit, rest, rfl, isDigit_of_mem_ofNat (digits ▸ List.mem_cons_self)⟩

/-- The digits of a number denote it. -/
theorem decimalValue_ofNat (number : Nat) : decimalValue (ofNat number) = number :=
  calc decimalValue (ofNat number)
      = Nat.ofDigitChars 10 (Nat.toDigits 10 number) 0 := Nat.ofDigitChars_eq_foldl.symm
    _ = number := Nat.ofDigitChars_ten_toDigits

/-- A number other than zero has no leading zero. -/
theorem exists_digit_of_pos {number : Nat} (positive : 0 < number) :
    ∃ digit rest, ofNat number = digit :: rest ∧ digit ≠ '0' := by
  induction number using Nat.strongRecOn with
  | ind number ih =>
    rw [ofNat, Nat.toDigits_eq_if (by decide)]
    by_cases single : number < 10
    · rw [if_pos single]
      refine ⟨number.digitChar, [], rfl, ?_⟩
      have checked : ∀ digit < 10, 0 < digit → digit.digitChar ≠ '0' := by decide
      exact checked number single positive
    · obtain ⟨digit, rest, leading, notZero⟩ :=
        ih (number / 10) (by omega) (Nat.div_pos (by omega) (by decide))
      rw [ofNat] at leading
      rw [if_neg single, leading]
      exact ⟨digit, rest ++ [(number % 10).digitChar], rfl, notZero⟩

/-- A run of digits is taken up to something that is no digit. -/
theorem takeDigits_of_ends (run : ∀ character ∈ digits, character.isDigit = true)
    (ends : ∀ character, rest.head? = some character → character.isDigit = false) :
    takeDigits (digits ++ rest) = (digits, rest) := by
  rw [takeDigits, List.takeWhile_append_of_pos run, List.dropWhile_append_of_pos run]
  cases rest with
  | nil => rw [List.takeWhile_nil, List.dropWhile_nil, List.append_nil]
  | cons character rest =>
    have noDigit := ends character rfl
    rw [List.takeWhile_cons_of_neg (by simp [noDigit]),
      List.dropWhile_cons_of_neg (by simp [noDigit]), List.append_nil]

end Text

namespace Json

variable {rest : Text}

/-! ## Strings -/

/-- The two digits of an escaped control denote it. -/
theorem hexValue4?_hexDigit {code : Nat} (control : code < 32) :
    hexValue4? '0' '0' (hexDigit (code / 16)) (hexDigit (code % 16)) = some code := by
  have checked : ∀ code < 32,
      hexValue4? '0' '0' (hexDigit (code / 16)) (hexDigit (code % 16)) = some code := by decide
  exact checked code control

/-- A written character is the next one that is read. -/
theorem readString_writtenCharacter (character : Char) (rest : Text) :
    readString (writtenCharacter character ++ rest) =
      (readString rest).map fun (value, rest) => (character :: value, rest) := by
  rw [writtenCharacter]
  split
  case isTrue quote => subst quote; exact readString.eq_6 '"' rest (by decide)
  split
  case isTrue backslash => subst backslash; exact readString.eq_6 '\\' rest (by decide)
  split
  case isTrue backspace => subst backspace; exact readString.eq_6 'b' rest (by decide)
  split
  case isTrue formFeed => subst formFeed; exact readString.eq_6 'f' rest (by decide)
  split
  case isTrue lineFeed => subst lineFeed; exact readString.eq_6 'n' rest (by decide)
  split
  case isTrue carriageReturn => subst carriageReturn; exact readString.eq_6 'r' rest (by decide)
  split
  case isTrue tab => subst tab; exact readString.eq_6 't' rest (by decide)
  split
  case isTrue control =>
    -- No control is a surrogate, so one escape is enough.
    have notLow : isLowSurrogate character.toNat = false := by
      rw [isLowSurrogate, Bool.and_eq_false_iff]
      exact .inl (decide_eq_false (by omega))
    have notHigh : isHighSurrogate character.toNat = false := by
      rw [isHighSurrogate, Bool.and_eq_false_iff]
      exact .inl (decide_eq_false (by omega))
    refine (readString.eq_3 '0' '0' _ _ rest).trans ?_
    rw [hexValue4?_hexDigit control]
    simp only [notLow, notHigh, Bool.false_eq_true, if_false, Char.ofNat_toNat]
  case isFalse noQuote noBackslash _ _ _ _ _ visible =>
    have plain := readString.eq_7 character rest noQuote
      (fun _ backslash _ => noBackslash backslash) (fun backslash _ => noBackslash backslash)
      (fun _ _ backslash _ => noBackslash backslash)
    rw [if_neg visible] at plain
    exact plain

/-- A string in written form is read back. -/
theorem readString_written (value rest : Text) :
    readString (value.flatMap writtenCharacter ++ '"' :: rest) = .ok (value, rest) := by
  induction value with
  | nil => exact readString.eq_2 rest
  | cons character value ih =>
    rw [List.flatMap_cons, List.append_assoc, readString_writtenCharacter, ih]
    rfl

theorem writtenString_append (value rest : Text) :
    writtenString value ++ rest = '"' :: (value.flatMap writtenCharacter ++ '"' :: rest) := by
  rw [writtenString, List.cons_append, List.cons_append, List.append_assoc]
  rfl

/-! ## Integers -/

/-- Whether nothing at the start of a text continues a number. -/
def endsNumber : Text → Bool
  | [] => true
  | character :: _ =>
    !character.isDigit && character != '.' && character != 'e' && character != 'E'

/-- Digits without fraction and exponent are a whole number. -/
theorem readAfterDigits_of_ends (ends : endsNumber rest = true) (negative : Bool) (digits : Text) :
    readAfterDigits negative digits rest =
      wholeNumber negative (Text.decimalValue digits) rest := by
  cases rest with
  | nil => rfl
  | cons character rest =>
    simp only [endsNumber, Bool.and_eq_true, bne_iff_ne, ne_eq] at ends
    obtain ⟨⟨⟨-, noPoint⟩, noLetter⟩, noCapital⟩ := ends
    have noExponent : afterExponentLetter? (character :: rest) = none := by
      unfold afterExponentLetter?
      split
      · next equal => exact absurd (List.cons.inj equal).1 noLetter
      · next equal => exact absurd (List.cons.inj equal).1 noCapital
      · rfl
    rw [readAfterDigits.eq_2 negative digits _ fun _ equal => noPoint (List.cons.inj equal).1,
      noExponent]

theorem not_isDigit_of_ends (ends : endsNumber rest = true) :
    ∀ character, rest.head? = some character → character.isDigit = false := by
  intro character first
  cases rest with
  | nil => cases first
  | cons next rest =>
    cases first
    simp only [endsNumber, Bool.and_eq_true, Bool.not_eq_true'] at ends
    exact ends.1.1.1

/-- The digits of a number are read as this number. -/
theorem readNumber_ofNat (ends : endsNumber rest = true) (negative : Bool) (number : Nat) :
    readNumber negative (Text.ofNat number ++ rest) = wholeNumber negative number rest := by
  have stops := not_isDigit_of_ends ends
  rcases Nat.eq_zero_or_pos number with rfl | positive
  · -- A leading zero stands alone.
    have alone : Text.takeDigits ([] ++ rest) = ([], rest) :=
      Text.takeDigits_of_ends (List.forall_mem_nil _) stops
    rw [List.nil_append] at alone
    refine (readNumber.eq_2 negative rest).trans ?_
    rw [alone]
    exact readAfterDigits_of_ends ends negative ['0']
  · obtain ⟨digit, others, leading, notZero⟩ := Text.exists_digit_of_pos positive
    have digits : Text.takeDigits (Text.ofNat number ++ rest) = (Text.ofNat number, rest) :=
      Text.takeDigits_of_ends (fun _ inDigits => Text.isDigit_of_mem_ofNat inDigits) stops
    have isDigit : digit.isDigit = true :=
      Text.isDigit_of_mem_ofNat (leading ▸ List.mem_cons_self)
    have whole := readAfterDigits_of_ends ends negative (Text.ofNat number)
    rw [Text.decimalValue_ofNat] at whole
    rw [leading, List.cons_append] at digits ⊢
    rw [readNumber.eq_3 negative digit _ notZero, if_pos isDigit, digits, ← leading]
    exact whole

/-- What begins with a digit is read as a number. -/
theorem readScalar_of_isDigit {digit : Char} (isDigit : digit.isDigit = true) (rest : Text) :
    readScalar (digit :: rest) = readNumber false (digit :: rest) := by
  unfold readScalar
  split
  case h_1 equal => cases equal
  case h_7 equal => cases equal; exact if_pos isDigit
  all_goals
    next equal =>
    cases equal
    exact absurd isDigit (by decide)

/-- An integer that has a form of 64 bits, signed or unsigned, is read back. -/
theorem readScalar_ofInt (ends : endsNumber rest = true) {value : Int}
    (least : -(twoTo 63 : Int) ≤ value) (greatest : value < twoTo 64) :
    readScalar (Text.ofInt value ++ rest) = .ok (integer value, rest) := by
  cases value with
  | ofNat number =>
    have fits : number < twoTo 64 := Int.ofNat_lt.mp greatest
    have read := readNumber_ofNat ends false number
    rw [wholeNumber, if_neg Bool.false_ne_true, if_pos fits] at read
    obtain ⟨digit, others, leading, isDigit⟩ := Text.exists_digit number
    rw [leading, List.cons_append] at read
    rw [Text.ofInt, leading, List.cons_append, readScalar_of_isDigit isDigit, read]
    rfl
  | negSucc number =>
    have fits : number + 1 ≤ twoTo 63 := by omega
    have read := readNumber_ofNat ends true (number + 1)
    rw [wholeNumber, if_pos rfl, if_pos (by simp [fits])] at read
    rw [Text.ofInt, List.cons_append]
    exact read

end Json

end Beanwright
