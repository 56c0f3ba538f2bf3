import Mathlib.Tactic.IntervalCases
import Beanwright.Text.Utf8

/-!
# Reading back UTF-8

The bytes of a text decode to the text. A character has one to four bytes. The first byte says how
many follow and which range the second one is in; the ranges rule out the surrogates, the characters
that need fewer bytes, and those past the last code point, none of which a character is.
-/

namespace Beanwright.Utf8

variable {byte : UInt8} {rest : List UInt8} {begun : Pending} {bits number low high : Nat}

/-! ## Single bytes -/

theorem decodeFrom_ascii (ascii : byte.toNat < 0x80) :
    decodeFrom none (byte :: rest) = some (Char.ofNat byte.toNat) :: decodeFrom none rest := by
  rw [decodeFrom, first, if_pos ascii]
  rfl

theorem decodeFrom_begin (notAscii : 0x80 ≤ byte.toNat)
    (begins : begin? byte.toNat = some begun) :
    decodeFrom none (byte :: rest) = decodeFrom (some begun) rest := by
  rw [decodeFrom, first, if_neg (Nat.not_lt.mpr notAscii), begins]
  rfl

theorem decodeFrom_continue {expected : List (Nat × Nat)} (next : Nat × Nat)
    (above : low ≤ byte.toNat) (below : byte.toNat ≤ high) :
    decodeFrom (some ⟨bits, (low, high) :: next :: expected⟩) (byte :: rest) =
      decodeFrom (some ⟨bits * 64 + (byte.toNat - 0x80), next :: expected⟩) rest := by
  rw [decodeFrom]
  simp [above, below]

theorem decodeFrom_finish (above : low ≤ byte.toNat) (below : byte.toNat ≤ high) :
    decodeFrom (some ⟨bits, [(low, high)]⟩) (byte :: rest) =
      some (Char.ofNat (bits * 64 + (byte.toNat - 0x80))) :: decodeFrom none rest := by
  rw [decodeFrom]
  simp [above, below]

/-! ## First bytes -/

theorem begin?_two (lower : 2 ≤ number) (upper : number < 32) :
    begin? (number + 192) = some ⟨number, [continuation]⟩ := by
  simp [begin?]
  omega

/-- The second of three bytes is in a range that depends on the first one. -/
theorem begin?_three (upper : number < 16) :
    begin? (number + 224) = some ⟨number,
      [if number = 0 then (0xA0, 0xBF) else if number = 13 then (0x80, 0x9F) else continuation,
        continuation]⟩ := by
  interval_cases number <;> rfl

/-- The second of four bytes is in a range that depends on the first one. -/
theorem begin?_four (upper : number < 5) :
    begin? (number + 240) = some ⟨number,
      [if number = 0 then (0x90, 0xBF) else if number = 4 then (0x80, 0x8F) else continuation,
        continuation, continuation]⟩ := by
  interval_cases number <;> rfl

/-! ## Characters -/

theorem join_bits (number : Nat) : number / 64 * 64 + (number % 64 + 128 - 0x80) = number := by
  omega

/-- The last byte of a character carries its last six bits. -/
theorem decodeFrom_last (number : Nat) (rest : List UInt8) :
    decodeFrom (some ⟨number / 64, [continuation]⟩) (UInt8.ofNat (number % 64 + 128) :: rest) =
      some (Char.ofNat number) :: decodeFrom none rest := by
  have byte : (UInt8.ofNat (number % 64 + 128)).toNat = number % 64 + 128 :=
    UInt8.toNat_ofNat_of_lt' (show _ < 256 by omega)
  rw [continuation, decodeFrom_finish (by omega) (by omega), byte, join_bits]

/-- So does a byte in the middle. -/
theorem decodeFrom_middle (next : Nat × Nat) (expected : List (Nat × Nat)) (number : Nat)
    (above : low ≤ number % 64 + 128) (below : number % 64 + 128 ≤ high) (rest : List UInt8) :
    decodeFrom (some ⟨number / 64, (low, high) :: next :: expected⟩)
        (UInt8.ofNat (number % 64 + 128) :: rest) =
      decodeFrom (some ⟨number, next :: expected⟩) rest := by
  have byte : (UInt8.ofNat (number % 64 + 128)).toNat = number % 64 + 128 :=
    UInt8.toNat_ofNat_of_lt' (show _ < 256 by omega)
  rw [decodeFrom_continue next (by omega) (by omega), byte, join_bits]

theorem decodeFrom_two (lower : 0x80 ≤ number) (upper : number ≤ 0x7FF) (rest : List UInt8) :
    decodeFrom none (UInt8.ofNat (number / 64 % 32 + 192) :: UInt8.ofNat (number % 64 + 128) ::
      rest) = some (Char.ofNat number) :: decodeFrom none rest := by
  have lead : number / 64 % 32 = number / 64 := by omega
  have byte : (UInt8.ofNat (number / 64 + 192)).toNat = number / 64 + 192 :=
    UInt8.toNat_ofNat_of_lt' (show _ < 256 by omega)
  rw [lead, decodeFrom_begin (by omega) (by rw [byte, begin?_two (by omega) (by omega)]),
    decodeFrom_last]

theorem decodeFrom_three (lower : 0x800 ≤ number) (upper : number ≤ 0xFFFF)
    (noSurrogate : number < 0xD800 ∨ 0xDFFF < number) (rest : List UInt8) :
    decodeFrom none (UInt8.ofNat (number / 4096 % 16 + 224) ::
      UInt8.ofNat (number / 64 % 64 + 128) :: UInt8.ofNat (number % 64 + 128) :: rest) =
        some (Char.ofNat number) :: decodeFrom none rest := by
  have lead : number / 4096 % 16 = number / 64 / 64 := by omega
  have byte : (UInt8.ofNat (number / 64 / 64 + 224)).toNat = number / 64 / 64 + 224 :=
    UInt8.toNat_ofNat_of_lt' (show _ < 256 by omega)
  rw [lead, decodeFrom_begin (by omega) (by rw [byte, begin?_three (by omega)])]
  -- The ranges leave out what two bytes can hold, and the surrogates.
  split
  · rw [decodeFrom_middle _ _ _ (by omega) (by omega), decodeFrom_last]
  · split
    · rw [decodeFrom_middle _ _ _ (by omega) (by omega), decodeFrom_last]
    · rw [continuation, decodeFrom_middle _ _ _ (by omega) (by omega), ← continuation,
        decodeFrom_last]

theorem decodeFrom_four (lower : 0x10000 ≤ number) (upper : number < 0x110000)
    (rest : List UInt8) :
    decodeFrom none (UInt8.ofNat (number / 262144 % 8 + 240) ::
      UInt8.ofNat (number / 4096 % 64 + 128) :: UInt8.ofNat (number / 64 % 64 + 128) ::
        UInt8.ofNat (number % 64 + 128) :: rest) =
          some (Char.ofNat number) :: decodeFrom none rest := by
  have lead : number / 262144 % 8 = number / 64 / 64 / 64 := by omega
  have second : number / 4096 = number / 64 / 64 := by omega
  have byte : (UInt8.ofNat (number / 64 / 64 / 64 + 240)).toNat = number / 64 / 64 / 64 + 240 :=
    UInt8.toNat_ofNat_of_lt' (show _ < 256 by omega)
  rw [lead, second, decodeFrom_begin (by omega) (by rw [byte, begin?_four (by omega)])]
  -- The ranges leave out what three bytes can hold, and what lies past the last code point.
  have ending : decodeFrom (some ⟨number / 64 / 64, [continuation, continuation]⟩)
      (UInt8.ofNat (number / 64 % 64 + 128) :: UInt8.ofNat (number % 64 + 128) :: rest) =
        some (Char.ofNat number) :: decodeFrom none rest := by
    rw [continuation, decodeFrom_middle _ _ _ (by omega) (by omega), ← continuation,
      decodeFrom_last]
  split
  · rw [decodeFrom_middle _ _ _ (by omega) (by omega), ending]
  · split
    · rw [decodeFrom_middle _ _ _ (by omega) (by omega), ending]
    · rw [continuation, decodeFrom_middle _ _ _ (by omega) (by omega), ← continuation, ending]

/-- The bytes of a character decode to it, whatever follows them. -/
theorem decodeFrom_encodeChar (character : Char) (rest : List UInt8) :
    decodeFrom none (String.utf8EncodeChar character ++ rest) =
      some character :: decodeFrom none rest := by
  have valid : character.val.toNat < 0xD800 ∨
      0xDFFF < character.val.toNat ∧ character.val.toNat < 0x110000 := character.valid
  have back : Char.ofNat character.val.toNat = character := Char.ofNat_toNat character
  rw [String.utf8EncodeChar.eq_1]
  generalize character.val.toNat = number at valid back
  subst back
  split
  · have byte : (UInt8.ofNat number).toNat = number :=
      UInt8.toNat_ofNat_of_lt' (show _ < 256 by omega)
    rw [List.singleton_append, decodeFrom_ascii (by omega), byte]
  · split
    · exact decodeFrom_two (by omega) (by omega) rest
    · split
      · exact decodeFrom_three (by omega) (by omega) (by omega) rest
      · exact decodeFrom_four (by omega) (by omega) rest

/-- The bytes of a text decode to it. -/
theorem decode?_encode (text : Text) : decode? (encode text) = some text := by
  rw [decode?, decode]
  induction text with
  | nil => rfl
  | cons character rest ih =>
    rw [encode] at ih ⊢
    rw [List.flatMap_cons, decodeFrom_encodeChar, List.mapM_cons, ih]
    rfl

end Beanwright.Utf8
