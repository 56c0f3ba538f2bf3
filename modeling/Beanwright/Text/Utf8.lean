import Beanwright.Text.Basic

/-!
# UTF-8

The bytes of a text, and the text of bytes. Decoding goes byte by byte: a first byte says which
bytes must follow it, and a byte that does not fit ends the malformed part before it and is read as
a first byte itself.
-/

namespace Beanwright.Utf8

/-- The bytes of a text. -/
def encode (text : Text) : List UInt8 := text.flatMap String.utf8EncodeChar

/-- A character of which some bytes have been read. -/
structure Pending where
  /-- The bits read so far. -/
  bits : Nat
  /-- The ranges of the bytes that must follow, in order. -/
  expected : List (Nat × Nat)

/-- The range of most bytes after the first. -/
def continuation : Nat × Nat := (0x80, 0xBF)

/-- The character that a first byte begins, if it begins one of several bytes. -/
def begin? (byte : Nat) : Option Pending :=
  if 0xC2 ≤ byte && byte ≤ 0xDF then some ⟨byte - 0xC0, [continuation]⟩
  else if byte = 0xE0 then some ⟨0, [(0xA0, 0xBF), continuation]⟩
  else if byte = 0xED then some ⟨0xD, [(0x80, 0x9F), continuation]⟩
  else if 0xE1 ≤ byte && byte ≤ 0xEF then some ⟨byte - 0xE0, [continuation, continuation]⟩
  else if byte = 0xF0 then some ⟨0, [(0x90, 0xBF), continuation, continuation]⟩
  else if 0xF1 ≤ byte && byte ≤ 0xF3 then
    some ⟨byte - 0xF0, [continuation, continuation, continuation]⟩
  else if byte = 0xF4 then some ⟨4, [(0x80, 0x8F), continuation, continuation]⟩
  else none

/-- What a first byte gives: a finished character, a malformed part, or the beginning of a
character. -/
def first (byte : Nat) : List (Option Char) × Option Pending :=
  if byte < 0x80 then ([some (Char.ofNat byte)], none)
  else match begin? byte with
    | some begun => ([], some begun)
    | none => ([none], none)

/-- The characters of bytes after a partly read character. -/
def decodeFrom : (begun : Option Pending) → List UInt8 → List (Option Char)
  | none, [] => []
  | some _, [] => [none]
  | none, byte :: rest =>
    let (read, next) := first byte.toNat
    read ++ decodeFrom next rest
  | some begun, byte :: rest =>
    let malformed :=
      let (read, next) := first byte.toNat
      none :: read ++ decodeFrom next rest
    match begun.expected with
    | [] => malformed
    | (low, high) :: expected =>
      if low ≤ byte.toNat && byte.toNat ≤ high then
        let bits := begun.bits * 64 + (byte.toNat - 0x80)
        match expected with
        | [] => some (Char.ofNat bits) :: decodeFrom none rest
        | more => decodeFrom (some ⟨bits, more⟩) rest
      else malformed

/-- The characters of bytes, with a mark for each malformed part. -/
def decode (bytes : List UInt8) : List (Option Char) := decodeFrom none bytes

/-- The text of bytes, if no part is malformed. -/
def decode? (bytes : List UInt8) : Option Text := (decode bytes).mapM id

/-- The text of bytes, with a replacement character for each malformed part. -/
def decodeLossy (bytes : List UInt8) : Text :=
  (decode bytes).map fun character => character.getD '\uFFFD'

end Beanwright.Utf8
