/-!
# Texts

Every name, source line and document of the library is a `Text`, a list of characters, so that each
rule about texts is a recursion on the characters it reads. A `String` appears only where a text
leaves the library.
-/

namespace Beanwright

/-- A text is the list of its characters. -/
abbrev Text := List Char

namespace Text

/-- The text as a string, for messages. -/
def string (text : Text) : String := String.ofList text

/-- The pieces of a text between the occurrences of a delimiter; there is always at least one. -/
def segments (delimiter : Char) : Text → List Text
  | [] => [[]]
  | character :: rest =>
    if character = delimiter then [] :: segments delimiter rest
    else match segments delimiter rest with
      | [] => [[character]]
      | first :: others => (character :: first) :: others

/-- The texts of a list with a separator between neighbours. -/
def joined (separator : Text) : List Text → Text
  | [] => []
  | [text] => text
  | text :: next :: rest => text ++ separator ++ joined separator (next :: rest)

/-- The lines of a text. A line feed ends a line, together with a carriage return right before it,
and a text that ends in a line feed has no empty line after it. -/
def lines : Text → List Text
  | [] => []
  | '\n' :: rest => [] :: lines rest
  | '\r' :: '\n' :: rest => [] :: lines rest
  | character :: rest =>
    match lines rest with
    | [] => [[character]]
    | first :: others => (character :: first) :: others

/-- The text of lines, each ended by a line feed; no lines at all make one empty line. -/
def ofLines (lines : List Text) : Text := joined ['\n'] lines ++ ['\n']

/-- The number of bytes of the UTF-8 form of a text. -/
def utf8Length : Text → Nat
  | [] => 0
  | character :: rest => character.utf8Size + utf8Length rest

/-- The text without a given beginning, if it has that beginning. -/
def without? : (beginning : Text) → Text → Option Text
  | [], text => some text
  | _ :: _, [] => none
  | expected :: beginning, character :: rest =>
    if character = expected then without? beginning rest else none

/-- The text without a given ending, if it has that ending. -/
def withoutEnd? (ending text : Text) : Option Text :=
  (without? ending.reverse text.reverse).map List.reverse

/-- The ASCII letters of a text in lower case, all else unchanged. -/
def lowercased (text : Text) : Text := text.map Char.toLower

/-- The decimal digits of a natural number. -/
def ofNat (number : Nat) : Text := Nat.toDigits 10 number

/-- The decimal digits of an integer, after a minus sign if it is negative. -/
def ofInt : Int → Text
  | .ofNat number => ofNat number
  | .negSucc number => '-' :: ofNat (number + 1)

/-- The longest run of decimal digits at the start of a text, and the rest. -/
def takeDigits (text : Text) : Text × Text :=
  (text.takeWhile Char.isDigit, text.dropWhile Char.isDigit)

/-- The value of a decimal digit. -/
def digitValue (digit : Char) : Nat := digit.toNat - '0'.toNat

/-- The number that a run of decimal digits denotes. -/
def decimalValue (digits : Text) : Nat :=
  digits.foldl (fun value digit => 10 * value + digitValue digit) 0

/-- The value of a hexadecimal digit. -/
def hexValue? (character : Char) : Option Nat :=
  if character.isDigit then some (digitValue character)
  else if 'a' ≤ character && character ≤ 'f' then some (character.toNat - 'a'.toNat + 10)
  else if 'A' ≤ character && character ≤ 'F' then some (character.toNat - 'A'.toNat + 10)
  else none

@[simp] theorem segments_nil (delimiter : Char) : segments delimiter [] = [[]] := rfl

theorem segments_ne_nil (delimiter : Char) (text : Text) : segments delimiter text ≠ [] := by
  cases text with
  | nil => simp
  | cons character rest =>
    rw [segments]
    split
    · simp
    · split <;> simp

@[simp] theorem utf8Length_nil : utf8Length [] = 0 := rfl

@[simp] theorem utf8Length_cons (character : Char) (rest : Text) :
    utf8Length (character :: rest) = character.utf8Size + utf8Length rest := rfl

@[simp] theorem ofLines_singleton (line : Text) : ofLines [line] = line ++ ['\n'] := rfl

theorem ofLines_cons (line next : Text) (rest : List Text) :
    ofLines (line :: next :: rest) = line ++ '\n' :: ofLines (next :: rest) := by
  simp [ofLines, joined]

end Text

end Beanwright
