import Beanwright.Json.Basic
import Beanwright.Text.Basic

/-!
# Numbers

Decimal integers and floats with a sign, integers in other bases without one, and underscores
between digits. An integer must fit in 64 bits; a float must not be infinite unless it says so. JSON
has no infinity and no "not a number", so these become null.
-/

namespace Beanwright.Toml

/-- The digits of a text of digits in which single underscores may stand between two digits. -/
def plainDigits? (isDigit : Char → Bool) : Text → Option Text
  | [] => none
  | [digit] => if isDigit digit then some [digit] else none
  | digit :: '_' :: rest =>
    if isDigit digit then (plainDigits? isDigit rest).map fun digits => digit :: digits else none
  | digit :: rest =>
    if isDigit digit then (plainDigits? isDigit rest).map fun digits => digit :: digits else none

/-- The number that digits denote in a base. -/
def baseValue? (base : Nat) (digits : Text) : Option Nat :=
  digits.foldlM (fun value digit =>
    (Text.hexValue? digit).bind fun next =>
      if next < base then some (base * value + next) else none) 0

/-- Whether a character is a digit of a base. -/
def isBaseDigit (base : Nat) (character : Char) : Bool :=
  (Text.hexValue? character).any fun value => value < base

/-- The JSON value of an integer that fits in 64 bits, signed or unsigned. -/
def fitting? (value : Int) : Option Json :=
  if -(twoTo 63 : Int) ≤ value && value < twoTo 64 then some (.integer value) else none

/-- The integer that digits in another base denote, after the mark of the base. -/
def otherBase? (base : Nat) (text : Text) : Option Json := do
  let digits ← plainDigits? (isBaseDigit base) text
  let value ← baseValue? base digits
  fitting? value

/-- Whether digits have no zero in front of others. -/
def hasNoLeadingZero : Text → Bool
  | '0' :: _ :: _ => false
  | _ => true

/-- The sign of a number and the rest. -/
def sign : Text → Bool × Text
  | '-' :: rest => (true, rest)
  | '+' :: rest => (false, rest)
  | rest => (false, rest)

/-- Whether a character begins an exponent. -/
def isExponentLetter (character : Char) : Bool := character == 'e' || character == 'E'

/-- The value of an exponent, zero if there is none. -/
def exponent? : Text → Option Int
  | [] => some 0
  | _ :: text => do
    let (negative, rest) := sign text
    let digits ← plainDigits? Char.isDigit rest
    let value : Int := Text.decimalValue digits
    return if negative then -value else value

/-- The digits of a fraction, none if there is no fraction. -/
def fraction? : Text → Option Text
  | [] => some []
  | _ :: text => plainDigits? Char.isDigit text

/-- The decimal number that a text denotes. -/
def decimal? (text : Text) : Option Json := do
  let (negative, unsigned) := sign text
  let isWhole := fun character => !(character == '.' || isExponentLetter character)
  let whole ← plainDigits? Char.isDigit (unsigned.takeWhile isWhole)
  let rest := unsigned.dropWhile isWhole
  if !hasNoLeadingZero whole then none
  else if rest.isEmpty then
    let value : Int := Text.decimalValue whole
    fitting? (if negative then -value else value)
  else
    let isFraction := fun character => !isExponentLetter character
    let digits ← fraction? (rest.takeWhile isFraction)
    let power ← exponent? (rest.dropWhile isFraction)
    let value ← Double.ofDecimal negative (Text.decimalValue (whole ++ digits))
      (power - digits.length)
    return .double value

/-- The number that a text denotes. -/
def number? (text : Text) : Option Json :=
  let unsigned := (sign text).2
  if unsigned = "inf".toList || unsigned = "nan".toList then some .null
  else match text with
    | '0' :: 'x' :: digits => otherBase? 16 digits
    | '0' :: 'o' :: digits => otherBase? 8 digits
    | '0' :: 'b' :: digits => otherBase? 2 digits
    | _ => decimal? text

end Beanwright.Toml
