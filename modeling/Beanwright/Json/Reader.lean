import Beanwright.Json.SyntaxError
import Beanwright.Text.Basic

/-!
# Reading JSON text

The reader takes the characters of a text from the left. Each part returns what it read and the rest
of the text, or the reason why it stopped. Nesting is bounded: `levels` counts the arrays and
objects that may still be opened, so the recursion on values is a recursion on that number.
-/

namespace Beanwright.Json

/-- The arrays and objects that may be open at the same time. -/
def maximalDepth : Nat := 127

/-- Whether a character is a blank of the format. -/
def isSpace (character : Char) : Bool :=
  character = ' ' || character = '\n' || character = '\t' || character = '\r'

/-- The text without the blanks at its start. -/
def skipSpaces (text : Text) : Text := text.dropWhile isSpace

/-- Reads the letters of a literal. -/
def readLiteral (value : Json) : (letters : Text) → Text → Except Stop (Json × Text)
  | [], rest => .ok (value, rest)
  | _ :: _, [] => .error (.before .endInValue [])
  | letter :: letters, character :: rest =>
    if character = letter then readLiteral value letters rest
    else .error (.inside .expectedLiteral (character :: rest))

/-! ## Numbers -/

/-- The largest exponent that is read digit by digit. -/
def exponentLimit : Nat := 2147483647

/-- Reads the digits of an exponent up to the first that takes it beyond the limit. -/
def readExponentDigits (value : Nat) : Text → Nat × Text
  | [] => (value, [])
  | character :: rest =>
    if character.isDigit then
      let next := 10 * value + Text.digitValue character
      if exponentLimit < next then (next, rest) else readExponentDigits next rest
    else (value, character :: rest)

/-- The double of a sign, digits and a power of ten, before the given rest. It is the nearest one to
the decimal. Readers that promise only their best effort for decimals, as the one whose errors are
reproduced here does, may miss it in the last place for a decimal with many digits. -/
def finishDouble (negative : Bool) (digits : Nat) (exponent : Int) (rest : Text) :
    Except Stop (Json × Text) :=
  match Double.ofDecimal negative digits exponent with
  | some value => .ok (double value, rest)
  | none => .error (.before .numberOutOfRange rest)

/-- Reads the exponent of a number after its letter. -/
def readExponent (negative : Bool) (digits : Nat) (scale : Int) (text : Text) :
    Except Stop (Json × Text) :=
  let (down, unsigned) : Bool × Text := match text with
    | '+' :: rest => (false, rest)
    | '-' :: rest => (true, rest)
    | rest => (false, rest)
  match unsigned with
  | [] => .error (.before .endInValue [])
  | character :: _ =>
    if !character.isDigit then .error (.inside .invalidNumber unsigned)
    else
      let (exponent, rest) := readExponentDigits 0 unsigned
      if exponent ≤ exponentLimit then
        finishDouble negative digits (if down then scale - exponent else scale + exponent) rest
      else if digits ≠ 0 && !down then .error (.before .numberOutOfRange rest)
      else .ok (double (Double.zero negative), rest.dropWhile Char.isDigit)

/-- The rest of a text after the letter of an exponent. -/
def afterExponentLetter? : Text → Option Text
  | 'e' :: rest => some rest
  | 'E' :: rest => some rest
  | _ => none

/-- The number whose digits have been read, without fraction and exponent. -/
def wholeNumber (negative : Bool) (value : Nat) (rest : Text) : Except Stop (Json × Text) :=
  if negative then
    if value ≠ 0 && decide (value ≤ twoTo 63) then .ok (integer (-(value : Int)), rest)
    else finishDouble true value 0 rest
  else if value < twoTo 64 then .ok (integer value, rest)
  else finishDouble false value 0 rest

/-- Reads what follows the digits before the point. -/
def readAfterDigits (negative : Bool) (digits : Text) (text : Text) : Except Stop (Json × Text) :=
  match text with
  | '.' :: rest =>
    let (fraction, after) := Text.takeDigits rest
    if fraction.isEmpty then
      if after.isEmpty then .error (.before .endInValue [])
      else .error (.inside .invalidNumber after)
    else
      let value := Text.decimalValue (digits ++ fraction)
      let scale : Int := -fraction.length
      match afterExponentLetter? after with
      | some rest => readExponent negative value scale rest
      | none => finishDouble negative value scale after
  | _ =>
    match afterExponentLetter? text with
    | some rest => readExponent negative (Text.decimalValue digits) 0 rest
    | none => wholeNumber negative (Text.decimalValue digits) text

/-- Reads a number after its sign. -/
def readNumber (negative : Bool) (text : Text) : Except Stop (Json × Text) :=
  match text with
  | [] => .error (.before .endInValue [])
  | '0' :: rest =>
    if (Text.takeDigits rest).1.isEmpty then readAfterDigits negative ['0'] rest
    else .error (.inside .invalidNumber rest)
  | character :: _ =>
    if character.isDigit then
      let (digits, rest) := Text.takeDigits text
      readAfterDigits negative digits rest
    else .error (.inside .invalidNumber text)

/-! ## Strings -/

/-- The number that four hexadecimal digits denote. -/
def hexValue4? (first second third fourth : Char) : Option Nat := do
  let a ← Text.hexValue? first
  let b ← Text.hexValue? second
  let c ← Text.hexValue? third
  let d ← Text.hexValue? fourth
  return ((a * 16 + b) * 16 + c) * 16 + d

/-- The stop for an escape whose digits are missing or wrong; four bytes are taken for the
digits. -/
def hexStop (digits : Text) : Stop :=
  if Text.utf8Length digits < 4 then .before .endInString []
  else ⟨.invalidEscape, Text.utf8Length digits - 4⟩

/-- The character of an escape by one letter. -/
def escapedCharacter? : Char → Option Char
  | '"' => some '"'
  | '\\' => some '\\'
  | '/' => some '/'
  | 'b' => some '\x08'
  | 'f' => some '\x0c'
  | 'n' => some '\n'
  | 'r' => some '\r'
  | 't' => some '\t'
  | _ => none

/-- Whether a number is the first half of a surrogate pair. -/
def isHighSurrogate (code : Nat) : Bool := 0xD800 ≤ code && code ≤ 0xDBFF

/-- Whether a number is the second half of a surrogate pair. -/
def isLowSurrogate (code : Nat) : Bool := 0xDC00 ≤ code && code ≤ 0xDFFF

/-- The character of a surrogate pair. -/
def pairedCharacter (high low : Nat) : Char :=
  Char.ofNat (0x10000 + (high - 0xD800) * 0x400 + (low - 0xDC00))

/-- The stop where the second half of a surrogate pair should begin and does not. -/
def secondHalfStop : Text → Stop
  | [] => .before .endInString []
  | '\\' :: [] => .before .endInString []
  | '\\' :: rest => .inside .unexpectedEndOfHexEscape rest
  | rest => .inside .unexpectedEndOfHexEscape rest

/-- Reads a string after its opening quote. -/
def readString : Text → Except Stop (Text × Text)
  | [] => .error (.before .endInString [])
  | '"' :: rest => .ok ([], rest)
  | '\\' :: 'u' :: rest =>
    match rest with
    | first :: second :: third :: fourth :: after =>
      match hexValue4? first second third fourth with
      | none => .error (hexStop rest)
      | some code =>
        if isLowSurrogate code then .error (.before .loneSurrogate after)
        else if isHighSurrogate code then
          match after with
          | '\\' :: 'u' :: digits =>
            match digits with
            | fifth :: sixth :: seventh :: eighth :: last =>
              match hexValue4? fifth sixth seventh eighth with
              | none => .error (hexStop digits)
              | some low =>
                if isLowSurrogate low then
                  (readString last).map fun (value, rest) =>
                    (pairedCharacter code low :: value, rest)
                else .error (.before .loneSurrogate last)
            | _ => .error (hexStop digits)
          | _ => .error (secondHalfStop after)
        else (readString after).map fun (value, rest) => (Char.ofNat code :: value, rest)
    | _ => .error (hexStop rest)
  | '\\' :: [] => .error (.before .endInString [])
  | '\\' :: letter :: rest =>
    match escapedCharacter? letter with
    | some character => (readString rest).map fun (value, rest) => (character :: value, rest)
    | none => .error (.inside .invalidEscape (letter :: rest))
  | character :: rest =>
    if character.toNat < 32 then .error (.inside .controlCharacter (character :: rest))
    else (readString rest).map fun (value, rest) => (character :: value, rest)

/-! ## Arrays and objects -/

/-- Reads a scalar that begins with the given text. -/
def readScalar (text : Text) : Except Stop (Json × Text) :=
  match text with
  | [] => .error (.before .endInValue [])
  | 'n' :: rest => readLiteral null "ull".toList rest
  | 't' :: rest => readLiteral (bool true) "rue".toList rest
  | 'f' :: rest => readLiteral (bool false) "alse".toList rest
  | '-' :: rest => readNumber true rest
  | '"' :: rest => (readString rest).map fun (value, rest) => (string value, rest)
  | character :: _ =>
    if character.isDigit then readNumber false text else .error (.inside .expectedValue text)

/-- Reads the items of an array up to its closing bracket; the text begins after the opening
bracket or after an item. Each item takes at least one character, so the length of the text is
enough `fuel`. -/
def readItems (readItem : Text → Except Stop (Json × Text)) : (fuel : Nat) →
    (first : Bool) → Text → Except Stop (List Json × Text)
  | 0, _, text => .error (.before .endInList text)
  | fuel + 1, first, text =>
    let more := fun (start : Text) => do
      let (item, rest) ← readItem start
      let (items, rest) ← readItems readItem fuel false rest
      return (item :: items, rest)
    match skipSpaces text with
    | [] => .error (.before .endInList [])
    | ']' :: rest => .ok ([], rest)
    | ',' :: rest =>
      if first then more (',' :: rest)
      else match skipSpaces rest with
        | [] => .error (.before .endInValue [])
        | ']' :: after => .error (.inside .trailingComma (']' :: after))
        | start => more start
    | start => if first then more start else .error (.inside .expectedListEnd start)

/-- Reads a key and the colon after it; the text begins at the quote. -/
def readKey : Text → Except Stop (Text × Text)
  | '"' :: rest => do
    let (key, rest) ← readString rest
    match skipSpaces rest with
    | [] => .error (.before .endInObject [])
    | ':' :: rest => return (key, rest)
    | rest => .error (.inside .expectedColon rest)
  | text => .error (.inside .keyNotString text)

/-- Reads the fields of an object up to its closing brace; the text begins after the opening brace
or after a field. Each field takes at least one character, so the length of the text is enough
`fuel`. -/
def readMembers (readItem : Text → Except Stop (Json × Text)) : (fuel : Nat) →
    (first : Bool) → Text → Except Stop (List (Text × Json) × Text)
  | 0, _, text => .error (.before .endInObject text)
  | fuel + 1, first, text =>
    let more := fun (start : Text) => do
      let (key, rest) ← readKey start
      let (value, rest) ← readItem rest
      let (fields, rest) ← readMembers readItem fuel false rest
      return ((key, value) :: fields, rest)
    match skipSpaces text with
    | [] => .error (.before .endInObject [])
    | '}' :: rest => .ok ([], rest)
    | ',' :: rest =>
      if first then more (',' :: rest)
      else match skipSpaces rest with
        | [] => .error (.before .endInValue [])
        | '}' :: after => .error (.inside .trailingComma ('}' :: after))
        | start => more start
    | start => if first then more start else .error (.inside .expectedObjectEnd start)

/-- Reads a value, with objects as they are written, repeated keys included. -/
def readValue : (levels : Nat) → Text → Except Stop (Json × Text)
  | levels, text =>
    match skipSpaces text, levels with
    | '[' :: rest, 0 => .error (.inside .recursionLimit ('[' :: rest))
    | '{' :: rest, 0 => .error (.inside .recursionLimit ('{' :: rest))
    | '[' :: rest, levels + 1 => do
      let (items, rest) ← readItems (readValue levels) (rest.length + 1) true rest
      return (array items, rest)
    | '{' :: rest, levels + 1 => do
      let (fields, rest) ← readMembers (readValue levels) (rest.length + 1) true rest
      return (object fields, rest)
    | start, _ => readScalar start

/-- The result of a reading that leaves nothing but blanks. -/
def complete (reading : Except Stop (α × Text)) : Except Stop α := do
  let (value, rest) ← reading
  match skipSpaces rest with
  | [] => return value
  | rest => .error (.inside .trailingCharacters rest)

/-- The value that a text denotes. -/
def read (text : Text) : Except SyntaxError Json :=
  match complete (readValue maximalDepth text) with
  | .ok value => .ok value.merged
  | .error stop => .error (stop.located text)

/-- Reads the fields of an object, and refuses every other value by its kind. -/
def readMap (text : Text) : Except Stop (List (Text × Json) × Text) :=
  match skipSpaces text with
  | '{' :: rest => readMembers (readValue (maximalDepth - 1)) (rest.length + 1) true rest
  | '[' :: rest => .error (.before (.wrongKind (array []) "a map".toList) ('[' :: rest))
  | start => do
    let (value, rest) ← readScalar start
    .error (.before (.wrongKind value "a map".toList) rest)

/-- The fields of the object that a text denotes, as written, repeated keys included. -/
def readFields (text : Text) : Except SyntaxError (List (Text × Json)) :=
  match complete (readMap text) with
  | .ok fields => .ok fields
  | .error stop => .error (stop.located text)

/-- The text of a string; the error for any other value has no place. -/
def asString : Json → Except SyntaxError Text
  | string value => .ok value
  | other => .error ⟨.wrongKind other "a string".toList, .unknown⟩

end Beanwright.Json
