import Beanwright.Json.Printer
import Beanwright.Source
import Beanwright.Text.Unprintable

/-!
# Why a text is not the JSON value it should be

Each error has a cause and a place. While reading, an error is known by the number of bytes that
were still unread; `Json.Stop.located` turns that number into a place.
-/

namespace Beanwright.Json

/-- What is wrong with a text. -/
inductive Cause where
  /-- The text ends inside an array. -/
  | endInList
  /-- The text ends inside an object. -/
  | endInObject
  /-- The text ends inside a string. -/
  | endInString
  /-- The text ends where a value should be. -/
  | endInValue
  /-- No colon after a key. -/
  | expectedColon
  /-- An item is followed by neither a comma nor the end of the array. -/
  | expectedListEnd
  /-- A field is followed by neither a comma nor the end of the object. -/
  | expectedObjectEnd
  /-- A literal is misspelt. -/
  | expectedLiteral
  /-- Something that begins no value. -/
  | expectedValue
  /-- An unknown escape. -/
  | invalidEscape
  /-- A number that breaks the grammar of numbers. -/
  | invalidNumber
  /-- A number whose nearest double would be infinite. -/
  | numberOutOfRange
  /-- A raw control character in a string. -/
  | controlCharacter
  /-- A key without quotes. -/
  | keyNotString
  /-- Half of a surrogate pair. -/
  | loneSurrogate
  /-- A comma before a closing bracket. -/
  | trailingComma
  /-- Something after the value. -/
  | trailingCharacters
  /-- A first half of a surrogate pair without a second escape. -/
  | unexpectedEndOfHexEscape
  /-- Too many levels of nesting. -/
  | recursionLimit
  /-- A value of another kind than expected. -/
  | wrongKind (found : Json) (expected : Text)

/-- The kind of a value, with the value itself where it is a scalar. -/
def kind : Json → Text
  | null => "null".toList
  | bool value => "boolean `".toList ++ compact (bool value) ++ "`".toList
  | integer value => "integer `".toList ++ Text.ofInt value ++ "`".toList
  | double value => "floating point `".toList ++ value.text ++ "`".toList
  | string value => "string ".toList ++ Text.quoted value
  | array _ => "sequence".toList
  | object _ => "map".toList

/-- The wording of a cause. -/
def Cause.message : Cause → Text
  | endInList => "EOF while parsing a list".toList
  | endInObject => "EOF while parsing an object".toList
  | endInString => "EOF while parsing a string".toList
  | endInValue => "EOF while parsing a value".toList
  | expectedColon => "expected `:`".toList
  | expectedListEnd => "expected `,` or `]`".toList
  | expectedObjectEnd => "expected `,` or `\x7d`".toList
  | expectedLiteral => "expected ident".toList
  | expectedValue => "expected value".toList
  | invalidEscape => "invalid escape".toList
  | invalidNumber => "invalid number".toList
  | numberOutOfRange => "number out of range".toList
  | controlCharacter =>
    "control character (\\u0000-\\u001F) found while parsing a string".toList
  | keyNotString => "key must be a string".toList
  | loneSurrogate => "lone leading surrogate in hex escape".toList
  | trailingComma => "trailing comma".toList
  | trailingCharacters => "trailing characters".toList
  | unexpectedEndOfHexEscape => "unexpected end of hex escape".toList
  | recursionLimit => "recursion limit exceeded".toList
  | wrongKind found expected =>
    "invalid type: ".toList ++ found.kind ++ ", expected ".toList ++ expected

/-- An error of reading, with the place where it was noticed. -/
structure SyntaxError where
  /-- What is wrong. -/
  cause : Cause
  /-- Where it was noticed. -/
  place : Place

/-- The wording of an error, with its place if that is known. -/
def SyntaxError.message (error : SyntaxError) : Text :=
  if error.place.line = 0 then error.cause.message
  else error.cause.message ++ " at line ".toList ++ Text.ofNat error.place.line ++
    " column ".toList ++ Text.ofNat error.place.column

/-- The reason why reading stopped, with the number of bytes that were still unread. -/
structure Stop where
  /-- What is wrong. -/
  cause : Cause
  /-- The number of unread bytes. -/
  unread : Nat

/-- A stop before the given rest of the text. -/
def Stop.before (cause : Cause) (rest : Text) : Stop := ⟨cause, Text.utf8Length rest⟩

/-- A stop one byte into the given rest of the text, at the character that gave offence. -/
def Stop.inside (cause : Cause) (rest : Text) : Stop := ⟨cause, Text.utf8Length rest - 1⟩

/-- The error for a stop while reading the given text. -/
def Stop.located (text : Text) (stop : Stop) : SyntaxError :=
  ⟨stop.cause, Place.ofIndex text (Text.utf8Length text - stop.unread)⟩

end Beanwright.Json
