import Beanwright.Double.Shortest
import Beanwright.Json.Basic

/-!
# The compact text of a JSON value

The compact form has no blanks. A string escapes the quote, the backslash and the controls below
the space, and shows every other character as it is.
-/

namespace Beanwright.Json

/-- A hexadecimal digit, letters in lower case. -/
def hexDigit (value : Nat) : Char :=
  if value < 10 then Char.ofNat ('0'.toNat + value) else Char.ofNat ('a'.toNat + (value - 10))

/-- A character of a string in written form. -/
def writtenCharacter (character : Char) : Text :=
  if character = '"' then ['\\', '"']
  else if character = '\\' then ['\\', '\\']
  else if character = '\x08' then ['\\', 'b']
  else if character = '\x0c' then ['\\', 'f']
  else if character = '\n' then ['\\', 'n']
  else if character = '\r' then ['\\', 'r']
  else if character = '\t' then ['\\', 't']
  else if character.toNat < 32 then
    ['\\', 'u', '0', '0', hexDigit (character.toNat / 16), hexDigit (character.toNat % 16)]
  else [character]

/-- A string in written form, between quotes. -/
def writtenString (value : Text) : Text := '"' :: value.flatMap writtenCharacter ++ ['"']

mutual

/-- The compact text of a value. -/
def compact : Json → Text
  | null => "null".toList
  | bool true => "true".toList
  | bool false => "false".toList
  | integer value => Text.ofInt value
  | double value => value.text
  | string value => writtenString value
  | array items => '[' :: compactItems items
  | object fields => '{' :: compactFields fields

/-- The items of an array after its opening bracket. -/
def compactItems : List Json → Text
  | [] => [']']
  | [item] => compact item ++ [']']
  | item :: next :: rest => compact item ++ ',' :: compactItems (next :: rest)

/-- The fields of an object after its opening brace. -/
def compactFields : List (Text × Json) → Text
  | [] => ['}']
  | [(key, value)] => writtenString key ++ ':' :: compact value ++ ['}']
  | (key, value) :: next :: rest =>
    writtenString key ++ ':' :: compact value ++ ',' :: compactFields (next :: rest)

end

end Beanwright.Json
