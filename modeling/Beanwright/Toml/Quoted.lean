import Beanwright.Json.Basic
import Beanwright.Text.Basic

/-!
# Quoted strings

Basic strings have escapes, literal strings have none, and both have a form of several lines between
triple quotes. In that form a line feed right after the opening quotes is dropped, up to two quotes
may stand before the closing ones, and in a basic string a backslash at the end of a line joins it
with the next text that is not blank.
-/

namespace Beanwright.Toml

/-- Whether a character may stand in a string or a comment as it is. -/
def isPlain (character : Char) : Bool :=
  character == '\t' || (32 ≤ character.toNat && character.toNat != 127)

/-- The rest of a text after the end of a line. -/
def lineEnd? : Text → Option Text
  | '\n' :: rest => some rest
  | '\r' :: '\n' :: rest => some rest
  | _ => none

/-- Whether a character is a blank within a line. -/
def isInlineBlank (character : Char) : Bool := character == ' ' || character == '\t'

/-- The text without the blanks at its start. -/
def skipInline (text : Text) : Text := text.dropWhile isInlineBlank

/-- The character of an escape by one letter. -/
def escapedCharacter? : Char → Option Char
  | 'b' => some '\x08'
  | 't' => some '\t'
  | 'n' => some '\n'
  | 'f' => some '\x0c'
  | 'r' => some '\r'
  | 'e' => some '\x1b'
  | '"' => some '"'
  | '\\' => some '\\'
  | _ => none

/-- The number of hexadecimal digits after the letter of an escape. -/
def escapeWidth? : Char → Option Nat
  | 'x' => some 2
  | 'u' => some 4
  | 'U' => some 8
  | _ => none

/-- The value of a text of hexadecimal digits. -/
def hexNumber? (digits : Text) : Option Nat :=
  digits.foldlM (fun value digit => (Text.hexValue? digit).map fun next => 16 * value + next) 0

/-- The character with a code point, if there is one. -/
def characterOf? (code : Nat) : Option Char :=
  if code.isValidChar then some (Char.ofNat code) else none

/-- Reads an escape after its backslash. -/
def readEscape? : Text → Option (Char × Text)
  | [] => none
  | letter :: rest =>
    match escapeWidth? letter with
    | some width => do
      let digits := rest.take width
      if digits.length ≠ width then none
      let code ← hexNumber? digits
      let character ← characterOf? code
      return (character, rest.drop width)
    | none => (escapedCharacter? letter).map fun character => (character, rest)

/-- Reads a basic string on one line, after its opening quote. -/
def readBasic? : (fuel : Nat) → Text → Option (Text × Text)
  | 0, _ => none
  | _ + 1, [] => none
  | _ + 1, '"' :: rest => some ([], rest)
  | fuel + 1, '\\' :: rest => do
    let (character, rest) ← readEscape? rest
    let (value, rest) ← readBasic? fuel rest
    return (character :: value, rest)
  | fuel + 1, character :: rest =>
    if isPlain character then
      (readBasic? fuel rest).map fun (value, rest) => (character :: value, rest)
    else none

/-- Reads a literal string on one line, after its opening quote. -/
def readLiteral? : Text → Option (Text × Text)
  | [] => none
  | '\'' :: rest => some ([], rest)
  | character :: rest =>
    if isPlain character then
      (readLiteral? rest).map fun (value, rest) => (character :: value, rest)
    else none

/-- The quotes at the start of a text that belong to the content of a string of several lines, and
the rest after the closing quotes; none if the quotes do not close the string. -/
def closingQuotes? (quote : Char) (text : Text) : Option (Text × Text) :=
  let count := min 5 (text.takeWhile fun character => character == quote).length
  if 3 ≤ count then some (List.replicate (count - 3) quote, text.drop count) else none

/-- Whether a text goes on, after blanks, with the end of the line. -/
def endsLine (text : Text) : Bool := (lineEnd? (skipInline text)).isSome

/-- The text without the blanks and line ends at its start. -/
def skipLines : (fuel : Nat) → Text → Text
  | 0, text => text
  | fuel + 1, text =>
    match lineEnd? (skipInline text) with
    | some rest => skipLines fuel rest
    | none => skipInline text

/-- Reads the characters of a string of several lines, in which `escapes` says whether a backslash
begins an escape. -/
def readLines? (quote : Char) (escapes : Bool) : (fuel : Nat) → Text → Option (Text × Text)
  | 0, _ => none
  | _ + 1, [] => none
  | fuel + 1, character :: rest =>
    let keep := fun (kept : Text) (rest : Text) =>
      (readLines? quote escapes fuel rest).map fun (value, rest) => (kept ++ value, rest)
    if character = quote then
      match closingQuotes? quote (character :: rest) with
      | some closed => some closed
      | none => keep [character] rest
    else if character = '\\' && escapes then
      if endsLine rest then keep [] (skipLines (rest.length + 1) rest)
      else match readEscape? rest with
        | some (escaped, rest) => keep [escaped] rest
        | none => none
    else if isPlain character then keep [character] rest
    else match character, rest with
      | '\n', _ => keep ['\n'] rest
      | '\r', '\n' :: after => keep ['\r', '\n'] after
      | _, _ => none

/-- The text without a line end at its start. -/
def dropLineEnd (text : Text) : Text := (lineEnd? text).getD text

/-- Reads a string that begins with a quote. -/
def readQuoted? (text : Text) : Option (Text × Text) :=
  match text with
  | '"' :: '"' :: '"' :: rest => readLines? '"' true (rest.length + 1) (dropLineEnd rest)
  | '\'' :: '\'' :: '\'' :: rest => readLines? '\'' false (rest.length + 1) (dropLineEnd rest)
  | '"' :: rest => readBasic? (rest.length + 1) rest
  | '\'' :: rest => readLiteral? rest
  | _ => none

/-- Reads a string on one line that begins with a quote. -/
def readQuotedKey? : Text → Option (Text × Text)
  | '"' :: rest => readBasic? (rest.length + 1) rest
  | '\'' :: rest => readLiteral? rest
  | _ => none

end Beanwright.Toml
