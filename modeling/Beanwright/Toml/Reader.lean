import Beanwright.Toml.DateTime
import Beanwright.Toml.Number
import Beanwright.Toml.Quoted
import Beanwright.Toml.Table

/-!
# Reading TOML documents

A document is a sequence of lines: headers that open tables, and keys with their values. Nesting of
lists and inline tables is bounded.
-/

namespace Beanwright.Toml

/-- The lists and inline tables that may be open at the same time. -/
def maximalDepth : Nat := 80

/-! ## Keys -/

/-- Whether a character may stand in a key without quotes. -/
def isBareKey (character : Char) : Bool :=
  character.isAlphanum || character == '_' || character == '-'

/-- Reads one part of a key. -/
def readKeyPart? (text : Text) : Option (Text × Text) :=
  match text with
  | '"' :: _ => readQuotedKey? text
  | '\'' :: _ => readQuotedKey? text
  | _ =>
    let bare := text.takeWhile isBareKey
    if bare.isEmpty then none else some (bare, text.dropWhile isBareKey)

/-- Reads a key: the parts before the last, and the last. Blanks around dots are skipped. -/
def readKey? : (fuel : Nat) → Text → Option ((List Text × Text) × Text)
  | 0, _ => none
  | fuel + 1, text => do
    let (part, rest) ← readKeyPart? (skipInline text)
    match skipInline rest with
    | '.' :: rest => do
      let ((path, last), rest) ← readKey? fuel rest
      return ((part :: path, last), rest)
    | rest => return (([], part), rest)

/-! ## Values -/

/-- The text after a comment, which reaches to the end of the line. -/
def skipComment? : Text → Option Text
  | '#' :: rest =>
    match rest.dropWhile isPlain with
    | [] => some []
    | after => if (lineEnd? after).isSome then some after else none
  | rest => some rest

/-- The text without blanks, line ends and comments at its start. -/
def skipFiller? : (fuel : Nat) → Text → Option Text
  | 0, _ => none
  | fuel + 1, text => do
    let rest ← skipComment? (skipInline text)
    match lineEnd? rest with
    | some after => skipFiller? fuel after
    | none => return rest

/-- The text without blanks, line ends and comments at its start. -/
def skipAll? (text : Text) : Option Text := skipFiller? (text.length + 1) text

/-- Whether a character may stand in a value without quotes. -/
def isWordPart (character : Char) : Bool :=
  character.isAlphanum || character == '_' || character == '+' || character == '-' ||
    character == '.' || character == ':'

/-- A value without quotes. -/
def wordValue? (text : Text) : Option Json :=
  if text = "true".toList then some (.bool true)
  else if text = "false".toList then some (.bool false)
  else match dateTime? text with
    | some normal => some (dateTimeJson normal)
    | none => number? text

/-- Reads a value without quotes. A date and a time may be separated by one space. -/
def readWord? (text : Text) : Option (Item × Text) :=
  let part := text.takeWhile isWordPart
  let rest := text.dropWhile isWordPart
  let (whole, rest) : Text × Text := match rest with
    | ' ' :: digit :: more =>
      if isDate part && digit.isDigit then
        (part ++ ' ' :: (digit :: more).takeWhile isWordPart, (digit :: more).dropWhile isWordPart)
      else (part, rest)
    | _ => (part, rest)
  (wordValue? whole).map fun value => (.scalar value, rest)

/-- Reads the items of a list after its opening bracket. -/
def readItems? (readItem? : Text → Option (Item × Text)) : (fuel : Nat) → Text →
    Option (List Item × Text)
  | 0, _ => none
  | fuel + 1, text => do
    match ← skipAll? text with
    | ']' :: rest => return ([], rest)
    | start => do
      let (item, rest) ← readItem? start
      match ← skipAll? rest with
      | ',' :: rest => do
        let (items, rest) ← readItems? readItem? fuel rest
        return (item :: items, rest)
      | ']' :: rest => return ([item], rest)
      | _ => none

/-- Reads a key, an equals sign and a value into a table. -/
def readEntry? (readItem? : Text → Option (Item × Text)) (kind : TableKind) (entries : Entries)
    (text : Text) : Option (Entries × Text) := do
  let ((path, key), rest) ← readKey? (text.length + 1) text
  let rest ← skip? '=' rest
  let (item, rest) ← readItem? (skipInline rest)
  let extended ← insert path key item kind entries
  return (extended, rest)

/-- Reads the entries of an inline table after its opening brace. -/
def readInline? (readItem? : Text → Option (Item × Text)) : (fuel : Nat) → Entries → Text →
    Option (Entries × Text)
  | 0, _, _ => none
  | fuel + 1, entries, text => do
    match ← skipAll? text with
    | '}' :: rest => return (entries, rest)
    | start => do
      let (extended, rest) ← readEntry? readItem? .inline entries start
      match ← skipAll? rest with
      | ',' :: rest => readInline? readItem? fuel extended rest
      | '}' :: rest => return (extended, rest)
      | _ => none

/-- Reads a value. -/
def readItem? : (levels : Nat) → Text → Option (Item × Text)
  | levels, text =>
    match text, levels with
    | '"' :: _, _ => (readQuoted? text).map fun (value, rest) => (.scalar (.string value), rest)
    | '\'' :: _, _ => (readQuoted? text).map fun (value, rest) => (.scalar (.string value), rest)
    | '[' :: rest, levels + 1 =>
      (readItems? (readItem? levels) (rest.length + 1) rest).map fun (items, rest) =>
        (.list false items, rest)
    | '{' :: rest, levels + 1 =>
      (readInline? (readItem? levels) (rest.length + 1) [] rest).map fun (entries, rest) =>
        (.table .inline entries, rest)
    | _, _ => readWord? text

/-! ## Documents -/

/-- The header under which lines are read. -/
structure Header where
  /-- The path to the table that the header's table belongs to. -/
  path : List Text
  /-- The key of the header's table there. -/
  key : Text
  /-- Whether the table is one of a list. -/
  ofList : Bool

/-- A document as far as it is read. -/
structure Draft where
  /-- The finished tables. -/
  root : Entries
  /-- The header of the table that is being read, if there was one. -/
  header : Option Header
  /-- The entries of the table that is being read. -/
  current : Entries

/-- The finished tables, with the one that is being read among them. -/
def Draft.finished? (draft : Draft) : Option Entries :=
  match draft.header with
  | none => some draft.current
  | some header =>
    if header.ofList then closeElement header.path header.key draft.current draft.root
    else closeTable header.path header.key draft.current draft.root

/-- The document after a header. -/
def Draft.begin? (draft : Draft) (header : Header) : Option Draft := do
  let root ← draft.finished?
  let current ← if header.ofList then some [] else openTable header.path header.key root
  return ⟨root, some header, current⟩

/-- Reads a header after its opening bracket. -/
def readHeader? (text : Text) : Option (Header × Text) := do
  let (ofList, start) : Bool × Text := match text with
    | '[' :: rest => (true, rest)
    | rest => (false, rest)
  let ((path, key), rest) ← readKey? (start.length + 1) start
  let rest ← skip? ']' rest
  let rest ← if ofList then skip? ']' rest else some rest
  return (⟨path, key, ofList⟩, rest)

/-- The text after the rest of a line, which holds nothing but blanks and a comment. -/
def finishLine? (text : Text) : Option Text := do
  match ← skipComment? (skipInline text) with
  | [] => return []
  | rest => lineEnd? rest

/-- Reads the lines of a document. -/
def readLinesInto? : (fuel : Nat) → Draft → Text → Option Draft
  | 0, _, _ => none
  | fuel + 1, draft, text => do
    match ← skipAll? text with
    | [] => return draft
    | '[' :: rest => do
      let (header, rest) ← readHeader? rest
      let rest ← finishLine? rest
      readLinesInto? fuel (← draft.begin? header) rest
    | start => do
      let (current, rest) ← readEntry? (readItem? maximalDepth) .explicit draft.current start
      let rest ← finishLine? rest
      readLinesInto? fuel { draft with current := current } rest

/-- The text without a byte order mark at its start. -/
def dropMark : Text → Text
  | '\uFEFF' :: rest => rest
  | rest => rest

/-- The fields of a document, if it is one. -/
def readFields? (text : Text) : Option (List (Text × Json)) := do
  let start := dropMark text
  let draft ← readLinesInto? (start.length + 1) ⟨[], none, []⟩ start
  let root ← draft.finished?
  return Item.entriesToJson root

end Beanwright.Toml
