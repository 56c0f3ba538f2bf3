import Beanwright.Text.Blank
import Beanwright.Text.WordCharacter

/-!
# Spacing within a line

A line gets a space before its first brace, a space between a control word and its parenthesis, and
exactly one space on both sides of each assignment and equality operator.
-/

namespace Beanwright.Layout

/-! ## The first brace -/

/-- The text with a space before its first opening brace, unless the brace begins the line or
follows a blank; `previous` is the character before the text. -/
def spaceBraceAfter : (previous : Option Char) → Text → Text
  | _, [] => []
  | previous, character :: rest =>
    if character = '{' then
      match previous with
      | none => character :: rest
      | some before =>
        if Text.isBlank before then character :: rest else ' ' :: character :: rest
    else character :: spaceBraceAfter (some character) rest

/-- The line with a space before its first opening brace. -/
def spaceBrace (line : Text) : Text := spaceBraceAfter none line

/-! ## Control words -/

/-- The words that a parenthesis belongs to. -/
def controlWords : List Text := ["if".toList, "for".toList, "while".toList]

/-- Whether a text, given from its end to its start, ends in a word that begins at a word
boundary. -/
def endsInWord (word reversed : Text) : Bool :=
  match Text.without? word.reverse reversed with
  | none => false
  | some [] => true
  | some (character :: _) => !Text.isWordCharacter character

/-- The text with a space before each parenthesis that directly follows a control word; `before` is
what precedes the text, from its end to its start. -/
def spaceControlsAfter : (before : Text) → Text → Text
  | _, [] => []
  | before, character :: rest =>
    let spaced := spaceControlsAfter (character :: before) rest
    if character = '(' && controlWords.any fun word => endsInWord word before then
      ' ' :: character :: spaced
    else character :: spaced

/-- The line with a space between each control word and its parenthesis. -/
def spaceControls (line : Text) : Text := spaceControlsAfter [] line

/-! ## Operators -/

/-- A part of a line: a run of equals signs, or the text between two runs. -/
inductive Piece where
  /-- Text without equals signs. -/
  | gap (text : Text)
  /-- A number of equals signs. -/
  | run (length : Nat)
deriving DecidableEq, Repr

/-- The longest runs of equals signs of a line, and the gaps between them. -/
def Piece.ofText : Text → List Piece
  | [] => []
  | character :: rest =>
    if character = '=' then
      match ofText rest with
      | run length :: others => run (length + 1) :: others
      | others => run 1 :: others
    else
      match ofText rest with
      | gap text :: others => gap (character :: text) :: others
      | others => gap [character] :: others

/-- The longest run that is an operator. -/
def longestOperator : Nat := 3

/-- Whether a character next to a run makes it a comparison or an arrow. -/
def isComparison (character : Char) : Bool :=
  character == '<' || character == '>' || character == '!'

/-- The first character of the pieces after a run, which a gap provides. -/
def firstCharacter : List Piece → Option Char
  | .gap text :: _ => text.head?
  | _ => none

/-- Whether a run is an operator, between the character before it and the pieces after it. -/
def isOperator (before : Option Char) (length : Nat) (after : List Piece) : Bool :=
  decide (length ≤ longestOperator) && !before.any isComparison &&
    !(firstCharacter after).any isComparison

/-- Whether the pieces after a gap begin with an operator; `before` is the last character of the
gap. -/
def operatorFollows (before : Option Char) : List Piece → Bool
  | .run length :: rest => isOperator before length rest
  | _ => false

/-- The text of the pieces with one space on each side of the operators. `written` says that
something is written already, `afterOperator` that an operator was written last, and `before` is the
last character of the pieces that came before. -/
def spacePieces : (written afterOperator : Bool) → (before : Option Char) → List Piece → Text
  | _, _, _, [] => []
  | written, afterOperator, _, .gap text :: rest =>
    let before := text.getLast?
    let next := operatorFollows before rest
    let left := if afterOperator then Text.trimStart text else text
    let kept := if next then Text.trimEnd left else left
    let space := afterOperator && (!kept.isEmpty || (!rest.isEmpty && !next))
    (if space then [' '] else []) ++ kept ++
      spacePieces (written || !Text.isBlankText text) false before rest
  | written, _, before, .run length :: rest =>
    let operator := isOperator before length rest
    (if operator && written then [' '] else []) ++ List.replicate length '=' ++
      spacePieces true operator (some '=') rest

/-- The line with one space on each side of its operators. -/
def spaceOperators (line : Text) : Text := spacePieces false false none (Piece.ofText line)

/-- The line with all three kinds of spacing. -/
def spaceLine (line : Text) : Text := spaceOperators (spaceControls (spaceBrace line))

end Beanwright.Layout
