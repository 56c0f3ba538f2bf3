import Beanwright.Text.Blank
import Beanwright.Text.WordCharacter

/-!
# Breaking lines and separating blocks

A line is broken after each brace and each semicolon that something follows, so that every boundary
ends a line. Blanks after a break are dropped. Then an empty line is put between a line that closes
a block and a following line that holds a header: a word, a parenthesis, later the closing
parenthesis, and a brace.
-/

namespace Beanwright.Layout

/-- Whether a character ends a block, a block header or a statement. -/
def isBoundary (character : Char) : Bool :=
  character == '{' || character == '}' || character == ';'

/-- The pieces of a line between its breaks. While `skipping`, blanks are dropped. -/
def pieces : (skipping : Bool) → Text → List Text
  | _, [] => [[]]
  | skipping, character :: rest =>
    if skipping && Text.isBlank character then pieces true rest
    else if isBoundary character then
      if Text.isBlankText rest then [character :: rest] else [character] :: pieces true rest
    else match pieces false rest with
      | [] => [[character]]
      | first :: others => (character :: first) :: others

/-- The lines that a line is broken into. -/
def breakLine (line : Text) : List Text := pieces false line

/-- The lines, each broken at its boundaries. -/
def breakLines (lines : List Text) : List Text := lines.flatMap breakLine

/-! ## Blocks -/

/-- Whether a text goes on, after blanks, with a given character. -/
def goesOnWith (character : Char) (text : Text) : Bool :=
  (Text.trimStart text).head? == some character

/-- Whether a parenthesis closes before the end of the line and is followed by a brace. -/
def closesIntoBlock : Text → Bool
  | [] => false
  | character :: rest =>
    if character = '\n' then false
    else (character == ')' && goesOnWith '{' rest) || closesIntoBlock rest

/-- Whether a text begins, after blanks, with a parenthesis that closes into a block. -/
def opensIntoBlock (text : Text) : Bool :=
  match Text.trimStart text with
  | '(' :: rest => closesIntoBlock rest
  | _ => false

/-- Whether a line holds the header of a method or of a control block. -/
def isHeader : Text → Bool
  | [] => false
  | character :: rest =>
    (Text.isWordCharacter character && opensIntoBlock rest) || isHeader rest

/-- The lines with an empty line after each closing line that a header follows. -/
def separateBlocks : List Text → List Text
  | [] => []
  | [line] => [line]
  | line :: next :: rest =>
    if line.contains '}' && isHeader next then line :: [] :: separateBlocks (next :: rest)
    else line :: separateBlocks (next :: rest)

end Beanwright.Layout
