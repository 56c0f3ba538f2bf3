import Beanwright.Text.Basic

/-!
# Source texts and places in them

A place in a source text is a byte index, or a line and a column: lines count from one, and the
column is the number of bytes since the line began. Line zero stands for no place at all.
-/

namespace Beanwright

/-- A line and a column of a source text. -/
structure Place where
  /-- The line, counted from one; zero if the place is unknown. -/
  line : Nat
  /-- The number of bytes since the line began. -/
  column : Nat
deriving DecidableEq, Repr

namespace Place

/-- The unknown place. -/
def unknown : Place := ⟨0, 0⟩

/-- The place reached from a given place after some bytes of a text. -/
def advance : Text → (index : Nat) → Place → Place
  | [], _, place => place
  | character :: rest, index, place =>
    if character.utf8Size ≤ index then
      let next : Place := if character = '\n' then ⟨place.line + 1, 0⟩
        else ⟨place.line, place.column + character.utf8Size⟩
      advance rest (index - character.utf8Size) next
    else ⟨place.line, place.column + index⟩

/-- The place of a byte index of a text. -/
def ofIndex (text : Text) (index : Nat) : Place := advance text index ⟨1, 0⟩

end Place

/-- A document together with the name under which messages speak of it. -/
structure Source where
  /-- The content. -/
  text : Text
  /-- The name of the file. -/
  fileName : Text

namespace Source

/-- The number of bytes of the first lines of a text, line feeds included. -/
def bytesOfLines : (count : Nat) → Text → Nat
  | 0, _ => 0
  | _ + 1, [] => 0
  | count + 1, character :: rest =>
    character.utf8Size +
      (if character = '\n' then bytesOfLines count rest else bytesOfLines (count + 1) rest)

/-- The byte index to which a message about a line and a column points: one byte before the column,
where the line has begun, and never beyond the end. -/
def offset? (source : Source) (place : Place) : Option Nat :=
  if place.line = 0 then none
  else some (min (bytesOfLines (place.line - 1) source.text + (place.column - 1))
    (Text.utf8Length source.text))

end Source

end Beanwright
