import Beanwright.Text.Blank
import Beanwright.Text.WordCharacter

/-!
# The constructor's signature

On the first line that has the word `constructor`, one space stands between its first occurrence and
what follows it. Later occurrences stay as they are.
-/

namespace Beanwright.Layout

/-- The word that begins the signature. -/
def signatureWord : Text := "constructor".toList

/-- Whether a text begins with a word character. -/
def beginsWithWordCharacter : Text → Bool
  | [] => false
  | character :: _ => Text.isWordCharacter character

/-- The rest of a text after a word at its start that no word character follows. -/
def wordAtStart? (word text : Text) : Option Text :=
  match Text.without? word text with
  | some rest => if beginsWithWordCharacter rest then none else some rest
  | none => none

/-- A text cut after the first occurrence of a word: the part up to its end and the rest. `inside`
says that a word character stands before the text. -/
def cutAfterWord? (word : Text) (inside : Bool) : Text → Option (Text × Text)
  | [] => none
  | character :: rest =>
    match if inside then none else wordAtStart? word (character :: rest) with
    | some after => some (word, after)
    | none =>
      match cutAfterWord? word (Text.isWordCharacter character) rest with
      | some (before, after) => some (character :: before, after)
      | none => none

/-- The line with one space after the signature word, if it has the word. -/
def spaceSignature? (line : Text) : Option Text :=
  match cutAfterWord? signatureWord false line with
  | none => none
  | some (before, after) =>
    match Text.trimStart after with
    | [] => some line
    | rest => some (before ++ ' ' :: rest)

/-- The lines with one space after the signature word on the first line that has it. -/
def spaceSignatures : List Text → List Text
  | [] => []
  | line :: rest =>
    match spaceSignature? line with
    | some spaced => spaced :: rest
    | none => line :: spaceSignatures rest

end Beanwright.Layout
