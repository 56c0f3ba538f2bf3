import Beanwright.Text.Basic

/-!
# Blank characters

A property of characters is given by the ranges of code points that have it. A character is blank if
it has the Unicode property White_Space. Trimming removes blank characters at one end of a text.
-/

namespace Beanwright.Text

/-- Whether a code point lies in one of the ranges, ends included. -/
def inRanges (ranges : List (Nat × Nat)) (code : Nat) : Bool :=
  ranges.any fun (low, high) => low ≤ code && code ≤ high

@[simp] theorem inRanges_nil (code : Nat) : inRanges [] code = false := rfl

@[simp] theorem inRanges_cons (low high : Nat) (ranges : List (Nat × Nat)) (code : Nat) :
    inRanges ((low, high) :: ranges) code =
      ((decide (low ≤ code) && decide (code ≤ high)) || inRanges ranges code) := rfl

/-- The code points with the property White_Space. -/
def blankRanges : List (Nat × Nat) := [
  (0x9, 0xD), (0x20, 0x20), (0x85, 0x85), (0xA0, 0xA0), (0x1680, 0x1680), (0x2000, 0x200A),
  (0x2028, 0x2029), (0x202F, 0x202F), (0x205F, 0x205F), (0x3000, 0x3000)]

/-- Whether a character is blank. -/
def isBlank (character : Char) : Bool := inRanges blankRanges character.toNat

/-- The text without the blank characters at its start. -/
def trimStart (text : Text) : Text := text.dropWhile isBlank

/-- The text without the blank characters at its end. -/
def trimEnd : Text → Text
  | [] => []
  | character :: rest =>
    match trimEnd rest with
    | [] => if isBlank character then [] else [character]
    | kept => character :: kept

/-- Whether all characters of a text are blank. -/
def isBlankText (text : Text) : Bool := text.all isBlank

theorem isBlank_space : isBlank ' ' = true := by decide

theorem isBlank_lineFeed : isBlank '\n' = true := by decide

theorem isBlank_carriageReturn : isBlank '\r' = true := by decide

@[simp] theorem trimStart_nil : trimStart [] = [] := rfl

@[simp] theorem trimEnd_nil : trimEnd [] = [] := rfl

end Beanwright.Text
