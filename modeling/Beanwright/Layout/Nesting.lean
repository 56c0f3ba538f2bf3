import Beanwright.Text.Blank

/-!
# Indentation by nesting, and balance

Each line is indented by one unit per open block. A line that holds an opening brace opens a block
for the lines after it; a line that holds a closing brace closes one and stands at the lower level.
There are never fewer than zero open blocks. Lines are balanced if no closing brace comes without an
opening one and no block stays open.
-/

namespace Beanwright

/-- The unit of indentation. -/
inductive Indent where
  /-- A number of spaces, of which at most sixteen count. -/
  | spaces (width : Nat)
  /-- A tab. -/
  | tab
deriving DecidableEq, Repr

namespace Indent

/-- The greatest number of spaces in a unit. -/
def maximalWidth : Nat := 16

/-- Two spaces. -/
def standard : Indent := .spaces 2

/-- The text of one unit. -/
def unit : Indent → Text
  | spaces width => List.replicate (min width maximalWidth) ' '
  | tab => ['\t']

/-- The text of several units. -/
def repeated (indent : Indent) : (level : Nat) → Text
  | 0 => []
  | level + 1 => indent.unit ++ indent.repeated level

@[simp] theorem repeated_zero (indent : Indent) : indent.repeated 0 = [] := rfl

@[simp] theorem repeated_succ (indent : Indent) (level : Nat) :
    indent.repeated (level + 1) = indent.unit ++ indent.repeated level := rfl

end Indent

namespace Layout

/-! ## Nesting -/

/-- The number of open blocks after a line. -/
def levelAfter (level : Nat) (content : Text) : Nat :=
  let opened := if content.contains '{' then level + 1 else level
  if content.contains '}' then opened - 1 else opened

/-- The level at which a line stands. -/
def levelOf (level : Nat) (content : Text) : Nat :=
  if content.contains '}' then levelAfter level content else level

/-- The lines indented, and the number of blocks left open, from a number of open blocks on. -/
def nestFrom (indent : Indent) : (level : Nat) → List Text → List Text × Nat
  | level, [] => ([], level)
  | level, line :: rest =>
    let content := Text.trimStart line
    let (nested, residual) := nestFrom indent (levelAfter level content) rest
    let placed := if content.isEmpty then [] else indent.repeated (levelOf level content) ++ content
    (placed :: nested, residual)

/-- The lines indented by nesting, and the number of blocks left open. -/
def nest (indent : Indent) (lines : List Text) : List Text × Nat := nestFrom indent 0 lines

/-! ## Balance of braces -/

/-- Where the braces of lines are found unbalanced, and how many blocks are open there. -/
structure Unbalanced where
  /-- The line, counted from one. -/
  line : Nat
  /-- The number of open blocks; negative after a closing brace without an opening one. -/
  depth : Int
deriving DecidableEq, Repr

/-- The wording of the error. -/
def Unbalanced.message (error : Unbalanced) : Text :=
  "unbalanced braces at line ".toList ++ Text.ofNat error.line ++ " (depth ".toList ++
    Text.ofInt error.depth ++ [')']

/-- The number of open blocks after a text, or none as soon as a block is closed that is not
open. -/
def depthAfter? : (depth : Nat) → Text → Option Nat
  | depth, [] => some depth
  | depth, character :: rest =>
    if character = '{' then depthAfter? (depth + 1) rest
    else if character = '}' then
      match depth with
      | 0 => none
      | depth + 1 => depthAfter? depth rest
    else depthAfter? depth rest

/-- Checks lines with some blocks open and some lines before them. -/
def checkBalanceFrom : (before depth : Nat) → List Text → Except Unbalanced Unit
  | before, depth, [] => if depth = 0 then .ok () else .error ⟨before, depth⟩
  | before, depth, line :: rest =>
    match depthAfter? depth line with
    | none => .error ⟨before + 1, -1⟩
    | some after => checkBalanceFrom (before + 1) after rest

/-- Refuses lines whose braces are not balanced. -/
def checkBalance (lines : List Text) : Except Unbalanced Unit := checkBalanceFrom 0 0 lines

end Layout

end Beanwright
