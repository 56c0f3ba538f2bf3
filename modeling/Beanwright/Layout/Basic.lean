import Beanwright.Layout.Breaking
import Beanwright.Layout.Nesting
import Beanwright.Layout.Signature
import Beanwright.Layout.Spacing

/-!
# Layout of source text

The layout of a text is made by rules, each of which changes the lines that the one before it left.
In strict mode the braces must be balanced.

## Main definitions

* `Layout.Rule` — the rules, with `Layout.Rule.apply`
* `Layout.run` — the lines of a text after all rules
* `Layout.format` — the text of those lines
-/

namespace Beanwright.Layout

/-- A rule of layout. -/
inductive Rule where
  /-- Break lines at boundaries. -/
  | multiline
  /-- Separate blocks by empty lines. -/
  | linefeeds
  /-- Space the constructor's signature. -/
  | signature
  /-- Space braces, control words and operators. -/
  | spacing
  /-- Refuse unbalanced braces. -/
  | balanceCheck
  /-- Indent by nesting. -/
  | nesting
deriving DecidableEq, Repr

namespace Rule

/-- The name of a rule. -/
def name : Rule → Text
  | multiline => "multiline".toList
  | linefeeds => "linefeeds".toList
  | signature => "constructor".toList
  | spacing => "spacing".toList
  | balanceCheck => "balance-check".toList
  | nesting => "nesting".toList

/-- What a rule is for. -/
def description : Rule → Text
  | multiline => "Break lines after braces and semicolons".toList
  | linefeeds => "Insert blank lines between blocks".toList
  | signature => "Space the constructor signature".toList
  | spacing => "Normalize spacing around braces and operators".toList
  | balanceCheck => "Reject unbalanced braces".toList
  | nesting => "Indent by block depth".toList

/-- All rules. -/
def all : List Rule := [multiline, linefeeds, signature, spacing, balanceCheck, nesting]

/-- The rule of a name. -/
def ofName? (name : Text) : Option Rule := all.find? fun rule => rule.name == name

end Rule

/-- The lines of a text in the course of its layout. -/
structure Draft where
  /-- The lines. -/
  lines : List Text
  /-- The number of blocks that the last indentation left open. -/
  residual : Nat
deriving DecidableEq, Repr

/-- The draft with its lines changed. -/
def Draft.mapLines (draft : Draft) (change : List Text → List Text) : Draft :=
  { draft with lines := change draft.lines }

/-- Applies a rule. Only the check of balance can fail, and only the indentation counts blocks. -/
def Rule.apply (indent : Indent) (draft : Draft) : Rule → Except Unbalanced Draft
  | multiline => .ok (draft.mapLines breakLines)
  | linefeeds => .ok (draft.mapLines separateBlocks)
  | signature => .ok (draft.mapLines spaceSignatures)
  | spacing => .ok (draft.mapLines fun lines => lines.map spaceLine)
  | balanceCheck => (checkBalance draft.lines).map fun _ => draft
  | nesting =>
    let (lines, residual) := nest indent draft.lines
    .ok ⟨lines, residual⟩

/-- How a text is laid out. -/
structure Options where
  /-- The unit of indentation. -/
  indent : Indent
  /-- Whether unbalanced braces are refused. -/
  strict : Bool
deriving DecidableEq, Repr

/-- Two spaces, and unbalanced braces are tolerated. -/
def Options.standard : Options := ⟨.standard, false⟩

/-- The rules in the order in which they are applied. -/
def Options.rules (options : Options) : List Rule :=
  [.multiline, .linefeeds, .signature, .spacing] ++
    (if options.strict then [.balanceCheck] else []) ++ [.nesting]

/-- The lines of a text after all rules. -/
def run (options : Options) (text : Text) : Except Unbalanced Draft :=
  options.rules.foldlM (fun draft rule => rule.apply options.indent draft) ⟨Text.lines text, 0⟩

/-- The text of a draft. -/
def Draft.text (draft : Draft) : Text := Text.ofLines draft.lines

/-- The text after all rules. -/
def format (options : Options) (text : Text) : Except Unbalanced Text :=
  (run options text).map Draft.text

end Beanwright.Layout
