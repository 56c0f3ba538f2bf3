import Beanwright.Layout.Nesting
import Beanwright.Text.Basic

/-!
# Words of the command line

The program has commands, and each of them has options. An option is written with its word after two
hyphens or with its letter after one. Some options take a value.
-/

namespace Beanwright.CommandLine

/-- What an option belongs to, and what help is about. -/
inductive Scope where
  /-- The program. -/
  | program
  /-- The command that generates a class. -/
  | generate
  /-- The command that inspects a bean. -/
  | check
  /-- The command that prints completions for a shell. -/
  | completions
  /-- The command that prints help. -/
  | help
deriving DecidableEq, Repr

namespace Scope

/-- The word that names a command on the command line; for the program, its own name. -/
def word : Scope → Text
  | program => "kiln".toList
  | generate => "generate".toList
  | check => "check".toList
  | completions => "completions".toList
  | help => "help".toList

/-- The commands. -/
def commands : List Scope := [generate, check, completions, help]

/-- The command of a word. -/
def command? (word : Text) : Option Scope := commands.find? fun scope => scope.word == word

end Scope

/-- An option. -/
inductive Flag where
  /-- The path of the bean. -/
  | source
  /-- The directory for the class. -/
  | destination
  /-- Shows the class instead of writing it. -/
  | preview
  /-- Refuses unbalanced braces. -/
  | strict
  /-- The width of the indentation. -/
  | indent
  /-- Takes the bean for JSON. -/
  | json
  /-- Takes the bean for TOML. -/
  | toml
  /-- Asks for more messages. -/
  | verbose
  /-- Asks for help. -/
  | help
  /-- Asks for the version. -/
  | version
deriving DecidableEq, Repr

/-- A text that is a decimal integer, perhaps with a sign: its value. -/
def integer? (text : Text) : Option Int :=
  let value? (digits : Text) : Option Int :=
    if !digits.isEmpty && digits.all Char.isDigit then some (Text.decimalValue digits) else none
  match text with
  | '+' :: digits => value? digits
  | '-' :: digits => (value? digits).map fun value => -value
  | digits => value? digits

/-- The width of indentation that a text asks for, if there is such a width. -/
def indentWidth? (text : Text) : Option Nat :=
  (integer? text).bind fun width =>
    if 0 ≤ width && width ≤ Indent.maximalWidth then some width.toNat else none

namespace Flag

/-- The word of an option. -/
def word : Flag → Text
  | source => "src".toList
  | destination => "dest".toList
  | preview => "preview".toList
  | strict => "strict".toList
  | indent => "indent".toList
  | json => "json".toList
  | toml => "toml".toList
  | verbose => "verbose".toList
  | help => "help".toList
  | version => "version".toList

/-- The letter of an option, if it has one. -/
def letter? : Flag → Option Char
  | source => some 's'
  | destination => some 'd'
  | verbose => some 'v'
  | help => some 'h'
  | version => some 'V'
  | _ => none

/-- Whether an option takes a value. -/
def takesValue : Flag → Bool
  | source => true
  | destination => true
  | indent => true
  | _ => false

/-- Whether an option takes a text as its value: paths are not empty, and widths are in range. -/
def accepts (flag : Flag) (value : Text) : Bool :=
  match flag with
  | source => !value.isEmpty
  | destination => !value.isEmpty
  | indent => (indentWidth? value).isSome
  | _ => value.isEmpty

/-- What an option does, for help. -/
def summary : Flag → Text
  | source => "The path of the bean".toList
  | destination => "The directory for the class".toList
  | preview => "Show the class instead of writing it".toList
  | strict => "Refuse unbalanced braces".toList
  | indent => "The number of spaces per level, from 0 to 16".toList
  | json => "Take the bean for JSON".toList
  | toml => "Take the bean for TOML".toList
  | verbose => "Print more messages".toList
  | help => "Print help".toList
  | version => "Print the version".toList

end Flag

/-- The options that may stand after the word of a scope. -/
def Scope.flags : Scope → List Flag
  | program => [.verbose, .help, .version]
  | generate =>
    [.source, .destination, .preview, .strict, .indent, .json, .toml, .verbose, .help]
  | check => [.source, .json, .toml, .verbose, .help]
  | completions => [.verbose, .help]
  | help => []

/-- What a scope is for. -/
def Scope.summary : Scope → Text
  | program => "Generate JavaScript classes from beans".toList
  | generate => "Generate a class from a bean".toList
  | check => "Inspect a bean without writing anything".toList
  | completions => "Print completions for a shell".toList
  | help => "Print help about a command".toList

/-- A shell. -/
inductive Shell where
  /-- The shell `bash`. -/
  | bash
  /-- The shell `elvish`. -/
  | elvish
  /-- The shell `fish`. -/
  | fish
  /-- The shell `powershell`. -/
  | powershell
  /-- The shell `zsh`. -/
  | zsh
deriving DecidableEq, Repr

namespace Shell

/-- The name of a shell. -/
def name : Shell → Text
  | bash => "bash".toList
  | elvish => "elvish".toList
  | fish => "fish".toList
  | powershell => "powershell".toList
  | zsh => "zsh".toList

/-- The shells. -/
def all : List Shell := [bash, elvish, fish, powershell, zsh]

/-- The shell of a name. -/
def ofName? (name : Text) : Option Shell := all.find? fun shell => shell.name == name

end Shell

end Beanwright.CommandLine
