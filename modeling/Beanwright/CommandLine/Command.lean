import Beanwright.Bean.Basic
import Beanwright.CommandLine.Vocabulary
import Beanwright.Layout.Basic

/-!
# Commands

The arguments are read from left to right. The first one that asks for help or for the version ends
the reading, and so does the first one that makes no sense; only then are missing and conflicting
options looked for.
-/

namespace Beanwright.CommandLine

/-- The bean that a command is about. -/
structure BeanChoice where
  /-- The path, as given. -/
  path : Text
  /-- The format, if it is forced. -/
  format : Option BeanFormat
deriving DecidableEq, Repr

/-- What the arguments ask for. -/
inductive Command where
  /-- Generate a class; without a directory, show it. -/
  | generate (bean : BeanChoice) (directory : Option Text) (options : Layout.Options)
  /-- Inspect a bean. -/
  | check (bean : BeanChoice)
  /-- Print completions for a shell. -/
  | completions (shell : Shell)
deriving DecidableEq, Repr

/-- Why the reading of the arguments yields no command. -/
inductive Interruption where
  /-- They ask for help. -/
  | help (scope : Scope)
  /-- They ask for the version. -/
  | version
  /-- They make no sense. -/
  | misuse (scope : Scope)
deriving DecidableEq, Repr

/-- The arguments after the word of a scope, as far as they are read. -/
structure Reading where
  /-- The scope. -/
  scope : Scope
  /-- The options with their values; options without a value have an empty one. -/
  given : List (Flag × Text)
  /-- The arguments that are no options. -/
  plain : List Text
  /-- The option whose value must come next. -/
  awaited : Option Flag
  /-- Whether two hyphens stood alone, after which nothing is an option. -/
  plainOnly : Bool

namespace Reading

/-- Nothing is read. -/
def start (scope : Scope) : Reading := ⟨scope, [], [], none, false⟩

/-- The interruption by an argument that makes no sense. -/
def misuse (reading : Reading) : Except Interruption α := .error (.misuse reading.scope)

/-- Whether an option was given. -/
def has (reading : Reading) (flag : Flag) : Bool := (reading.given.lookup flag).isSome

/-- Takes note of an option. An option is given once, and with a value that it accepts. -/
def give (reading : Reading) (flag : Flag) (value : Text) : Except Interruption Reading :=
  match flag with
  | .help => .error (.help reading.scope)
  | .version => .error .version
  | _ =>
    if reading.has flag || !flag.accepts value then reading.misuse
    else .ok { reading with given := reading.given ++ [(flag, value)], awaited := none }

/-- Whether an argument has the form of an option: a hyphen alone has not. -/
def looksLikeOption : Text → Bool
  | '-' :: _ :: _ => true
  | _ => false

/-- Takes note of an argument that is no option. Only the word for a shell can be one. -/
def givePlain (reading : Reading) (argument : Text) : Except Interruption Reading :=
  if reading.scope = .completions && reading.plain.isEmpty &&
      (Shell.ofName? argument).isSome then
    .ok { reading with plain := [argument] }
  else reading.misuse

/-- Reads an option by its word, perhaps with a value after an equals sign. -/
def nextWord (reading : Reading) (text : Text) : Except Interruption Reading :=
  let word := text.takeWhile fun character => character != '='
  match reading.scope.flags.find? (fun flag => flag.word == word),
      text.dropWhile fun character => character != '=' with
  | none, _ => reading.misuse
  | some flag, [] =>
    if flag.takesValue then .ok { reading with awaited := some flag } else reading.give flag []
  | some flag, _ :: value => if flag.takesValue then reading.give flag value else reading.misuse

/-- The value that stands right after the letter of an option, perhaps after an equals sign. -/
def attachedValue : Text → Text
  | '=' :: value => value
  | value => value

/-- Reads options by their letters. The first one that takes a value takes all that follows, or the
next argument if nothing follows. -/
def nextLetters (reading : Reading) : (letters : Text) → Except Interruption Reading
  | [] => .ok reading
  | letter :: rest =>
    match reading.scope.flags.find? fun flag => flag.letter? == some letter with
    | none => reading.misuse
    | some flag =>
      if !flag.takesValue then
        match reading.give flag [] with
        | .error interruption => .error interruption
        | .ok next => nextLetters next rest
      else if rest.isEmpty then .ok { reading with awaited := some flag }
      else reading.give flag (attachedValue rest)

/-- Reads an argument. -/
def next (reading : Reading) (argument : Text) : Except Interruption Reading :=
  match reading.awaited with
  | some flag =>
    if looksLikeOption argument then reading.misuse else reading.give flag argument
  | none =>
    if reading.plainOnly then reading.givePlain argument
    else match argument with
      | ['-', '-'] => .ok { reading with plainOnly := true }
      | '-' :: '-' :: text => reading.nextWord text
      | '-' :: letter :: letters => reading.nextLetters (letter :: letters)
      | _ => reading.givePlain argument

/-- The bean that the options name. Two forced formats exclude each other. -/
def bean (reading : Reading) : Except Interruption BeanChoice :=
  match reading.given.lookup .source, reading.has .json, reading.has .toml with
  | none, _, _ => reading.misuse
  | some _, true, true => reading.misuse
  | some path, true, false => .ok ⟨path, some .json⟩
  | some path, false, true => .ok ⟨path, some .toml⟩
  | some path, false, false => .ok ⟨path, none⟩

/-- The layout that the options ask for. -/
def layout (reading : Reading) : Layout.Options :=
  let width? := (reading.given.lookup .indent).bind indentWidth?
  ⟨(width?.map Indent.spaces).getD .standard, reading.has .strict⟩

/-- The directory that the options name. There is none when the class is shown, and it must not be
missing otherwise. -/
def directory (reading : Reading) : Except Interruption (Option Text) :=
  if reading.has .preview then .ok none
  else match reading.given.lookup .destination with
    | some path => .ok (some path)
    | none => reading.misuse

/-- The command that the arguments make. -/
def command (reading : Reading) : Except Interruption Command := do
  if reading.awaited.isSome then reading.misuse
  match reading.scope with
  | .generate => return .generate (← reading.bean) (← reading.directory) reading.layout
  | .check => return .check (← reading.bean)
  | .completions =>
    match reading.plain.head?.bind Shell.ofName? with
    | some shell => return .completions shell
    | none => reading.misuse
  | _ => reading.misuse

end Reading

/-- The interruption by the command that prints help, given the words after it. -/
def helpAbout : (words : List Text) → Interruption
  | [] => .help .program
  | [word] =>
    match Scope.command? word with
    | some scope => .help scope
    | none => .misuse .program
  | _ => .misuse .program

namespace Command

/-- Reads the arguments after the word of a command. -/
def ofScope (scope : Scope) (arguments : List Text) : Except Interruption Command :=
  match scope with
  | .help => .error (helpAbout arguments)
  | _ => do (← arguments.foldlM Reading.next (.start scope)).command

/-- Reads the arguments from where the options of the program may stand. -/
def ofRest : Reading → (arguments : List Text) → Except Interruption Command
  | reading, [] => reading.misuse
  | reading, argument :: rest =>
    if Reading.looksLikeOption argument then
      match reading.next argument with
      | .error interruption => .error interruption
      | .ok next => ofRest next rest
    else match Scope.command? argument with
      | some scope => if reading.plainOnly then reading.misuse else ofScope scope rest
      | none => reading.misuse

/-- Reads the arguments of the program. -/
def ofArguments (arguments : List Text) : Except Interruption Command :=
  ofRest (.start .program) arguments

end Command

end Beanwright.CommandLine
