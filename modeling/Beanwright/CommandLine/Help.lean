import Beanwright.CommandLine.Vocabulary

/-!
# Help

The texts that tell how the program is used, and the scripts that complete its words in a shell.
-/

namespace Beanwright.CommandLine

/-- The version of the program. -/
def versionText : Text := Scope.program.word ++ " 0.3.0\n".toList

/-- What stands after the word of a scope. -/
def Scope.pattern : Scope → Text
  | program => "[options] <command>".toList
  | generate => "--src <path> (--dest <directory> | --preview) [options]".toList
  | check => "--src <path> [options]".toList
  | completions => "<shell>".toList
  | help => "[command]".toList

/-- The words with which a command line in a scope begins. -/
def Scope.invocation (scope : Scope) : Text :=
  if scope = program then program.word else program.word ++ ' ' :: scope.word

/-- The line about the use of a scope. -/
def usage (scope : Scope) : Text :=
  "Usage: ".toList ++ scope.invocation ++ ' ' :: scope.pattern ++ ['\n']

/-- The line about a word. -/
def entryLine (word summary : Text) : Text :=
  "  ".toList ++ word ++ "  ".toList ++ summary ++ ['\n']

/-- The words by which an option is written. -/
def Flag.spelling (flag : Flag) : Text :=
  (match flag.letter? with
    | some letter => ['-', letter, ',', ' ']
    | none => []) ++ '-' :: '-' :: flag.word

/-- The help about a scope. -/
def helpText (scope : Scope) : Text :=
  scope.summary ++ ['\n', '\n'] ++ usage scope ++
    (if scope = .program then
      "\nCommands:\n".toList ++
        Scope.commands.flatMap fun command => entryLine command.word command.summary
    else []) ++
    (if scope.flags.isEmpty then []
    else "\nOptions:\n".toList ++
      scope.flags.flatMap fun flag => entryLine flag.spelling flag.summary)

/-- The words of all commands, with blanks between them. -/
def commandWords : Text := Text.joined [' '] (Scope.commands.map Scope.word)

/-- The script that completes the commands in a shell. -/
def completionScript : Shell → Text
  | .bash =>
    "complete -W '".toList ++ commandWords ++ "' ".toList ++ Scope.program.word ++ ['\n']
  | .elvish =>
    "set edit:completion:arg-completer[".toList ++ Scope.program.word ++
      "] = \x7b|@words| put ".toList ++ commandWords ++ " \x7d\n".toList
  | .fish =>
    "complete -c ".toList ++ Scope.program.word ++ " -f -n __fish_use_subcommand -a '".toList ++
      commandWords ++ "'\n".toList
  | .powershell =>
    "Register-ArgumentCompleter -Native -CommandName ".toList ++ Scope.program.word ++
      " -ScriptBlock \x7b '".toList ++ commandWords ++ "' -split ' ' \x7d\n".toList
  | .zsh =>
    "#compdef ".toList ++ Scope.program.word ++ "\ncompadd ".toList ++ commandWords ++ ['\n']

end Beanwright.CommandLine
