import Beanwright.Bean.Document
import Beanwright.CommandLine.Command
import Beanwright.CommandLine.Help
import Beanwright.Inspection

/-!
# Tasks

A command is carried out by reading a file, and perhaps writing one, before the program ends. A task
says which files these are and what follows from what the file system answers, so that the same task
can be carried out on a file tree and on a real file system.
-/

namespace Beanwright.CommandLine

/-- What the program leaves behind, files apart. -/
structure Exit where
  /-- The exit code. -/
  code : Nat
  /-- The text for the standard output. -/
  output : Text
  /-- The text for the standard error. -/
  errors : Text
deriving DecidableEq, Repr

namespace Exit

/-- The exit after printing a text. -/
def success (output : Text) : Exit := ⟨0, output, []⟩

/-- The exit after a failure. -/
def failure (summary message : Text) : Exit :=
  ⟨1, [], ReportLine.printed (ReportLine.failure summary message)⟩

/-- The exit for arguments that make no command. -/
def ofInterruption : Interruption → Exit
  | .help scope => success (helpText scope)
  | .version => success versionText
  | .misuse scope => ⟨2, [], usage scope⟩

end Exit

/-- The requests to the file system up to the exit. -/
inductive Task where
  /-- The program ends. -/
  | finish (exit : Exit)
  /-- The text of a file is read. -/
  | read (path : Text) (next : Except SystemError Text → Task)
  /-- A text is written to a file, and the directories on the way to it are created. -/
  | write (path content : Text) (next : Except SystemError WriteOutcome → Task)

namespace Task

/-- The exit of a task on a file tree, and the tree after it. -/
def onTree (host : Host) : Task → FileTree → Exit × FileTree
  | finish exit, tree => (exit, tree)
  | read path next, tree => (next (tree.readText host path)).onTree host tree
  | write path content next, tree =>
    let (outcome, changed) := tree.write host path content
    (next outcome).onTree host changed

/-- The failure of a generation or an inspection. -/
def generationFailure (summary : Text) (error : GenerationError) : Task :=
  finish (.failure summary error.message)

/-- Loads the registry that a bean describes, and goes on with the absolute path of the bean, its
format and the registry. -/
def loading (summary workingDirectory : Text) (bean : BeanChoice)
    (next : (path : Text) → BeanFormat → Registry → Task) : Task :=
  let refuse (error : BeanError) : Task := finish (.failure summary error.message)
  match Path.absolute? workingDirectory bean.path with
  | none => refuse (.unreadable bean.path .emptyPath)
  | some path =>
    match Bean.formatOf path bean.format with
    | .error error => refuse error
    | .ok format =>
      read path fun content =>
        match (Bean.ofFile path format content).bind Bean.resolve with
        | .error error => refuse error
        | .ok registry => next path format registry

/-- The headline when no class is generated. -/
def generateFailure : Text := "Cannot generate class from bean!".toList

/-- Ends with the report on a generated class. -/
def finishGenerated : Except GenerationError Generation.Result → Task
  | .error error => generationFailure generateFailure error
  | .ok result => finish (.success (ReportLine.printed result.report))

/-- Generates the class of a bean, and writes it to a directory or shows it. -/
def generate (workingDirectory : Text) (bean : BeanChoice) (directory : Option Text)
    (options : Layout.Options) : Task :=
  loading generateFailure workingDirectory bean fun path format registry =>
    match directory.bind (Path.absolute? workingDirectory) with
    | none => finishGenerated (Generation.shownResult registry options path)
    | some directory =>
      match Generation.preview registry options with
      | .error error => generationFailure generateFailure error
      | .ok text =>
        let target := Generation.outputPath directory (Bean.stemOfPath path format)
        write target text fun outcome =>
          finishGenerated (Generation.writtenResult path
            (Generation.written registry target outcome))

/-- The headline when a bean fails its inspection. -/
def checkFailure : Text := "Invalid bean!".toList

/-- Inspects a bean. -/
def check (workingDirectory : Text) (bean : BeanChoice) : Task :=
  loading checkFailure workingDirectory bean fun path _ registry =>
    match Inspection.ofRegistry registry path with
    | .error error => generationFailure checkFailure error
    | .ok inspection => finish (.success (ReportLine.printed inspection.report))

/-- The task of a command. -/
def ofCommand (workingDirectory : Text) : Command → Task
  | .generate bean directory options => generate workingDirectory bean directory options
  | .check bean => check workingDirectory bean
  | .completions shell => finish (.success (completionScript shell))

/-- The task that arguments ask for. -/
def ofArguments (workingDirectory : Text) (arguments : List Text) : Task :=
  match Command.ofArguments arguments with
  | .error interruption => finish (.ofInterruption interruption)
  | .ok command => ofCommand workingDirectory command

end Task

end Beanwright.CommandLine
