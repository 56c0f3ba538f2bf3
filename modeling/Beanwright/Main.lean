import Beanwright.CommandLine.Task

/-!
# The program

Carries out the task that the arguments ask for, on the real file system.
-/

namespace Beanwright.CommandLine

/-- The number by which the system says that a path is a directory. -/
def directoryCode : UInt32 := 21

/-- The refusal that an error of the system stands for. -/
def refusal : IO.Error → SystemError
  | .noFileOrDirectory .. => .notFound
  | .alreadyExists .. => .alreadyExists
  | .permissionDenied .. => .permissionDenied
  | .inappropriateType _ code _ => if code = directoryCode then .isADirectory else .notADirectory
  | error => .other error.toString.toList

/-- What a request to the file system yields. -/
def request (action : IO α) : IO (Except SystemError α) :=
  try return .ok (← action) catch error => return .error (refusal error)

/-- Reads the text of a file. -/
def readText (path : Text) : IO (Except SystemError Text) := do
  let content ← request (IO.FS.readBinFile path.string)
  return content.bind fun bytes =>
    match Utf8.decode? bytes.toList with
    | some text => .ok text
    | none => .error .notUtf8

/-- Whether something stands at a path. -/
def standsAt (path : Text) : IO Bool := do
  let here ← IO.currentDir
  (here / path.string).pathExists

/-- Creates a directory, unless it exists. -/
def ensureDirectory (path : Text) : IO (Except SystemError Unit) := do
  let here ← IO.currentDir
  match ← request (IO.FS.createDir path.string) with
  | .ok () => return .ok ()
  | .error error => if ← (here / path.string).isDir then return .ok () else return .error error

/-- Creates the directory whose path has the given pieces, from the last to the first. When that
fails because a directory before it is missing, that one is created first. -/
def makeDirectories : (reversed : List Text) → IO (Except SystemError Unit)
  | [] => return .ok ()
  | piece :: before => do
    let path := Text.joined ['/'] (piece :: before).reverse
    match ← ensureDirectory path with
    | .error .notFound =>
      match ← makeDirectories before with
      | .error error => return .error error
      | .ok () => ensureDirectory path
    | result => return result

/-- Writes a text to a file, and creates the directories on the way to it. -/
def writeText (path content : Text) : IO (Except SystemError WriteOutcome) := do
  let outcome : WriteOutcome := if ← standsAt path then .replaced else .created
  match ← makeDirectories (Text.segments '/' path).reverse.tail with
  | .error error => return .error error
  | .ok () => request do
    IO.FS.writeBinFile path.string ⟨(Utf8.encode content).toArray⟩
    return outcome

/-- Carries out a task on the real file system. -/
def Task.perform : Task → IO Exit
  | finish exit => return exit
  | read path next => do (next (← readText path)).perform
  | write path content next => do (next (← writeText path content)).perform

end Beanwright.CommandLine

open Beanwright Beanwright.CommandLine in
/-- Carries out the task that the arguments ask for. -/
def main (arguments : List String) : IO UInt32 := do
  let workingDirectory := (← IO.currentDir).toString.toList
  let exit ← (Task.ofArguments workingDirectory (arguments.map String.toList)).perform
  IO.print exit.output.string
  IO.eprint exit.errors.string
  return exit.code.toUInt32
