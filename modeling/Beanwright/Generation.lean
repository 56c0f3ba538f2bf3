import Beanwright.Assembly.Assembler
import Beanwright.FileTree
import Beanwright.Layout.Basic

/-!
# Generating a class

A class is generated from its registry in two steps, assembly and layout, and a third one writes the
text to a file. An error names the step that failed and what made it fail.

## Main definitions

* `Generation.preview` — the text of the class
* `Generation.generate` — the text of the class, written to a file tree
* `Generation.Result.report` — the report on a generated class
-/

namespace Beanwright

/-! ## Reports -/

/-- A line of a report, or a block of text in it. -/
inductive ReportLine where
  /-- The headline. -/
  | headline (text : Text)
  /-- A fact under a key. -/
  | detail (key value : Text)
  /-- An item of a list. -/
  | item (text : Text)
  /-- A text that is printed as it is. -/
  | preformatted (text : Text)
deriving DecidableEq, Repr

namespace ReportLine

/-- A line as it is printed. -/
def text : ReportLine → Text
  | headline text => text
  | detail key value => " (".toList ++ key ++ ") => ".toList ++ value
  | item text => "   - ".toList ++ text
  | preformatted text => text

/-- The printed form of a report. -/
def printed (report : List ReportLine) : Text := report.flatMap fun line => line.text ++ ['\n']

/-- The report on a failure. -/
def failure (summary message : Text) : List ReportLine :=
  [.headline summary, .detail "error".toList message]

end ReportLine

/-! ## Generation -/

/-- Why no class is generated, or why a bean fails its inspection. -/
inductive GenerationError where
  /-- A property has no identifier. -/
  | undeclared (cause : BeanError)
  /-- The class cannot be assembled. -/
  | assembly (cause : AssemblyError)
  /-- The text of the class cannot be laid out. -/
  | layout (cause : Layout.Unbalanced)
  /-- The text of the class is malformed. -/
  | malformed (cause : Layout.Unbalanced)
  /-- The file cannot be written. -/
  | writing (path : Text) (cause : SystemError)

namespace GenerationError

/-- The messages from the failed step down to the deepest cause. -/
def chain : GenerationError → List Text
  | undeclared cause => cause.message :: cause.causes
  | assembly cause => "failed to assemble class".toList :: cause.message :: cause.causes
  | layout cause => ["failed to format class".toList, cause.message]
  | malformed cause => ["generated class is malformed".toList, cause.message]
  | writing path cause => ["failed to write '".toList ++ path ++ ['\''], cause.message]

/-- The messages of the chain in one line. -/
def message (error : GenerationError) : Text := Text.joined ": ".toList error.chain

end GenerationError

namespace Generation

/-- The text of the class that a registry declares. -/
def preview (registry : Registry) (options : Layout.Options) : Except GenerationError Text :=
  match ClassText.ofRegistry registry with
  | .error cause => .error (.assembly cause)
  | .ok pieces =>
    match Layout.format options pieces.render with
    | .error cause => .error (.layout cause)
    | .ok text => .ok text

/-- The path of the file for a class, in a directory. -/
def outputPath (directory stem : Text) : Text := Path.join directory (stem ++ ".js".toList)

/-- A class that was written to a file. -/
structure Written where
  /-- The class name. -/
  className : Text
  /-- The path of the file. -/
  path : Text
  /-- What the write did. -/
  outcome : WriteOutcome
deriving DecidableEq, Repr

/-- What is known about a class after an attempt to write it. -/
def written (registry : Registry) (path : Text) (result : Except SystemError WriteOutcome) :
    Except GenerationError Written :=
  match result with
  | .error cause => .error (.writing path cause)
  | .ok outcome =>
    match registry.name with
    | .error cause => .error (.undeclared cause)
    | .ok className => .ok ⟨className, path, outcome⟩

/-- Writes the text of the class that a registry declares to a file. Nothing is written if there is
no such text. -/
def generate (registry : Registry) (options : Layout.Options) (directory stem : Text)
    (host : Host) (tree : FileTree) : Except GenerationError Written × FileTree :=
  match preview registry options with
  | .error error => (.error error, tree)
  | .ok text =>
    let path := outputPath directory stem
    let (result, changed) := tree.write host path text
    (written registry path result, changed)

/-- Where a generated class went. -/
inductive Destination where
  /-- It is shown. -/
  | shown (text : Text)
  /-- It is in a file. -/
  | file (path : Text)
deriving DecidableEq, Repr

/-- A generated class. -/
structure Result where
  /-- The class name. -/
  className : Text
  /-- The path of the bean. -/
  bean : Text
  /-- Where the class went. -/
  destination : Destination
deriving DecidableEq, Repr

/-- The result of showing the class that a registry declares. -/
def shownResult (registry : Registry) (options : Layout.Options) (bean : Text) :
    Except GenerationError Result :=
  match preview registry options with
  | .error error => .error error
  | .ok text =>
    match registry.name with
    | .error cause => .error (.undeclared cause)
    | .ok className => .ok ⟨className, bean, .shown text⟩

/-- The result of writing a class. -/
def writtenResult (bean : Text) : Except GenerationError Written → Except GenerationError Result
  | .ok done => .ok ⟨done.className, bean, .file done.path⟩
  | .error error => .error error

/-- The report on a generated class: its text comes first if it is shown. -/
def Result.report (result : Result) : List ReportLine :=
  let facts : List ReportLine := [.headline "Successfully generated class!".toList,
    .detail "name".toList result.className, .detail "bean".toList result.bean]
  match result.destination with
  | .shown text => .preformatted text :: facts
  | .file path => facts ++ [.detail "file".toList path]

end Generation

end Beanwright
