import Std.Data.ExtTreeMap
import Beanwright.Path
import Beanwright.Text.Utf8

/-!
# File trees

The state of a file system, and what becomes of it when files are read and written. At a location
below the root stands a directory, a file or a symbolic link; one file may stand at several
locations. A path is followed name by name, from the root or from the working directory, and every
symbolic link on the way is replaced by the path that it holds.

A system refuses requests for reasons that no tree tells: permissions, a full disk, a device that
fails. A `Host` says which ones it refuses. A refusal leaves the tree as it is, except that a file
which is being written has lost its content by then and keeps what was written of the new one.

Pipes, devices, changes by other programs at the same time and the limit on the length of a whole
path are left out.
-/

namespace Beanwright

/-- What stands at a location. -/
inductive Node where
  /-- A directory. -/
  | directory
  /-- A file, by its number. -/
  | file (number : Nat)
  /-- A symbolic link to a path. -/
  | link (path : Text)
deriving DecidableEq, Repr

/-- The number after the one of a file; other nodes leave every number free. -/
def Node.nextNumber : Node → Nat
  | file number => number + 1
  | _ => 0

/-- A location: the names on the way from the root. -/
abbrev Location := List Text

/-- The state of a file system. -/
structure FileTree where
  /-- The nodes below the root. -/
  nodes : Std.ExtTreeMap Location Node
  /-- The bytes of each file. -/
  contents : Nat → List UInt8

/-- The system that carries out requests, and what it refuses for reasons that no tree tells. -/
structure Host where
  /-- The location where relative paths start. -/
  workingDirectory : Location
  /-- Why no name can be followed from a directory. -/
  entering : Location → Option SystemError
  /-- Why no directory can be made at a location. -/
  making : FileTree → Location → Option SystemError
  /-- Why the file at a location cannot be opened to be written. -/
  opening : FileTree → Location → Option SystemError
  /-- After how many bytes, and why, the writing of the file at a location fails. -/
  writing : FileTree → Location → Option (Nat × SystemError)
  /-- Why the file at a location cannot be read. -/
  reading : FileTree → Location → Option SystemError

/-- The host that refuses nothing. -/
def Host.willing (workingDirectory : Location) : Host where
  workingDirectory
  entering _ := none
  making _ _ := none
  opening _ _ := none
  writing _ _ := none
  reading _ _ := none

/-- Where a path starts. -/
def Host.start (host : Host) (path : Text) : Location :=
  if Path.isAbsolute path then [] else host.workingDirectory

/-- What a write did. -/
inductive WriteOutcome where
  /-- Nothing stood at the path before. -/
  | created
  /-- What stood at the path was replaced. -/
  | replaced
deriving DecidableEq, Repr

namespace FileTree

/-- The tree with nothing but the root. -/
def empty : FileTree := ⟨∅, fun _ => []⟩

/-- The node at a location; the root is a directory. -/
def node? (tree : FileTree) : Location → Option Node
  | [] => some .directory
  | location => tree.nodes[location]?

/-- Whether a directory stands at a location. -/
def isDirectory (tree : FileTree) (location : Location) : Bool :=
  tree.node? location == some .directory

/-! ## Paths -/

/-- The greatest number of bytes in a name. -/
def longestName : Nat := 255

/-- The greatest number of symbolic links that are followed on one way. -/
def mostLinks : Nat := 40

/-- The names that lead along a path: those between its slashes, and an empty one for a slash at the
end, which only a directory can bear. -/
def names (path : Text) : List Text :=
  let pieces := (Text.segments '/' path).filter fun piece => !piece.isEmpty
  if path.getLast? == some '/' then pieces ++ [[]] else pieces

/-- What names are followed for. -/
inductive Purpose where
  /-- To find what stands there. -/
  | finding
  /-- To store a file there. -/
  | storing
deriving DecidableEq, Repr

/-- Where names lead before a symbolic link has to be followed. -/
inductive Stop where
  /-- To a location. -/
  | place (location : Location)
  /-- To a link in a directory, with names left after it. -/
  | link (directory : Location) (path : Text) (rest : List Text)
deriving DecidableEq, Repr

/-- Follows names from a location up to the first symbolic link. A file that is to be stored may be
missing, but its name bears no slash. -/
def advance (tree : FileTree) (host : Host) (purpose : Purpose) :
    Location → List Text → Except SystemError Stop
  | location, [] => .ok (.place location)
  | location, name :: rest =>
    if !tree.isDirectory location then .error .notADirectory
    else if name.isEmpty then tree.advance host purpose location rest
    else match host.entering location with
      | some cause => .error cause
      | none =>
        if name = ['.'] then tree.advance host purpose location rest
        else if name = ['.', '.'] then tree.advance host purpose location.dropLast rest
        else if purpose = .storing ∧ rest = [[]] then .error .isADirectory
        else if longestName < Text.utf8Length name then .error .nameTooLong
        else match tree.node? (location ++ [name]) with
          | some (.link path) => .ok (.link location path rest)
          | some _ => tree.advance host purpose (location ++ [name]) rest
          | none =>
            if purpose = .storing ∧ rest = [] then .ok (.place (location ++ [name]))
            else .error .notFound

/-- Follows names from a location, and up to so many symbolic links on the way. -/
def resolve (tree : FileTree) (host : Host) (purpose : Purpose) :
    (links : Nat) → Location → List Text → Except SystemError Location
  | 0, location, way =>
    match tree.advance host purpose location way with
    | .error cause => .error cause
    | .ok (.place found) => .ok found
    | .ok (.link _ _ _) => .error .tooManyLinks
  | links + 1, location, way =>
    match tree.advance host purpose location way with
    | .error cause => .error cause
    | .ok (.place found) => .ok found
    | .ok (.link directory path rest) =>
      tree.resolve host purpose links (if Path.isAbsolute path then [] else directory)
        (names path ++ rest)

/-- The location that names lead to. -/
def lead (tree : FileTree) (host : Host) (purpose : Purpose) (start : Location)
    (names : List Text) : Except SystemError Location :=
  if names.any fun name => name.contains '\x00' then .error .unsupportedPath
  else tree.resolve host purpose mostLinks start names

/-- The location that a path leads to. -/
def follow (tree : FileTree) (host : Host) (purpose : Purpose) (path : Text) :
    Except SystemError Location :=
  if path.isEmpty then .error .notFound
  else tree.lead host purpose (host.start path) (names path)

/-- What stands at a path. -/
def find? (tree : FileTree) (host : Host) (path : Text) : Option Node :=
  match tree.follow host .finding path with
  | .ok location => tree.node? location
  | .error _ => none

/-- Whether something stands at a path. -/
def exists? (tree : FileTree) (host : Host) (path : Text) : Bool := (tree.find? host path).isSome

/-! ## Reading -/

/-- The bytes of the file at a path. -/
def read (tree : FileTree) (host : Host) (path : Text) : Except SystemError (List UInt8) := do
  let location ← tree.follow host .finding path
  match tree.node? location with
  | some (.file number) =>
    match host.reading tree location with
    | some cause => .error cause
    | none => return tree.contents number
  | some .directory => .error .isADirectory
  | _ => .error .notFound

/-- The text of the file at a path. -/
def readText (tree : FileTree) (host : Host) (path : Text) : Except SystemError Text := do
  let content ← tree.read host path
  match Utf8.decode? content with
  | some text => return text
  | none => .error .notUtf8

/-! ## Making directories -/

/-- The tree with a directory at a location. -/
def addDirectory (tree : FileTree) (location : Location) : FileTree :=
  { tree with nodes := tree.nodes.insert location .directory }

/-- Makes the directory that names lead to, given from the last name to the first. -/
def makeDirectory (tree : FileTree) (host : Host) (start : Location) :
    (reversed : List Text) → Except SystemError FileTree
  | [] => .error .alreadyExists
  | name :: before => do
    if name.contains '\x00' then .error .unsupportedPath
    let parent ← tree.lead host .finding start before.reverse
    if !tree.isDirectory parent then .error .notADirectory
    else match host.entering parent with
      | some cause => .error cause
      | none =>
        if name.isEmpty || name = ['.'] || name = ['.', '.'] then .error .alreadyExists
        else if longestName < Text.utf8Length name then .error .nameTooLong
        else match tree.node? (parent ++ [name]) with
          | some _ => .error .alreadyExists
          | none =>
            match host.making tree (parent ++ [name]) with
            | some cause => .error cause
            | none => return tree.addDirectory (parent ++ [name])

/-- Whether names, given from the last to the first, lead to a directory. -/
def leadsToDirectory (tree : FileTree) (host : Host) (start : Location) (reversed : List Text) :
    Bool :=
  match tree.lead host .finding start reversed.reverse with
  | .ok location => tree.isDirectory location
  | .error _ => false

/-- Makes the directory that names lead to, unless it exists. -/
def ensureDirectory (tree : FileTree) (host : Host) (start : Location) (reversed : List Text) :
    Except SystemError FileTree :=
  match tree.makeDirectory host start reversed with
  | .ok changed => .ok changed
  | .error error =>
    if tree.leadsToDirectory host start reversed then .ok tree else .error error

/-- Makes the directories that names lead through, as far as they are missing. When one cannot be
made because a directory before it is missing, that one is made first. A failure leaves the
directories that were made before it. -/
def makeDirectories (tree : FileTree) (host : Host) (start : Location) :
    (reversed : List Text) → Except SystemError Unit × FileTree
  | [] => (.ok (), tree)
  | name :: before =>
    match tree.ensureDirectory host start (name :: before) with
    | .ok changed => (.ok (), changed)
    | .error .notFound =>
      match tree.makeDirectories host start before with
      | (.error error, grown) => (.error error, grown)
      | (.ok (), grown) =>
        match grown.ensureDirectory host start (name :: before) with
        | .ok changed => (.ok (), changed)
        | .error error => (.error error, grown)
    | .error error => (.error error, tree)

/-- The name by which a part of a path is followed; the root needs none. -/
def partName? : Path.Part → Option Text
  | .root => none
  | .current => some ['.']
  | .parent => some ['.', '.']
  | .name name => some name

/-- The names on the way to the directory of a path. -/
def directoryNames (path : Text) : List Text := (Path.parts path).dropLast.filterMap partName?

/-! ## Writing -/

/-- A number that no file has. -/
def freshNumber (tree : FileTree) : Nat :=
  tree.nodes.toList.foldr (fun entry bound => max entry.2.nextNumber bound) 0

/-- The number of the file at a location, or a new one. -/
def numberAt (tree : FileTree) (location : Location) : Nat :=
  match tree.node? location with
  | some (.file number) => number
  | _ => tree.freshNumber

/-- The tree with the bytes of the file at a location replaced, or with a new file there. -/
def store (tree : FileTree) (location : Location) (bytes : List UInt8) : FileTree where
  nodes := tree.nodes.insert location (.file (tree.numberAt location))
  contents number := if number = tree.numberAt location then bytes else tree.contents number

/-- Writes the bytes of the file at a path, whose directory must exist. What stops the writing
leaves the bytes that were written before. -/
def writeFile (tree : FileTree) (host : Host) (path : Text) (bytes : List UInt8) :
    Except SystemError Unit × FileTree :=
  match tree.follow host .storing path with
  | .error cause => (.error cause, tree)
  | .ok location =>
    match tree.node? location with
    | some .directory => (.error .isADirectory, tree)
    -- Only where a tree has a directory below a link can a way end at a link.
    | some (.link _) => (.error .tooManyLinks, tree)
    | _ =>
      match host.opening tree location with
      | some cause => (.error cause, tree)
      | none =>
        match host.writing tree location with
        | some (count, cause) => (.error cause, tree.store location (bytes.take count))
        | none => (.ok (), tree.store location bytes)

/-- Writes a text to the file at a path, and makes the directories on the way to it. The tree is
the one after the write, or after whatever part of it was done before it failed. -/
def write (tree : FileTree) (host : Host) (path content : Text) :
    Except SystemError WriteOutcome × FileTree :=
  let outcome : WriteOutcome := if tree.exists? host path then .replaced else .created
  match tree.makeDirectories host (host.start path) (directoryNames path).reverse with
  | (.error error, grown) => (.error error, grown)
  | (.ok (), grown) =>
    match grown.writeFile host path (Utf8.encode content) with
    | (.error error, changed) => (.error error, changed)
    | (.ok (), changed) => (.ok outcome, changed)

/-- The tree with a directory, and the directories on the way to it. -/
def withDirectory (tree : FileTree) (path : Text) : FileTree :=
  (tree.makeDirectories (.willing []) [] ((Path.parts path).filterMap partName?).reverse).2

/-- The tree with a file, and the directories on the way to it. -/
def withFile (tree : FileTree) (path : Text) (content : List UInt8) : FileTree :=
  let grown := (tree.makeDirectories (.willing []) [] (directoryNames path).reverse).2
  (grown.writeFile (.willing []) path content).2

end FileTree

end Beanwright
