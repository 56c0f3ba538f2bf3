import Beanwright.Text.Basic

/-!
# Paths

A path is a text; slashes separate its parts. Empty parts and single dots name nothing, except that
a leading slash stands for the root and a leading dot for the current directory. The file system may
refuse a path, for reasons that have the wording of the system.
-/

namespace Beanwright

/-- Why the file system refuses a request. -/
inductive SystemError where
  /-- Nothing stands at the path. -/
  | notFound
  /-- Something stands at the path already. -/
  | alreadyExists
  /-- A part of the path that should be a directory is a file. -/
  | notADirectory
  /-- The path is a directory. -/
  | isADirectory
  /-- The path holds a character that no path may hold. -/
  | unsupportedPath
  /-- A part of the path is too long. -/
  | nameTooLong
  /-- The path is empty where an absolute path is wanted. -/
  | emptyPath
  /-- The content of the file is not UTF-8. -/
  | notUtf8
  /-- The path is closed to the program. -/
  | permissionDenied
  /-- The path leads through more symbolic links than the system follows. -/
  | tooManyLinks
  /-- Any other reason, in the words of the system. -/
  | other (words : Text)
deriving DecidableEq, Repr

/-- The wording of a refusal. -/
def SystemError.message : SystemError → Text
  | notFound => "No such file or directory (os error 2)".toList
  | alreadyExists => "File exists (os error 17)".toList
  | notADirectory => "Not a directory (os error 20)".toList
  | isADirectory => "Is a directory (os error 21)".toList
  | nameTooLong => "File name too long (os error 36)".toList
  | unsupportedPath => "file name contained an unexpected NUL byte".toList
  | emptyPath => "cannot make an empty path absolute".toList
  | notUtf8 => "stream did not contain valid UTF-8".toList
  | permissionDenied => "Permission denied (os error 13)".toList
  | tooManyLinks => "Too many levels of symbolic links (os error 40)".toList
  | other words => words

namespace Path

/-- A part of a path. -/
inductive Part where
  /-- The root directory. -/
  | root
  /-- The current directory. -/
  | current
  /-- The parent directory. -/
  | parent
  /-- A named entry. -/
  | name (name : Text)
deriving DecidableEq, Repr

/-- Whether a path starts at the root. -/
def isAbsolute (path : Text) : Bool := path.head? == some '/'

/-- The part that a text between slashes stands for, if it stands for one. -/
def part? : Text → Option Part
  | [] => none
  | ['.'] => none
  | ['.', '.'] => some .parent
  | name => some (.name name)

/-- The parts of a path. -/
def parts (path : Text) : List Part :=
  let pieces := Text.segments '/' path
  let start : List Part :=
    if isAbsolute path then [.root] else if pieces.head? == some ['.'] then [.current] else []
  start ++ pieces.filterMap part?

/-- The last part of a path, if it is a named entry. -/
def fileName? (path : Text) : Option Text :=
  match (parts path).getLast? with
  | some (.name name) => some name
  | _ => none

/-- A name cut at its last dot: what stands before the dot and what stands after it. A dot at the
start does not count. -/
def cutAtLastDot (name : Text) : Option (Text × Text) :=
  let reversed := name.reverse
  let after := (reversed.takeWhile fun character => character != '.').reverse
  match reversed.dropWhile fun character => character != '.' with
  | [] => none
  | _ :: before => if before.isEmpty then none else some (before.reverse, after)

/-- The extension of a path. -/
def extension? (path : Text) : Option Text :=
  (fileName? path).bind fun name => (cutAtLastDot name).map Prod.snd

/-- The file name of a path without its extension. -/
def stem? (path : Text) : Option Text :=
  (fileName? path).map fun name =>
    match cutAtLastDot name with
    | some (before, _) => before
    | none => name

/-- The path of an entry relative to a directory; an absolute path stays as it is. -/
def join (directory path : Text) : Text :=
  if isAbsolute path || directory.isEmpty then path
  else if directory.getLast? == some '/' then directory ++ path
  else directory ++ '/' :: path

/-- The written form of a part. -/
def Part.text : Part → Text
  | .root => ['/']
  | .current => ['.']
  | .parent => ['.', '.']
  | .name entry => entry

/-- What the absolute form of a path begins with: two slashes if the path begins with just two, one
slash if it begins with any other number, and else the working directory. -/
def anchor (workingDirectory path : Text) : Text :=
  if isAbsolute path then
    match Text.without? ['/', '/'] path with
    | some rest => if isAbsolute rest then ['/'] else ['/', '/']
    | none => ['/']
  else workingDirectory

/-- The absolute form of a path, seen from a working directory. Parts that name nothing disappear,
steps to a parent stay, and so does one slash at the end. -/
def absolute? (workingDirectory path : Text) : Option Text :=
  if path.isEmpty then none
  else
    let named := (parts path).filter fun part => part != .root && part != .current
    let whole := named.foldl (fun directory part => join directory part.text)
      (anchor workingDirectory path)
    some (if path.getLast? == some '/' then join whole [] else whole)

theorem isAbsolute_join {directory : Text} (absolute : isAbsolute directory = true) (path : Text) :
    isAbsolute (join directory path) = true := by
  cases directory with
  | nil => cases absolute
  | cons first rest =>
    rw [join]
    split
    · next either => simpa [isAbsolute] using either
    · split <;> exact absolute

theorem isAbsolute_anchor {workingDirectory : Text} (here : isAbsolute workingDirectory = true)
    (path : Text) : isAbsolute (anchor workingDirectory path) = true := by
  rw [anchor]
  split
  · split
    · split <;> rfl
    · rfl
  · exact here

theorem isAbsolute_foldl_join {start : Text} (absolute : isAbsolute start = true)
    (parts : List Part) :
    isAbsolute (parts.foldl (fun directory part => join directory part.text) start) = true := by
  induction parts generalizing start with
  | nil => exact absolute
  | cons part rest ih => exact ih (isAbsolute_join absolute _)

/-- The absolute form of a path is absolute if the working directory is. -/
theorem isAbsolute_absolute? {workingDirectory path whole : Text}
    (here : isAbsolute workingDirectory = true)
    (formed : absolute? workingDirectory path = some whole) : isAbsolute whole = true := by
  have joined := isAbsolute_foldl_join (isAbsolute_anchor here path)
    ((parts path).filter fun part => part != .root && part != .current)
  rw [absolute?] at formed
  split at formed
  · cases formed
  · obtain rfl := Option.some.inj formed
    split
    · exact isAbsolute_join joined _
    · exact joined

example : absolute? "/home".toList "./a/../b/".toList = some "/home/a/../b/".toList := by
  decide +kernel

end Path

end Beanwright
