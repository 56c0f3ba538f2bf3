import Beanwright.Path
import Beanwright.Registry.Basic

/-!
# Beans

A bean describes a class: each entry maps a key to a check of the property's values, perhaps with a
default and a mark that the property is immutable. A key may also begin with a dollar sign, which
marks the property immutable and is not part of its name.
-/

namespace Beanwright

/-- The formats of bean documents. -/
inductive BeanFormat where
  /-- A JSON document. -/
  | json
  /-- A TOML document. -/
  | toml
deriving DecidableEq, Repr

namespace BeanFormat

/-- The file extension of a format. -/
def fileExtension : BeanFormat → Text
  | json => "json".toList
  | toml => "toml".toList

/-- The format that the extension of a path names. -/
def ofPath (path : Text) : Except BeanError BeanFormat :=
  match Path.extension? path with
  | none => .error (.unknownFormat path)
  | some found =>
    if found = json.fileExtension then .ok json
    else if found = toml.fileExtension then .ok toml
    else .error (.unknownFormat path)

end BeanFormat

/-- How an entry says what values its property takes. -/
inductive CheckSpec where
  /-- By the token of a type check. -/
  | token (token : Text)
  /-- By a guard that the host supplies. -/
  | guard (guard : Guard)
  /-- In a way that no bean supports. -/
  | unsupported (value : Json)

/-- The guard that a check stands for, for a property of the given name. -/
def CheckSpec.resolve (field : Text) : CheckSpec → Except BeanError Guard
  | .token word =>
    match TypeCheck.ofToken? word with
    | some check => .ok (.named check)
    | none => .error (.unsupportedGuard field ('"' :: word ++ ['"']))
  | .guard supplied => .ok supplied
  | .unsupported value => .error (.unsupportedGuard field value.compact)

/-- An entry of a bean. -/
structure BeanEntry where
  /-- The key. -/
  key : Text
  /-- The check of values. -/
  check : CheckSpec
  /-- The default, if there is one. -/
  default : Option Json
  /-- Whether the entry marks its property immutable. -/
  immutable : Bool

namespace BeanEntry

/-- The mark of immutable properties at the start of a key. -/
def immutableMark : Char := '$'

/-- The name of the property: the key without one mark at its start. -/
def propertyName (entry : BeanEntry) : Text :=
  match entry.key with
  | [] => []
  | first :: rest => if first = immutableMark then rest else first :: rest

/-- Whether the key begins with the mark. -/
def isMarked (entry : BeanEntry) : Bool := entry.key.head? == some immutableMark

/-- Declares the property of an entry, with its guard. -/
def declare (entry : BeanEntry) (registry : Registry) : Except BeanError Registry := do
  let name := entry.propertyName
  let declared ← registry.addProperty name entry.default (entry.immutable || entry.isMarked)
  let guard ← entry.check.resolve name
  declared.addGuard name guard

end BeanEntry

/-- A named sequence of entries with different keys. -/
structure Bean where
  /-- The raw name of the class. -/
  name : Text
  /-- The entries in order. -/
  entries : List BeanEntry

namespace Bean

/-- The bean without entries. -/
def empty (name : Text) : Bean := ⟨name, []⟩

/-- The entries with one more: in place of the entry with the same key, else at the end. -/
def putEntry (entry : BeanEntry) : List BeanEntry → List BeanEntry
  | [] => [entry]
  | other :: rest => if other.key = entry.key then entry :: rest else other :: putEntry entry rest

/-- Adds or replaces an entry. -/
def put (bean : Bean) (entry : BeanEntry) : Bean :=
  { bean with entries := putEntry entry bean.entries }

/-- The bean with entries put one after the other. -/
def ofEntries (name : Text) (entries : List BeanEntry) : Bean := entries.foldl put (empty name)

/-- The registry that a bean describes. -/
def resolve (bean : Bean) : Except BeanError Registry := do
  let named ← Registry.empty.setName bean.name
  bean.entries.foldlM (fun registry entry => entry.declare registry) named

/-- The raw class name that the path of a bean gives: the file name without the extension of the
format, or without whatever extension it has. -/
def stemOfPath (path : Text) (format : BeanFormat) : Text :=
  let fileName := (Path.fileName? path).getD []
  match Text.withoutEnd? ('.' :: format.fileExtension) fileName with
  | some stem => stem
  | none => (Path.stem? fileName).getD fileName

end Bean

end Beanwright
