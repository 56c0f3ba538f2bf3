import Beanwright.Bean.Basic
import Beanwright.FileTree
import Beanwright.Json.Reader
import Beanwright.Toml.Reader

/-!
# Bean documents and files

A bean document maps keys to values. A string is the token of a check. A record, which is an object,
or an array of at most three items, gives the default, the check and the mark of immutability.
Every other value is an unsupported check. A bean file has its format from the extension unless it
is forced, and gives the bean its name.
-/

namespace Beanwright

/-- The parts of a record, each perhaps absent. -/
structure BeanRecord where
  /-- The default. -/
  default : Option Json
  /-- The check. -/
  check : Option Json
  /-- The mark of immutability. -/
  immutable : Option Json

namespace BeanRecord

/-- The key of the default. -/
def defaultKey : Text := "defaultValue".toList

/-- The key of the check. -/
def checkKey : Text := "typeCheck".toList

/-- The key of the mark of immutability. -/
def immutableKey : Text := "immutable".toList

/-- The number of fields with a key. -/
def occurrences (key : Text) (fields : List (Text × Json)) : Nat :=
  fields.countP fun field => field.1 == key

/-- The record that the fields of an object make, unless one of its keys is repeated. -/
def ofFields? (fields : List (Text × Json)) : Option BeanRecord :=
  if [defaultKey, checkKey, immutableKey].all fun key => occurrences key fields ≤ 1 then
    some {
      default := fields.lookup defaultKey
      check := fields.lookup checkKey
      immutable := fields.lookup immutableKey }
  else none

/-- The record that the items of an array make, if there are not too many. -/
def ofItems? : List Json → Option BeanRecord
  | [] => some ⟨none, none, none⟩
  | [default] => some ⟨some default, none, none⟩
  | [default, check] => some ⟨some default, some check, none⟩
  | [default, check, immutable] => some ⟨some default, some check, some immutable⟩
  | _ => none

/-- The entry that a record makes under a key. A null counts as absent, and only the value `true`
marks the property immutable. -/
def entry (key : Text) (record : BeanRecord) : BeanEntry where
  key := key
  check :=
    match record.check with
    | some (.string token) => .token token
    | some other => .unsupported other.merged
    | none => .unsupported .null
  default :=
    match record.default with
    | some .null => none
    | some value => some value.merged
    | none => none
  immutable :=
    match record.immutable with
    | some (.bool value) => value
    | _ => false

end BeanRecord

/-- The entry that a key and a value make; objects in the value are as written, repeated keys
included. -/
def BeanEntry.ofJson (key : Text) (value : Json) : BeanEntry :=
  let record? : Option BeanRecord :=
    match value with
    | .object fields => BeanRecord.ofFields? fields
    | .array items => BeanRecord.ofItems? items
    | _ => none
  match value, record? with
  | .string token, _ => ⟨key, .token token, none, false⟩
  | _, some record => record.entry key
  | other, none => ⟨key, .unsupported other.merged, none, false⟩

namespace Bean

/-- The bean that a document makes. Of a repeated key the last value counts, at the first
position. -/
def ofFields (name : Text) (fields : List (Text × Json)) : Bean :=
  ofEntries name (fields.map fun (key, value) => BeanEntry.ofJson key value)

/-- The error about a malformed JSON source. -/
def jsonError (source : Source) (error : Json.SyntaxError) : BeanError :=
  .malformedJson source.fileName error.message (source.offset? error.place)

/-- The bean of a JSON document. -/
def ofJsonText (name : Text) (source : Source) : Except BeanError Bean :=
  match Json.readFields source.text with
  | .ok fields => .ok (ofFields name fields)
  | .error error => .error (jsonError source error)

/-! ## Files -/

/-- The bean of a document in a given format. -/
def ofText (name : Text) (format : BeanFormat) (source : Source) : Except BeanError Bean :=
  match format with
  | .json => ofJsonText name source
  | .toml =>
    match Toml.readFields? source.text with
    | some fields => .ok (ofFields name fields)
    | none => .error (.malformedToml source.fileName)

/-- The bean of a document held in memory, for which messages use a made-up file name. -/
def ofContent (name : Text) (format : BeanFormat) (content : Text) : Except BeanError Bean :=
  ofText name format ⟨content, name ++ '.' :: format.fileExtension⟩

/-- The bean of a file, given what reading the file yields. -/
def ofFile (path : Text) (format : BeanFormat) (content : Except SystemError Text) :
    Except BeanError Bean :=
  match content with
  | .error cause => .error (.unreadable path cause)
  | .ok text => ofText (stemOfPath path format) format ⟨text, path⟩

/-- The format of a bean file: the forced one, else the one that its extension names. -/
def formatOf (path : Text) : (forced : Option BeanFormat) → Except BeanError BeanFormat
  | some format => .ok format
  | none => BeanFormat.ofPath path

/-- Loads a bean from a file tree. -/
def load (tree : FileTree) (host : Host) (path : Text) (forced : Option BeanFormat) :
    Except BeanError Bean := do
  let format ← formatOf path forced
  ofFile path format (tree.readText host path)

end Bean

end Beanwright
