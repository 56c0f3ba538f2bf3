import Beanwright.Json.Basic

/-!
# Tables of a TOML document

A document builds one tree of tables. Where a table comes from decides who may add to it: a header
opens a table once, a longer header or a dotted key may pass through tables that were only implied,
and an inline table is closed for good.
-/

namespace Beanwright.Toml

/-- Where a table comes from. -/
inductive TableKind where
  /-- Its own header. -/
  | explicit
  /-- A longer header. -/
  | implied
  /-- A dotted key. -/
  | dotted
  /-- Braces. -/
  | inline
deriving DecidableEq, Repr

/-- A value of a document. -/
inductive Item where
  /-- A value without parts. -/
  | scalar (value : Json)
  /-- A list, written in brackets or made of tables with a common header. -/
  | list (ofTables : Bool) (items : List Item)
  /-- A table. -/
  | table (kind : TableKind) (entries : List (Text × Item))
deriving Inhabited

/-- The entries of a table in order. -/
abbrev Entries := List (Text × Item)

mutual

/-- The value as JSON. -/
def Item.toJson : Item → Json
  | scalar value => value
  | list _ items => .array (Item.listToJson items)
  | table _ entries => .object (Item.entriesToJson entries)

/-- The items as JSON. -/
def Item.listToJson : List Item → List Json
  | [] => []
  | item :: rest => item.toJson :: Item.listToJson rest

/-- The entries as JSON. -/
def Item.entriesToJson : List (Text × Item) → List (Text × Json)
  | [] => []
  | (key, item) :: rest => (key, item.toJson) :: Item.entriesToJson rest

end

/-- The entries with the value of a present key replaced. -/
def replace (key : Text) (item : Item) (entries : Entries) : Entries :=
  entries.map fun entry => if entry.1 = key then (key, item) else entry

/-- The kind of a table that is created on the way through a path. -/
def passedKind (dotted : Bool) : TableKind := if dotted then .dotted else .implied

/-- Whether a path may pass through a table: never through an inline one, and a dotted key not
through one that has its own header. -/
def mayPass (dotted : Bool) (kind : TableKind) : Bool :=
  kind != .inline && !(dotted && kind == .explicit)

/-- Changes the table at the end of a path, and creates the tables that are missing on the way. A
path that meets a list of tables goes on in its last table. -/
def atPath (dotted : Bool) (change : TableKind → Entries → Option Entries) :
    (path : List Text) → TableKind → Entries → Option Entries
  | [], kind, entries => change kind entries
  | key :: path, _, entries =>
    match entries.lookup key with
    | none =>
      (atPath dotted change path (passedKind dotted) []).map fun inner =>
        entries ++ [(key, .table (passedKind dotted) inner)]
    | some (.table kind inner) =>
      if mayPass dotted kind then
        (atPath dotted change path kind inner).map fun changed =>
          replace key (.table kind changed) entries
      else none
    | some (.list true items) =>
      match items.getLast? with
      | some (.table kind inner) =>
        (atPath dotted change path kind inner).map fun changed =>
          replace key (.list true (items.dropLast ++ [.table kind changed])) entries
      | _ => none
    | some _ => none

/-- Adds a value under a new key of a table that a dotted key, or a plain one, may add to. -/
def add (dotted : Bool) (key : Text) (item : Item) (kind : TableKind) (entries : Entries) :
    Option Entries :=
  if (kind == .dotted) != dotted then none
  else match entries.lookup key with
    | some _ => none
    | none => some (entries ++ [(key, item)])

/-- Adds a value under a key, given as the path to a table and the last part. -/
def insert (path : List Text) (key : Text) (item : Item) (kind : TableKind) (entries : Entries) :
    Option Entries :=
  atPath (!path.isEmpty) (add (!path.isEmpty) key item) path kind entries

/-- The value at the end of a path. -/
def find? : (path : List Text) → Entries → Option Item
  | [], _ => none
  | [key], entries => entries.lookup key
  | key :: path, entries =>
    match entries.lookup key with
    | some (.table _ inner) => find? path inner
    | some (.list true items) =>
      match items.getLast? with
      | some (.table _ inner) => find? path inner
      | _ => none
    | _ => none

/-- The entries with which the table of a header starts: those of a table that was only implied, and
none if there is no table. Any other value is no place for a header. -/
def openTable (path : List Text) (key : Text) (root : Entries) : Option Entries :=
  match find? (path ++ [key]) root with
  | none => some []
  | some (.table .implied entries) => some entries
  | some _ => none

/-- Adds the finished table of a header, after all entries beside it. -/
def closeTable (path : List Text) (key : Text) (body root : Entries) : Option Entries :=
  atPath false (fun _ entries =>
    some ((entries.filter fun entry => entry.1 != key) ++ [(key, .table .explicit body)]))
    path .explicit root

/-- Adds the finished table of a header in double brackets to the list of tables under its key. -/
def closeElement (path : List Text) (key : Text) (body root : Entries) : Option Entries :=
  atPath false (fun _ entries =>
    match entries.lookup key with
    | none => some (entries ++ [(key, .list true [.table .explicit body])])
    | some (.list true items) =>
      some (replace key (.list true (items ++ [.table .explicit body])) entries)
    | some _ => none) path .explicit root

end Beanwright.Toml
