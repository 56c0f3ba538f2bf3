import Beanwright.Double.Basic
import Beanwright.Text.Basic

/-!
# JSON values

A JSON value keeps what its text says: integers and doubles are different numbers even where they
are equal as reals, and the fields of an object keep their order.

## Main definitions

* `Json.same` — equality of values, blind to the order of the fields of an object
* `Json.merged` — the value in which every repeated key is one field
* `Json.depth` — the depth of nesting
-/

namespace Beanwright

/-- A JSON value. -/
inductive Json where
  /-- The null value. -/
  | null
  /-- A truth value. -/
  | bool (value : Bool)
  /-- A number written without fraction and exponent that fits in 64 bits. -/
  | integer (value : Int)
  /-- Any other number. -/
  | double (value : Double)
  /-- A string. -/
  | string (value : Text)
  /-- An array. -/
  | array (items : List Json)
  /-- An object, as fields in order. -/
  | object (fields : List (Text × Json))
deriving Repr, Inhabited

namespace Json

/-- Whether the value is null. -/
def isNull : Json → Bool
  | null => true
  | _ => false

/-- Whether the value is a string. -/
def isString : Json → Bool
  | string _ => true
  | _ => false

/-- Whether the value is an array. -/
def isArray : Json → Bool
  | array _ => true
  | _ => false

/-- Whether the value is an object. -/
def isObject : Json → Bool
  | object _ => true
  | _ => false

/-- The value of a number as a double; an integer becomes the nearest one. -/
def toDouble? : Json → Option Double
  | integer value => Double.ofInt value
  | double value => some value
  | _ => none

/-- The fields with a key set to a value: in place where the key is present, else at the end. -/
def assign (key : Text) (value : Json) : List (Text × Json) → List (Text × Json)
  | [] => [(key, value)]
  | (other, held) :: rest =>
    if other = key then (key, value) :: rest else (other, held) :: assign key value rest

mutual

/-- Whether two values are the same: numbers of one kind compare as numbers, and objects compare by
the value that each key has. -/
def same : Json → Json → Bool
  | null, null => true
  | bool first, bool second => first == second
  | integer first, integer second => first == second
  | double first, double second => first.same second
  | string first, string second => first == second
  | array first, array second => sameItems first second
  | object first, object second =>
    first.length == second.length && sameFields first second
  | _, _ => false

/-- Whether two lists have the same values at the same positions. -/
def sameItems : List Json → List Json → Bool
  | [], [] => true
  | first :: firstRest, second :: secondRest =>
    same first second && sameItems firstRest secondRest
  | _, _ => false

/-- Whether each of the first fields has the same value among the second fields. -/
def sameFields : List (Text × Json) → List (Text × Json) → Bool
  | [], _ => true
  | (key, value) :: rest, fields =>
    (match fields.lookup key with
      | some held => same value held
      | none => false) && sameFields rest fields

end

mutual

/-- The value in which a key that an object repeats is one field, at the first position and with the
last value. -/
def merged : Json → Json
  | array items => array (mergedItems items)
  | object fields => object (mergedFields fields)
  | scalar => scalar

/-- The items, each merged. -/
def mergedItems : List Json → List Json
  | [] => []
  | item :: rest => merged item :: mergedItems rest

/-- The fields, each merged, without repeated keys. -/
def mergedFields : List (Text × Json) → List (Text × Json)
  | [] => []
  | (key, value) :: rest =>
    let later := mergedFields rest
    match later.lookup key with
    | some last => (key, last) :: later.filter fun field => field.1 != key
    | none => (key, merged value) :: later

end

mutual

/-- The depth of nesting: zero for a scalar, one more than the deepest member for an array or an
object. -/
def depth : Json → Nat
  | array items => depthOfItems items + 1
  | object fields => depthOfFields fields + 1
  | _ => 0

/-- The depth of the deepest item. -/
def depthOfItems : List Json → Nat
  | [] => 0
  | item :: rest => max (depth item) (depthOfItems rest)

/-- The depth of the deepest field. -/
def depthOfFields : List (Text × Json) → Nat
  | [] => 0
  | (_, value) :: rest => max (depth value) (depthOfFields rest)

end

/-- Whether no two items of a list are the same. -/
def allDistinct : List Json → Bool
  | [] => true
  | item :: rest => !rest.any (fun other => same item other) && allDistinct rest

@[simp] theorem isNull_iff (value : Json) : value.isNull = true ↔ value = null := by
  cases value <;> simp [isNull]

end Json

end Beanwright
