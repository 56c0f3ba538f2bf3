import Beanwright.Json.Basic

/-!
# Type checks

The seventeen checks that a bean can name by a token. Each check is an arrow function in generated
JavaScript and a test of JSON values here. JSON has no sets, maps and functions of its own: an array
without repeated items counts as a set, an object as a map, and nothing as a function.

Number checks compare the nearest double, so an integer near `2 ^ 64` is judged by its rounded
value.
-/

namespace Beanwright

/-- A check of values that a bean can name. -/
inductive TypeCheck where
  | string
  | uint
  | uint8
  | uint16
  | uint32
  | uint64
  | int
  | int8
  | int16
  | int32
  | int64
  | boolean
  | list
  | set
  | map
  | object
  | func
deriving DecidableEq, Repr

namespace TypeCheck

/-- All checks, in the order in which they are listed to users. -/
def all : List TypeCheck :=
  [string, uint, uint8, uint16, uint32, uint64, int, int8, int16, int32, int64, boolean, list, set,
    map, object, func]

/-- The token of a check in beans. -/
def token : TypeCheck → Text
  | string => "string".toList
  | uint => "uint".toList
  | uint8 => "uint8".toList
  | uint16 => "uint16".toList
  | uint32 => "uint32".toList
  | uint64 => "uint64".toList
  | int => "int".toList
  | int8 => "int8".toList
  | int16 => "int16".toList
  | int32 => "int32".toList
  | int64 => "int64".toList
  | boolean => "boolean".toList
  | list => "list".toList
  | set => "set".toList
  | map => "map".toList
  | object => "object".toList
  | func => "func".toList

/-- The check that a token names. -/
def ofToken? (token : Text) : Option TypeCheck := all.find? fun check => check.token == token

/-- The integers that a number check accepts. -/
structure Range where
  /-- The least accepted integer. -/
  least : Int
  /-- The upper bound. -/
  bound : Int
  /-- Whether the upper bound itself is accepted. -/
  inclusive : Bool
deriving DecidableEq, Repr

/-- Whether an integer lies in a range. -/
def Range.holds (range : Range) (value : Int) : Bool :=
  decide (range.least ≤ value) &&
    (if range.inclusive then decide (value ≤ range.bound) else decide (value < range.bound))

/-- The integers from zero to below a bound. -/
def Range.unsigned (bound : Int) : Range := ⟨0, bound, false⟩

/-- The integers between two bounds, bounds included. -/
def Range.signed (least greatest : Int) : Range := ⟨least, greatest, true⟩

/-- The range of a number check. The bounds of the widest checks are doubles: `2 ^ 64` and `2 ^ 63`
stand for the greatest integers of 64 bits. -/
def range? : TypeCheck → Option Range
  | uint | uint64 => some (.unsigned (twoTo 64))
  | uint8 => some (.unsigned (twoTo 8))
  | uint16 => some (.unsigned (twoTo 16))
  | uint32 => some (.unsigned (twoTo 32))
  | int | int64 => some (.signed (-twoTo 63) (twoTo 63))
  | int8 => some (.signed (-twoTo 7) (twoTo 7 - 1))
  | int16 => some (.signed (-twoTo 15) (twoTo 15 - 1))
  | int32 => some (.signed (-twoTo 31) (twoTo 31 - 1))
  | _ => none

/-- Whether a value is a number whose nearest double is an integer of a range. -/
def inRange (range : Range) (value : Json) : Bool :=
  match value.toDouble?.bind Double.toInt? with
  | some integer => range.holds integer
  | none => false

/-- Whether a value passes a check. -/
def accepts (check : TypeCheck) (value : Json) : Bool :=
  match check.range? with
  | some range => inRange range value
  | none =>
    match check, value with
    | string, .string _ => true
    | boolean, .bool _ => true
    | list, .array _ => true
    | set, .array items => Json.allDistinct items
    | map, .object _ => true
    | object, .array _ => true
    | object, .object _ => true
    | _, _ => false

/-- The condition shared by all number checks, on a value named `v`. -/
def integerCondition : Text := "v => Number(v) === v && (v % 1 === 0) && (0 + v === v)".toList

/-- The arrow function of an unsigned check. -/
def unsignedSource (bound : Text) : Text :=
  integerCondition ++ " && v >= 0 && v < ".toList ++ bound

/-- The arrow function of a signed check. -/
def signedSource (least greatest : Text) : Text :=
  integerCondition ++ " && v >= ".toList ++ least ++ " && v <= ".toList ++ greatest

/-- The arrow function of a check in generated code. -/
def source : TypeCheck → Text
  | string => "v => v !== undefined && v !== null && v.toString() === v".toList
  | uint | uint64 => unsignedSource "18446744073709552000".toList
  | uint8 => unsignedSource "256".toList
  | uint16 => unsignedSource "65536".toList
  | uint32 => unsignedSource "4294967296".toList
  | int | int64 => signedSource "-9223372036854775808".toList "9223372036854775807".toList
  | int8 => signedSource "-128".toList "127".toList
  | int16 => signedSource "-32768".toList "32767".toList
  | int32 => signedSource "-2147483648".toList "2147483647".toList
  | boolean => "v => v === true || v === false".toList
  | list => "v => v instanceof Array".toList
  | set => "v => v instanceof Set".toList
  | map => "v => v instanceof Map".toList
  | object => "v => v === Object(v)".toList
  | func => "v => !!(v && v.constructor && v.call && v.apply)".toList

theorem ofToken?_token (check : TypeCheck) : ofToken? check.token = some check := by
  cases check <;> rfl

end TypeCheck

end Beanwright
