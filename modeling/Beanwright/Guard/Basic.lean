import Beanwright.Guard.TypeCheck
import Beanwright.Text.Unprintable
import Beanwright.Text.UpperCase

/-!
# Guards

A guard tests a candidate value before it is assigned to a property. It is one of the named type
checks, or a custom predicate that comes with its own arrow function. Guards are compared by their
handle: all uses of a named check are one guard, and two custom guards are the same only if they
carry the same handle, whatever their sources say.
-/

namespace Beanwright

/-- A test of candidate values. -/
inductive Guard where
  /-- A named type check. -/
  | named (check : TypeCheck)
  /-- A custom predicate with its source in generated code, known by a handle of its own. -/
  | custom (handle : Nat) (source : Text) (predicate : Json → Bool)

namespace Guard

/-- The arrow function of a guard in generated code. -/
def source : Guard → Text
  | named check => check.source
  | custom _ source _ => source

/-- Whether a value passes a guard. -/
def accepts : Guard → Json → Bool
  | named check, value => check.accepts value
  | custom _ _ predicate, value => predicate value

/-- What identifies a guard: the named check, or the handle of a custom guard. -/
def key : Guard → TypeCheck ⊕ Nat
  | named check => .inl check
  | custom handle _ _ => .inr handle

/-- Whether two guards are the same guard. -/
def same (first second : Guard) : Bool := decide (first.key = second.key)

/-- The label of a guard in reports: its token, or a word for all custom guards. -/
def label : Guard → Text
  | named check => check.token
  | custom _ _ _ => "custom".toList

/-- A guard as it is shown to programmers: its kind, with the check or the source. -/
def display : Guard → Text
  | named check => "Named(".toList ++ Text.capitalized check.token ++ [')']
  | custom _ source _ => "Custom \x7b source: ".toList ++ Text.quoted source ++ " \x7d".toList

@[simp] theorem key_named (check : TypeCheck) : (named check).key = .inl check := rfl

@[simp] theorem key_custom (handle : Nat) (source : Text) (predicate : Json → Bool) :
    (custom handle source predicate).key = .inr handle := rfl

@[simp] theorem same_iff (first second : Guard) :
    first.same second = true ↔ first.key = second.key := by simp [same]

end Guard

/-! ## Ready-made predicates -/

/-- A predicate of JSON values. -/
inductive Predicate where
  /-- Every value. -/
  | any
  /-- No value. -/
  | none
  /-- Every value but null. -/
  | notNull
  /-- The strings. -/
  | string
  /-- The numbers. -/
  | number
  /-- The numbers greater than a bound. -/
  | greaterThan (bound : Double)
  /-- The integers from zero on that a number divides. -/
  | multipleOf (divisor : Nat)
  /-- The strings of a list. -/
  | oneOf (options : List Text)

/-- Whether a value has the property. -/
def Predicate.holds : Predicate → Json → Bool
  | any, _ => true
  | none, _ => false
  | notNull, value => !value.isNull
  | string, value => value.isString
  | number, value => value.toDouble?.isSome
  | greaterThan bound, value =>
    match value.toDouble? with
    | some double => bound.below double
    | Option.none => false
  | multipleOf divisor, .integer value => decide (0 ≤ value) && value.natAbs % divisor == 0
  | multipleOf _, _ => false
  | oneOf options, .string value => options.contains value
  | oneOf _, _ => false

end Beanwright
