import Beanwright.Guard.Basic
import Beanwright.Registry.Basic

/-!
# The text of a class

The text of a generated class before layout: the pieces that each property contributes to the
constructor and to the methods, and the frame around them. Nothing is indented and no optional blank
is written.
-/

namespace Beanwright

/-- The pieces of the text of one class. -/
structure ClassText where
  /-- The class name. -/
  className : Text
  /-- The number of properties. -/
  count : Nat
  /-- The statements of the constructor. -/
  initializers : Text
  /-- The getters and setters. -/
  accessors : Text
deriving DecidableEq, Repr

namespace ClassText

/-- The comment at the top of every generated text. -/
def banner : Text := "// JavaScript class generated by kiln".toList

/-- The local name of the guard at a position: the first has no number. -/
def guardLocal : (index : Nat) → Text
  | 0 => "test".toList
  | index + 1 => "test".toList ++ Text.ofNat (index + 1)

/-- The statement that leaves a field unset. -/
def initializer (field : Text) : Text := "this.".toList ++ field ++ "=null;".toList

/-- The getter of a property, which refuses to read an unset field. -/
def getter (member : Member) : Text :=
  member.names.getter ++ " () \x7bif(this.".toList ++ member.names.field ++
    "===null)\x7bthrow new Error('Property \"".toList ++ member.property.name ++
    "\" is not set');\x7dreturn this.".toList ++ member.names.field ++ ";\x7d".toList

/-- The statement of a setter that refuses a second value for an immutable property. -/
def immutabilityCheck (member : Member) : Text :=
  "if(this.".toList ++ member.names.field ++
    " !== null)\x7bthrow new Error('Cannot set immutable property \"".toList ++
    member.property.name ++ "\"');\x7d".toList

/-- The statements of a setter that refuse a value which a guard rejects. -/
def guardCheck (index : Nat) (guard : Guard) : Text :=
  "let ".toList ++ guardLocal index ++ ['='] ++ guard.source ++ ";if(!".toList ++
    guardLocal index ++
    "(value))\x7bthrow new Error('Unexpected value \"' + value + '\" of type ' ".toList ++
    "+ typeof value);\x7d".toList

/-- The statements for the guards of a property, from a position on. -/
def guardChecksFrom : (index : Nat) → List Guard → Text
  | _, [] => []
  | index, guard :: rest => guardCheck index guard ++ guardChecksFrom (index + 1) rest

/-- The setter of a property. -/
def setter (member : Member) : Text :=
  member.names.setter ++ " (value) \x7b".toList ++
    (if member.property.immutable then immutabilityCheck member else []) ++
    guardChecksFrom 0 member.property.guards ++
    "this.".toList ++ member.names.field ++ "=value;\x7d".toList

/-- The method that turns an instance into a record. -/
def dumpMethod (className : Text) : Text :=
  "static Dump (object, keepObject) \x7bif(object instanceof ".toList ++ className ++
    ")\x7blet serialized=JSON.stringify(object);return keepObject === true ? ".toList ++
    "JSON.parse(serialized) : serialized;\x7dthrow new Error('Can only dump instances of ".toList ++
    className ++ "');\x7d".toList

/-- The method that turns a record into an instance. -/
def loadMethod (className : Text) : Text :=
  "static Load (serialized) \x7bif(Object(serialized) !== serialized)\x7b".toList ++
    "serialized=JSON.parse(serialized);\x7dif(serialized===null)\x7b".toList ++
    "throw new Error('Failed to load serialized object');\x7dlet object=new ".toList ++
    className ++ "();for(let key of Object.keys(serialized))\x7b".toList ++
    "if(object[key]===undefined)\x7bthrow new Error('Unsupported key \"' + key + ".toList ++
    "'\" for this class');\x7dobject[key]=serialized[key];\x7dreturn object;\x7d".toList

/-- The whole text of a class. -/
def render (pieces : ClassText) : Text :=
  banner ++ "\n\nclass ".toList ++ pieces.className ++ "\x7bconstructor()\x7b".toList ++
    pieces.initializers ++ ['}'] ++ pieces.accessors ++ dumpMethod pieces.className ++
    loadMethod pieces.className ++ "\x7d\n\nmodule.exports = ".toList ++ pieces.className ++
    ";\n".toList

end ClassText

end Beanwright
