import Beanwright.Guard.Basic
import Beanwright.Identifier
import Beanwright.Json.Printer
import Beanwright.Path

/-!
# Errors about beans

The reasons for which a bean cannot be loaded, a class cannot be declared, or an instance refuses a
request. Each reason has a message; a code, a piece of advice and a deeper cause go with it where
there are any.
-/

namespace Beanwright

/-- Why a bean, a class declaration or an instance refuses a request. -/
inductive BeanError where
  /-- The bean cannot be read from the file system. -/
  | unreadable (path : Text) (cause : SystemError)
  /-- The format of the bean cannot be told from its path. -/
  | unknownFormat (path : Text)
  /-- The JSON document of the bean is malformed; the offset is the byte it points to. -/
  | malformedJson (fileName message : Text) (offset : Option Nat)
  /-- The TOML document of the bean is malformed. -/
  | malformedToml (fileName : Text)
  /-- The class name is no sequence of words. -/
  | invalidClassName (name : Text)
  /-- The class has no name yet. -/
  | nameNotSet
  /-- The property is declared already. -/
  | duplicateProperty (name : Text)
  /-- Another property has the same backing field. -/
  | duplicateField (name existing field : Text)
  /-- The property is not declared. -/
  | unknownProperty (name : Text)
  /-- The bean asks for a check that does not exist. -/
  | unsupportedGuard (field found : Text)
  /-- The property's name gives no identifier. -/
  | invalidIdentifier (cause : IdentifierError)
  /-- The property holds no value. -/
  | propertyNotSet (name : Text)
  /-- The property is immutable and holds a value. -/
  | immutableProperty (name : Text)
  /-- A guard rejects the value. -/
  | invalidValue (name : Text) (value : Json)
  /-- The record has a key that is no backing field. -/
  | unsupportedKey (key className : Text)
  /-- The record cannot be loaded at all. -/
  | unloadableRecord (className reason : Text)

namespace BeanError

/-- The wording of an error. -/
def message : BeanError → Text
  | unreadable path _ => "failed to read '".toList ++ path ++ ['\'']
  | unknownFormat path => "cannot detect bean format of '".toList ++ path ++ ['\'']
  | malformedJson fileName message _ =>
    "failed to parse bean '".toList ++ fileName ++ "': ".toList ++ message
  | malformedToml fileName =>
    "failed to parse bean '".toList ++ fileName ++ "': invalid document".toList
  | invalidClassName name =>
    "invalid class name '".toList ++ name ++
      "': expected hyphen separated words of ASCII letters, digits or '_', ".toList ++
      "not starting with a digit".toList
  | nameNotSet => "class name is not set".toList
  | duplicateProperty name => "property \"".toList ++ name ++ "\" already exists".toList
  | duplicateField name existing field =>
    "property \"".toList ++ name ++ "\" derives field \"".toList ++ field ++
      "\" already used by \"".toList ++ existing ++ ['"']
  | unknownProperty name => "property \"".toList ++ name ++ "\" does not exist".toList
  | unsupportedGuard field found =>
    "unsupported typecheck for field \"".toList ++ field ++ "\": ".toList ++ found
  | invalidIdentifier cause => "invalid property name: ".toList ++ cause.message
  | propertyNotSet name => "property \"".toList ++ name ++ "\" is not set".toList
  | immutableProperty name => "cannot set immutable property \"".toList ++ name ++ ['"']
  | invalidValue name value =>
    "unexpected value ".toList ++ value.compact ++ " for property \"".toList ++ name ++ ['"']
  | unsupportedKey key className =>
    "unsupported key \"".toList ++ key ++ "\" for class ".toList ++ className
  | unloadableRecord className reason =>
    "failed to load serialized object for class ".toList ++ className ++ ": ".toList ++ reason

/-- The code under which an error is documented. -/
def code : BeanError → Text
  | unreadable _ _ => "kiln::io".toList
  | unknownFormat _ => "kiln::unknown_format".toList
  | malformedJson _ _ _ | malformedToml _ => "kiln::parse_error".toList
  | invalidClassName _ => "kiln::invalid_class_name".toList
  | nameNotSet => "kiln::name_not_set".toList
  | duplicateProperty _ => "kiln::duplicate_property".toList
  | duplicateField _ _ _ => "kiln::duplicate_field".toList
  | unknownProperty _ => "kiln::unknown_property".toList
  | unsupportedGuard _ _ => "kiln::unsupported_guard".toList
  | invalidIdentifier _ => "kiln::invalid_identifier".toList
  | propertyNotSet _ => "kiln::property_not_set".toList
  | immutableProperty _ => "kiln::immutable_property".toList
  | invalidValue _ _ => "kiln::invalid_value".toList
  | unsupportedKey _ _ => "kiln::unsupported_key".toList
  | unloadableRecord _ _ => "kiln::unloadable_record".toList

/-- The advice that goes with an error. -/
def help? : BeanError → Option Text
  | unknownFormat _ =>
    some "use a *.json or *.toml bean, or force the parser with --json or --toml".toList
  | invalidClassName _ =>
    some "class names are hyphen separated words, e.g. 'software-developer'".toList
  | duplicateField _ _ _ =>
    some "property names are compared after dropping '.' and lowercasing".toList
  | unsupportedGuard _ _ =>
    some ("valid type checks are: ".toList ++
      Text.joined ", ".toList (TypeCheck.all.map TypeCheck.token))
  | invalidIdentifier _ =>
    some "property names accept ASCII letters only, with '.' between words".toList
  | _ => none

/-- The messages of the deeper causes of an error. -/
def causes : BeanError → List Text
  | unreadable _ cause => [cause.message]
  | invalidIdentifier cause => [cause.message]
  | _ => []

end BeanError

end Beanwright
