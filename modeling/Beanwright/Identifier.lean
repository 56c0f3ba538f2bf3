import Beanwright.Text.Unprintable
import Beanwright.Text.UpperCase

/-!
# Identifiers

An identifier turns the raw name of a property, such as `first.name`, into the names that a
generated class uses for it: the backing field `__firstname`, the getter `getFirstName` and the
setter `setFirstName`. A name consists of ASCII letters; a delimiter may separate its words.

An identifier is validated first and built afterwards, and its derived names can be read once it is
built.

## Main definitions

* `Identifier.offenders` — the positions that hold a character which the name must not have there
* `Identifier.validate`, `Identifier.build` — the two steps of the life cycle
* `Identifier.ofName` — both steps at once
* `Identifier.read` — a derived name
-/

namespace Beanwright

/-- The names that can be read from a built identifier. -/
inductive DerivedName where
  /-- The words, capitalized and joined. -/
  | pascal
  /-- The backing field. -/
  | field
  /-- The getter. -/
  | getter
  /-- The setter. -/
  | setter
deriving DecidableEq, Repr

/-- The word for a derived name in messages. -/
def DerivedName.label : DerivedName → Text
  | pascal => "pascal name".toList
  | field => "field".toList
  | getter => "getter".toList
  | setter => "setter".toList

/-- Why an identifier cannot be validated, built or read. -/
inductive IdentifierError where
  /-- The name has characters that it must not have, listed with their positions. -/
  | invalidCharacters (name : Text) (offenders : List (Nat × Char))
  /-- The name is empty. -/
  | empty
  /-- Two delimiters stand together. -/
  | emptySegment (name : Text)
  /-- The name has not been found valid before building. -/
  | notValidated (name : Text)
  /-- A derived name is read before building. -/
  | notBuilt (name : Text) (wanted : DerivedName)
deriving DecidableEq, Repr

namespace IdentifierError

/-- An offending character and its position. -/
def describe (offender : Nat × Char) : Text :=
  Text.quotedCharacter offender.2 ++ " at ".toList ++ Text.ofNat offender.1

/-- The wording of an error. -/
def message : IdentifierError → Text
  | invalidCharacters name offenders =>
    "unexpected characters in name '".toList ++ name ++ "': ".toList ++
      Text.joined ", ".toList (offenders.map describe)
  | empty => "cannot build an identifier from an empty name".toList
  | emptySegment name => "name '".toList ++ name ++ "' contains an empty segment".toList
  | notValidated name => "must validate '".toList ++ name ++ "' before building it".toList
  | notBuilt name wanted =>
    "must build '".toList ++ name ++ "' before reading its ".toList ++ wanted.label

end IdentifierError

/-- A raw name on its way to the names derived from it. -/
structure Identifier where
  /-- The raw name. -/
  raw : Text
  /-- The character between words, if words are separated. -/
  delimiter : Option Char
  /-- What the validation found, once there was one: the offending positions. -/
  findings : Option (List (Nat × Char))
  /-- The joined words, once built. -/
  built : Option Text
deriving DecidableEq, Repr

namespace Identifier

/-- The delimiter between the words of a property name. -/
def propertyDelimiter : Char := '.'

/-- An identifier that is neither validated nor built. -/
def fresh (raw : Text) (delimiter : Option Char) : Identifier := ⟨raw, delimiter, none, none⟩

/-- Whether a character may stand at a position of a name of the given length: an ASCII letter
anywhere, the delimiter strictly inside. -/
def allows (delimiter : Option Char) (length position : Nat) (character : Char) : Bool :=
  character.isAlpha ||
    (delimiter == some character && decide (0 < position) && decide (position + 1 < length))

/-- The positions of a name, counted from zero, that hold a character which must not stand there. -/
def offenders (raw : Text) (delimiter : Option Char) : List (Nat × Char) :=
  (raw.zipIdx.filter fun (character, position) =>
    !allows delimiter raw.length position character).map fun (character, position) =>
      (position, character)

/-- Looks for offending characters. All of them are kept, whether there are any or not. -/
def validate (identifier : Identifier) : Identifier × Except IdentifierError Unit :=
  let found := offenders identifier.raw identifier.delimiter
  ({ identifier with findings := some found },
    if found.isEmpty then .ok () else .error (.invalidCharacters identifier.raw found))

/-- The words of a name, capitalized and joined; a name without delimiter is one word. -/
def pascalName (raw : Text) : (delimiter : Option Char) → Except IdentifierError Text
  | none => .ok (Text.capitalized raw)
  | some delimiter =>
    if (Text.segments delimiter raw).any List.isEmpty then .error (.emptySegment raw)
    else .ok (Text.pascalCased delimiter raw)

/-- Derives the names of an identifier whose validation found nothing. An identifier that is built
already stays as it is. -/
def build (identifier : Identifier) : Except IdentifierError Identifier :=
  match identifier.built with
  | some _ => .ok identifier
  | none =>
    if identifier.findings ≠ some [] then .error (.notValidated identifier.raw)
    else if identifier.raw.isEmpty then .error .empty
    else match pascalName identifier.raw identifier.delimiter with
      | .ok pascal => .ok { identifier with built := some pascal }
      | .error error => .error error

/-- The built identifier of a raw name. -/
def ofName (raw : Text) (delimiter : Option Char) : Except IdentifierError Identifier :=
  match (fresh raw delimiter).validate with
  | (validated, .ok ()) => validated.build
  | (_, .error error) => .error error

/-- The built identifier of a property name. -/
def ofProperty (name : Text) : Except IdentifierError Identifier :=
  ofName name (some propertyDelimiter)

/-- Whether the identifier is built. -/
def isBuilt (identifier : Identifier) : Bool := identifier.built.isSome

/-- The offending positions that the last validation found. -/
def lastOffenders (identifier : Identifier) : List (Nat × Char) := identifier.findings.getD []

/-- A derived name, from the joined words. -/
def derive (pascal : Text) : DerivedName → Text
  | .pascal => pascal
  | .field => "__".toList ++ Text.lowercased pascal
  | .getter => "get".toList ++ pascal
  | .setter => "set".toList ++ pascal

/-- A derived name of a built identifier. -/
def read (identifier : Identifier) (wanted : DerivedName) : Except IdentifierError Text :=
  match identifier.built with
  | some pascal => .ok (derive pascal wanted)
  | none => .error (.notBuilt identifier.raw wanted)

end Identifier

/-- The names that a generated class uses for one property. -/
structure MemberNames where
  /-- The joined words of the property's name. -/
  pascal : Text
  /-- The backing field. -/
  field : Text
  /-- The getter. -/
  getter : Text
  /-- The setter. -/
  setter : Text
deriving DecidableEq, Repr

namespace MemberNames

/-- The names that joined words give. -/
def ofPascal (pascal : Text) : MemberNames where
  pascal := Identifier.derive pascal .pascal
  field := Identifier.derive pascal .field
  getter := Identifier.derive pascal .getter
  setter := Identifier.derive pascal .setter

/-- The names of the member for a property. -/
def ofProperty (name : Text) : Except IdentifierError MemberNames := do
  let identifier ← Identifier.ofProperty name
  return {
    pascal := ← identifier.read .pascal
    field := ← identifier.read .field
    getter := ← identifier.read .getter
    setter := ← identifier.read .setter }

end MemberNames

end Beanwright
