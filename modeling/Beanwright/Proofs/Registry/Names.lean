import Beanwright.Proofs.Identifier.Derivation
import Beanwright.Registry.Basic

/-!
# The names of a class

A property name that gives an identifier consists of letters and inner dots, and the names derived
from it are names. A class name that a registry accepts becomes a name that begins with a capital
letter or an underscore.
-/

namespace Beanwright

open Text

namespace Identifier

variable {raw : Text} {delimiter : Char}

theorem ofName_eq_ok_iff {identifier : Identifier} :
    ofName raw (some delimiter) = .ok identifier ↔
      offenders raw (some delimiter) = [] ∧ raw ≠ [] ∧
        (segments delimiter raw).any List.isEmpty = false ∧
          identifier = ⟨raw, some delimiter, some [], some (pascalCased delimiter raw)⟩ := by
  rw [ofName_eq, pascalName]
  split
  · next found => exact iff_of_false (by rintro ⟨⟩) fun both => found both.1
  · next clean =>
    rw [not_not] at clean
    rw [and_iff_right clean]
    split
    · next empty => exact iff_of_false (by rintro ⟨⟩) fun both => both.1 empty
    · next nonempty =>
      rw [and_iff_right nonempty]
      cases (segments delimiter raw).any List.isEmpty with
      | true => exact iff_of_false (by rintro ⟨⟩) fun both => Bool.noConfusion both.1
      | false => simp [Except.map, eq_comm]

end Identifier

namespace MemberNames

variable {name : Text} {names : MemberNames}

/-- A property name gives an identifier if it consists of letters and inner dots that stand apart,
and then all names are derived from its words, capitalized and joined. -/
theorem ofProperty_eq_ok_iff :
    ofProperty name = .ok names ↔
      Identifier.offenders name (some Identifier.propertyDelimiter) = [] ∧ name ≠ [] ∧
        (segments Identifier.propertyDelimiter name).any List.isEmpty = false ∧
          names = ofPascal (pascalCased Identifier.propertyDelimiter name) := by
  constructor
  · intro derived
    cases built : Identifier.ofProperty name with
    | error cause =>
      rw [ofProperty, built] at derived
      cases derived
    | ok identifier =>
      rw [ofProperty, built] at derived
      obtain ⟨clean, nonempty, apart, rfl⟩ := Identifier.ofName_eq_ok_iff.mp built
      cases derived
      exact ⟨clean, nonempty, apart, rfl⟩
  · rintro ⟨clean, nonempty, apart, rfl⟩
    have built : Identifier.ofProperty name = _ :=
      Identifier.ofName_eq_ok_iff.mpr ⟨clean, nonempty, apart, rfl⟩
    rw [ofProperty, built]
    rfl

/-- Whether a character can stand in the name of a property that gives an identifier. -/
def isPropertyCharacter (character : Char) : Bool :=
  character.isAlpha || character == Identifier.propertyDelimiter

theorem all_isPropertyCharacter (derived : ofProperty name = .ok names) :
    name.all isPropertyCharacter = true := by
  rw [List.all_eq_true]
  intro character member
  rw [isPropertyCharacter, Bool.or_eq_true, beq_iff_eq]
  have clean := (ofProperty_eq_ok_iff.mp derived).1
  refine (Identifier.isAlpha_or_eq_of_offenders_eq_nil clean member).imp_right fun same => ?_
  exact (Option.some.inj same).symm

/-- What holds of all name characters and of the delimiter holds throughout the name of a property
that gives an identifier. -/
theorem all_of_isNameCharacter {property : Char → Bool}
    (letters : ∀ character, isNameCharacter character = true → property character = true)
    (delimiter : property Identifier.propertyDelimiter = true)
    (derived : ofProperty name = .ok names) : name.all property = true := by
  have characters := all_isPropertyCharacter derived
  rw [List.all_eq_true] at characters ⊢
  intro character inName
  have found := characters character inName
  rw [isPropertyCharacter, Bool.or_eq_true, beq_iff_eq] at found
  rcases found with letter | rfl
  · exact letters character (isNameCharacter_of_isAlpha letter)
  · exact delimiter

theorem eq_ofPascal (derived : ofProperty name = .ok names) : names = ofPascal names.pascal := by
  obtain ⟨-, -, -, rfl⟩ := ofProperty_eq_ok_iff.mp derived
  rfl

/-- The backing field shows neither where the words of a property's name begin nor their case. -/
theorem field_eq (derived : ofProperty name = .ok names) :
    names.field = "__".toList ++ folded Identifier.propertyDelimiter name := by
  have letters := all_isPropertyCharacter derived
  obtain ⟨-, -, -, rfl⟩ := ofProperty_eq_ok_iff.mp derived
  change "__".toList ++ lowercased (pascalCased Identifier.propertyDelimiter name) = _
  rw [lowercased_pascalCased]
  intro character member differs
  have letter := List.all_eq_true.mp letters character member
  rw [isPropertyCharacter, Bool.or_eq_true, beq_iff_eq] at letter
  exact toNat_lt_of_isNameCharacter
    (isNameCharacter_of_isAlpha (letter.resolve_right differs))

/-- The joined words of a property are a name. -/
theorem isName_pascal (derived : ofProperty name = .ok names) : isName names.pascal = true := by
  have letters := all_isPropertyCharacter derived
  obtain ⟨-, nonempty, apart, rfl⟩ := ofProperty_eq_ok_iff.mp derived
  cases name with
  | nil => exact absurd rfl nonempty
  | cons first rest =>
    apply isName_pascalCased
    · intro other member differs
      have letter := List.all_eq_true.mp letters other member
      rw [isPropertyCharacter, Bool.or_eq_true, beq_iff_eq] at letter
      rcases letter with letter | equal
      · exact isNameCharacter_of_isAlpha letter
      · exact absurd equal differs
    · rintro rfl
      rw [segments, if_pos rfl] at apart
      cases apart

end MemberNames

namespace Registry

/-- Whether a text is a name that begins with a capital letter or an underscore. -/
def isClassIdentifier (text : Text) : Bool :=
  isName text && text.head?.any fun first => first.isUpper || first == '_'

theorem isName_of_isClassIdentifier {name : Text} (identifier : isClassIdentifier name = true) :
    isName name = true := by
  rw [isClassIdentifier, Bool.and_eq_true] at identifier
  exact identifier.1

/-- The words of an accepted class name, capitalized and joined, are a name that begins with a
capital letter or an underscore. -/
theorem isClassIdentifier_of_isClassName {raw : Text} (accepted : isClassName raw = true) :
    isClassIdentifier (pascalCased classNameDelimiter raw) = true := by
  cases raw with
  | nil => cases accepted
  | cons first rest =>
    rw [isClassName, Bool.and_eq_true, Bool.and_eq_true, Bool.not_eq_true'] at accepted
    obtain ⟨⟨notDigit, characters⟩, wordsNonempty⟩ := accepted
    have differs : first ≠ classNameDelimiter := by
      rintro rfl
      rw [segments, if_pos rfl] at wordsNonempty
      cases wordsNonempty
    have allowed : ∀ other ∈ first :: rest, other ≠ classNameDelimiter →
        isNameCharacter other = true := by
      intro other member otherDiffers
      have allowed := List.all_eq_true.mp characters other member
      rw [isClassNameCharacter, Bool.or_eq_true, beq_iff_eq] at allowed
      rcases allowed with name | equal
      · exact name
      · exact absurd equal otherDiffers
    have firstName := allowed first List.mem_cons_self differs
    -- A name character that is no digit has an upper-case form that can begin a class name.
    have upper := of_isNameCharacter
      (fun character => character.isDigit || character.toUpper.isUpper ||
        character.toUpper == '_') (by decide) firstName
    rw [notDigit, Bool.false_or] at upper
    rw [isClassIdentifier, isName_pascalCased allowed differs,
      head?_pascalCased differs (toNat_lt_of_isNameCharacter firstName)]
    exact upper

end Registry

end Beanwright
