import Beanwright.BeanError

/-!
# The registry of a class

A registry declares a class: its name and its properties in order. The order is the one in which the
generated class initializes its fields and lists its accessors. Two properties never share a name or
a backing field; the type says so, and every operation shows it of the registry that it makes. A
property whose name gives no identifier can be declared; it is reported when the registry is walked.
A history is a list of operations; one that fails leaves the registry as it was.

## Main definitions

* `Registry` — a class name and properties whose names and backing fields do not repeat
* `Registry.setName`, `Registry.addProperty`, `Registry.removeProperty`, `Registry.addGuard`,
  `Registry.removeGuards` — the operations, which leave the registry as it is when they fail
* `Registry.walk` — the properties with the names derived from them
-/

namespace Beanwright

/-- A declared property. -/
structure Property where
  /-- The name. -/
  name : Text
  /-- The declared default, which generated classes do not use. -/
  default : Option Json
  /-- Whether a value that is set stays. -/
  immutable : Bool
  /-- The guards that a value must pass, in the order in which they were attached. -/
  guards : List Guard

/-- The names of the member for a property. -/
def Property.names (property : Property) : Except IdentifierError MemberNames :=
  MemberNames.ofProperty property.name

/-- A property with the names that the class uses for it. -/
structure Member where
  /-- The property. -/
  property : Property
  /-- The names. -/
  names : MemberNames
  /-- The names are derived from that of the property. -/
  derived : property.names = .ok names

/-- The backing field that a property name derives, if it derives one. -/
def Registry.fieldOf? (name : Text) : Option Text :=
  match MemberNames.ofProperty name with
  | .ok names => some names.field
  | .error _ => none

theorem Member.fieldOf?_name (member : Member) :
    Registry.fieldOf? member.property.name = some member.names.field := by
  have derived : MemberNames.ofProperty member.property.name = .ok member.names := member.derived
  rw [Registry.fieldOf?, derived]

/-- The declaration of a class. -/
@[ext] structure Registry where
  /-- The class name, once it is set. -/
  className : Option Text
  /-- The properties in order. -/
  properties : List Property
  /-- No two properties share a name. -/
  names_nodup : (properties.map Property.name).Nodup
  /-- No two properties share a backing field. -/
  fields_nodup : (properties.filterMap fun property => Registry.fieldOf? property.name).Nodup

namespace Registry

/-- The registry of a class name and no properties. -/
def withoutProperties (className : Option Text) : Registry :=
  ⟨className, [], List.nodup_nil, List.nodup_nil⟩

/-- The registry without name and properties. -/
def empty : Registry := withoutProperties none

/-! ## The class name -/

/-- The delimiter between the words of a class name. -/
def classNameDelimiter : Char := '-'

/-- Whether a character may stand in a raw class name. -/
def isClassNameCharacter (character : Char) : Bool :=
  character.isAlphanum || character == '_' || character == classNameDelimiter

/-- Whether a text is a sequence of words separated by hyphens that does not start with a digit. -/
def isClassName : Text → Bool
  | [] => false
  | first :: rest =>
    !first.isDigit && (first :: rest).all isClassNameCharacter &&
      (Text.segments classNameDelimiter (first :: rest)).all fun word => !word.isEmpty

/-- Sets the class name to the capitalized and joined words of a raw name. -/
def setName (raw : Text) (registry : Registry) : Except BeanError Registry :=
  if isClassName raw then
    .ok { registry with className := some (Text.pascalCased classNameDelimiter raw) }
  else .error (.invalidClassName raw)

/-- The class name. -/
def name (registry : Registry) : Except BeanError Text :=
  match registry.className with
  | some name => .ok name
  | none => .error .nameNotSet

/-! ## Properties -/

/-- The property of a name. -/
def find? (registry : Registry) (name : Text) : Option Property :=
  registry.properties.find? fun property => property.name == name

/-- Whether a property is declared. -/
def has (registry : Registry) (name : Text) : Bool := (registry.find? name).isSome

/-- The number of properties. -/
def size (registry : Registry) : Nat := registry.properties.length

/-- The backing fields of the properties that have an identifier, in order. -/
def fields (registry : Registry) : List Text :=
  registry.properties.filterMap fun property => fieldOf? property.name

/-- The first property that has the given backing field. -/
def ownerOf? (registry : Registry) (field : Text) : Option Property :=
  registry.properties.find? fun property => fieldOf? property.name == some field

/-- Why a property name cannot be declared, if it cannot. -/
def conflict? (registry : Registry) (name : Text) : Option BeanError :=
  if registry.has name then some (.duplicateProperty name)
  else match fieldOf? name with
    | none => none
    | some field => (registry.ownerOf? field).map fun owner => .duplicateField name owner.name field

/-- No declared property has a name or the backing field that it derives. -/
structure Free (registry : Registry) (name : Text) : Prop where
  /-- The name is not taken. -/
  nameFree : name ∉ registry.properties.map Property.name
  /-- The backing field is not taken. -/
  fieldFree : ∀ field, fieldOf? name = some field → field ∉ registry.fields

theorem has_eq_true_iff {registry : Registry} {name : Text} :
    registry.has name = true ↔ name ∈ registry.properties.map Property.name := by
  rw [has, find?, List.find?_isSome, List.mem_map]
  simp only [beq_iff_eq]

theorem ownerOf?_eq_none_iff {registry : Registry} {field : Text} :
    registry.ownerOf? field = none ↔ field ∉ registry.fields := by
  rw [ownerOf?, List.find?_eq_none, fields, List.mem_filterMap]
  simp only [beq_iff_eq, not_exists, not_and]

/-- A name is declared exactly if it is free. -/
theorem conflict?_eq_none_iff {registry : Registry} {name : Text} :
    registry.conflict? name = none ↔ registry.Free name := by
  rw [conflict?]
  cases taken : registry.has name with
  | true => exact ⟨nofun, fun free => absurd (has_eq_true_iff.mp taken) free.nameFree⟩
  | false =>
    rw [if_neg Bool.false_ne_true]
    have nameFree : name ∉ registry.properties.map Property.name := by
      rw [← has_eq_true_iff, taken]
      exact Bool.false_ne_true
    cases derived : fieldOf? name with
    | none =>
      refine ⟨fun _ => ⟨nameFree, fun field derives => ?_⟩, fun _ => rfl⟩
      rw [derived] at derives
      cases derives
    | some field =>
      rw [Option.map_eq_none_iff, ownerOf?_eq_none_iff]
      refine ⟨fun fieldFree => ⟨nameFree, fun other derives => ?_⟩,
        fun free => free.fieldFree _ derived⟩
      rw [derived] at derives
      cases derives
      exact fieldFree

/-- The registry with one more property, after all others. -/
def append (property : Property) (registry : Registry) (free : registry.Free property.name) :
    Registry where
  className := registry.className
  properties := registry.properties ++ [property]
  names_nodup := by
    rw [List.map_append, List.map_singleton, List.nodup_append]
    refine ⟨registry.names_nodup, List.pairwise_singleton .., fun taken inNames added isNew => ?_⟩
    rw [List.mem_singleton.mp isNew]
    rintro rfl
    exact free.nameFree inNames
  fields_nodup := by
    rw [List.filterMap_append, List.nodup_append]
    refine ⟨registry.fields_nodup, ?_, fun taken inFields added isNew => ?_⟩
    · cases derived : fieldOf? property.name <;> simp [derived]
    · cases derived : fieldOf? property.name with
      | none => simp [derived] at isNew
      | some field =>
        have same : added = field := by simpa [derived] using isNew
        rw [same]
        rintro rfl
        exact free.fieldFree taken derived inFields

/-- Declares a property without guards, after all others. -/
def addProperty (name : Text) (default : Option Json) (immutable : Bool) (registry : Registry) :
    Except BeanError Registry :=
  match free : registry.conflict? name with
  | some conflict => .error conflict
  | none => .ok (registry.append ⟨name, default, immutable, []⟩ (conflict?_eq_none_iff.mp free))

/-- The registry with some of its properties only. -/
def keep (kept : Property → Bool) (registry : Registry) : Registry where
  className := registry.className
  properties := registry.properties.filter kept
  names_nodup := registry.names_nodup.sublist (List.filter_sublist.map _)
  fields_nodup := registry.fields_nodup.sublist (List.filter_sublist.filterMap _)

/-- Removes a property together with its guards. -/
def removeProperty (name : Text) (registry : Registry) : Except BeanError Registry :=
  if registry.has name then .ok (registry.keep fun property => property.name != name)
  else .error (.unknownProperty name)

/-! ## Guards -/

/-- A property with its guards replaced if it has a name, and as it is otherwise. -/
def replaceGuards (name : Text) (guards : List Guard) (property : Property) : Property :=
  if property.name = name then { property with guards := guards } else property

@[simp] theorem name_replaceGuards (name : Text) (guards : List Guard) (property : Property) :
    (replaceGuards name guards property).name = property.name := by
  rw [replaceGuards]
  split <;> rfl

/-- The registry with the guards of one property replaced. -/
def withGuards (name : Text) (guards : List Guard) (registry : Registry) : Registry where
  className := registry.className
  properties := registry.properties.map (replaceGuards name guards)
  names_nodup := by
    simp only [List.map_map, Function.comp_def, name_replaceGuards]
    exact registry.names_nodup
  fields_nodup := by
    simp only [List.filterMap_map, Function.comp_def, name_replaceGuards]
    exact registry.fields_nodup

/-- The guards of a property; none if it is not declared. -/
def guards (registry : Registry) (name : Text) : List Guard :=
  match registry.find? name with
  | some property => property.guards
  | none => []

/-- The guards with one more at the end, unless the same guard is among them. -/
def attach (guard : Guard) (guards : List Guard) : List Guard :=
  if guards.any fun attached => attached.same guard then guards else guards ++ [guard]

/-- Attaches a guard to a property. -/
def addGuard (name : Text) (guard : Guard) (registry : Registry) : Except BeanError Registry :=
  match registry.find? name with
  | some property => .ok (registry.withGuards name (attach guard property.guards))
  | none => .error (.unknownProperty name)

/-- Detaches all guards of a property and hands them out. -/
def removeGuards (name : Text) (registry : Registry) :
    Except BeanError (List Guard × Registry) :=
  match registry.find? name with
  | some property => .ok (property.guards, registry.withGuards name [])
  | none => .error (.unknownProperty name)

/-! ## Walking the properties -/

/-- A property with its derived names. -/
def member (property : Property) : Except BeanError Member :=
  match derived : property.names with
  | .ok names => .ok ⟨property, names, derived⟩
  | .error cause => .error (.invalidIdentifier cause)

/-- Each property with its derived names, or why it has none. -/
def walk (registry : Registry) : List (Except BeanError Member) := registry.properties.map member

/-- The properties with their derived names, if all of them have such names. -/
def members (registry : Registry) : Except BeanError (List Member) :=
  registry.properties.mapM member

/-- A member is determined by its property. -/
theorem member_eq_ok_iff {property : Property} {found : Member} :
    member property = .ok found ↔ found.property = property := by
  constructor
  · intro derived
    rw [member] at derived
    split at derived
    · cases derived
      rfl
    · cases derived
  · rintro rfl
    rw [member]
    split
    · next derived =>
      obtain rfl := Except.ok.inj (derived.symm.trans found.derived)
      rfl
    · next fails => cases fails.symm.trans found.derived

/-- The members of a registry are its properties in order. -/
theorem members_eq_ok_iff {registry : Registry} {members : List Member} :
    registry.members = .ok members ↔ members.map Member.property = registry.properties := by
  rw [Registry.members]
  induction registry.properties generalizing members with
  | nil =>
    rw [List.mapM_nil, List.map_eq_nil_iff]
    exact ⟨fun collected => (Except.ok.inj collected).symm,
      fun none => congrArg Except.ok none.symm⟩
  | cons property rest ih =>
    rw [List.mapM_cons]
    constructor
    · intro collected
      cases found : member property with
      | error cause =>
        rw [found] at collected
        cases collected
      | ok first =>
        cases later : rest.mapM member with
        | error cause =>
          rw [found, later] at collected
          cases collected
        | ok others =>
          rw [found, later] at collected
          cases collected
          rw [List.map_cons, member_eq_ok_iff.mp found, ih.mp later]
    · intro properties
      cases members with
      | nil => cases properties
      | cons first others =>
        rw [List.map_cons, List.cons.injEq] at properties
        rw [member_eq_ok_iff.mpr properties.1, ih.mpr properties.2]
        rfl

/-! ## Histories -/

/-- A request to a registry that may change it. -/
inductive Operation where
  /-- Set the class name. -/
  | setName (raw : Text)
  /-- Declare a property. -/
  | addProperty (name : Text) (default : Option Json) (immutable : Bool)
  /-- Remove a property. -/
  | removeProperty (name : Text)
  /-- Attach a guard to a property. -/
  | addGuard (name : Text) (guard : Guard)
  /-- Detach all guards of a property. -/
  | removeGuards (name : Text)

/-- The registry after an operation, or why the operation is refused. -/
def perform (registry : Registry) : Operation → Except BeanError Registry
  | .setName raw => registry.setName raw
  | .addProperty name default immutable => registry.addProperty name default immutable
  | .removeProperty name => registry.removeProperty name
  | .addGuard name guard => registry.addGuard name guard
  | .removeGuards name => (registry.removeGuards name).map Prod.snd

/-- The registry after an operation, unchanged if the operation is refused. -/
def attempt (registry : Registry) (operation : Operation) : Registry :=
  match registry.perform operation with
  | .ok changed => changed
  | .error _ => registry

/-- The registry after a history of operations. -/
def after (registry : Registry) (history : List Operation) : Registry :=
  history.foldl attempt registry

end Registry

end Beanwright
