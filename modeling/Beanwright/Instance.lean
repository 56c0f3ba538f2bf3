import Beanwright.Json.Reader
import Beanwright.Registry.Basic

/-!
# Instances

An instance follows the accessor contract of the generated class: reading an unset property fails,
an immutable property takes one value, and a value must pass every guard. Null stands for "unset".

The type of an instance tells its registry: the instance has one slot for each property, in order,
with the backing field of that property, and no slot holds a null.

## Main definitions

* `Instance` — a slot for each property of a registry
* `Instance.create` — the instance of a registry with all properties unset
* `Instance.get`, `Instance.set` — the accessors
* `Instance.dump`, `Instance.load` — the record of an instance, and the instance of a record
-/

namespace Beanwright

/-- The place for the value of one property. -/
@[ext] structure Slot where
  /-- The name of the property. -/
  name : Text
  /-- The backing field. -/
  field : Text
  /-- The value, if one is set. -/
  value : Option Json
  /-- Null is not held. -/
  notNull : value ≠ some .null

namespace Slot

/-- The name and the backing field of a slot. -/
def place (slot : Slot) : Text × Option Text := (slot.name, some slot.field)

/-- What a slot holds after a value is assigned: null leaves it unset. -/
def held (value : Json) : Option Json := if value.isNull then none else some value

theorem held_ne_null (value : Json) : held value ≠ some .null := by
  rw [held]
  split
  · rintro ⟨⟩
  · next notNull =>
    rintro ⟨⟩
    exact notNull rfl

/-- The slot with a value assigned. -/
def put (value : Json) (slot : Slot) : Slot :=
  { slot with value := held value, notNull := held_ne_null value }

/-- The slot with a value assigned, if it is the slot of a name. -/
def assign (name : Text) (value : Json) (slot : Slot) : Slot :=
  if slot.name = name then slot.put value else slot

theorem place_assign (name : Text) (value : Json) (slot : Slot) :
    (slot.assign name value).place = slot.place := by
  rw [assign]
  split <;> rfl

/-- The slot of a property and a backing field without a value. -/
def unset (name field : Text) : Slot := ⟨name, field, none, nofun⟩

/-- The slot of a member without a value. -/
def ofMember (member : Member) : Slot := unset member.property.name member.names.field

end Slot

/-- An instance of the class that a registry declares. -/
@[ext] structure Instance (registry : Registry) where
  /-- The slots. -/
  slots : List Slot
  /-- They have the names and the backing fields of the properties, in order. -/
  places : slots.map Slot.place =
    registry.properties.map fun property => (property.name, Registry.fieldOf? property.name)

namespace Instance

variable {registry : Registry}

theorem places_of_members {members : List Member} (found : registry.members = .ok members) :
    (members.map Slot.ofMember).map Slot.place =
      registry.properties.map fun property => (property.name, Registry.fieldOf? property.name) := by
  rw [← Registry.members_eq_ok_iff.mp found, List.map_map, List.map_map]
  apply List.map_congr_left
  intro member _
  rw [Function.comp_apply, Function.comp_apply, member.fieldOf?_name]
  rfl

/-- The instance of a registry with all properties unset. -/
def create (registry : Registry) : Except BeanError (Instance registry) :=
  match found : registry.members with
  | .ok members => .ok ⟨members.map Slot.ofMember, places_of_members found⟩
  | .error cause => .error cause

/-- The instance with its slots changed, but not their places. -/
def mapSlots (inst : Instance registry) (change : Slot → Slot)
    (samePlace : ∀ slot, (change slot).place = slot.place) : Instance registry where
  slots := inst.slots.map change
  places := by
    rw [← inst.places, List.map_map]
    exact List.map_congr_left fun slot _ => samePlace slot

/-- The place for the value of a property. -/
def slot? (inst : Instance registry) (name : Text) : Option Slot :=
  inst.slots.find? fun slot => slot.name == name

/-- The value of a property, if one is set. -/
def value? (inst : Instance registry) (name : Text) : Option Json :=
  (inst.slot? name).bind Slot.value

/-- Whether a property holds a value. -/
def isSet (inst : Instance registry) (name : Text) : Bool := (inst.value? name).isSome

/-- The value of a property. -/
def get (inst : Instance registry) (name : Text) : Except BeanError Json :=
  match inst.slot? name with
  | none => .error (.unknownProperty name)
  | some slot =>
    match slot.value with
    | some value => .ok value
    | none => .error (.propertyNotSet name)

/-- The instance with the value of one property replaced. -/
def assign (inst : Instance registry) (name : Text) (value : Json) : Instance registry :=
  inst.mapSlots (Slot.assign name value) (Slot.place_assign name value)

/-- Sets a property. An undeclared property is refused first, then an immutable one that is set,
then a value that a guard rejects. -/
def set (inst : Instance registry) (name : Text) (value : Json) :
    Except BeanError (Instance registry) :=
  match registry.find? name with
  | none => .error (.unknownProperty name)
  | some property =>
    if property.immutable && inst.isSet name then .error (.immutableProperty name)
    else if property.guards.all fun guard => guard.accepts value then .ok (inst.assign name value)
    else .error (.invalidValue name value)

/-- The record of an instance: each backing field with its value, or null if it is unset. -/
def dump (inst : Instance registry) : Json :=
  .object (inst.slots.map fun slot => (slot.field, slot.value.getD .null))

/-- The slots with a value assigned to the first one of a backing field, if there is one. -/
def fill? (field : Text) (value : Json) : List Slot → Option (List Slot)
  | [] => none
  | slot :: rest =>
    if slot.field = field then some (slot.put value :: rest)
    else (fill? field value rest).map fun filled => slot :: filled

theorem map_place_of_fill? {field : Text} {value : Json} {slots filled : List Slot}
    (found : fill? field value slots = some filled) :
    filled.map Slot.place = slots.map Slot.place := by
  induction slots generalizing filled with
  | nil => cases found
  | cons slot rest ih =>
    rw [fill?] at found
    split at found
    · cases found
      rfl
    · obtain ⟨later, filledLater, rfl⟩ := Option.map_eq_some_iff.mp found
      rw [List.map_cons, ih filledLater, List.map_cons]

/-- Takes over the fields of a record one after the other. -/
def loadFields (inst : Instance registry) :
    List (Text × Json) → Except BeanError (Instance registry)
  | [] => .ok inst
  | (key, value) :: rest =>
    match found : fill? key value inst.slots with
    | some slots => loadFields ⟨slots, (map_place_of_fill? found).trans inst.places⟩ rest
    | none => do
      let className ← registry.name
      .error (.unsupportedKey key className)

/-- The refusal of a record for a reason; it needs the class name. -/
def refuse (registry : Registry) (reason : Text) : Except BeanError α := do
  let className ← registry.name
  .error (.unloadableRecord className reason)

/-- The fields of a record: of an object, of the text of an object in a string, and of nothing
else. -/
def fieldsOfRecord (registry : Registry) (record : Json) :
    Except BeanError (List (Text × Json)) := do
  let value ←
    match record with
    | .string text =>
      match Json.read text with
      | .ok value => pure value
      | .error error => refuse registry error.message
    | other => pure other
  match value with
  | .object fields => return fields
  | .null => refuse registry "record is null".toList
  | other => refuse registry ("expected an object, got ".toList ++ other.compact)

/-- The instance of a record. Values are taken over as they are, past guards and immutability. -/
def load (registry : Registry) (record : Json) : Except BeanError (Instance registry) := do
  let fields ← fieldsOfRecord registry record
  let fresh ← create registry
  fresh.loadFields fields

end Instance

end Beanwright
