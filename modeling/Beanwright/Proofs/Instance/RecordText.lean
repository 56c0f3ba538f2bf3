import Beanwright.Proofs.Instance.Accessors
import Beanwright.Proofs.Instance.Record
import Beanwright.Proofs.Json.RoundTrip

/-!
# Records as texts

A record may come as the text of an object. The compact text of an object without doubles is read
back as this object, so an instance is loaded from the text of its own record as from the record
itself. The record is one level deeper than the values in it, and the levels that the reader has
must be enough for both.
-/

namespace Beanwright.Instance

open Slot

variable {registry : Registry} {inst : Instance registry} {className text : Text}

/-- The text of an object is loaded as the object. -/
theorem load_string {fields : List (Text × Json)}
    (denotes : Json.read text = .ok (.object fields)) :
    load registry (.string text) = load registry (.object fields) := by
  rw [load, fieldsOfRecord, denotes]
  rfl

/-- A text that denotes nothing is refused with the error of the reader. -/
theorem load_string_of_error (named : registry.className = some className)
    {error : Json.SyntaxError} (fails : Json.read text = .error error) :
    load registry (.string text) = .error (.unloadableRecord className error.message) := by
  rw [load, fieldsOfRecord.eq_def]
  simp only [fails, refuse, Registry.name, named]
  rfl

/-- The record of an instance with exact values is exact: no two slots share a backing field, and an
unset property shows as null. -/
theorem isExact_dump
    (exact : ∀ name value, inst.get name = .ok value → value.isExact = true) :
    inst.dump.isExact = true := by
  rw [dump, Json.isExact_object_iff]
  constructor
  · rw [List.map_map]
    exact inst.nodup_map_field_slots
  · intro field inRecord
    obtain ⟨slot, inSlots, rfl⟩ := List.mem_map.mp inRecord
    have search := slot?_eq_some inSlots
    cases given : slot.value with
    | none => rfl
    | some value =>
      apply exact slot.name value
      rw [get_eq_ok_iff, value?, search]
      exact given

/-- An instance whose values have no doubles and only integers of 64 bits is loaded from the compact
text of its record: what is loaded is the instance itself, and so answers every question as it does.
But if the record is nested deeper than 127 levels, the record itself included, its text is refused
for that. -/
theorem load_dump_text (named : registry.className = some className)
    (exact : ∀ name value, inst.get name = .ok value → value.isExact = true) :
    (inst.dump.depth ≤ 127 → load registry (.string inst.dump.compact) = .ok inst) ∧
      (127 < inst.dump.depth → ∃ place, load registry (.string inst.dump.compact) =
        .error (.unloadableRecord className
          (Json.SyntaxError.message ⟨.recursionLimit, place⟩))) := by
  have exactRecord := isExact_dump exact
  constructor
  · intro fits
    have denotes := Json.read_compact exactRecord fits
    exact (load_string denotes).trans inst.load_dump
  · intro tooDeep
    obtain ⟨place, refused⟩ := Json.read_compact_of_deep exactRecord tooDeep
    exact ⟨place, load_string_of_error named refused⟩

/-- An instance of a registry with two properties, of which the second is set. -/
def sample (value : Json) : Instance (Registry.sample (.named .uint8)) :=
  ⟨[unset ['a', '.', 'b'] "__ab".toList, (unset ['c'] "__c".toList).put value], rfl⟩

theorem isExact_sample {value other : Json} {name : Text} (exact : value.isExact = true)
    (answer : (sample value).get name = .ok other) : other.isExact = true := by
  obtain ⟨slot, search, given⟩ := Option.bind_eq_some_iff.mp (get_eq_ok_iff.mp answer)
  have inSlots : slot ∈ (sample value).slots := List.mem_of_find?_eq_some search
  rw [sample, List.mem_cons, List.mem_singleton] at inSlots
  rcases inSlots with rfl | rfl
  · cases given
  · rwa [← (held_eq_some_iff.mp given).1]

/-- A value with escapes, a negative number and an inner object comes back from the text. -/
theorem load_dump_text_sample :
    load (Registry.sample (.named .uint8)) (.string (sample (.array [.string ['"', '\n'],
      .integer (-5), .object [(['x'], .null)]])).dump.compact) =
        .ok (sample (.array [.string ['"', '\n'], .integer (-5), .object [(['x'], .null)]])) :=
  (load_dump_text (Registry.sample_className _) fun _ _ => isExact_sample (by decide)).1 (by decide)

end Beanwright.Instance
