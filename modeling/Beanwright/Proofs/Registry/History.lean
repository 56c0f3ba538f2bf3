import Mathlib.Data.List.Induction
import Beanwright.Proofs.Registry.Reachable

/-!
# The history of a registry

A registry can be told from the operations that it accepted, without running them again. A property
stands if it was declared and not removed later, and its guards are those that were attached since
it was declared or since its guards were last detached. Refused operations leave no trace.

## Main definitions

* `Registry.accepted` — the operations of a history that are not refused
* `Registry.standing` — the properties that accepted operations leave standing
* `Registry.Admits` — what an operation asks of the properties before it

## Main results

* `Registry.exists_makes_of_admits`, `Registry.admits_of_perform` — which operations are accepted,
  and what they make of a registry
* `Registry.standing_concat` — they make the same of the properties that stand
* `Registry.history_told` — a registry shows exactly what its accepted operations left
-/

namespace Beanwright.Registry

variable {registry changed : Registry} {name : Text} {operation : Operation}

/-! ## Operations and properties -/

namespace Operation

/-- Whether an operation removes the property of a name. -/
def removes (name : Text) : Operation → Bool
  | removeProperty other => other == name
  | _ => false

/-- Whether an operation detaches the guards of a name. -/
def detaches (name : Text) : Operation → Bool
  | removeGuards other => other == name
  | _ => false

/-- The guard that an operation attaches to a name. -/
def attached? (name : Text) : Operation → Option Guard
  | addGuard other guard => if other = name then some guard else none
  | _ => none

/-- The class name that an operation sets. -/
def className? : Operation → Option Text
  | setName raw => some (Text.pascalCased classNameDelimiter raw)
  | _ => none

/-- The property that an operation declares. -/
def declared : Operation → List Property
  | addProperty name default immutable => [⟨name, default, immutable, []⟩]
  | _ => []

/-- What an operation makes of the guards of a name. -/
def guardsAfter (name : Text) (guards : List Guard) : Operation → List Guard
  | addGuard other guard => if other = name then attach guard guards else guards
  | removeGuards other => if other = name then [] else guards
  | _ => guards

/-- What an accepted operation makes of properties. -/
def update (operation : Operation) (properties : List Property) : List Property :=
  ((properties.filter fun property => !operation.removes property.name).map fun property =>
    { property with guards := operation.guardsAfter property.name property.guards }) ++
      operation.declared

/-- One registry is what an accepted operation makes of another. -/
structure Makes (operation : Operation) (registry changed : Registry) : Prop where
  /-- The class name is the one that the operation sets, if it sets one. -/
  className : changed.className = operation.className?.or registry.className
  /-- The properties are updated. -/
  properties : changed.properties = operation.update registry.properties

end Operation

/-! ## What accepted operations leave -/

/-- Guards in order, each once. -/
def distinctGuards : List Guard → List Guard
  | [] => []
  | guard :: later => guard :: (distinctGuards later).filter fun other => !other.same guard

/-- The operations after the last one that detaches the guards of a name. -/
def sinceDetached (name : Text) : List Operation → List Operation
  | [] => []
  | operation :: later =>
    if later.any (Operation.detaches name) then sinceDetached name later
    else if operation.detaches name then later
    else operation :: later

/-- The guards that are attached to a name after operations, each once, in the order in which they
were first attached. -/
def attachedTo (name : Text) (log : List Operation) : List Guard :=
  distinctGuards ((sinceDetached name log).filterMap (Operation.attached? name))

/-- The properties that operations declare and none of them removes later, in the order in which
they are declared, each with the guards that are attached to it after that. -/
def standing : List Operation → List Property
  | [] => []
  | .addProperty name default immutable :: later =>
    if later.any (Operation.removes name) then standing later
    else ⟨name, default, immutable, attachedTo name later⟩ :: standing later
  | _ :: later => standing later

/-- The class name that operations set last. -/
def lastName (log : List Operation) : Option Text :=
  (log.filterMap Operation.className?).getLast?

/-- The operations of a history that are accepted when their turn comes. -/
def accepted (registry : Registry) : List Operation → List Operation
  | [] => []
  | operation :: rest =>
    match registry.perform operation with
    | .ok changed => operation :: accepted changed rest
    | .error _ => accepted registry rest

/-- What an operation asks of the properties before it: a class name of words, a property whose name
and backing field are free, and else a property that is declared. -/
def Admits (properties : List Property) : Operation → Prop
  | .setName raw => isClassName raw = true
  | .addProperty name _ _ => name ∉ properties.map Property.name ∧
      ∀ field, fieldOf? name = some field →
        field ∉ properties.filterMap fun property => fieldOf? property.name
  | .removeProperty name | .addGuard name _ | .removeGuards name =>
      name ∈ properties.map Property.name

/-! ## One more operation -/

/-- Leaving out the guards like one guard does not matter to a guard of another kind. -/
theorem any_same_filter {first guard : Guard} (differs : first.key ≠ guard.key)
    (guards : List Guard) :
    (guards.filter fun other => !other.same first).any (fun attached => attached.same guard) =
      guards.any fun attached => attached.same guard := by
  rw [List.any_filter]
  congr 1
  funext other
  cases like : other.same guard with
  | false => rw [Bool.and_false]
  | true =>
    rw [Guard.same_iff] at like
    have apart : other.same first = false := by
      rw [Bool.eq_false_iff, Ne, Guard.same_iff, like]
      exact differs.symm
    rw [apart]
    rfl

/-- A guard that comes last is attached to those before it. -/
theorem distinctGuards_concat (guards : List Guard) (guard : Guard) :
    distinctGuards (guards ++ [guard]) = attach guard (distinctGuards guards) := by
  induction guards with
  | nil => rfl
  | cons first later ih =>
    rw [List.cons_append, distinctGuards, ih, distinctGuards, attach, attach, List.any_cons]
    by_cases here : first.key = guard.key
    · rw [(Guard.same_iff _ _).mpr here, Bool.true_or, if_pos rfl]
      split
      · rfl
      · rw [List.filter_append, List.filter_singleton, (Guard.same_iff _ _).mpr here.symm]
        simp
    · have differs : first.same guard = false := by
        rw [Bool.eq_false_iff, Ne, Guard.same_iff]
        exact here
      have apart : guard.same first = false := by
        rw [Bool.eq_false_iff, Ne, Guard.same_iff]
        exact Ne.symm here
      rw [differs, Bool.false_or, any_same_filter here]
      split
      · rfl
      · rw [List.filter_append, List.filter_singleton, apart]
        rfl

theorem sinceDetached_concat (name : Text) (log : List Operation) (operation : Operation) :
    sinceDetached name (log ++ [operation]) =
      if operation.detaches name then [] else sinceDetached name log ++ [operation] := by
  induction log with
  | nil => simp [sinceDetached]
  | cons first later ih =>
    rw [List.cons_append, sinceDetached, sinceDetached, ih, List.any_append, List.any_cons,
      List.any_nil, Bool.or_false]
    cases operation.detaches name with
    | true => simp
    | false =>
      rw [Bool.or_false, if_neg Bool.false_ne_true]
      split
      · rfl
      · split <;> rfl

/-- One more operation changes the attached guards as it changes the guards of a property. -/
theorem attachedTo_concat (name : Text) (log : List Operation) (operation : Operation) :
    attachedTo name (log ++ [operation]) = operation.guardsAfter name (attachedTo name log) := by
  have unchanged {operation : Operation} (stay : operation.detaches name = false)
      (nothing : operation.attached? name = none) :
      distinctGuards ((if operation.detaches name then [] else
        sinceDetached name log ++ [operation]).filterMap (Operation.attached? name)) =
          distinctGuards ((sinceDetached name log).filterMap (Operation.attached? name)) := by
    rw [stay, if_neg Bool.false_ne_true, List.filterMap_append, List.filterMap_cons, nothing,
      List.filterMap_nil, List.append_nil]
  rw [attachedTo, attachedTo, sinceDetached_concat]
  cases operation with
  | addGuard other guard =>
    have attached : [Operation.addGuard other guard].filterMap (Operation.attached? name) =
        if other = name then [guard] else [] := by
      by_cases same : other = name <;>
        simp [Operation.attached?, same]
    simp only [Operation.detaches, Bool.false_eq_true, if_false, List.filterMap_append, attached,
      Operation.guardsAfter]
    split
    · exact distinctGuards_concat _ _
    · rw [List.append_nil]
  | removeGuards other =>
    simp only [Operation.detaches, Operation.guardsAfter, beq_iff_eq]
    split
    · rfl
    · rw [List.filterMap_append]
      exact congrArg distinctGuards (List.append_nil _)
  | setName raw => exact unchanged rfl rfl
  | addProperty other default immutable => exact unchanged rfl rfl
  | removeProperty other => exact unchanged rfl rfl

/-- One more operation changes the standing properties as it changes those of a registry. -/
theorem standing_concat (log : List Operation) (operation : Operation) :
    standing (log ++ [operation]) = operation.update (standing log) := by
  induction log using standing.induct with
  | case1 => cases operation <;> rfl
  | case2 name default immutable later removed ih =>
    rw [List.cons_append, standing, standing, if_pos removed, List.any_append, removed,
      Bool.true_or, if_pos rfl, ih]
  | case3 name default immutable later stands ih =>
    rw [List.cons_append, standing, standing, if_neg stands, List.any_append, List.any_cons,
      List.any_nil, Bool.or_false, Bool.eq_false_iff.mpr stands, Bool.false_or, ih,
      attachedTo_concat, Operation.update, Operation.update, List.filter_cons]
    cases operation.removes name with
    | true => rfl
    | false => rfl
  | case4 first later other ih =>
    rw [List.cons_append, standing.eq_3 first later other, standing.eq_3 first _ other, ih]

/-! ## Accepted operations -/

theorem find?_isSome_iff : (∃ property, registry.find? name = some property) ↔
    name ∈ registry.properties.map Property.name := by
  rw [← has_eq_true_iff, has, Option.isSome_iff_exists]

/-- Replacing the guards of one name changes one property. -/
theorem withGuards_eq {property : Property} (inProperties : property ∈ registry.properties)
    (change : List Guard → List Guard) :
    (registry.withGuards property.name (change property.guards)).properties =
      registry.properties.map fun other => { other with
        guards := if property.name = other.name then change other.guards else other.guards } := by
  apply List.map_congr_left
  intro other inOthers
  rw [replaceGuards]
  by_cases same : other.name = property.name
  · obtain rfl := List.inj_on_of_nodup_map registry.names_nodup inOthers inProperties same
    rw [if_pos rfl, if_pos rfl]
  · rw [if_neg same, if_neg (Ne.symm same)]

/-- A registry accepts what its properties admit. -/
theorem exists_makes_of_admits (admitted : Admits registry.properties operation) :
    ∃ changed, registry.perform operation = .ok changed ∧ operation.Makes registry changed := by
  cases operation with
  | setName raw =>
    have accepted : isClassName raw = true := admitted
    rw [Registry.perform, setName, if_pos accepted]
    refine ⟨_, rfl, rfl, ?_⟩
    simp [Operation.update, Operation.removes, Operation.guardsAfter, Operation.declared]
  | addProperty name default immutable =>
    rw [Registry.perform, addProperty_of_free ⟨admitted.1, admitted.2⟩]
    refine ⟨_, rfl, rfl, ?_⟩
    simp [append, Operation.update, Operation.removes, Operation.guardsAfter, Operation.declared]
  | removeProperty name =>
    rw [Registry.perform, removeProperty, if_pos (has_eq_true_iff.mpr admitted)]
    refine ⟨_, rfl, rfl, ?_⟩
    simp only [keep, Operation.update, Operation.removes, Operation.guardsAfter,
      Operation.declared, List.append_nil, List.map_id']
    congr 1
    funext property
    rw [bne, Bool.beq_comm]
  | addGuard name guard =>
    obtain ⟨property, found⟩ := find?_isSome_iff.mpr admitted
    obtain rfl : property.name = name := by simpa using List.find?_some found
    rw [Registry.perform, addGuard, found]
    refine ⟨_, rfl, rfl, ?_⟩
    rw [withGuards_eq (List.mem_of_find?_eq_some found)]
    simp [Operation.update, Operation.removes, Operation.guardsAfter, Operation.declared]
  | removeGuards name =>
    obtain ⟨property, found⟩ := find?_isSome_iff.mpr admitted
    obtain rfl : property.name = name := by simpa using List.find?_some found
    rw [Registry.perform, removeGuards, found]
    refine ⟨_, rfl, rfl, ?_⟩
    rw [withGuards_eq (List.mem_of_find?_eq_some found) fun _ => []]
    simp [Operation.update, Operation.removes, Operation.guardsAfter, Operation.declared]

/-- A registry accepts nothing else. -/
theorem admits_of_perform (performed : registry.perform operation = .ok changed) :
    Admits registry.properties operation := by
  cases operation with
  | setName raw =>
    rw [Registry.perform, setName] at performed
    split at performed
    · next accepted => exact accepted
    · cases performed
  | addProperty name default immutable =>
    obtain ⟨free, -⟩ := addProperty_eq_ok performed
    exact ⟨free.nameFree, free.fieldFree⟩
  | removeProperty name =>
    rw [Registry.perform, removeProperty] at performed
    split at performed
    · next present => exact has_eq_true_iff.mp present
    · cases performed
  | addGuard name guard =>
    rw [Registry.perform, addGuard] at performed
    split at performed
    · next property found => exact find?_isSome_iff.mp ⟨property, found⟩
    · cases performed
  | removeGuards name =>
    rw [Registry.perform, removeGuards] at performed
    split at performed
    · next property found => exact find?_isSome_iff.mp ⟨property, found⟩
    · cases performed

/-- An accepted operation has one result. -/
theorem makes_of_perform (performed : registry.perform operation = .ok changed) :
    operation.Makes registry changed := by
  obtain ⟨result, found, makes⟩ := exists_makes_of_admits (admits_of_perform performed)
  rwa [Except.ok.inj (performed.symm.trans found)]

/-! ## Histories -/

theorem attempt_of_error {cause : BeanError} (refused : registry.perform operation = .error cause) :
    registry.attempt operation = registry := by
  rw [attempt, refused]

theorem after_concat (registry : Registry) (history : List Operation) (operation : Operation) :
    registry.after (history ++ [operation]) = (registry.after history).attempt operation :=
  List.foldl_concat ..

/-- One more operation is accepted, or it leaves no trace. -/
theorem accepted_concat (registry : Registry) (history : List Operation) (operation : Operation) :
    registry.accepted (history ++ [operation]) =
      registry.accepted history ++ (registry.after history).accepted [operation] := by
  induction history generalizing registry with
  | nil => rfl
  | cons first rest ih =>
    rw [List.cons_append, accepted, accepted, after, List.foldl_cons, attempt]
    cases registry.perform first with
    | error cause => exact ih registry
    | ok changed => exact congrArg (first :: ·) (ih changed)

/-- A registry shows what a log of operations leaves. -/
structure Shows (log : List Operation) (registry : Registry) : Prop where
  /-- The class name is the one that was set last. -/
  className : registry.className = lastName log
  /-- The properties are those that stand. -/
  properties : registry.properties = standing log

theorem Shows.perform {log : List Operation} (shows : Shows log registry)
    (performed : registry.perform operation = .ok changed) :
    Shows (log ++ [operation]) changed where
  className := by
    rw [(makes_of_perform performed).className, shows.className, lastName, lastName,
      List.filterMap_append, List.getLast?_append, List.filterMap_cons]
    cases operation.className? <;> rfl
  properties := by
    rw [(makes_of_perform performed).properties, shows.properties, standing_concat]

/-- After any history, a registry shows what the accepted operations leave. -/
theorem shows_accepted (history : List Operation) :
    Shows (accepted empty history) (empty.after history) := by
  -- The log grows at its end, as the history does.
  induction history using List.reverseRecOn with
  | nil => exact ⟨rfl, rfl⟩
  | append_singleton history operation ih =>
    rw [after_concat, accepted_concat, attempt, accepted]
    cases performed : (empty.after history).perform operation with
    | error cause =>
      rw [accepted, List.append_nil]
      exact ih
    | ok changed => exact ih.perform performed

/-- The guards that are attached are distinct. -/
theorem nodup_attachedTo (name : Text) (log : List Operation) :
    ((attachedTo name log).map Guard.key).Nodup := by
  rw [attachedTo]
  generalize (sinceDetached name log).filterMap (Operation.attached? name) = guards
  induction guards with
  | nil => exact List.nodup_nil
  | cons guard later ih =>
    rw [distinctGuards, List.map_cons, List.nodup_cons]
    refine ⟨?_, ih.sublist (List.filter_sublist.map _)⟩
    rw [List.mem_map]
    rintro ⟨other, inOthers, sameKey⟩
    have differs := (List.mem_filter.mp inOthers).2
    rw [Bool.not_eq_true', Bool.eq_false_iff, Ne, Guard.same_iff] at differs
    exact differs sameKey

theorem exists_attachedTo_of_mem_standing {log : List Operation} {property : Property}
    (stands : property ∈ standing log) :
    ∃ later, property.guards = attachedTo property.name later := by
  induction log using standing.induct with
  | case1 => cases stands
  | case2 name default immutable later removed ih =>
    rw [standing, if_pos removed] at stands
    exact ih stands
  | case3 name default immutable later notRemoved ih =>
    rw [standing, if_neg notRemoved] at stands
    rcases List.mem_cons.mp stands with rfl | inLater
    · exact ⟨later, rfl⟩
    · exact ih inLater
  | case4 first later other ih =>
    rw [standing.eq_3 first later other] at stands
    exact ih stands

theorem removeGuards_eq {property : Property} (inProperties : property ∈ registry.properties) :
    registry.removeGuards property.name =
      .ok (property.guards, registry.withGuards property.name []) := by
  rw [removeGuards, find?_eq_some inProperties]

/-- A registry shows exactly what its history left. Its properties are those that accepted
operations declared and none removed later, in the order of their declarations, with the default and
the mark that they were declared with; each has the guards that were attached to it since then or
since its guards were last detached, each guard once. Detaching hands out these guards and leaves
none. The properties alone decide which operations are accepted, and a refused one changes
nothing. -/
theorem history_told (history : List Operation) :
    Shows (accepted empty history) (empty.after history) ∧
    ((standing (accepted empty history)).map Property.name).Nodup ∧
    (empty.after history).size = (standing (accepted empty history)).length ∧
    (empty.after history).walk = (standing (accepted empty history)).map member ∧
    (∀ property ∈ standing (accepted empty history),
      (empty.after history).guards property.name = property.guards ∧
      (property.guards.map Guard.key).Nodup ∧
      ∃ detached, (empty.after history).removeGuards property.name =
          .ok (property.guards, detached) ∧
        detached = empty.after (history ++ [.removeGuards property.name]) ∧
        detached.guards property.name = []) ∧
    ∀ operation,
      (Succeeds ((empty.after history).perform operation) ↔
        Admits (standing (accepted empty history)) operation) ∧
      ∀ cause, (empty.after history).perform operation = .error cause →
        empty.after (history ++ [operation]) = empty.after history := by
  have shows := shows_accepted history
  rw [← shows.properties]
  refine ⟨shows, (empty.after history).names_nodup, rfl, rfl,
    fun property inProperties => ⟨?_, ?_, ?_⟩,
    fun operation => ⟨⟨?_, fun admitted => ?_⟩, fun cause refused => ?_⟩⟩
  · rw [guards, find?_eq_some inProperties]
  · rw [shows.properties] at inProperties
    obtain ⟨later, attached⟩ := exists_attachedTo_of_mem_standing inProperties
    rw [attached]
    exact nodup_attachedTo _ later
  · refine ⟨_, removeGuards_eq inProperties, ?_, ?_⟩
    · rw [after_concat, attempt, Registry.perform, removeGuards_eq inProperties]
      rfl
    · -- The property is still declared, with its guards replaced.
      have inDetached : { property with guards := [] } ∈
          ((empty.after history).withGuards property.name []).properties :=
        List.mem_map.mpr ⟨property, inProperties, if_pos rfl⟩
      rw [guards, find?_eq_some inDetached]
  · rintro ⟨changed, performed⟩
    exact admits_of_perform performed
  · obtain ⟨changed, performed, -⟩ := exists_makes_of_admits admitted
    exact ⟨changed, performed⟩
  · rw [after_concat, attempt_of_error refused]

/-- A property that is removed and declared again comes last and without its old guards. Two guards
with the same source are both attached, and a named check is attached once. -/
theorem history_told_sample :
    (empty.after [.addProperty ['a'] none true, .addGuard ['a'] (.named .string),
      .addProperty ['b'] none false, .addProperty ['a'] none false, .removeProperty ['a'],
      .addProperty ['a'] (some .null) false, .addGuard ['a'] (.named .uint8),
      .addGuard ['a'] (.custom 0 ['v'] Json.isNull), .addGuard ['a'] (.named .uint8),
      .addGuard ['a'] (.custom 1 ['v'] Json.isNull)]).properties =
      [⟨['b'], none, false, []⟩, ⟨['a'], some .null, false,
        [.named .uint8, .custom 0 ['v'] Json.isNull, .custom 1 ['v'] Json.isNull]⟩] :=
  (history_told _).1.properties

end Beanwright.Registry
