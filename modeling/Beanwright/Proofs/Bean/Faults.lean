import Mathlib.Data.List.Induction
import Beanwright.Proofs.Bean.Resolution
import Beanwright.Proofs.Registry.Collision
import Beanwright.Proofs.Registry.History

/-!
# What a bean resolves to, and why it does not

A bean is resolved entry by entry. An entry is at fault if its name or its backing field belongs to
an entry before it, or else if its check stands for no guard. If no entry is at fault, the registry
has one property for each entry, in order; otherwise the first entry at fault is reported.

## Main definitions

* `CheckSpec.StandsFor`, `CheckSpec.Refused` — which guard a check stands for, and which checks
  stand for none
* `BeanEntry.Describes` — what an entry says of its property
* `BeanEntry.Fault` — what is wrong with an entry that comes after others
* `Bean.Acceptable` — no entry is at fault

## Main results

* `BeanEntry.declare_of_free`, `BeanEntry.declare_of_fault` — how one entry is declared
* `Bean.acceptable_or_fault` — some entry is the first at fault, unless none is
* `Bean.resolve_exact` — what every bean resolves to
-/

namespace Beanwright

open Registry

/-! ## Checks -/

namespace CheckSpec

variable {check : CheckSpec} {field : Text} {guard : Guard} {cause : BeanError}

/-- A check stands for a guard: a token for the one guard of its type check, and a guard of the host
for itself. -/
inductive StandsFor : CheckSpec → Guard → Prop
  /-- The token of a type check. -/
  | token (check : TypeCheck) : StandsFor (.token check.token) (.named check)
  /-- A guard of the host. -/
  | guard (guard : Guard) : StandsFor (.guard guard) guard

/-- A check stands for no guard, and this is how it is shown. -/
inductive Refused : CheckSpec → Text → Prop
  /-- A word that is the token of no type check, in quotes. -/
  | token {word : Text} : (∀ check : TypeCheck, check.token ≠ word) →
      Refused (.token word) ('"' :: word ++ ['"'])
  /-- A value that no bean supports, in its compact form. -/
  | unsupported (value : Json) : Refused (.unsupported value) value.compact

theorem resolve_eq_ok_iff : check.resolve field = .ok guard ↔ check.StandsFor guard := by
  constructor
  · intro resolved
    cases check with
    | token word =>
      rw [resolve] at resolved
      split at resolved
      · next known found =>
        cases resolved
        obtain rfl : known.token = word := by simpa using List.find?_some found
        exact .token known
      · cases resolved
    | guard supplied =>
      cases resolved
      exact .guard _
    | unsupported value => cases resolved
  · rintro (known | supplied)
    · rw [resolve, TypeCheck.ofToken?_token]
    · rfl

theorem resolve_of_refused {found : Text} (refused : check.Refused found) :
    check.resolve field = .error (.unsupportedGuard field found) := by
  cases refused with
  | @token word unknown =>
    have absent : TypeCheck.ofToken? word = none := by
      rw [TypeCheck.ofToken?, List.find?_eq_none]
      intro known _ same
      exact unknown known (beq_iff_eq.mp same)
    rw [resolve, absent]
  | unsupported value => rfl

/-- Every check stands for a guard or is refused. -/
theorem standsFor_or_refused (check : CheckSpec) :
    (∃ guard, check.StandsFor guard) ∨ ∃ found, check.Refused found := by
  cases check with
  | token word =>
    by_cases known : ∃ check : TypeCheck, check.token = word
    · obtain ⟨check, rfl⟩ := known
      exact .inl ⟨_, .token check⟩
    · exact .inr ⟨_, .token fun check same => known ⟨check, same⟩⟩
  | guard supplied => exact .inl ⟨supplied, .guard supplied⟩
  | unsupported value => exact .inr ⟨_, .unsupported value⟩

theorem not_standsFor_of_refused {found : Text} (refused : check.Refused found) :
    ¬check.StandsFor guard := by
  intro stands
  cases stands with
  | token known =>
    cases refused with
    | token unknown => exact unknown known rfl
  | guard supplied => cases refused

end CheckSpec

/-! ## Entries -/

namespace BeanEntry

variable {registry : Registry} {before : List BeanEntry} {entry : BeanEntry} {guard : Guard}
  {cause : BeanError}

/-- The backing field that an entry derives, if it derives one. -/
def field? (entry : BeanEntry) : Option Text := fieldOf? entry.propertyName

/-- A name is that of a key: the key without one dollar sign at its start. -/
def IsNameOf (name key : Text) : Prop :=
  key = '$' :: name ∨ key = name ∧ ∀ rest, key ≠ '$' :: rest

/-- An entry says what a property is: its name is that of the key, it has the default of the entry,
it is immutable if the entry says so or the key begins with a dollar sign, and its only guard is the
one that the check stands for. -/
structure Describes (entry : BeanEntry) (property : Property) : Prop where
  /-- The name is that of the key. -/
  name : IsNameOf property.name entry.key
  /-- The default is that of the entry. -/
  default : property.default = entry.default
  /-- The entry or the dollar sign marks the property immutable. -/
  immutable : property.immutable = true ↔
    entry.immutable = true ∨ entry.key = '$' :: property.name
  /-- The only guard is the one that the check stands for. -/
  guard : ∃ guard, entry.check.StandsFor guard ∧ property.guards = [guard]

/-- What is wrong with an entry that comes after others. A name that is taken comes first, then a
backing field that is taken, then the check. -/
inductive Fault (before : List BeanEntry) (entry : BeanEntry) : BeanError → Prop
  /-- The name is taken. -/
  | name {name : Text} {other : BeanEntry} : IsNameOf name entry.key →
      other ∈ before → IsNameOf name other.key → Fault before entry (.duplicateProperty name)
  /-- The backing field is taken. -/
  | field {name earlier field : Text} {other : BeanEntry} : IsNameOf name entry.key →
      (∀ other ∈ before, ¬IsNameOf name other.key) →
        other ∈ before → IsNameOf earlier other.key → fieldOf? earlier = some field →
          fieldOf? name = some field → Fault before entry (.duplicateField name earlier field)
  /-- The check stands for no guard. -/
  | check {name found : Text} : IsNameOf name entry.key →
      (∀ other ∈ before, ¬IsNameOf name other.key) →
        (∀ other ∈ before, ∀ earlier field, IsNameOf earlier other.key →
          fieldOf? earlier = some field → fieldOf? name ≠ some field) →
          entry.check.Refused found → Fault before entry (.unsupportedGuard name found)

theorem isNameOf_iff {name : Text} : IsNameOf name entry.key ↔ name = entry.propertyName := by
  rw [IsNameOf, propertyName]
  cases entry.key with
  | nil => simp
  | cons first rest =>
    by_cases marked : first = '$'
    · simp [marked, immutableMark, eq_comm]
    · simp [marked, immutableMark, eq_comm]

theorem isNameOf_propertyName (entry : BeanEntry) : IsNameOf entry.propertyName entry.key :=
  isNameOf_iff.mpr rfl

theorem isMarked_iff : entry.isMarked = true ↔ entry.key = '$' :: entry.propertyName := by
  rw [isMarked, propertyName, beq_iff_eq]
  cases entry.key with
  | nil => simp
  | cons first rest => by_cases marked : first = '$' <;> simp [marked, immutableMark]

/-- No entry has a name exactly if the name is none of those of the entries. -/
theorem nameFree_iff {name : Text} : (∀ other ∈ before, ¬IsNameOf name other.key) ↔
    name ∉ before.map propertyName := by
  simp [isNameOf_iff, eq_comm]

/-- No entry derives the backing field of a name exactly if it is none of those of the entries. -/
theorem fieldFree_iff {name : Text} :
    (∀ other ∈ before, ∀ earlier field, IsNameOf earlier other.key →
      fieldOf? earlier = some field → fieldOf? name ≠ some field) ↔
        ∀ field, fieldOf? name = some field → field ∉ before.filterMap field? := by
  simp only [isNameOf_iff, List.mem_filterMap, field?]
  constructor
  · rintro free field derives ⟨other, member, owns⟩
    exact free other member _ field rfl owns derives
  · rintro free other member _ field rfl owns derives
    exact free field derives ⟨other, member, owns⟩

/-- The property that an entry declares, with a guard. -/
def property (entry : BeanEntry) (guard : Guard) : Property :=
  ⟨entry.propertyName, entry.default, entry.immutable || entry.isMarked, [guard]⟩

theorem describes_property (stands : entry.check.StandsFor guard) :
    entry.Describes (entry.property guard) where
  name := isNameOf_propertyName entry
  default := rfl
  immutable := Bool.or_eq_true_iff.trans (or_congr_right isMarked_iff)
  guard := ⟨guard, stands, rfl⟩

/-! ## Declaring an entry -/

theorem map_name_of_describes {entries : List BeanEntry} {properties : List Property}
    (described : List.Forall₂ Describes entries properties) :
    properties.map Property.name = entries.map propertyName := by
  induction described with
  | nil => rfl
  | cons first _ ih => rw [List.map_cons, List.map_cons, isNameOf_iff.mp first.name, ih]

theorem fields_of_describes (described : List.Forall₂ Describes before registry.properties) :
    registry.fields = before.filterMap field? := by
  have names := map_name_of_describes described
  have derived := congrArg (List.filterMap fieldOf?) names
  rw [List.filterMap_map, List.filterMap_map] at derived
  exact derived

/-- An entry with a free name is declared if its check stands for a guard. -/
theorem declare_of_free (free : registry.Free entry.propertyName) :
    entry.declare registry = (entry.check.resolve entry.propertyName).map fun guard =>
      registry.append (entry.property guard) free := by
  rw [declare, addProperty_of_free free]
  cases resolved : entry.check.resolve entry.propertyName with
  | error cause => rfl
  | ok guard =>
    let declared : Property :=
      ⟨entry.propertyName, entry.default, entry.immutable || entry.isMarked, []⟩
    have found : (registry.append declared free).find? declared.name = some declared :=
      Registry.find?_eq_some (List.mem_append_right _ List.mem_cons_self)
    -- The property was declared last, and no other has its name.
    have others : registry.properties.map (replaceGuards entry.propertyName [guard]) =
        registry.properties := by
      refine (List.map_congr_left fun other inProperties => ?_).trans (List.map_id _)
      rw [replaceGuards, if_neg, id]
      exact fun same => free.nameFree (List.mem_map.mpr ⟨other, inProperties, same⟩)
    change Registry.addGuard declared.name guard _ = _
    rw [Registry.addGuard, found]
    refine congrArg Except.ok (Registry.ext rfl ?_)
    change (registry.properties ++ [declared]).map (replaceGuards entry.propertyName [guard]) = _
    rw [List.map_append, others, List.map_singleton, replaceGuards, if_pos rfl]
    rfl

/-- An entry with a free name is refused for the only property that has its backing field. -/
theorem declare_of_owned {property : Property} {field : Text}
    (nameFree : entry.propertyName ∉ registry.properties.map Property.name)
    (inProperties : property ∈ registry.properties) (owns : fieldOf? property.name = some field)
    (derives : entry.field? = some field) : entry.declare registry =
      .error (.duplicateField entry.propertyName property.name field) := by
  have absent : registry.has entry.propertyName = false := by
    rwa [← has_eq_true_iff, Bool.not_eq_true] at nameFree
  rw [declare, addProperty_of_conflict (conflict?_of_owned absent inProperties owns derives)]
  rfl

/-- An entry at fault is refused for it. -/
theorem declare_of_fault
    (described : List.Forall₂ Describes before registry.properties)
    (fault : Fault before entry cause) : entry.declare registry = .error cause := by
  have names := map_name_of_describes described
  have fields := fields_of_describes described
  cases fault with
  | @name _ other named inBefore taken =>
    obtain rfl := isNameOf_iff.mp named
    have present : registry.has entry.propertyName = true := by
      rw [has_eq_true_iff, names, isNameOf_iff.mp taken]
      exact List.mem_map_of_mem inBefore
    have taken : registry.conflict? entry.propertyName =
        some (.duplicateProperty entry.propertyName) := by
      rw [conflict?, present, if_pos rfl]
    rw [declare, addProperty_of_conflict taken]
    rfl
  | @field _ _ field other named nameFree inBefore earlier owns derives =>
    obtain rfl := isNameOf_iff.mp named
    obtain rfl := isNameOf_iff.mp earlier
    rw [nameFree_iff, ← names] at nameFree
    have otherName : other.propertyName ∈ registry.properties.map Property.name := by
      rw [names]
      exact List.mem_map_of_mem inBefore
    obtain ⟨property, inProperties, sameName⟩ := List.mem_map.mp otherName
    rw [← sameName] at owns
    rw [declare_of_owned nameFree inProperties owns derives, sameName]
  | @check _ found named nameFree fieldFree refused =>
    obtain rfl := isNameOf_iff.mp named
    rw [nameFree_iff, ← names] at nameFree
    rw [fieldFree_iff, ← fields] at fieldFree
    rw [declare_of_free ⟨nameFree, fieldFree⟩, CheckSpec.resolve_of_refused refused]
    rfl

end BeanEntry

/-! ## Beans -/

namespace Bean

open BeanEntry

variable {before after entries : List BeanEntry} {entry : BeanEntry} {cause : BeanError}
  {registry named : Registry} {bean : Bean}

/-- No entry is at fault: names and backing fields are distinct, and every check stands for a
guard. -/
structure Acceptable (entries : List BeanEntry) : Prop where
  /-- No two entries have the same property name. -/
  names : entries.Pairwise fun first second =>
    ∀ name, IsNameOf name first.key → ¬IsNameOf name second.key
  /-- No two entries derive the same backing field. -/
  fields : entries.Pairwise fun first second => ∀ name other field,
    IsNameOf name first.key → IsNameOf other second.key → fieldOf? name = some field →
      fieldOf? other ≠ some field
  /-- Every check stands for a guard. -/
  checks : ∀ entry ∈ entries, ∃ guard, entry.check.StandsFor guard

theorem Acceptable.nil : Acceptable [] :=
  ⟨.nil, .nil, List.forall_mem_nil _⟩

/-- An entry after acceptable ones is free to be declared, exactly if all of them are acceptable
together. -/
theorem acceptable_concat_iff : Acceptable (before ++ [entry]) ↔ Acceptable before ∧
    entry.propertyName ∉ before.map propertyName ∧
      (∀ field, entry.field? = some field → field ∉ before.filterMap field?) ∧
        ∃ guard, entry.check.StandsFor guard := by
  have names : (∀ other ∈ before, ∀ name, IsNameOf name other.key → ¬IsNameOf name entry.key) ↔
      entry.propertyName ∉ before.map propertyName := by
    rw [← nameFree_iff]
    constructor
    · exact fun free other member named => free other member _ named (isNameOf_propertyName entry)
    · rintro free other member name named same
      rw [isNameOf_iff.mp same] at named
      exact free other member named
  have fields : (∀ other ∈ before, ∀ name last field, IsNameOf name other.key →
      IsNameOf last entry.key → fieldOf? name = some field → fieldOf? last ≠ some field) ↔
        ∀ field, entry.field? = some field → field ∉ before.filterMap field? := by
    refine Iff.trans ?_ fieldFree_iff
    constructor
    · exact fun free other member name field named owns =>
        free other member name _ field named (isNameOf_propertyName entry) owns
    · rintro free other member name last field named same owns
      rw [isNameOf_iff.mp same]
      exact free other member name field named owns
  constructor
  · rintro ⟨allNames, allFields, allChecks⟩
    rw [List.pairwise_append] at allNames allFields
    rw [List.forall_mem_append, List.forall_mem_singleton] at allChecks
    exact ⟨⟨allNames.1, allFields.1, allChecks.1⟩,
      names.mp fun other member => allNames.2.2 other member _ List.mem_cons_self,
      fields.mp fun other member => allFields.2.2 other member _ List.mem_cons_self, allChecks.2⟩
  · rintro ⟨⟨beforeNames, beforeFields, beforeChecks⟩, nameFree, fieldFree, check⟩
    refine ⟨?_, ?_, ?_⟩
    · rw [List.pairwise_append]
      refine ⟨beforeNames, List.pairwise_singleton .., fun other member last isLast => ?_⟩
      rw [List.mem_singleton.mp isLast]
      exact names.mpr nameFree other member
    · rw [List.pairwise_append]
      refine ⟨beforeFields, List.pairwise_singleton .., fun other member last isLast => ?_⟩
      rw [List.mem_singleton.mp isLast]
      exact fields.mpr fieldFree other member
    · rw [List.forall_mem_append, List.forall_mem_singleton]
      exact ⟨beforeChecks, check⟩

theorem not_acceptable_of_fault (fault : Fault before entry cause) :
    ¬Acceptable (before ++ [entry]) := by
  rw [acceptable_concat_iff]
  rintro ⟨-, nameFree, fieldFree, guard, stands⟩
  rw [← nameFree_iff] at nameFree
  cases fault with
  | name named inBefore taken =>
    rw [isNameOf_iff.mp named] at taken
    exact nameFree _ inBefore taken
  | field named _ inBefore earlier owns derives =>
    rw [isNameOf_iff.mp named] at derives
    exact fieldFree_iff.mpr fieldFree _ inBefore _ _ earlier owns derives
  | check _ _ _ refused => exact CheckSpec.not_standsFor_of_refused refused stands

/-- Entries are acceptable, or one of them is the first at fault. -/
theorem acceptable_or_fault (entries : List BeanEntry) : Acceptable entries ∨
    ∃ before entry after cause, entries = before ++ entry :: after ∧ Acceptable before ∧
      Fault before entry cause := by
  induction entries using List.reverseRecOn with
  | nil => exact .inl .nil
  | append_singleton entries entry ih =>
    obtain acceptable | ⟨before, first, after, cause, rfl, acceptable, fault⟩ := ih
    · have named := isNameOf_propertyName entry
      by_cases taken : entry.propertyName ∈ entries.map propertyName
      · obtain ⟨other, inEntries, same⟩ := List.mem_map.mp taken
        exact .inr ⟨entries, entry, [], _, rfl, acceptable,
          .name named inEntries (isNameOf_iff.mpr same.symm)⟩
      · by_cases fieldFree : ∀ field, entry.field? = some field → field ∉ entries.filterMap field?
        · obtain ⟨guard, stands⟩ | ⟨found, refused⟩ := entry.check.standsFor_or_refused
          · exact .inl (acceptable_concat_iff.mpr ⟨acceptable, taken, fieldFree, guard, stands⟩)
          · exact .inr ⟨entries, entry, [], _, rfl, acceptable,
              .check named (nameFree_iff.mpr taken) (fieldFree_iff.mpr fieldFree) refused⟩
        · simp only [not_forall, not_not] at fieldFree
          obtain ⟨field, derives, inFields⟩ := fieldFree
          obtain ⟨other, inEntries, owns⟩ := List.mem_filterMap.mp inFields
          exact .inr ⟨entries, entry, [], _, rfl, acceptable, .field named (nameFree_iff.mpr taken)
            inEntries (isNameOf_propertyName other) owns derives⟩
    · exact .inr ⟨before, first, after ++ [entry], cause, by simp, acceptable, fault⟩

theorem Acceptable.of_append (acceptable : Acceptable (before ++ after)) : Acceptable before where
  names := acceptable.names.sublist (List.sublist_append_left before after)
  fields := acceptable.fields.sublist (List.sublist_append_left before after)
  checks := fun entry inBefore => acceptable.checks entry (List.mem_append_left after inBefore)

/-- Acceptable entries are declared one after the other. -/
theorem exists_registry_of_acceptable (reachable : named.Reachable) (fresh : named.properties = [])
    (acceptable : Acceptable entries) :
    ∃ registry, entries.foldlM (fun registry entry => entry.declare registry) named =
        .ok registry ∧
      registry.Reachable ∧ registry.className = named.className ∧
        List.Forall₂ Describes entries registry.properties := by
  induction entries using List.reverseRecOn with
  | nil => exact ⟨named, rfl, reachable, rfl, by rw [fresh]; exact .nil⟩
  | append_singleton entries entry ih =>
    obtain ⟨others, nameFree, fieldFree, guard, stands⟩ := acceptable_concat_iff.mp acceptable
    obtain ⟨registry, declared, reachable, sameName, described⟩ := ih others
    rw [← map_name_of_describes described] at nameFree
    rw [← fields_of_describes described] at fieldFree
    have last := declare_of_free ⟨nameFree, fieldFree⟩
    rw [CheckSpec.resolve_eq_ok_iff.mpr stands] at last
    refine ⟨_, ?_, reachable_of_declare reachable last, sameName, ?_⟩
    · rw [List.foldlM_append, declared]
      change (entry.declare registry >>= pure) = _
      rw [last]
      rfl
    · exact List.rel_append described (.cons (describes_property stands) .nil)

/-- Entries are refused for the first one at fault. -/
theorem foldlM_of_fault (reachable : named.Reachable) (fresh : named.properties = [])
    (acceptable : Acceptable before) (fault : Fault before entry cause) :
    (before ++ entry :: after).foldlM (fun registry entry => entry.declare registry) named =
      .error cause := by
  obtain ⟨registry, declared, reachable, -, described⟩ :=
    exists_registry_of_acceptable reachable fresh acceptable
  rw [List.foldlM_append, declared]
  change (entry.declare registry >>= _) = _
  rw [declare_of_fault described fault]
  rfl

/-! ## Resolving -/

/-- The registry of a class name and no properties. -/
def start (bean : Bean) : Registry :=
  withoutProperties (some (Text.pascalCased classNameDelimiter bean.name))

theorem resolve_of_name (accepted : isClassName bean.name = true) :
    bean.resolve =
      bean.entries.foldlM (fun registry entry => entry.declare registry) bean.start := by
  rw [resolve, setName, if_pos accepted]
  rfl

theorem reachable_start (accepted : isClassName bean.name = true) : bean.start.Reachable := by
  have named : Registry.empty.perform (.setName bean.name) = .ok bean.start := by
    rw [Registry.perform, setName, if_pos accepted]
    rfl
  exact Reachable.empty.perform named

theorem resolve_of_acceptable (accepted : isClassName bean.name = true)
    (acceptable : Acceptable bean.entries) : ∃ registry, bean.resolve = .ok registry ∧
      registry.className = some (Text.pascalCased classNameDelimiter bean.name) ∧
        List.Forall₂ Describes bean.entries registry.properties := by
  obtain ⟨registry, declared, -, sameName, described⟩ :=
    exists_registry_of_acceptable (reachable_start accepted) rfl acceptable
  exact ⟨registry, by rw [resolve_of_name accepted, declared], sameName, described⟩

theorem resolve_of_fault (accepted : isClassName bean.name = true)
    (entries : bean.entries = before ++ entry :: after) (acceptable : Acceptable before)
    (fault : Fault before entry cause) : bean.resolve = .error cause := by
  rw [resolve_of_name accepted, entries]
  exact foldlM_of_fault (reachable_start accepted) rfl acceptable fault

theorem resolve_of_invalid_name (refused : isClassName bean.name = false) :
    bean.resolve = .error (.invalidClassName bean.name) := by
  rw [resolve, setName, refused]
  rfl

/-- Every bean resolves exactly. It does if its name is a class name and no entry is at fault, and
then to the class of that name with the properties that the entries describe, in order. Otherwise
the error is that of the name, or else that of the first entry at fault: its name or its backing
field belongs to an entry before it, or else its check stands for no guard. -/
theorem resolve_exact (bean : Bean) :
    (Succeeds bean.resolve ↔ isClassName bean.name = true ∧ Acceptable bean.entries) ∧
    (∀ registry, bean.resolve = .ok registry →
      registry.className = some (Text.pascalCased classNameDelimiter bean.name) ∧
        List.Forall₂ Describes bean.entries registry.properties) ∧
    ∀ cause, bean.resolve = .error cause ↔
      (isClassName bean.name = false ∧ cause = .invalidClassName bean.name) ∨
      (isClassName bean.name = true ∧ ∃ before entry after,
        bean.entries = before ++ entry :: after ∧ Acceptable before ∧
          Fault before entry cause) := by
  cases accepted : isClassName bean.name with
  | false =>
    rw [resolve_of_invalid_name accepted]
    refine ⟨⟨?_, ?_⟩, ?_, fun cause => ⟨?_, ?_⟩⟩
    · rintro ⟨registry, ⟨⟩⟩
    · rintro ⟨⟨⟩, -⟩
    · rintro registry ⟨⟩
    · rintro ⟨⟩
      exact .inl ⟨rfl, rfl⟩
    · rintro (⟨-, rfl⟩ | ⟨⟨⟩, -⟩)
      rfl
  | true =>
    -- A first entry at fault rules out that all entries are acceptable, and the other way round.
    have apart {before after : List BeanEntry} {entry : BeanEntry} {cause : BeanError}
        (entries : bean.entries = before ++ entry :: after) (fault : Fault before entry cause) :
        ¬Acceptable bean.entries := by
      rw [entries, List.append_cons]
      exact fun acceptable => not_acceptable_of_fault fault acceptable.of_append
    obtain acceptable | ⟨before, entry, after, cause, entries, acceptable, fault⟩ :=
      acceptable_or_fault bean.entries
    · obtain ⟨registry, resolved, className, described⟩ := resolve_of_acceptable accepted acceptable
      rw [resolved]
      refine ⟨⟨fun _ => ⟨rfl, acceptable⟩, fun _ => ⟨registry, rfl⟩⟩, ?_, fun cause => ⟨?_, ?_⟩⟩
      · rintro _ ⟨⟩
        exact ⟨className, described⟩
      · rintro ⟨⟩
      · rintro (⟨⟨⟩, -⟩ | ⟨-, before, entry, after, entries, -, fault⟩)
        exact absurd acceptable (apart entries fault)
    · rw [resolve_of_fault accepted entries acceptable fault]
      refine ⟨⟨?_, fun all => absurd all.2 (apart entries fault)⟩, ?_, fun other => ⟨?_, ?_⟩⟩
      · rintro ⟨registry, ⟨⟩⟩
      · rintro registry ⟨⟩
      · rintro ⟨⟩
        exact .inr ⟨rfl, before, entry, after, entries, acceptable, fault⟩
      · rintro (⟨⟨⟩, -⟩ | ⟨-, before', entry', after', entries', acceptable', fault'⟩)
        rw [← resolve_of_fault accepted entries acceptable fault,
          resolve_of_fault accepted entries' acceptable' fault']

/-- A key with a dollar sign makes an immutable property of the name after it. The same name without
the sign is taken then, and that comes before an unknown check. -/
theorem resolve_exact_sample :
    (∃ registry, (Bean.mk ['p'] [⟨['$', 'a'], .token "uint8".toList, none, false⟩]).resolve =
        .ok registry ∧
      registry.className = some ['P'] ∧
      ∃ property, registry.properties = [property] ∧ property.name = ['a'] ∧
        property.immutable = true ∧ property.guards = [.named .uint8]) ∧
    (Bean.mk ['p'] [⟨['$', 'a'], .token "uint8".toList, none, false⟩,
      ⟨['a'], .token "text".toList, none, false⟩]).resolve = .error (.duplicateProperty ['a']) := by
  have alone : Acceptable [⟨['$', 'a'], .token "uint8".toList, none, false⟩] :=
    ⟨List.pairwise_singleton .., List.pairwise_singleton ..,
      List.forall_mem_singleton.mpr ⟨_, .token .uint8⟩⟩
  constructor
  · obtain ⟨registry, resolved⟩ := (resolve_exact (Bean.mk ['p'] [⟨['$', 'a'],
      .token "uint8".toList, none, false⟩])).1.mpr ⟨rfl, alone⟩
    obtain ⟨className, described⟩ := (resolve_exact _).2.1 registry resolved
    obtain ⟨property, rest, describes, none, properties⟩ := List.forall₂_cons_left_iff.mp described
    obtain rfl := List.forall₂_nil_left_iff.mp none
    have name : property.name = ['a'] := by
      rcases describes.name with marked | ⟨-, unmarked⟩
      · exact (List.cons.inj marked).2.symm
      · exact absurd rfl (unmarked _)
    obtain ⟨guard, stands, guards⟩ := describes.guard
    have token : CheckSpec.resolve [] (.token "uint8".toList) = .ok guard :=
      CheckSpec.resolve_eq_ok_iff.mpr stands
    rw [← Except.ok.inj token] at guards
    exact ⟨registry, resolved, className, property, properties, name,
      describes.immutable.mpr (.inr (by rw [name])), guards⟩
  · exact ((resolve_exact _).2.2 _).mpr (.inr ⟨rfl,
      [⟨['$', 'a'], .token "uint8".toList, none, false⟩],
      ⟨['a'], .token "text".toList, none, false⟩, [], rfl, alone,
      .name (.inr ⟨rfl, fun rest same => by cases same⟩) List.mem_cons_self (.inl rfl)⟩)

end Bean

end Beanwright
