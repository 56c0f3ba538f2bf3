import Beanwright.Proofs.Bean.Faults

/-!
# Entries that are neither tokens nor records

The value of an entry should be a string, which is a token, or an object, which is a record. Any
other value is bare. Nearly every bare value makes an entry whose check stands for no guard, so that
its bean never resolves. The exception is an array of two or three items whose second item is the
token of a type check: an array of at most three items is read like the record that has its items as
fields, in the order of default, check and mark.
-/

namespace Beanwright

open Registry

variable {name key : Text} {value : Json} {guard : Guard} {items : List Json}
  {fields : List (Text × Json)}

/-- The value is neither a string nor an object. -/
def Json.IsBare (value : Json) : Prop := value.isString = false ∧ value.isObject = false

/-! ## Bare values as entries -/

namespace BeanEntry

/-- An array of two or three items, of which the second is the token of a type check. -/
inductive Positional (check : TypeCheck) : Json → Prop
  /-- The default, the token, and perhaps the mark of immutability. -/
  | array (default : Json) {marks : List Json} : marks.length ≤ 1 →
      Positional check (.array (default :: .string check.token :: marks))

/-- The keys of a record in the order in which an array gives their values. -/
def recordKeys : List Text :=
  [BeanRecord.defaultKey, BeanRecord.checkKey, BeanRecord.immutableKey]

theorem key_ofJson (key : Text) (value : Json) : (ofJson key value).key = key := by
  rw [ofJson.eq_def]
  dsimp only
  split <;> rfl

/-- A short array makes the entry of the record with the same items. -/
theorem ofJson_array (short : items.length ≤ 3) (key : Text) :
    ofJson key (.array items) = ofJson key (.object (recordKeys.zip items)) := by
  match items, short with
  | [], _ => rfl
  | [default], _ => rfl
  | [default, check], _ => rfl
  | [default, check, immutable], _ => rfl

/-- The check of an array with a second item, if there are not too many. -/
theorem check_ofJson_array {default : Json} {token : Text} {marks : List Json}
    (few : marks.length ≤ 1) (key : Text) :
    (ofJson key (.array (default :: .string token :: marks))).check = .token token := by
  match marks, few with
  | [], _ => rfl
  | [immutable], _ => rfl

/-- The check of a bare value is unsupported, unless the value is an array that gives a token. -/
theorem check_of_bare (bare : value.IsBare) (key : Text) :
    (∃ shown, (ofJson key value).check = .unsupported shown) ∨
      ∃ default token marks, value = .array (default :: .string token :: marks) ∧
        marks.length ≤ 1 := by
  cases value with
  | null => exact .inl ⟨_, rfl⟩
  | bool value => exact .inl ⟨_, rfl⟩
  | integer value => exact .inl ⟨_, rfl⟩
  | double value => exact .inl ⟨_, rfl⟩
  | string token => exact absurd bare.1 Bool.noConfusion
  | object fields => exact absurd bare.2 Bool.noConfusion
  | array items =>
    match items with
    | [] => exact .inl ⟨_, rfl⟩
    | [default] => exact .inl ⟨_, rfl⟩
    | default :: check :: first :: second :: rest => exact .inl ⟨_, rfl⟩
    | [default, check] =>
      cases check with
      | string token => exact .inr ⟨default, token, [], rfl, Nat.zero_le 1⟩
      | _ => exact .inl ⟨_, rfl⟩
    | [default, check, immutable] =>
      cases check with
      | string token => exact .inr ⟨default, token, [immutable], rfl, Nat.le_refl 1⟩
      | _ => exact .inl ⟨_, rfl⟩

/-- A bare value stands for a guard only as an array that gives the token of its type check. -/
theorem standsFor_iff_positional (bare : value.IsBare) :
    (ofJson key value).check.StandsFor guard ↔
      ∃ check, Positional check value ∧ guard = .named check := by
  constructor
  · intro stands
    obtain ⟨shown, unsupported⟩ | ⟨default, token, marks, rfl, few⟩ := check_of_bare bare key
    · rw [unsupported] at stands
      cases stands
    · rw [check_ofJson_array few] at stands
      cases stands with
      | token check => exact ⟨check, .array default few, rfl⟩
  · rintro ⟨check, ⟨default, few⟩, rfl⟩
    rw [check_ofJson_array few]
    exact .token check

end BeanEntry

/-! ## Beans with bare values -/

namespace Bean

open BeanEntry

variable {bean : Bean} {entry other : BeanEntry} {entries before after : List BeanEntry}
  {found : Text}

theorem mem_putEntry_self (entry : BeanEntry) (entries : List BeanEntry) :
    entry ∈ putEntry entry entries := by
  induction entries with
  | nil => exact List.mem_singleton_self _
  | cons first rest ih =>
    rw [putEntry]
    split
    · exact List.mem_cons_self
    · exact List.mem_cons_of_mem _ ih

theorem mem_putEntry_of_ne (differs : other.key ≠ entry.key) (member : other ∈ entries) :
    other ∈ putEntry entry entries := by
  induction entries with
  | nil => cases member
  | cons first rest ih =>
    rw [putEntry]
    rcases List.mem_cons.mp member with rfl | inRest
    · rw [if_neg differs]
      exact List.mem_cons_self
    · split
      · exact List.mem_cons_of_mem _ inRest
      · exact List.mem_cons_of_mem _ (ih inRest)

theorem ofFields_concat (name : Text) (fields : List (Text × Json)) (field : Text × Json) :
    ofFields name (fields ++ [field]) = (ofFields name fields).put (ofJson field.1 field.2) := by
  rw [ofFields, ofEntries, List.map_append, List.foldl_append]
  rfl

theorem name_ofFields (name : Text) (fields : List (Text × Json)) :
    (ofFields name fields).name = name := by
  induction fields using List.reverseRecOn with
  | nil => rfl
  | append_singleton earlier field ih => rw [ofFields_concat, put, ih]

/-- The last value of every key makes an entry. -/
theorem ofJson_mem_ofFields (last : fields.reverse.lookup key = some value) (name : Text) :
    ofJson key value ∈ (ofFields name fields).entries := by
  induction fields using List.reverseRecOn with
  | nil => cases last
  | append_singleton earlier field ih =>
    rw [List.reverse_concat, List.lookup_cons] at last
    rw [ofFields_concat, put]
    split at last
    · next same =>
      obtain rfl : key = field.1 := beq_iff_eq.mp same
      cases last
      exact mem_putEntry_self _ _
    · next differs =>
      refine mem_putEntry_of_ne ?_ (ih last)
      rw [key_ofJson, key_ofJson]
      exact beq_eq_false_iff_ne.mp differs

/-- An error is that of the first entry at fault. -/
def FirstFault (entries : List BeanEntry) (cause : BeanError) : Prop :=
  ∃ before entry after, entries = before ++ entry :: after ∧ Acceptable before ∧
    Fault before entry cause

theorem resolve_of_firstFault (accepted : isClassName bean.name = true)
    (entries : bean.entries = before ++ after) {cause : BeanError}
    (first : FirstFault before cause) : bean.resolve = .error cause := by
  obtain ⟨earlier, entry, later, rfl, acceptable, fault⟩ := first
  rw [List.append_assoc, List.cons_append] at entries
  exact resolve_of_fault accepted entries acceptable fault

/-- A bean with a refused check does not resolve. Its error is that of the first fault, which is
this check unless an entry before it is at fault or has its name or its backing field. -/
theorem resolve_of_refused (accepted : isClassName bean.name = true)
    (entries : bean.entries = before ++ entry :: after) (refused : entry.check.Refused found) :
    ∃ cause, bean.resolve = .error cause ∧ FirstFault (before ++ [entry]) cause ∧
      (Acceptable before → entry.propertyName ∉ before.map propertyName →
        (∀ field, entry.field? = some field → field ∉ before.filterMap field?) →
          cause = .unsupportedGuard entry.propertyName found) := by
  rw [List.append_cons] at entries
  obtain acceptable | ⟨earlier, first, later, cause, divided, acceptable, fault⟩ :=
    acceptable_or_fault (before ++ [entry])
  · obtain ⟨-, -, -, guard, stands⟩ := acceptable_concat_iff.mp acceptable
    exact absurd stands (CheckSpec.not_standsFor_of_refused refused)
  -- Resolving has one result, so the first fault is this check if nothing comes before it.
  · have earliest : FirstFault (before ++ [entry]) cause :=
      ⟨earlier, first, later, divided, acceptable, fault⟩
    have resolved := resolve_of_firstFault accepted entries earliest
    refine ⟨cause, resolved, earliest, fun acceptableBefore nameFree fieldFree => ?_⟩
    have here : FirstFault (before ++ [entry]) (.unsupportedGuard entry.propertyName found) :=
      ⟨before, entry, [], rfl, acceptableBefore, .check (isNameOf_propertyName entry)
        (nameFree_iff.mpr nameFree) (fieldFree_iff.mpr fieldFree) refused⟩
    rw [resolve_of_firstFault accepted entries here] at resolved
    exact (Except.error.inj resolved).symm

/-- Bare values are refused, with one exception. In a document with a valid class name let the last
value of a key be bare. If it is an array of two or three items whose second item is the token of a
type check, it makes the entry of the record with the same items, and its check stands for the guard
of that type check. Otherwise its check stands for no guard and the bean does not resolve: the error
is that of the first fault, which is this check unless an entry before it is at fault or has its
name or its backing field. -/
theorem bare_values_refused (source : Source) (accepted : isClassName name = true)
    (read : Json.readFields source.text = .ok fields)
    (last : fields.reverse.lookup key = some value) (bare : value.IsBare) :
    ∃ bean, ofJsonText name source = .ok bean ∧ ofJson key value ∈ bean.entries ∧
      ((∃ check items, Positional check value ∧ value = .array items ∧
          ofJson key value = ofJson key (.object (recordKeys.zip items)) ∧
          (ofJson key value).check.StandsFor (.named check)) ∨
        ((∀ check, ¬Positional check value) ∧ ∃ found, (ofJson key value).check.Refused found ∧
          ∀ before after, bean.entries = before ++ ofJson key value :: after →
            ∃ cause, bean.resolve = .error cause ∧
              FirstFault (before ++ [ofJson key value]) cause ∧
              (Acceptable before →
                (ofJson key value).propertyName ∉ before.map propertyName →
                (∀ field, (ofJson key value).field? = some field →
                  field ∉ before.filterMap field?) →
                cause = .unsupportedGuard (ofJson key value).propertyName found))) := by
  refine ⟨ofFields name fields, by rw [ofJsonText, read], ofJson_mem_ofFields last name, ?_⟩
  obtain ⟨guard, stands⟩ | ⟨found, refused⟩ := (ofJson key value).check.standsFor_or_refused
  · obtain ⟨check, positional, rfl⟩ := (standsFor_iff_positional bare).mp stands
    obtain ⟨default, few⟩ := positional
    have short : (default :: .string check.token :: _).length ≤ 3 := Nat.add_le_add_right few 2
    exact .inl ⟨check, _, .array default few, rfl, ofJson_array short key, stands⟩
  · rw [← name_ofFields name fields] at accepted
    refine .inr ⟨fun check positional => ?_, found, refused, fun before after entries =>
      resolve_of_refused accepted entries refused⟩
    exact CheckSpec.not_standsFor_of_refused refused
      ((standsFor_iff_positional bare).mpr ⟨check, positional, rfl⟩)

/-- A number is refused. -/
theorem bare_values_refused_number :
    Json.readFields "\x7b\"age\": 42\x7d".toList = .ok [("age".toList, .integer 42)] ∧
      (ofFields ['a'] [("age".toList, .integer 42)]).resolve =
        .error (.unsupportedGuard "age".toList "42".toList) := by
  have accepted : isClassName ['a'] = true := rfl
  have read : Json.readFields "\x7b\"age\": 42\x7d".toList =
      .ok [("age".toList, .integer 42)] := rfl
  have last : [("age".toList, Json.integer 42)].reverse.lookup "age".toList =
      some (.integer 42) := rfl
  obtain ⟨bean, made, -, ⟨check, items, -, impossible, -⟩ | ⟨-, found, refused, resolved⟩⟩ :=
    bare_values_refused ⟨"\x7b\"age\": 42\x7d".toList, []⟩ accepted read last ⟨rfl, rfl⟩
  · cases impossible
  · rw [ofJsonText, read] at made
    cases made
    cases refused
    obtain ⟨cause, failed, -, here⟩ := resolved [] [] rfl
    rw [here .nil List.not_mem_nil fun _ _ => List.not_mem_nil] at failed
    exact ⟨read, failed⟩

/-- An array with a default and a token is accepted. -/
theorem bare_value_accepted : ∃ fields items bean,
    Registry.isClassName ['a'] = true ∧
    Json.readFields "\x7b\"age\": [null, \"uint8\"]\x7d".toList = .ok fields ∧
      fields.reverse.lookup "age".toList = some (.array items) ∧ (Json.array items).IsBare ∧
      ofJsonText ['a'] ⟨"\x7b\"age\": [null, \"uint8\"]\x7d".toList, "a.json".toList⟩ = .ok bean ∧
      Succeeds bean.resolve :=
  ⟨[("age".toList, .array [.null, .string "uint8".toList])], [.null, .string "uint8".toList],
    ⟨['a'], [⟨"age".toList, .token "uint8".toList, none, false⟩]⟩, rfl, rfl, rfl, ⟨rfl, rfl⟩, rfl,
    ⟨_, rfl⟩⟩

end Bean

end Beanwright
