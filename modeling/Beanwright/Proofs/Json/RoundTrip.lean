import Beanwright.Proofs.Json.Scalar

/-!
# The compact text of a value reads back

The reader walks over the compact text of a value and ends exactly behind it, so a value in the
middle of an array or object leaves the right rest for what follows. It opens an array or object for
each level of nesting and has a fixed number of them to open: a value that is nested deeper is
refused for that, at its first part that goes too deep.

Doubles are left out, since their texts are rounded.

## Main definitions

* `Json.isExact` — a value without doubles, as the reader makes it
* `Json.Reads` — what reading a value comes to with a number of levels left

## Main results

* `Json.reads_readValue` — values inside a text
* `Json.read_compact`, `Json.read_compact_of_deep` — whole texts
-/

namespace Beanwright.Json

variable {value : Json} {items : List Json} {fields : List (Text × Json)} {rest : Text}

/-! ## Exact values -/

mutual

/-- Whether a value has no doubles, only integers that have a form of 64 bits, signed or unsigned,
and no object with a repeated key. -/
def isExact : Json → Bool
  | integer value => decide (-(twoTo 63 : Int) ≤ value) && decide (value < twoTo 64)
  | double _ => false
  | array items => areExact items
  | object fields => decide (fields.map Prod.fst).Nodup && haveExactValues fields
  | _ => true

/-- Whether all items are exact. -/
def areExact : List Json → Bool
  | [] => true
  | item :: rest => isExact item && areExact rest

/-- Whether all fields have exact values. -/
def haveExactValues : List (Text × Json) → Bool
  | [] => true
  | (_, value) :: rest => isExact value && haveExactValues rest

end

theorem areExact_iff : areExact items = true ↔ ∀ item ∈ items, item.isExact = true := by
  induction items with
  | nil => simp [areExact]
  | cons item rest ih => rw [areExact, Bool.and_eq_true, List.forall_mem_cons, ih]

theorem haveExactValues_iff :
    haveExactValues fields = true ↔ ∀ field ∈ fields, field.2.isExact = true := by
  induction fields with
  | nil => simp [haveExactValues]
  | cons field rest ih =>
    obtain ⟨key, value⟩ := field
    rw [haveExactValues, Bool.and_eq_true, List.forall_mem_cons, ih]

theorem isExact_object_iff : (object fields).isExact = true ↔
    (fields.map Prod.fst).Nodup ∧ ∀ field ∈ fields, field.2.isExact = true := by
  rw [isExact, Bool.and_eq_true, decide_eq_true_iff, haveExactValues_iff]

mutual

/-- An exact value has no repeated keys to merge. -/
theorem merged_eq_self : ∀ value, isExact value = true → merged value = value
  | null, _ | bool _, _ | integer _, _ | string _, _ => rfl
  | double _, exact => by cases exact
  | array items, exact => by
    rw [isExact] at exact
    rw [merged, mergedItems_eq_self items exact]
  | object fields, exact => by
    rw [isExact, Bool.and_eq_true, decide_eq_true_iff] at exact
    rw [merged, mergedFields_eq_self fields exact.1 exact.2]

theorem mergedItems_eq_self : ∀ items, areExact items = true → mergedItems items = items
  | [], _ => rfl
  | item :: rest, exact => by
    rw [areExact, Bool.and_eq_true] at exact
    rw [mergedItems, merged_eq_self item exact.1, mergedItems_eq_self rest exact.2]

theorem mergedFields_eq_self : ∀ fields : List (Text × Json), (fields.map Prod.fst).Nodup →
    haveExactValues fields = true → mergedFields fields = fields
  | [], _, _ => rfl
  | (key, value) :: rest, distinct, exact => by
    rw [haveExactValues, Bool.and_eq_true] at exact
    rw [List.map_cons, List.nodup_cons] at distinct
    have absent : rest.lookup key = none := by
      rw [List.lookup_eq_none_iff]
      intro field inRest
      rw [bne_iff_ne]
      rintro rfl
      exact distinct.1 (List.mem_map.mpr ⟨field, inRest, rfl⟩)
    rw [mergedFields, mergedFields_eq_self rest distinct.2 exact.2, merged_eq_self value exact.1]
    simp only [absent]

end

/-! ## Where values begin and end -/

/-- Whether a text begins as a value does. -/
def beginsValue : Text → Bool
  | [] => false
  | character :: _ =>
    !isSpace character && character != ']' && character != '}' && character != ','

theorem exists_cons_of_beginsValue {text : Text} (begins : beginsValue text = true) :
    ∃ character rest, text = character :: rest ∧ isSpace character = false ∧ character ≠ ']' ∧
      character ≠ '}' ∧ character ≠ ',' := by
  cases text with
  | nil => cases begins
  | cons character rest =>
    simp only [beginsValue, Bool.and_eq_true, Bool.not_eq_true', bne_iff_ne, ne_eq] at begins
    exact ⟨character, rest, rfl, begins.1.1.1, begins.1.1.2, begins.1.2, begins.2⟩

theorem skipSpaces_of_begins {text : Text} (begins : beginsValue text = true) :
    skipSpaces text = text := by
  obtain ⟨character, rest, rfl, noSpace, -⟩ := exists_cons_of_beginsValue begins
  exact List.dropWhile_cons_of_neg (by simp [noSpace])

theorem beginsValue_ofInt (value : Int) (rest : Text) :
    beginsValue (Text.ofInt value ++ rest) = true := by
  cases value with
  | ofNat number =>
    obtain ⟨digit, others, leading, isDigit⟩ := Text.exists_digit number
    rw [Text.ofInt, leading]
    exact Text.of_isDigit (fun character => beginsValue [character]) (by decide) isDigit
  | negSucc number => rfl

theorem beginsValue_compact (exact : value.isExact = true) (rest : Text) :
    beginsValue (value.compact ++ rest) = true := by
  cases value with
  | null => rfl
  | bool value => cases value <;> rfl
  | integer value => exact beginsValue_ofInt value rest
  | double value => cases exact
  | string value => rfl
  | array items => rfl
  | object fields => rfl

/-- What stands behind an item of an array: the other items after a comma, or the bracket. -/
def afterItem : List Json → Text
  | [] => [']']
  | items => ',' :: compactItems items

/-- What stands behind a field of an object: the other fields after a comma, or the brace. -/
def afterField : List (Text × Json) → Text
  | [] => ['}']
  | fields => ',' :: compactFields fields

theorem compactItems_cons (item : Json) (items : List Json) :
    compactItems (item :: items) = item.compact ++ afterItem items := by
  cases items <;> rfl

theorem compactFields_cons (key : Text) (value : Json) (fields : List (Text × Json)) :
    compactFields ((key, value) :: fields) =
      writtenString key ++ ':' :: (value.compact ++ afterField fields) := by
  cases fields <;> simp [compactFields, afterField]

theorem endsNumber_afterItem (items : List Json) (rest : Text) :
    endsNumber (afterItem items ++ rest) = true := by
  cases items <;> rfl

theorem endsNumber_afterField (fields : List (Text × Json)) (rest : Text) :
    endsNumber (afterField fields ++ rest) = true := by
  cases fields <;> rfl

/-! ## Levels -/

/-- What reading a value from a text comes to: the value and what stands behind it if it is no
deeper than there are levels, and else the refusal for its depth. -/
def Reads (levels deep : Nat) (value : α) (rest : Text)
    (reading : Except Stop (α × Text)) : Prop :=
  (deep ≤ levels → reading = .ok (value, rest)) ∧
    (levels < deep → ∃ unread, reading = .error ⟨.recursionLimit, unread⟩)

namespace Reads

variable {levels deep deeper : Nat} {middle : Text} {α β : Type} {first : α} {second : β}

theorem ok (levels : Nat) (value : α) (rest : Text) :
    Reads levels 0 value rest (.ok (value, rest)) :=
  ⟨fun _ => rfl, fun less => absurd less (Nat.not_lt_zero levels)⟩

/-- Two parts are read one after the other. -/
theorem bind {reading : Except Stop (α × Text)} {next : α × Text → Except Stop (β × Text)}
    (begins : Reads levels deep first middle reading)
    (continues : Reads levels deeper second rest (next (first, middle))) :
    Reads levels (max deep deeper) second rest (reading >>= next) := by
  rcases Nat.lt_or_ge levels deep with tooDeep | fits
  · obtain ⟨unread, stopped⟩ := begins.2 tooDeep
    rw [stopped]
    exact ⟨fun bound => absurd bound (by omega), fun _ => ⟨unread, rfl⟩⟩
  · rw [begins.1 fits]
    exact ⟨fun bound => continues.1 (by omega), fun less => continues.2 (by omega)⟩

/-- Something is made of what is read. -/
theorem made {reading : Except Stop (α × Text)} (reads : Reads levels deep first rest reading)
    (make : α → β) :
    Reads levels deep (make first) rest (do
      let (value, rest) ← reading
      return (make value, rest)) := by
  constructor
  · intro fits
    rw [reads.1 fits]
    rfl
  · intro tooDeep
    obtain ⟨unread, stopped⟩ := reads.2 tooDeep
    rw [stopped]
    exact ⟨unread, rfl⟩

/-- One more level is opened. -/
theorem opened {reading : Except Stop (α × Text)} (reads : Reads levels deep first rest reading) :
    Reads (levels + 1) (deep + 1) first rest reading :=
  ⟨fun fits => reads.1 (Nat.le_of_succ_le_succ fits),
    fun tooDeep => reads.2 (Nat.lt_of_succ_lt_succ tooDeep)⟩

end Reads

/-! ## Arrays -/

section Items

variable {readItem : Text → Except Stop (Json × Text)} {levels fuel : Nat} {text : Text}

theorem readItems_begin (begins : beginsValue text = true) :
    readItems readItem (fuel + 1) true text = (do
      let (item, rest) ← readItem text
      let (items, rest) ← readItems readItem fuel false rest
      return (item :: items, rest)) := by
  rw [readItems.eq_2, skipSpaces_of_begins begins]
  obtain ⟨character, rest, rfl, -, noBracket, -, noComma⟩ := exists_cons_of_beginsValue begins
  split
  case h_1 empty => cases empty
  case h_2 closed => exact absurd (List.cons.inj closed).1 noBracket
  case h_3 separated => exact absurd (List.cons.inj separated).1 noComma
  case h_4 => rfl

/-- After a comma, items are read as at the beginning. -/
theorem readItems_comma (begins : beginsValue text = true) :
    readItems readItem (fuel + 1) false (',' :: text) =
      readItems readItem (fuel + 1) true text := by
  rw [readItems_begin begins]
  refine (readItems.eq_2 readItem false (',' :: text) fuel).trans ?_
  have noSpace : skipSpaces (',' :: text) = ',' :: text := rfl
  rw [noSpace]
  simp only [Bool.false_eq_true, if_false, skipSpaces_of_begins begins]
  obtain ⟨character, rest, rfl, -, noBracket, -, -⟩ := exists_cons_of_beginsValue begins
  split
  case h_1 empty => cases empty
  case h_2 closed => exact absurd (List.cons.inj closed).1 noBracket
  case h_3 => rfl

theorem length_lt_afterItem (items : List Json) : items.length < (afterItem items).length := by
  induction items with
  | nil => decide
  | cons item rest ih =>
    rw [afterItem, compactItems_cons, List.length_cons, List.length_cons, List.length_append]
    · omega
    · rintro ⟨⟩

theorem length_le_compactItems (items : List Json) :
    items.length ≤ (compactItems items).length := by
  cases items with
  | nil => exact Nat.zero_le _
  | cons item rest => exact Nat.le_of_lt_succ (length_lt_afterItem (item :: rest))

/-- The items of an array are read up to the closing bracket if each one is read up to what stands
behind it. -/
theorem reads_readItems
    (begins : ∀ item ∈ items, ∀ rest, beginsValue (item.compact ++ rest) = true)
    (reads : ∀ item ∈ items, ∀ rest, endsNumber rest = true →
      Reads levels item.depth item rest (readItem (item.compact ++ rest)))
    (enough : items.length < fuel) :
    Reads levels (depthOfItems items) items rest
      (readItems readItem fuel true (compactItems items ++ rest)) := by
  induction items generalizing fuel with
  | nil =>
    cases fuel with
    | zero => cases enough
    | succ fuel => exact .ok levels [] rest
  | cons item items ih =>
    cases fuel with
    | zero => cases enough
    | succ fuel =>
      rw [List.forall_mem_cons] at begins reads
      rw [List.length_cons, Nat.add_lt_add_iff_right] at enough
      have others : Reads levels (depthOfItems items) items rest
          (readItems readItem fuel false (afterItem items ++ rest)) := by
        cases fuel with
        | zero => cases enough
        | succ fuel =>
          cases items with
          | nil => exact .ok levels [] rest
          | cons next items =>
            rw [afterItem, List.cons_append, readItems_comma]
            · exact ih begins.2 reads.2 enough
            · rw [compactItems_cons, List.append_assoc]
              exact begins.2 next List.mem_cons_self _
            · rintro ⟨⟩
      have first := reads.1 (afterItem items ++ rest) (endsNumber_afterItem items rest)
      rw [compactItems_cons, List.append_assoc, readItems_begin (begins.1 _)]
      exact first.bind (others.made (item :: ·))

end Items

/-! ## Objects -/

section Members

variable {readItem : Text → Except Stop (Json × Text)} {levels fuel : Nat}

/-- A written key is read together with its colon. -/
theorem readKey_written (key rest : Text) :
    readKey (writtenString key ++ ':' :: rest) = .ok (key, rest) := by
  rw [writtenString_append, readKey, readString_written]
  rfl

theorem readMembers_begin (key text : Text) :
    readMembers readItem (fuel + 1) true (writtenString key ++ ':' :: text) = (do
      let (value, rest) ← readItem text
      let (fields, rest) ← readMembers readItem fuel false rest
      return ((key, value) :: fields, rest)) := by
  have begins : readMembers readItem (fuel + 1) true (writtenString key ++ ':' :: text) = (do
      let start ← readKey (writtenString key ++ ':' :: text)
      let (value, rest) ← readItem start.2
      let (fields, rest) ← readMembers readItem fuel false rest
      return ((start.1, value) :: fields, rest)) := rfl
  rw [begins, readKey_written]
  rfl

/-- After a comma, fields are read as at the beginning. -/
theorem readMembers_comma (key text : Text) :
    readMembers readItem (fuel + 1) false (',' :: (writtenString key ++ ':' :: text)) =
      readMembers readItem (fuel + 1) true (writtenString key ++ ':' :: text) := rfl

theorem length_lt_afterField (fields : List (Text × Json)) :
    fields.length < (afterField fields).length := by
  induction fields with
  | nil => decide
  | cons field rest ih =>
    obtain ⟨key, value⟩ := field
    rw [afterField, compactFields_cons, List.length_cons, List.length_cons, List.length_append,
      List.length_cons, List.length_append]
    · omega
    · rintro ⟨⟩

theorem length_le_compactFields (fields : List (Text × Json)) :
    fields.length ≤ (compactFields fields).length := by
  cases fields with
  | nil => exact Nat.zero_le _
  | cons field rest => exact Nat.le_of_lt_succ (length_lt_afterField (field :: rest))

/-- The fields of an object are read up to the closing brace if each value is read up to what stands
behind it. -/
theorem reads_readMembers
    (reads : ∀ field ∈ fields, ∀ rest, endsNumber rest = true →
      Reads levels field.2.depth field.2 rest (readItem (field.2.compact ++ rest)))
    (enough : fields.length < fuel) :
    Reads levels (depthOfFields fields) fields rest
      (readMembers readItem fuel true (compactFields fields ++ rest)) := by
  induction fields generalizing fuel with
  | nil =>
    cases fuel with
    | zero => cases enough
    | succ fuel => exact .ok levels [] rest
  | cons field fields ih =>
    cases fuel with
    | zero => cases enough
    | succ fuel =>
      obtain ⟨key, value⟩ := field
      rw [List.forall_mem_cons] at reads
      rw [List.length_cons, Nat.add_lt_add_iff_right] at enough
      have others : Reads levels (depthOfFields fields) fields rest
          (readMembers readItem fuel false (afterField fields ++ rest)) := by
        cases fuel with
        | zero => cases enough
        | succ fuel =>
          cases fields with
          | nil => exact .ok levels [] rest
          | cons next fields =>
            have following := ih reads.2 enough
            rw [compactFields_cons, List.append_assoc, List.cons_append] at following
            rw [afterField, compactFields_cons, List.cons_append, List.append_assoc,
              List.cons_append, readMembers_comma]
            · exact following
            · rintro ⟨⟩
      have first := reads.1 (afterField fields ++ rest) (endsNumber_afterField fields rest)
      rw [compactFields_cons, List.append_assoc, List.cons_append, readMembers_begin,
        List.append_assoc]
      exact first.bind (others.made ((key, value) :: ·))

end Members

/-! ## Values -/

/-- What begins neither an array nor an object is read as a scalar. -/
theorem readValue_of_scalar {text : Text} (begins : beginsValue text = true)
    (noArray : text.head? ≠ some '[') (noObject : text.head? ≠ some '{') (levels : Nat) :
    readValue levels text = readScalar text := by
  unfold readValue
  rw [skipSpaces_of_begins begins]
  split
  case h_1 => exact absurd rfl noArray
  case h_2 => exact absurd rfl noObject
  case h_3 => exact absurd rfl noArray
  case h_4 => exact absurd rfl noObject
  case h_5 => rfl

theorem head?_ofInt_ne {character : Char} (noDigit : character.isDigit = false)
    (noMinus : character ≠ '-') (value : Int) (rest : Text) :
    (Text.ofInt value ++ rest).head? ≠ some character := by
  cases value with
  | ofNat number =>
    obtain ⟨digit, others, leading, isDigit⟩ := Text.exists_digit number
    rw [Text.ofInt, leading]
    rintro ⟨⟩
    rw [isDigit] at noDigit
    cases noDigit
  | negSucc number =>
    rintro ⟨⟩
    exact noMinus rfl

/-- A value that is no array and no object takes no level. -/
theorem readValue_scalar (exact : value.isExact = true) (noArray : value.isArray = false)
    (noObject : value.isObject = false) (ends : endsNumber rest = true) (levels : Nat) :
    readValue levels (value.compact ++ rest) = .ok (value, rest) := by
  have begins := beginsValue_compact exact rest
  cases value with
  | null => exact readValue_of_scalar begins (by simp [compact]) (by simp [compact]) levels
  | bool value =>
    cases value with
    | true => exact readValue_of_scalar begins (by simp [compact]) (by simp [compact]) levels
    | false => exact readValue_of_scalar begins (by simp [compact]) (by simp [compact]) levels
  | integer value =>
    rw [isExact, Bool.and_eq_true, decide_eq_true_iff, decide_eq_true_iff] at exact
    rw [compact] at begins ⊢
    rw [readValue_of_scalar begins (head?_ofInt_ne (by decide) (by decide) value rest)
      (head?_ofInt_ne (by decide) (by decide) value rest)]
    exact readScalar_ofInt ends exact.1 exact.2
  | double value => cases exact
  | string value =>
    rw [compact, writtenString_append] at begins ⊢
    rw [readValue_of_scalar begins (by simp) (by simp), readScalar, readString_written]
    rfl
  | array items => cases noArray
  | object fields => cases noObject

/-- An exact value inside a text is read up to what stands behind it, if that does not continue a
number. -/
theorem reads_readValue (exact : value.isExact = true) (ends : endsNumber rest = true)
    (levels : Nat) :
    Reads levels value.depth value rest (readValue levels (value.compact ++ rest)) := by
  induction levels generalizing value rest with
  | zero =>
    cases value with
    | array items => exact ⟨fun fits => absurd fits (by simp [depth]), fun _ => ⟨_, rfl⟩⟩
    | object fields => exact ⟨fun fits => absurd fits (by simp [depth]), fun _ => ⟨_, rfl⟩⟩
    | _ =>
      rw [readValue_scalar exact rfl rfl ends]
      exact .ok 0 _ rest
  | succ levels ih =>
    cases value with
    | array items =>
      rw [isExact, areExact_iff] at exact
      have inside : Reads levels (depthOfItems items) items rest
          (readItems (readValue levels) ((compactItems items ++ rest).length + 1) true
            (compactItems items ++ rest)) := by
        apply reads_readItems
        · exact fun item inItems rest => beginsValue_compact (exact item inItems) rest
        · exact fun item inItems rest ends => ih (exact item inItems) ends
        · have enough := length_le_compactItems items
          rw [List.length_append]
          omega
      exact (inside.made array).opened
    | object fields =>
      rw [isExact_object_iff] at exact
      have inside : Reads levels (depthOfFields fields) fields rest
          (readMembers (readValue levels) ((compactFields fields ++ rest).length + 1) true
            (compactFields fields ++ rest)) := by
        apply reads_readMembers
        · exact fun field inFields rest ends => ih (exact.2 field inFields) ends
        · have enough := length_le_compactFields fields
          rw [List.length_append]
          omega
      exact (inside.made object).opened
    | _ =>
      rw [readValue_scalar exact rfl rfl ends]
      exact .ok (levels + 1) _ rest

/-- The compact text of an exact value denotes it. -/
theorem read_compact (exact : value.isExact = true) (fits : value.depth ≤ maximalDepth) :
    read value.compact = .ok value := by
  have ends : endsNumber [] = true := rfl
  have reads := (reads_readValue exact ends maximalDepth).1 fits
  rw [List.append_nil] at reads
  rw [read, reads]
  exact congrArg Except.ok (merged_eq_self value exact)

/-- The compact text of an exact value that is too deep is refused for that. -/
theorem read_compact_of_deep (exact : value.isExact = true) (tooDeep : maximalDepth < value.depth) :
    ∃ place, read value.compact = .error ⟨.recursionLimit, place⟩ := by
  have ends : endsNumber [] = true := rfl
  obtain ⟨unread, stopped⟩ := (reads_readValue exact ends maximalDepth).2 tooDeep
  rw [List.append_nil] at stopped
  rw [read, stopped]
  exact ⟨_, rfl⟩

end Beanwright.Json
