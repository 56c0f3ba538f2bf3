import Mathlib.Data.List.Induction
import Beanwright.Bean.Document
import Beanwright.Text.Utf8

/-!
# Places and byte indices

The place of a byte index is read off the bytes before it: the line counts their line feeds, and the
column the bytes after the last one. A line feed is a byte of its own, and no other character has
that byte, so it does not matter that a text is read by characters and an index may lie inside one.

An error at a place points back into the text. The lines before the place end right after the last
line feed, so together with the column they give the index again. The error points to the byte
before that index, and only where the index begins a line is there no such byte on its line.
-/

namespace Beanwright

/-! ## Bytes -/

namespace Utf8

variable {character : Char}

/-- The byte of a line feed. -/
def lineFeed : UInt8 := 10

theorem length_encode (text : Text) : (encode text).length = Text.utf8Length text := by
  induction text with
  | nil => rfl
  | cons character rest ih =>
    rw [encode, List.flatMap_cons, List.length_append, String.length_utf8EncodeChar,
      Text.utf8Length_cons, ← ih, encode]

theorem lineFeed_ne_ofNat {number : Nat} (high : 128 ≤ number) (byte : number < 256) :
    lineFeed ≠ UInt8.ofNat number := by
  intro equal
  have found := congrArg UInt8.toNat equal
  rw [UInt8.toNat_ofNat_of_lt' byte] at found
  have feed : lineFeed.toNat = 10 := rfl
  omega

/-- Only the line feed has the byte of a line feed: a character of one byte is that byte, and the
bytes of all others are at least 128. -/
theorem lineFeed_notMem_encodeChar (differs : character ≠ '\n') :
    lineFeed ∉ String.utf8EncodeChar character := by
  unfold String.utf8EncodeChar
  dsimp only
  split
  · rw [List.mem_singleton]
    intro equal
    have found := congrArg UInt8.toNat equal
    rw [UInt8.toNat_ofNat_of_lt' (show _ < 256 by omega)] at found
    exact differs (Char.ext (UInt32.toNat_inj.mp found.symm))
  · split
    · simp only [List.mem_cons, List.not_mem_nil, or_false, not_or]
      exact ⟨lineFeed_ne_ofNat (by omega) (by omega), lineFeed_ne_ofNat (by omega) (by omega)⟩
    · split
      · simp only [List.mem_cons, List.not_mem_nil, or_false, not_or]
        exact ⟨lineFeed_ne_ofNat (by omega) (by omega), lineFeed_ne_ofNat (by omega) (by omega),
          lineFeed_ne_ofNat (by omega) (by omega)⟩
      · simp only [List.mem_cons, List.not_mem_nil, or_false, not_or]
        exact ⟨lineFeed_ne_ofNat (by omega) (by omega), lineFeed_ne_ofNat (by omega) (by omega),
          lineFeed_ne_ofNat (by omega) (by omega), lineFeed_ne_ofNat (by omega) (by omega)⟩

end Utf8

namespace Place

/-- The place after one more byte. -/
def next (place : Place) (byte : UInt8) : Place :=
  if byte = Utf8.lineFeed then ⟨place.line + 1, 0⟩ else ⟨place.line, place.column + 1⟩

/-- The place that some bytes lead to: their line feeds end lines, and the bytes after the last line
feed make the column. -/
def ofBytes (bytes : List UInt8) : Place :=
  ⟨1 + bytes.count Utf8.lineFeed, (bytes.reverse.takeWhile (· != Utf8.lineFeed)).length⟩

variable {bytes : List UInt8}

theorem ofBytes_concat (bytes : List UInt8) (byte : UInt8) :
    ofBytes (bytes ++ [byte]) = (ofBytes bytes).next byte := by
  rw [next, ofBytes, ofBytes, List.reverse_concat]
  split <;> rename_i found
  · simp [found, Nat.add_assoc]
  · simp [found]

/-- Bytes lead from the beginning of a text to their place. -/
theorem foldl_next (bytes : List UInt8) : bytes.foldl next ⟨1, 0⟩ = ofBytes bytes := by
  induction bytes using List.reverseRecOn with
  | nil => rfl
  | append_singleton bytes byte ih =>
    rw [List.foldl_append, ih, ofBytes_concat]
    rfl

theorem foldl_next_of_notMem (notMem : Utf8.lineFeed ∉ bytes) (place : Place) :
    bytes.foldl next place = ⟨place.line, place.column + bytes.length⟩ := by
  induction bytes generalizing place with
  | nil => rfl
  | cons byte rest ih =>
    rw [List.mem_cons, not_or] at notMem
    rw [List.foldl_cons, ih notMem.2, next, if_neg (Ne.symm notMem.1), List.length_cons]
    simp only [Nat.add_assoc, Nat.add_comm 1]

/-! ## The place of an index -/

/-- A character is passed byte by byte. -/
theorem advance_eq_foldl (text : Text) (index : Nat) (place : Place) :
    advance text index place = ((Utf8.encode text).take index).foldl next place := by
  induction text generalizing index place with
  | nil => rw [advance, Utf8.encode, List.flatMap_nil, List.take_nil, List.foldl_nil]
  | cons character rest ih =>
    have length := String.length_utf8EncodeChar character
    rw [advance, Utf8.encode, List.flatMap_cons, List.take_append, List.foldl_append, length]
    split <;> rename_i reached
    · rw [List.take_of_length_le (by omega), ih, Utf8.encode]
      congr 1
      split <;> rename_i feed
      · rw [feed]
        rfl
      · rw [foldl_next_of_notMem (Utf8.lineFeed_notMem_encodeChar feed), length]
    · -- The index lies inside the character, so only some of its bytes are passed.
      have stops : index - character.utf8Size = 0 := by omega
      rw [stops, List.take_zero, List.foldl_nil]
      by_cases feed : character = '\n'
      · have start : index = 0 := by
          rw [feed] at reached
          exact Nat.lt_one_iff.mp (Nat.not_le.mp reached)
        rw [start, List.take_zero, List.foldl_nil]
        rfl
      · have notMem := fun found =>
          Utf8.lineFeed_notMem_encodeChar feed (List.mem_of_mem_take (i := index) found)
        rw [foldl_next_of_notMem notMem, List.length_take, length]
        congr 2
        omega

/-- The place of an index is the one that the bytes before it lead to. -/
theorem ofIndex_eq (text : Text) (index : Nat) :
    ofIndex text index = ofBytes ((Utf8.encode text).take index) := by
  rw [ofIndex, advance_eq_foldl, foldl_next]

/-! ## The index of a place -/

theorem advance_inside {character : Char} {index : Nat} (inside : index < character.utf8Size)
    (rest : Text) (place : Place) :
    advance (character :: rest) index place = ⟨place.line, place.column + index⟩ := by
  rw [advance, if_neg (Nat.not_le.mpr inside)]

theorem advance_lineFeed {index : Nat} (reached : 1 ≤ index) (rest : Text) (place : Place) :
    advance ('\n' :: rest) index place = advance rest (index - 1) ⟨place.line + 1, 0⟩ := by
  rw [advance, if_pos (show Char.utf8Size '\n' ≤ index from reached), if_pos rfl]
  rfl

theorem advance_of_ne {character : Char} {index : Nat} (reached : character.utf8Size ≤ index)
    (differs : character ≠ '\n') (rest : Text) (place : Place) :
    advance (character :: rest) index place = advance rest (index - character.utf8Size)
      ⟨place.line, place.column + character.utf8Size⟩ := by
  rw [advance, if_pos reached, if_neg differs]

open Source in
/-- The lines that an advance ends, and the new column, make up the index. As long as no line has
ended, the old column is part of the new one. -/
theorem exists_advance_eq (text : Text) (index : Nat) (place : Place)
    (within : index ≤ Text.utf8Length text) :
    ∃ ended column, advance text index place = ⟨place.line + ended, column⟩ ∧
      bytesOfLines ended text + column = index + if ended = 0 then place.column else 0 := by
  induction text generalizing index place with
  | nil =>
    obtain rfl := Nat.le_zero.mp within
    exact ⟨0, place.column, rfl, rfl⟩
  | cons character rest ih =>
    rw [Text.utf8Length_cons] at within
    rcases Nat.lt_or_ge index character.utf8Size with inside | reached
    · refine ⟨0, place.column + index, advance_inside inside rest place, ?_⟩
      rw [bytesOfLines, if_pos rfl, Nat.zero_add, Nat.add_comm]
    · by_cases feed : character = '\n'
      · subst feed
        have size : Char.utf8Size '\n' = 1 := rfl
        obtain ⟨ended, column, arrives, total⟩ := ih (index - 1) ⟨place.line + 1, 0⟩ (by omega)
        refine ⟨ended + 1, column, ?_, ?_⟩
        · rw [advance_lineFeed (by omega), arrives, Nat.add_assoc, Nat.add_comm 1]
        · dsimp only at total
          rw [ite_self] at total
          rw [bytesOfLines, if_pos rfl, if_neg (Nat.succ_ne_zero ended)]
          omega
      · obtain ⟨ended, column, arrives, total⟩ := ih (index - character.utf8Size)
          ⟨place.line, place.column + character.utf8Size⟩ (by omega)
        refine ⟨ended, column, ?_, ?_⟩
        · rw [advance_of_ne reached feed, arrives]
        · -- The bytes of the character count for the column until a line has ended, and for the
          -- lines after that.
          cases ended with
          | zero =>
            rw [bytesOfLines, if_pos rfl] at total ⊢
            dsimp only at total
            omega
          | succ ended =>
            rw [if_neg (Nat.succ_ne_zero ended)] at total
            rw [bytesOfLines, if_neg feed, if_neg (Nat.succ_ne_zero ended)]
            omega

open Source in
/-- The lines before the place of an index and its column give the index. -/
theorem bytesOfLines_ofIndex {text : Text} {index : Nat} (within : index ≤ Text.utf8Length text) :
    bytesOfLines ((ofIndex text index).line - 1) text + (ofIndex text index).column = index := by
  obtain ⟨ended, column, arrives, total⟩ := exists_advance_eq text index ⟨1, 0⟩ within
  rw [ite_self] at total
  rw [ofIndex, arrives, Nat.add_sub_cancel_left]
  exact total

/-- A column is zero at the beginning of a text and after a line feed. -/
theorem column_ofBytes_eq_zero_iff (bytes : List UInt8) :
    (ofBytes bytes).column = 0 ↔ ∀ byte, bytes.getLast? = some byte → byte = Utf8.lineFeed := by
  rcases List.eq_nil_or_concat bytes with rfl | ⟨before, byte, rfl⟩
  · simp [ofBytes]
  · rw [List.concat_eq_append, ofBytes_concat, next, List.getLast?_concat]
    split <;> rename_i feed
    · simp [feed]
    · simp [feed]

/-- The column of an index is zero unless the byte before the index is on the same line. -/
theorem column_ofIndex_eq_zero_iff {text : Text} {index : Nat}
    (within : index ≤ (Utf8.encode text).length) : (ofIndex text index).column = 0 ↔
      ¬(0 < index ∧ (Utf8.encode text)[index - 1]? ≠ some Utf8.lineFeed) := by
  rw [ofIndex_eq, column_ofBytes_eq_zero_iff]
  rcases Nat.eq_zero_or_pos index with rfl | positive
  · simp
  · have last : ((Utf8.encode text).take index).getLast? = (Utf8.encode text)[index - 1]? := by
      rw [List.getLast?_eq_getElem?, List.length_take, Nat.min_eq_left within,
        List.getElem?_take_of_lt (by omega)]
    have inside : index - 1 < (Utf8.encode text).length := by omega
    rw [last, List.getElem?_eq_getElem inside]
    simp [positive]

end Place

namespace Source

/-- An index is found again from its place, one byte before it if that byte is on its line. -/
theorem offset?_ofIndex (source : Source) {index : Nat}
    (within : index ≤ (Utf8.encode source.text).length) :
    source.offset? (Place.ofIndex source.text index) =
      some (if 0 < index ∧ (Utf8.encode source.text)[index - 1]? ≠ some Utf8.lineFeed then index - 1
        else index) := by
  have column := Place.column_ofIndex_eq_zero_iff within
  have known : (Place.ofIndex source.text index).line ≠ 0 := by
    rw [Place.ofIndex_eq, Place.ofBytes]
    exact Nat.ne_of_gt (Nat.lt_add_right _ Nat.one_pos)
  rw [Utf8.length_encode] at within
  have total := Place.bytesOfLines_ofIndex within
  rw [offset?, if_neg known, Option.some_inj]
  split <;> rename_i inLine
  · have positive : (Place.ofIndex source.text index).column ≠ 0 :=
      fun start => column.mp start inLine
    omega
  · have start := column.mpr inLine
    omega

theorem offset?_le {source : Source} {place : Place} {offset : Nat}
    (found : source.offset? place = some offset) :
    offset ≤ (Utf8.encode source.text).length := by
  rw [offset?] at found
  split at found
  · exact absurd found (Option.some_ne_none offset).symm
  · obtain rfl := Option.some_inj.mp found
    rw [Utf8.length_encode]
    exact Nat.min_le_right _ _

theorem offset?_eq_none_iff {source : Source} {place : Place} :
    source.offset? place = none ↔ place.line = 0 := by
  rw [offset?]
  split <;> rename_i unknown
  · exact iff_of_true rfl unknown
  · exact iff_of_false (Option.some_ne_none _) unknown

end Source

/-- An error about a JSON document points to a byte of it or to its end. From the place of an index
it points one byte back, and to the index itself where a line begins; without a line it points
nowhere. -/
theorem Bean.jsonError_points (source : Source) (error : Json.SyntaxError) :
    (∀ index ≤ (Utf8.encode source.text).length,
      error.place = Place.ofBytes ((Utf8.encode source.text).take index) →
        Bean.jsonError source error = .malformedJson source.fileName error.message
          (some (if 0 < index ∧ (Utf8.encode source.text)[index - 1]? ≠ some Utf8.lineFeed
            then index - 1 else index))) ∧
    (∃ pointed, Bean.jsonError source error =
        .malformedJson source.fileName error.message pointed ∧
      (∀ offset, pointed = some offset → offset ≤ (Utf8.encode source.text).length) ∧
      (pointed = none ↔ error.place.line = 0)) ∧
    ∀ index, Place.ofIndex source.text index =
      Place.ofBytes ((Utf8.encode source.text).take index) := by
  refine ⟨?_, ?_, Place.ofIndex_eq source.text⟩
  · intro index within place
    rw [← Place.ofIndex_eq] at place
    rw [Bean.jsonError, place, Source.offset?_ofIndex source within]
  · refine ⟨source.offset? error.place, rfl, ?_, Source.offset?_eq_none_iff⟩
    intro offset found
    exact Source.offset?_le found

/-- After a character of two bytes and a line feed the index begins a line; inside the character it
does not. -/
theorem Bean.jsonError_points_sample :
    Bean.jsonError ⟨"é\nx".toList, "bean.json".toList⟩ ⟨.expectedValue, ⟨2, 0⟩⟩ =
      .malformedJson "bean.json".toList "expected value at line 2 column 0".toList (some 3) ∧
    Bean.jsonError ⟨"é\nx".toList, "bean.json".toList⟩ ⟨.expectedValue, ⟨1, 1⟩⟩ =
      .malformedJson "bean.json".toList "expected value at line 1 column 1".toList (some 0) := by
  have after := (Bean.jsonError_points ⟨"é\nx".toList, "bean.json".toList⟩
    ⟨.expectedValue, ⟨2, 0⟩⟩).1 3 (by decide) (by decide)
  have inside := (Bean.jsonError_points ⟨"é\nx".toList, "bean.json".toList⟩
    ⟨.expectedValue, ⟨1, 1⟩⟩).1 1 (by decide) (by decide)
  exact ⟨after, inside⟩

end Beanwright
