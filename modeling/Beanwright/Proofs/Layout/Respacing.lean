import Beanwright.Proofs.Layout.Solid
import Beanwright.Proofs.Text.Name

/-!
# Respacing

Between two solid characters of a line stands a gap: some blanks or nothing. What the rules do to
the gaps of a line is narrow. At the ends of the line they may put any indentation or nothing.
Between two solid characters they leave a gap as it is or make it one space, and they open no gap
inside a word. So words stay the words they were, and a gap that has been made one space stays one
space. This is why a rule that has nothing left to do on a line has nothing left to do after later
rules either.
-/

namespace Beanwright.Layout

open Text

variable {left right : Option Char} {character : Char}
  {blanks changed source target result : Text}

/-- How the blanks between two solid characters can change; no character stands for an end of the
line. -/
inductive GapChange : (left right : Option Char) → (blanks changed : Text) → Prop
  /-- They stay. -/
  | kept {left right : Option Char} {blanks : Text} : GapChange left right blanks blanks
  /-- At an end of the line they become indentation. -/
  | edge {left right : Option Char} {blanks changed : Text} :
      left = none ∨ right = none → changed.all isIndentation = true →
        GapChange left right blanks changed
  /-- Inside the line they become one space, unless that cuts a word. -/
  | spaced {left right : Char} {blanks : Text} :
      blanks ≠ [] ∨ isWordCharacter left = false ∨ isWordCharacter right = false →
        GapChange (some left) (some right) blanks [' ']

/-- A line changes in its gaps only. The line is read from left to right between two characters
around it, or the ends. -/
inductive Respaced (right : Option Char) : (left : Option Char) → (source target : Text) → Prop
  /-- What is left of the line is a gap. -/
  | blanks {left : Option Char} {blanks changed : Text} : isBlankText blanks = true →
      GapChange left right blanks changed → Respaced right left blanks changed
  /-- A gap comes before the next solid character. -/
  | solid {left : Option Char} {blanks changed : Text} {character : Char} {source target : Text} :
      isBlankText blanks = true → isBlank character = false →
        GapChange left (some character) blanks changed →
          Respaced right (some character) source target →
            Respaced right left (blanks ++ character :: source) (changed ++ character :: target)

/-! ## Gaps -/

theorem isInLine_of_isIndentation (indents : isIndentation character = true) :
    isInLine character = true := by
  simp only [isIndentation, Bool.or_eq_true, beq_iff_eq] at indents
  rcases indents with rfl | rfl <;> decide

namespace GapChange

theorem isBlankText (change : GapChange left right blanks changed)
    (blank : isBlankText blanks = true) : Text.isBlankText changed = true := by
  cases change with
  | kept => exact blank
  | edge atEnd indents => exact isBlankText_of_all_isIndentation indents
  | spaced apart => decide

theorem all_isInLine (change : GapChange left right blanks changed)
    (inLine : blanks.all isInLine = true) : changed.all isInLine = true := by
  cases change with
  | kept => exact inLine
  | edge atEnd indents =>
    rw [List.all_eq_true] at *
    exact fun character member => isInLine_of_isIndentation (indents character member)
  | spaced apart => decide

/-- No gap closes inside a line. -/
theorem eq_nil_of_closed {left right : Char}
    (change : GapChange (some left) (some right) blanks []) : blanks = [] := by
  cases change with
  | kept => rfl
  | edge atEnd => simp at atEnd

/-- Between two letters no gap closes and none opens. -/
theorem eq_nil_iff {left right : Char} (change : GapChange (some left) (some right) blanks changed)
    (leftLetter : isWordCharacter left = true) (rightLetter : isWordCharacter right = true) :
    changed = [] ↔ blanks = [] := by
  cases change with
  | kept => rfl
  | edge atEnd => simp at atEnd
  | spaced apart =>
    rw [leftLetter, rightLetter] at apart
    simpa using apart

theorem trans (first : GapChange left right blanks changed)
    (second : GapChange left right changed result) : GapChange left right blanks result := by
  cases first with
  | kept => exact second
  | edge atEnd indents =>
    cases second with
    | kept => exact .edge atEnd indents
    | edge atEnd' indents' => exact .edge atEnd' indents'
    | spaced apart => simp at atEnd
  | spaced apart =>
    cases second with
    | kept => exact .spaced apart
    | edge atEnd' indents' => exact .edge atEnd' indents'
    | spaced apart' => exact .spaced apart

end GapChange

/-! ## Lines -/

theorem notMem_of_isBlankText (blank : isBlankText blanks = true)
    (isSolid : isBlank character = false) : character ∉ blanks := by
  intro member
  rw [List.all_eq_true.mp blank character member] at isSolid
  cases isSolid

/-- A solid character that comes first has no gap before it. -/
theorem eq_nil_of_head?_append {next : Char} {rest : Text} (blank : isBlankText blanks = true)
    (isSolid : isBlank character = false)
    (starts : (blanks ++ next :: rest).head? = some character) :
    blanks = [] ∧ next = character := by
  cases blanks with
  | nil => exact ⟨rfl, Option.some.inj starts⟩
  | cons first others =>
    rw [Option.some.inj starts] at blank
    simp [isBlankText, isSolid] at blank

namespace Respaced

theorem refl (text : Text) : Respaced right left text text := by
  -- The blanks that were read since the last solid character are carried along.
  have carried (blanks : Text) (blank : isBlankText blanks = true) :
      Respaced right left (blanks ++ text) (blanks ++ text) := by
    induction text generalizing left blanks with
    | nil =>
      rw [List.append_nil]
      exact .blanks blank .kept
    | cons character rest ih =>
      by_cases isBlankHere : isBlank character = true
      · rw [List.append_cons]
        apply ih
        rw [isBlankText_append, blank]
        simp [isBlankText, isBlankHere]
      · exact .solid blank (by simpa using isBlankHere) .kept (ih [] rfl)
  exact carried [] rfl

/-- Two parts with a solid character between them change on their own. -/
theorem append (first : Respaced (some character) left source target)
    (isSolid : isBlank character = false) {later result : Text}
    (second : Respaced right (some character) later result) :
    Respaced right left (source ++ character :: later) (target ++ character :: result) := by
  induction first with
  | blanks blank change => exact .solid blank isSolid change second
  | solid blank isSolid' change _ ih =>
    rw [List.append_assoc, List.append_assoc]
    exact .solid blank isSolid' change ih

theorem replicate_append (isSolid : isBlank character = false) (length : Nat)
    (later : Respaced right (some character) source target) :
    Respaced right (some character) (List.replicate length character ++ source)
      (List.replicate length character ++ target) := by
  induction length with
  | zero => exact later
  | succ length ih => exact .append (.refl []) isSolid ih

/-- A solid character that does not follow does not do so afterwards. -/
theorem head?_ne {previous : Char} (respaced : Respaced right (some previous) source target)
    (isSolid : isBlank character = false) (apart : source.head? ≠ some character) :
    target.head? ≠ some character := by
  intro starts
  cases respaced with
  | blanks blank change =>
    have isBlankHere := List.all_eq_true.mp (change.isBlankText blank) character
      (List.mem_of_mem_head? starts)
    rw [isSolid] at isBlankHere
    cases isBlankHere
  | solid blank _ change later =>
    obtain ⟨rfl, rfl⟩ := eq_nil_of_head?_append (change.isBlankText blank) isSolid starts
    obtain rfl := change.eq_nil_of_closed
    exact apart rfl

theorem solid_eq (respaced : Respaced right left source target) :
    Text.solid target = Text.solid source := by
  induction respaced with
  | blanks blank change =>
    rw [solid_eq_nil_iff.mpr blank, solid_eq_nil_iff.mpr (change.isBlankText blank)]
  | solid blank isSolid change _ ih =>
    rw [solid_append, solid_append, solid_eq_nil_iff.mpr blank,
      solid_eq_nil_iff.mpr (change.isBlankText blank), solid_cons_of_not_isBlank isSolid,
      solid_cons_of_not_isBlank isSolid, ih]

theorem notMem (respaced : Respaced right left source target) (isSolid : isBlank character = false)
    (absent : character ∉ source) : character ∉ target := by
  intro member
  have inSolid := mem_solid_iff.mpr ⟨member, isSolid⟩
  rw [respaced.solid_eq] at inSolid
  exact absent (mem_solid_iff.mp inSolid).1

theorem all_isInLine (respaced : Respaced right left source target)
    (inLine : source.all isInLine = true) : target.all isInLine = true := by
  induction respaced with
  | blanks blank change => exact change.all_isInLine inLine
  | solid blank isSolid change _ ih =>
    rw [List.all_append, List.all_cons, Bool.and_eq_true, Bool.and_eq_true] at inLine ⊢
    exact ⟨change.all_isInLine inLine.1, inLine.2.1, ih inLine.2.2⟩

/-- A space can come between two solid characters of which one belongs to no word. -/
theorem openGap {last : Char} (lastSolid : isBlank last = false)
    (isSolid : isBlank character = false) (boundary : isWordCharacter character = false)
    (before : Text) (later : Respaced right (some character) source target) :
    Respaced right left (before ++ last :: character :: source)
      (before ++ last :: ' ' :: character :: target) := by
  have opened : GapChange (some last) (some character) [] [' '] := .spaced (.inr (.inr boundary))
  have spaced : Respaced right (some last) ([] ++ character :: source)
      ([' '] ++ character :: target) := .solid rfl isSolid opened later
  exact .append (.refl before) lastSolid spaced

/-- A line is cut in one way into a gap, a solid character and the rest. -/
theorem blanks_append_inj {blanks' rest rest' : Text} {character' : Char}
    (blank : isBlankText blanks = true) (blank' : isBlankText blanks' = true)
    (isSolid : isBlank character = false) (isSolid' : isBlank character' = false)
    (same : blanks ++ character :: rest = blanks' ++ character' :: rest') :
    blanks = blanks' ∧ character = character' ∧ rest = rest' := by
  have trimmed {blanks : Text} {character : Char} (rest : Text)
      (blank : isBlankText blanks = true) (isSolid : isBlank character = false) :
      (blanks ++ character :: rest).takeWhile isBlank = blanks ∧
        (blanks ++ character :: rest).dropWhile isBlank = character :: rest := by
    rw [List.takeWhile_append_of_pos (List.all_eq_true.mp blank),
      List.dropWhile_append_of_pos (List.all_eq_true.mp blank)]
    simp [isSolid]
  have left := trimmed rest blank isSolid
  have right := trimmed rest' blank' isSolid'
  rw [same] at left
  refine ⟨left.1.symm.trans right.1, ?_⟩
  exact List.cons.inj (left.2.symm.trans right.2)

/-- Changes one after the other are one change. -/
theorem trans (first : Respaced right left source target)
    (second : Respaced right left target result) : Respaced right left source result := by
  induction first generalizing result with
  | blanks blank change =>
    have changedBlank := change.isBlankText blank
    cases second with
    | blanks _ change' => exact .blanks blank (change.trans change')
    | solid blank' isSolid' _ _ =>
      rw [isBlankText_append, Bool.and_eq_true] at changedBlank
      simp [isBlankText, isSolid'] at changedBlank
  | solid blank isSolid change _ ih =>
    have changedBlank := change.isBlankText blank
    generalize given : _ ++ _ :: _ = between at second
    cases second with
    | blanks blank' _ =>
      rw [← given, isBlankText_append, Bool.and_eq_true] at blank'
      simp [isBlankText, isSolid] at blank'
    | solid blank' isSolid' change' later =>
      -- The second change reads the gap that the first one left, as the line is cut in one way.
      obtain ⟨rfl, rfl, rfl⟩ := blanks_append_inj changedBlank blank' isSolid isSolid' given
      exact .solid blank isSolid (change.trans change') (ih later)

end Respaced

end Beanwright.Layout
