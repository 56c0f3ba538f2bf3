import Beanwright.Proofs.Layout.Tokens

/-!
# Sources inlined in a frame

A generated text is a frame with sources in it that come from outside. The frame makes no compound
assignments, and in its literals the rules of layout find nothing to do. So the text is calm if all
sources are, and then its compound assignments are those of the sources.
-/

namespace Beanwright.Layout

open Text

variable {before first second text follow : Text} {reading middle last : Reading}
  {character : Char} {counts : Nat → Bool → Bool}

/-! ## Frames -/

/-- Whether a rule may react to a character, depending on what stands before it. -/
def mayShape (character : Char) : Bool :=
  isBoundary character || character == '\n' || character == '=' || character == '('

/-- Whether a character before the text `rest` belongs to a frame. In code it makes no compound
assignment, and in a literal no rule reacts to it, whatever stands around both. -/
def isFramed (reading : Reading) (character : Char) (rest : Text) : Bool :=
  if reading = .code then !(isAssigning character && rest.head?.all (· == '='))
  else !mayShape character

/-- Where a reader is after a piece of a frame; none if the text is no such piece. -/
def through? : Reading → Text → Option Reading
  | reading, [] => some reading
  | reading, character :: rest =>
    if isFramed reading character rest then through? (reading.next character) rest else none

/-- Whether a character neither begins nor ends anything, in code or in a literal. -/
def isQuiet (character : Char) : Bool :=
  quote? character == none && character != '\\' && !mayShape character && !isAssigning character

theorem isFramed_append {rest : Text} (framed : isFramed reading character rest = true)
    (follow : Text) : isFramed reading character (rest ++ follow) = true := by
  cases rest with
  | cons next others => exact framed
  | nil =>
    unfold isFramed at framed ⊢
    split
    · next inCode =>
      rw [if_pos inCode, Bool.not_eq_true', List.head?_nil, Option.all_none, Bool.and_true]
        at framed
      rw [framed]
      rfl
    · next notInCode =>
      rw [if_neg notInCode] at framed
      exact framed

theorem through?_append (found : through? reading first = some middle)
    (later : through? middle second = some last) :
    through? reading (first ++ second) = some last := by
  induction first generalizing reading with
  | nil =>
    obtain rfl : reading = middle := Option.some.inj found
    exact later
  | cons character rest ih =>
    rw [through?] at found
    split at found
    · next framed =>
      rw [List.cons_append, through?, if_pos (isFramed_append framed second)]
      exact ih found
    · cases found

/-- A quiet character does not move a reader, unless it is escaped. -/
theorem Reading.next_of_isQuiet (quiet : isQuiet character = true)
    (unescaped : ∀ quote, reading ≠ .escape quote) : reading.next character = reading := by
  simp only [isQuiet, Bool.and_eq_true, beq_iff_eq, bne_iff_ne] at quiet
  obtain ⟨⟨⟨noQuote, noBackslash⟩, -⟩, -⟩ := quiet
  cases reading with
  | code => rw [Reading.next, noQuote, Option.elim_none]
  | literal quote =>
    have noMark : character ≠ quote.mark := by
      rintro rfl
      revert noQuote
      cases quote <;> decide
    rw [Reading.next, if_neg noMark, if_neg noBackslash]
  | escape quote => exact absurd rfl (unescaped quote)

/-- A quiet text does not move a reader, unless its first character is escaped. -/
theorem through?_of_isQuiet (quiet : text.all isQuiet = true)
    (unescaped : ∀ quote, reading ≠ .escape quote) : through? reading text = some reading := by
  induction text with
  | nil => rfl
  | cons character rest ih =>
    rw [List.all_cons, Bool.and_eq_true] at quiet
    obtain ⟨characterQuiet, restQuiet⟩ := quiet
    have stays := Reading.next_of_isQuiet characterQuiet unescaped
    simp only [isQuiet, Bool.and_eq_true, Bool.not_eq_true'] at characterQuiet
    obtain ⟨⟨-, calm⟩, notAssigning⟩ := characterQuiet
    have framed : isFramed reading character rest = true := by
      rw [isFramed, calm, notAssigning]
      split <;> rfl
    rw [through?, if_pos framed, stays, ih restQuiet]

/-- A character of a frame is calm. -/
theorem calm_of_isFramed {rest : Text} (framed : isFramed reading character rest = true)
    (before : Text) : reading = .code ∨ isShaping before character = false := by
  rw [isFramed] at framed
  split at framed
  · next inCode => exact .inl inCode
  · rw [Bool.not_eq_true', mayShape, Bool.or_eq_false_iff] at framed
    rw [isShaping, framed.1, framed.2]
    exact .inr rfl

theorem isCalm_of_through? (found : through? reading text = some .code) :
    isCalm before reading text = true := by
  induction text generalizing before reading with
  | nil => exact beq_iff_eq.mpr (Option.some.inj found)
  | cons character rest ih =>
    rw [through?] at found
    split at found
    · next framed => exact isCalm_cons.mpr ⟨calm_of_isFramed framed before, ih found⟩
    · cases found

theorem beginsCompound_of_isFramed {rest : Text} (framed : isFramed .code character rest = true) :
    beginsCompound counts character rest = false := by
  rw [isFramed, if_pos rfl, Bool.not_eq_true', Bool.and_eq_false_iff] at framed
  rcases framed with notAssigning | apart
  · rw [beginsCompound, notAssigning, Bool.false_and, Bool.false_and]
  · apply beginsCompound_of_head?_ne
    intro equals
    rw [equals] at apart
    cases apart

/-- A piece of a frame has no compound assignments, whatever follows it. -/
theorem compoundsFrom_of_through? (found : through? reading first = some middle)
    (counts : Nat → Bool → Bool) (follow : Text) :
    compoundsFrom counts reading (first ++ follow) = compoundsFrom counts middle follow := by
  induction first generalizing reading with
  | nil =>
    obtain rfl : reading = middle := Option.some.inj found
    rfl
  | cons character rest ih =>
    rw [through?] at found
    split at found
    · next framed =>
      rw [List.cons_append, compoundsFrom, ih found, if_neg]
      rw [Bool.and_eq_true, beq_iff_eq, not_and]
      rintro rfl
      rw [beginsCompound_of_isFramed (isFramed_append framed follow)]
      exact Bool.false_ne_true
    · cases found

/-! ## Putting texts together -/

theorem isCalm_append (calm : isCalm before reading first = true)
    (later : isCalm [] .code second = true) : isCalm before reading (first ++ second) = true := by
  induction first generalizing before reading with
  | nil =>
    obtain rfl : reading = .code := beq_iff_eq.mp calm
    rw [List.nil_append, isCalm_code before []]
    exact later
  | cons character rest ih =>
    rw [List.cons_append]
    exact isCalm_cons.mpr ⟨(isCalm_cons.mp calm).1, ih (isCalm_cons.mp calm).2⟩

theorem compoundsFrom_append (ends : reading.after first = .code)
    (plain : glance follow = (0, false)) (counts : Nat → Bool → Bool) :
    compoundsFrom counts reading (first ++ follow) =
      compoundsFrom counts reading first ++ compoundsFrom counts .code follow := by
  induction first generalizing reading with
  | nil =>
    obtain rfl : reading = .code := ends
    rfl
  | cons character rest ih =>
    rw [List.cons_append, compoundsFrom, compoundsFrom, ih ends,
      beginsCompound_congr (glance_append plain rest)]
    split <;> rfl

/-- A text is a frame with calm sources in it. -/
structure Inlines (text : Text) (sources : List Text) : Prop where
  /-- The text is calm. -/
  calm : isCalm [] .code text = true
  /-- Its compound assignments are those of the sources in order. -/
  compounds (counts : Nat → Bool → Bool) (follow : Text) :
    compoundsFrom counts .code (text ++ follow) =
      sources.flatMap (compoundsFrom counts .code) ++ compoundsFrom counts .code follow

namespace Inlines

variable {sources sources' : List Text}

theorem frame (found : through? .code text = some .code) : Inlines text [] where
  calm := isCalm_of_through? found
  compounds := compoundsFrom_of_through? found

theorem append (begins : Inlines first sources) (later : Inlines second sources') :
    Inlines (first ++ second) (sources ++ sources') where
  calm := isCalm_append begins.calm later.calm
  compounds counts follow := by
    rw [List.append_assoc, begins.compounds, later.compounds, List.flatMap_append,
      List.append_assoc]

/-- A calm source is inlined before a semicolon. -/
theorem source {inlined : Text} (calm : isCalm [] .code inlined = true)
    (later : Inlines (';' :: text) sources) :
    Inlines (inlined ++ ';' :: text) (inlined :: sources) where
  calm := isCalm_append calm later.calm
  compounds counts follow := by
    rw [List.append_assoc, compoundsFrom_append (after_of_isCalm calm) rfl, later.compounds,
      List.flatMap_cons, List.append_assoc]

theorem flatMap {items : List α} {piece : α → Text} {inlined : α → List Text}
    (each : ∀ item ∈ items, Inlines (piece item) (inlined item)) :
    Inlines (items.flatMap piece) (items.flatMap inlined) := by
  induction items with
  | nil => exact frame rfl
  | cons item rest ih =>
    rw [List.forall_mem_cons] at each
    rw [List.flatMap_cons, List.flatMap_cons]
    exact each.1.append (ih each.2)

theorem compoundsFrom_eq (inlines : Inlines text sources) (counts : Nat → Bool → Bool) :
    compoundsFrom counts .code text = sources.flatMap (compoundsFrom counts .code) := by
  have whole := inlines.compounds counts []
  rw [List.append_nil] at whole
  rw [whole]
  exact List.append_nil _

end Inlines

end Beanwright.Layout
