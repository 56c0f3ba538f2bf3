import Mathlib.Data.Set.Card
import Beanwright.Proofs.Layout.Balance
import Beanwright.Proofs.Layout.Separated

/-!
# Indentation and open blocks

Indentation counts lines that hold braces, not braces, and its level stops at zero. Both are right
because breaking leaves at most one brace in a line, and because a stack that ignores a closing
brace without an opener stops at zero as well: before every line, and after the last one, the level
is the height of the stack of openers. What stays on that stack at the end are the openers that no
later brace closes.
-/

namespace Beanwright.Layout

open Text

variable {character : Char} {text line : Text} {lines : List Text} {indent : Indent}
  {position level : Nat} {stack : List Nat}

/-! ## Depths, step by step -/

/-- A character is an opening brace, a closing brace, or none of the two. -/
theorem brace_cases (character : Char) :
    character = '{' ∨ character = '}' ∨ (character ≠ '{' ∧ character ≠ '}') := by
  by_cases opens : character = '{'
  · exact .inl opens
  · by_cases closes : character = '}'
    · exact .inr (.inl closes)
    · exact .inr (.inr ⟨opens, closes⟩)

@[simp] theorem depthAfter?_opening (depth : Nat) (rest : Text) :
    depthAfter? depth ('{' :: rest) = depthAfter? (depth + 1) rest := by
  rw [depthAfter?.eq_def]
  rfl

@[simp] theorem depthAfter?_closing_zero (rest : Text) : depthAfter? 0 ('}' :: rest) = none := rfl

@[simp] theorem depthAfter?_closing_succ (depth : Nat) (rest : Text) :
    depthAfter? (depth + 1) ('}' :: rest) = depthAfter? depth rest := rfl

theorem depthAfter?_cons_of_ne (opens : character ≠ '{') (closes : character ≠ '}') (depth : Nat)
    (rest : Text) : depthAfter? depth (character :: rest) = depthAfter? depth rest := by
  rw [depthAfter?.eq_def]
  dsimp only
  rw [if_neg opens, if_neg closes]

/-- A walk fails at a closing brace before which nothing is open. -/
theorem depthAfter?_eq_none_iff (depth : Nat) (text : Text) :
    depthAfter? depth text = none ↔
      ∃ read rest, text = read ++ '}' :: rest ∧ depthAfter? depth read = some 0 := by
  constructor
  · intro fails
    induction text generalizing depth with
    | nil => cases fails
    | cons character rest ih =>
      rcases brace_cases character with rfl | rfl | ⟨opens, closes⟩
      · rw [depthAfter?_opening] at fails
        obtain ⟨read, after, rfl, ended⟩ := ih _ fails
        exact ⟨'{' :: read, after, rfl, by rw [depthAfter?_opening, ended]⟩
      · cases depth with
        | zero => exact ⟨[], rest, rfl, rfl⟩
        | succ depth =>
          rw [depthAfter?_closing_succ] at fails
          obtain ⟨read, after, rfl, ended⟩ := ih _ fails
          exact ⟨'}' :: read, after, rfl, by rw [depthAfter?_closing_succ, ended]⟩
      · rw [depthAfter?_cons_of_ne opens closes] at fails
        obtain ⟨read, after, rfl, ended⟩ := ih _ fails
        exact ⟨character :: read, after, rfl, by rw [depthAfter?_cons_of_ne opens closes, ended]⟩
  · rintro ⟨read, rest, rfl, ended⟩
    rw [depthAfter?_append, ended]
    rfl

/-! ## The stack of openers -/

/-- The stack of openers after one more character, which stands at a position. A closing brace takes
the last opener away, and nothing if there is none. -/
def stackNext (position : Nat) (stack : List Nat) (character : Char) : List Nat :=
  if character = '{' then position :: stack
  else if character = '}' then stack.tail
  else stack

/-- The stack of openers after a text that begins at a position. -/
def openersFrom : (position : Nat) → (stack : List Nat) → Text → List Nat
  | _, stack, [] => stack
  | position, stack, character :: rest =>
    openersFrom (position + 1) (stackNext position stack character) rest

/-- The positions of the opening braces of a text that are still open at its end, the last one
first. -/
def openers (text : Text) : List Nat := openersFrom 0 [] text

/-- The number of open blocks after one more character. -/
def levelNext (level : Nat) (character : Char) : Nat :=
  if character = '{' then level + 1
  else if character = '}' then level - 1
  else level

theorem levelNext_of_ne (opens : character ≠ '{') (closes : character ≠ '}') (level : Nat) :
    levelNext level character = level := by
  rw [levelNext, if_neg opens, if_neg closes]

theorem length_openersFrom (position : Nat) (stack : List Nat) (text : Text) :
    (openersFrom position stack text).length = text.foldl levelNext stack.length := by
  have step (position : Nat) (stack : List Nat) (character : Char) :
      (stackNext position stack character).length = levelNext stack.length character := by
    rw [stackNext, levelNext]
    split
    · rfl
    · split
      · exact List.length_tail
      · rfl
  induction text generalizing position stack with
  | nil => rfl
  | cons character rest ih => rw [openersFrom, ih, step, List.foldl_cons]

/-- The height of the stack is a level that stops at zero. -/
theorem length_openers (text : Text) : (openers text).length = text.foldl levelNext 0 :=
  length_openersFrom 0 [] text

/-- Blanks open and close nothing. -/
theorem foldl_levelNext_solid (level : Nat) (text : Text) :
    (solid text).foldl levelNext level = text.foldl levelNext level := by
  rw [solid, List.foldl_filter]
  congr 1
  funext level character
  split
  · rfl
  · next blank =>
    rw [Bool.not_eq_true, Bool.not_eq_false'] at blank
    refine (levelNext_of_ne ?_ ?_ level).symm
    · rintro rfl
      exact absurd blank (by decide)
    · rintro rfl
      exact absurd blank (by decide)

theorem foldl_levelNext_congr {first second : Text} (same : solid first = solid second)
    (level : Nat) : first.foldl levelNext level = second.foldl levelNext level := by
  rw [← foldl_levelNext_solid, same, foldl_levelNext_solid]

/-- Where a walk does not fail, it counts the open blocks. -/
theorem foldl_levelNext_of_depthAfter? {depth result : Nat}
    (walked : depthAfter? depth text = some result) : text.foldl levelNext depth = result := by
  induction text generalizing depth with
  | nil => exact Option.some.inj walked
  | cons character rest ih =>
    rw [List.foldl_cons]
    rcases brace_cases character with rfl | rfl | ⟨opens, closes⟩
    · exact ih walked
    · cases depth with
      | zero => cases walked
      | succ depth => exact ih walked
    · rw [levelNext_of_ne opens closes]
      exact ih (by rwa [depthAfter?_cons_of_ne opens closes] at walked)

/-! ## Openers that are never closed -/

/-- A later brace closes the block in which a text begins: up to that brace the text is balanced. -/
def ClosedIn (text : Text) : Prop := ∃ inner rest, text = inner ++ '}' :: rest ∧ Balanced inner

theorem closedIn_iff (text : Text) : ClosedIn text ↔ depthAfter? 0 text = none := by
  simp only [ClosedIn, balanced_iff, depthAfter?_eq_none_iff]

/-- At a position of a text stands an opening brace that no later brace closes. -/
def Unclosed (text : Text) (position : Nat) : Prop :=
  ∃ before rest, text = before ++ '{' :: rest ∧ before.length = position ∧ ¬ClosedIn rest

/-- An unclosed opener is the first character of a text, or one of the rest. -/
theorem unclosed_cons_iff (character : Char) (rest : Text) (position : Nat) :
    Unclosed (character :: rest) position ↔
      (position = 0 ∧ character = '{' ∧ ¬ClosedIn rest) ∨
        ∃ earlier, position = earlier + 1 ∧ Unclosed rest earlier := by
  constructor
  · rintro ⟨before, after, equal, rfl, unclosed⟩
    cases before with
    | nil =>
      obtain ⟨rfl, rfl⟩ := List.cons.inj equal
      exact .inl ⟨rfl, rfl, unclosed⟩
    | cons first before =>
      obtain ⟨-, rfl⟩ := List.cons.inj equal
      exact .inr ⟨before.length, rfl, before, after, rfl, rfl, unclosed⟩
  · rintro (⟨rfl, rfl, unclosed⟩ | ⟨_, rfl, before, after, rfl, rfl, unclosed⟩)
    · exact ⟨[], rest, rfl, rfl, unclosed⟩
    · exact ⟨character :: before, after, rfl, rfl, unclosed⟩

/-- A text leaves a position on a stack: it does not close that block with all that are above
it. -/
def LeavesOn (text : Text) (stack : List Nat) (position : Nat) : Prop :=
  ∃ above, stack[above]? = some position ∧ depthAfter? above text ≠ none

theorem leavesOn_nil (stack : List Nat) (position : Nat) :
    LeavesOn [] stack position ↔ position ∈ stack := by
  simp [LeavesOn, depthAfter?, List.mem_iff_getElem?]

/-- An opener is on top of the stack before the rest of the text. -/
theorem leavesOn_opening (top : Nat) (stack : List Nat) (rest : Text) (position : Nat) :
    LeavesOn rest (top :: stack) position ↔
      (position = top ∧ ¬ClosedIn rest) ∨ LeavesOn ('{' :: rest) stack position := by
  rw [closedIn_iff]
  constructor
  · rintro ⟨above, found, survives⟩
    cases above with
    | zero => exact .inl ⟨(Option.some.inj found).symm, survives⟩
    | succ above => exact .inr ⟨above, found, by rwa [depthAfter?_opening]⟩
  · rintro (⟨rfl, survives⟩ | ⟨above, found, survives⟩)
    · exact ⟨0, rfl, survives⟩
    · exact ⟨above + 1, found, by rwa [depthAfter?_opening] at survives⟩

/-- A closing brace takes away the opener that has nothing above it. -/
theorem leavesOn_closing (stack : List Nat) (rest : Text) (position : Nat) :
    LeavesOn rest stack.tail position ↔ LeavesOn ('}' :: rest) stack position := by
  constructor
  · rintro ⟨above, found, survives⟩
    rw [List.getElem?_tail] at found
    exact ⟨above + 1, found, survives⟩
  · rintro ⟨above, found, survives⟩
    cases above with
    | zero => exact absurd rfl survives
    | succ above => exact ⟨above, by rw [List.getElem?_tail, found], survives⟩

/-- What a text leaves on the stack after its first character is that character, if it is an opener
that is never closed, and what the text leaves of the stack before. -/
theorem leavesOn_stackNext (start : Nat) (stack : List Nat) (character : Char) (rest : Text)
    (position : Nat) : LeavesOn rest (stackNext start stack character) position ↔
      (position = start ∧ character = '{' ∧ ¬ClosedIn rest) ∨
        LeavesOn (character :: rest) stack position := by
  rcases brace_cases character with rfl | rfl | ⟨opens, closes⟩
  · rw [eq_self, true_and]
    exact leavesOn_opening start stack rest position
  · have differs : '}' ≠ '{' := by decide
    simp only [differs, false_and, and_false, false_or]
    exact leavesOn_closing stack rest position
  · simp only [stackNext, LeavesOn, opens, closes, if_false, false_and, and_false, false_or,
      depthAfter?_cons_of_ne opens closes]

/-- What is on the stack after a text: the openers of the text that are never closed, and what the
text leaves of the stack before. -/
theorem mem_openersFrom_iff (start position : Nat) (stack : List Nat) (text : Text) :
    position ∈ openersFrom start stack text ↔
      (∃ offset, position = start + offset ∧ Unclosed text offset) ∨
        LeavesOn text stack position := by
  induction text generalizing start stack with
  | nil =>
    have nothing (offset : Nat) : ¬Unclosed [] offset := by
      rintro ⟨before, rest, equal, -, -⟩
      cases before <;> cases equal
    simp [openersFrom, nothing, leavesOn_nil]
  | cons character rest ih =>
    have first : (∃ offset, position = start + offset ∧ Unclosed (character :: rest) offset) ↔
        (position = start ∧ character = '{' ∧ ¬ClosedIn rest) ∨
          ∃ offset, position = start + 1 + offset ∧ Unclosed rest offset := by
      simp only [unclosed_cons_iff]
      constructor
      · rintro ⟨_, rfl, ⟨rfl, opens, unclosed⟩ | ⟨earlier, rfl, unclosed⟩⟩
        · exact .inl ⟨rfl, opens, unclosed⟩
        · exact .inr ⟨earlier, by omega, unclosed⟩
      · rintro (⟨rfl, opens, unclosed⟩ | ⟨offset, rfl, unclosed⟩)
        · exact ⟨0, rfl, .inl ⟨rfl, opens, unclosed⟩⟩
        · exact ⟨offset + 1, by omega, .inr ⟨offset, rfl, unclosed⟩⟩
    rw [openersFrom, ih, leavesOn_stackNext, first, or_assoc, or_left_comm]

/-- The openers on the stack are the ones that no later brace closes. -/
theorem mem_openers_iff (text : Text) (position : Nat) :
    position ∈ openers text ↔ Unclosed text position := by
  simp [openers, mem_openersFrom_iff, LeavesOn]

-- The second closing brace closes nothing, and the last opener but one stays open.
example : openers "a\x7b\x7d\x7d\x7b\x7bb\x7d".toList = [4] := by decide

theorem openersFrom_pairwise {start : Nat} (sorted : stack.Pairwise (· > ·))
    (earlier : ∀ position ∈ stack, position < start) (text : Text) :
    (openersFrom start stack text).Pairwise (· > ·) := by
  induction text generalizing start stack with
  | nil => exact sorted
  | cons character rest ih =>
    have later : ∀ position ∈ stack, position < start + 1 := fun position inStack =>
      Nat.lt_succ_of_lt (earlier position inStack)
    rcases brace_cases character with rfl | rfl | ⟨opens, closes⟩
    · exact ih (List.pairwise_cons.mpr ⟨earlier, sorted⟩)
        (List.forall_mem_cons.mpr ⟨Nat.lt_succ_self start, later⟩)
    · exact ih sorted.tail fun position inTail => later position (List.mem_of_mem_tail inTail)
    · rw [openersFrom, stackNext, if_neg opens, if_neg closes]
      exact ih sorted later

theorem nodup_openers (text : Text) : (openers text).Nodup :=
  (openersFrom_pairwise List.Pairwise.nil (List.forall_mem_nil _) text).imp Nat.ne_of_gt

/-- The height of the stack is the number of openers that no later brace closes. -/
theorem length_openers_eq_ncard (text : Text) :
    (openers text).length = {position | Unclosed text position}.ncard := by
  have same : {position | Unclosed text position} = ((openers text).toFinset : Set Nat) := by
    ext position
    simp [mem_openers_iff]
  rw [same, Set.ncard_coe_finset, List.toFinset_card_of_nodup (nodup_openers text)]

/-! ## Levels of lines -/

/-- A line that ends at its first boundary holds at most one brace, so that the level after the line
is the one after its characters. -/
theorem levelAfter_eq (ends : endsAtBoundary line = true) (level : Nat) :
    levelAfter level line = line.foldl levelNext level := by
  induction line with
  | nil => rfl
  | cons character rest ih =>
    rw [endsAtBoundary] at ends
    split at ends
    · next boundary =>
      have noOpener : '{' ∉ rest := fun inRest =>
        absurd (List.all_eq_true.mp ends _ inRest) (by decide)
      have noCloser : '}' ∉ rest := fun inRest =>
        absurd (List.all_eq_true.mp ends _ inRest) (by decide)
      have blankRest (level : Nat) : rest.foldl levelNext level = level := by
        rw [← foldl_levelNext_solid, solid_eq_nil_iff.mpr ends, List.foldl_nil]
      rw [List.foldl_cons, blankRest]
      simp only [isBoundary, Bool.or_eq_true, beq_iff_eq] at boundary
      rcases boundary with (rfl | rfl) | rfl <;>
        simp [levelAfter, levelNext, noOpener, noCloser]
    · next inner =>
      have opens : character ≠ '{' := by
        rintro rfl
        exact inner rfl
      have closes : character ≠ '}' := by
        rintro rfl
        exact inner rfl
      rw [List.foldl_cons, levelNext_of_ne opens closes, ← ih ends]
      simp [levelAfter, opens.symm, closes.symm]

theorem levelAfter_trimStart (ends : endsAtBoundary line = true) (level : Nat) :
    levelAfter level (trimStart line) = line.foldl levelNext level := by
  have trimmedEnds : endsAtBoundary (trimStart line) = true := by
    rw [← endsAtBoundary_solid, solid_trimStart, endsAtBoundary_solid, ends]
  rw [levelAfter_eq trimmedEnds, foldl_levelNext_congr (solid_trimStart line)]

/-- A line with its indentation, when some blocks are open before it. -/
def placed (indent : Indent) (level : Nat) (line : Text) : Text :=
  if (trimStart line).isEmpty then []
  else indent.repeated (levelOf level (trimStart line)) ++ trimStart line

theorem nestFrom_cons (indent : Indent) (level : Nat) (line : Text) (rest : List Text) :
    nestFrom indent level (line :: rest) =
      (placed indent level line :: (nestFrom indent (levelAfter level (trimStart line)) rest).1,
        (nestFrom indent (levelAfter level (trimStart line)) rest).2) := rfl

theorem solid_placed (indent : Indent) (level : Nat) (line : Text) :
    solid (placed indent level line) = solid line := by
  rw [placed, ← solid_trimStart line]
  cases trimStart line with
  | nil => rfl
  | cons first rest =>
    rw [if_neg (by simp), solid_append, solid_eq_nil_iff.mpr (isBlankText_repeated indent _),
      List.nil_append]

/-- Indentation keeps the solid part of every line. -/
theorem forall₂_solid_nestFrom (indent : Indent) (level : Nat) (lines : List Text) :
    List.Forall₂ (fun line other => solid other = solid line) lines
      (nestFrom indent level lines).1 := by
  induction lines generalizing level with
  | nil => exact .nil
  | cons line rest ih => exact .cons (solid_placed indent level line) (ih _)

/-- The level after lines is the one after all their characters. -/
theorem residual_nestFrom (ends : ∀ line ∈ lines, endsAtBoundary line = true) (indent : Indent)
    (level : Nat) : (nestFrom indent level lines).2 = lines.flatten.foldl levelNext level := by
  induction lines generalizing level with
  | nil => rfl
  | cons line rest ih =>
    rw [List.forall_mem_cons] at ends
    rw [nestFrom_cons, ih ends.2, List.flatten_cons, List.foldl_append,
      levelAfter_trimStart ends.1]

/-! ## Indented lines -/

/-- A line is empty, or a solid character follows its indentation, which is as deep as blocks are
open before the line, or after it if it closes one. -/
def Indented (indent : Indent) (openBefore openAfter : Nat) (line : Text) : Prop :=
  line = [] ∨ ∃ first rest, isBlank first = false ∧
    line = indent.repeated (if '}' ∈ line then openAfter else openBefore) ++ first :: rest

/-- An indented line of blanks is empty. -/
theorem Indented.eq_nil {openBefore openAfter : Nat}
    (indented : Indented indent openBefore openAfter line) (blank : isBlankText line = true) :
    line = [] := by
  rcases indented with rfl | ⟨first, rest, isSolid, equal⟩
  · rfl
  · rw [equal, isBlankText_append, Bool.and_eq_true] at blank
    have firstBlank := List.all_eq_true.mp blank.2 first List.mem_cons_self
    rw [isSolid] at firstBlank
    cases firstBlank

theorem indented_placed (ends : endsAtBoundary line = true) (indent : Indent) (level : Nat) :
    Indented indent level (line.foldl levelNext level) (placed indent level line) := by
  rw [placed]
  cases content : trimStart line with
  | nil => exact .inl rfl
  | cons first rest =>
    have isSolid : isBlank first = false := by
      have head := head?_trimStart line
      rw [content, List.head?_cons] at head
      exact (mem_solid_iff.mp (List.mem_of_mem_head? head.symm)).2
    have noCloser (level : Nat) : '}' ∉ indent.repeated level := fun inIndentation =>
      absurd (List.all_eq_true.mp (all_isIndentation_repeated indent level) _ inIndentation)
        (by decide)
    refine .inr ⟨first, rest, isSolid, ?_⟩
    simp only [List.isEmpty_cons, Bool.false_eq_true, if_false, List.mem_append, noCloser, false_or]
    rw [levelOf, ← content, levelAfter_trimStart ends]
    simp only [List.contains_iff_mem]

/-- Every line is indented by the blocks that are open where it stands. -/
theorem indented_of_nestFrom_eq {before after : List Text}
    (ends : ∀ line ∈ lines, endsAtBoundary line = true)
    (cut : (nestFrom indent level lines).1 = before ++ line :: after) :
    Indented indent (before.flatten.foldl levelNext level)
      ((before.flatten ++ line).foldl levelNext level) line := by
  induction lines generalizing level before with
  | nil => cases before <;> cases cut
  | cons first rest ih =>
    rw [List.forall_mem_cons] at ends
    rw [nestFrom_cons] at cut
    have sameLevel := foldl_levelNext_congr (solid_placed indent level first) level
    cases before with
    | nil =>
      obtain ⟨rfl, -⟩ := List.cons.inj cut
      rw [List.flatten_nil, List.nil_append, List.foldl_nil, sameLevel]
      exact indented_placed ends.1 indent level
    | cons other before =>
      obtain ⟨rfl, later⟩ := List.cons.inj cut
      have indented := ih ends.2 later
      rwa [levelAfter_trimStart ends.1, ← sameLevel, ← List.foldl_append, ← List.foldl_append,
        ← List.append_assoc, ← List.flatten_cons] at indented

/-! ## Texts -/

/-- Lines of a shape are broken. -/
theorem endsAtBoundary_of_mem_shape (member : line ∈ shape text) : endsAtBoundary line = true := by
  have signed {lines : List Text} (ends : ∀ line ∈ lines, endsAtBoundary line = true) :
      ∀ line ∈ spaceSignatures lines, endsAtBoundary line = true := by
    induction lines with
    | nil => exact List.forall_mem_nil _
    | cons first rest ih =>
      rw [List.forall_mem_cons] at ends
      rw [spaceSignatures]
      split
      · next spaced found =>
        rw [List.forall_mem_cons, ← endsAtBoundary_solid, solid_spaceSignature? found,
          endsAtBoundary_solid]
        exact ends
      · exact List.forall_mem_cons.mpr ⟨ends.1, ih ends.2⟩
  have separated : ∀ line ∈ separateBlocks (breakLines (Text.lines text)),
      endsAtBoundary line = true := by
    intro line member
    rcases mem_separateBlocks member with rfl | inBroken
    · rfl
    · exact endsAtBoundary_of_mem_breakLines inBroken
  obtain ⟨origin, inOrigins, rfl⟩ := List.mem_map.mp member
  rw [← endsAtBoundary_solid, solid_spaceLine, endsAtBoundary_solid]
  exact signed separated origin inOrigins

/-- The blocks that the layout of a text leaves open are the openers on the stack. -/
theorem residual_nest_shape (indent : Indent) (text : Text) :
    (nest indent (shape text)).2 = (openers text).length := by
  rw [nest, residual_nestFrom (fun line member => endsAtBoundary_of_mem_shape member),
    length_openers, foldl_levelNext_congr (solid_shape text)]

theorem solid_nest_shape (indent : Indent) (text : Text) :
    solid (nest indent (shape text)).1.flatten = solid text := by
  rw [nest, solid_nestFrom, solid_shape]

/-- Texts with the same solid part are cut at corresponding places. -/
theorem exists_append_of_solid_eq {first second : Text}
    (same : solid text = solid first ++ solid second) :
    ∃ start rest, text = start ++ rest ∧ solid start = solid first ∧ solid rest = solid second :=
  List.filter_eq_append_iff.mp same

/-- Every line stands as deep as its blocks are open. The lines of a text that is laid out are
pieces of the text, blanks apart, in order; each is empty or indented by the height of the stack of
openers before its piece, or after it if the piece closes a block. What stays on the stack at the
end are the openers that no later brace closes, whether or not there are braces that close none. -/
theorem indentation_matches (indent : Indent) (text : Text) :
    ∃ draft, run ⟨indent, false⟩ text = .ok draft ∧
      (∀ before line after, draft.lines = before ++ line :: after →
        (isBlankText line = true → line = []) ∧
        ∃ read piece rest, text = read ++ piece ++ rest ∧
          solid read = solid before.flatten ∧ solid piece = solid line ∧
          solid rest = solid after.flatten ∧
          Indented indent (openers read).length (openers (read ++ piece)).length line) ∧
      draft.residual = (openers text).length ∧
      draft.residual = {position | Unclosed text position}.ncard ∧
      ((∀ position, ¬Unclosed text position) → draft.residual = 0) := by
  have residual := residual_nest_shape indent text
  refine ⟨_, run_eq_of_lenient indent text, fun before line after cut => ?_, residual,
    residual.trans (length_openers_eq_ncard text), fun allClosed => ?_⟩
  · have indented := indented_of_nestFrom_eq
      (fun line member => endsAtBoundary_of_mem_shape member) cut
    refine ⟨indented.eq_nil, ?_⟩
    have whole : solid text = solid before.flatten ++ solid (line ++ after.flatten) := by
      have kept := solid_nest_shape indent text
      change (nest indent (shape text)).1 = _ at cut
      rw [cut, List.flatten_append, List.flatten_cons, solid_append] at kept
      exact kept.symm
    obtain ⟨read, later, rfl, sameRead, sameLater⟩ := exists_append_of_solid_eq whole
    rw [solid_append] at sameLater
    obtain ⟨piece, rest, rfl, samePiece, sameRest⟩ := exists_append_of_solid_eq sameLater
    refine ⟨read, piece, rest, (List.append_assoc ..).symm, sameRead, samePiece, sameRest, ?_⟩
    have sameBoth : solid (read ++ piece) = solid (before.flatten ++ line) := by
      rw [solid_append, solid_append, sameRead, samePiece]
    rw [length_openers, length_openers, foldl_levelNext_congr sameRead,
      foldl_levelNext_congr sameBoth]
    exact indented
  · change (nest indent (shape text)).2 = 0
    rw [residual, List.length_eq_zero_iff, List.eq_nil_iff_forall_not_mem]
    exact fun position onStack => allClosed position ((mem_openers_iff text position).mp onStack)

end Beanwright.Layout
