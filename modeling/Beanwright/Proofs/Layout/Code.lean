import Beanwright.Proofs.Layout.Balance
import Beanwright.Proofs.Layout.Breaking
import Beanwright.Proofs.Layout.Spacing

/-!
# Code in statements and blocks

Code is written as a tree of statements and blocks. Its compact text has no optional blanks at all;
its pretty lines have one statement, header or closing brace each, spaced and indented by depth,
with an empty line between a block and a header after it. Layout turns the one into the other.
-/

namespace Beanwright

open Layout Text

/-- Statements and blocks in order. -/
inductive Code where
  /-- Nothing more. -/
  | done
  /-- A statement without its semicolon. -/
  | statement (content : Text) (next : Code)
  /-- A block: a header and the code between braces. -/
  | block (header : Text) (body next : Code)

namespace Code

/-- The text of code in one line. -/
def compact : Code → Text
  | done => []
  | statement content next => content ++ ';' :: next.compact
  | block header body next => header ++ '{' :: (body.compact ++ '}' :: next.compact)

/-- The statements, headers and closing braces of code. -/
def broken : Code → List Text
  | done => []
  | statement content next => (content ++ [';']) :: next.broken
  | block header body next => (header ++ ['{']) :: (body.broken ++ ['}'] :: next.broken)

/-- Whether code begins with a block whose header asks for an empty line before it. -/
def beginsWithHeader : Code → Bool
  | block header _ _ => isHeader (header ++ ['{'])
  | _ => false

/-- The statements, headers and closing braces of code, with empty lines between blocks. -/
def separated : Code → List Text
  | done => []
  | statement content next => (content ++ [';']) :: next.separated
  | block header body next =>
    (header ++ ['{']) :: (body.separated ++ ['}'] ::
      ((if next.beginsWithHeader then [[]] else []) ++ next.separated))

/-- The lines of code, spaced and indented from a level on. -/
def pretty (indent : Indent) : (level : Nat) → Code → List Text
  | _, done => []
  | level, statement content next =>
    (indent.repeated level ++ spaceLine (content ++ [';'])) :: next.pretty indent level
  | level, block header body next =>
    (indent.repeated level ++ spaceLine (header ++ ['{'])) :: (body.pretty indent (level + 1) ++
      (indent.repeated level ++ ['}']) ::
        ((if next.beginsWithHeader then [[]] else []) ++ next.pretty indent level))

/-- Whether a character can stand inside a statement or a header. -/
def isContent (character : Char) : Bool := !isBoundary character && isInLine character

/-- Whether a text can be a statement or a header: it begins with a solid character and has no
boundary in it. -/
def isLeaf (text : Text) : Bool :=
  text.head?.any (fun first => !isBlank first) && text.all isContent

/-- A property holds of all statements and headers of code. -/
def All (holds : Text → Prop) : Code → Prop
  | done => True
  | statement content next => holds content ∧ next.All holds
  | block header body next => holds header ∧ body.All holds ∧ next.All holds

/-- All statements and headers of code can be such. -/
abbrev WellFormed (code : Code) : Prop := code.All fun text => isLeaf text = true

variable {text rest : Text} {boundary : Char} {code : Code}

theorem exists_cons_of_isLeaf (leaf : isLeaf text = true) :
    ∃ first others, text = first :: others ∧ isBlank first = false := by
  cases text with
  | nil => cases leaf
  | cons first others =>
    rw [isLeaf, Bool.and_eq_true] at leaf
    exact ⟨first, others, rfl, by simpa using leaf.1⟩

theorem all_isContent_of_isLeaf (leaf : isLeaf text = true) : text.all isContent = true := by
  rw [isLeaf, Bool.and_eq_true] at leaf
  exact leaf.2

theorem notMem_of_isLeaf (leaf : isLeaf text = true) (isEnd : isContent boundary = false) :
    boundary ∉ text := by
  intro member
  have content := List.all_eq_true.mp (all_isContent_of_isLeaf leaf) boundary member
  rw [isEnd] at content
  cases content

theorem isNoBrace_of_isContent {character : Char} (content : isContent character = true) :
    isNoBrace character = true := by
  rw [isNoBrace, Bool.and_eq_true, bne_iff_ne, bne_iff_ne]
  constructor <;> rintro rfl <;> exact absurd content (by decide)

theorem balanced_of_all_isContent (content : text.all isContent = true) : Balanced text := by
  apply balanced_of_noBrace
  rw [List.all_eq_true] at content ⊢
  exact fun character member => isNoBrace_of_isContent (content character member)

theorem balanced_of_isLeaf (leaf : isLeaf text = true) : Balanced text :=
  balanced_of_all_isContent (all_isContent_of_isLeaf leaf)

/-- Code is balanced if its statements and headers are. -/
theorem balanced_compact (balanced : code.All Balanced) : Balanced code.compact := by
  have semicolon : Balanced [';'] := balanced_of_noBrace rfl
  induction code with
  | done => exact balanced_of_noBrace rfl
  | statement content next ih =>
    rw [compact, ← List.singleton_append (l := next.compact)]
    exact balanced.1.append (semicolon.append (ih balanced.2))
  | block header body next ihBody ihNext =>
    obtain ⟨headerBalanced, bodyBalanced, nextBalanced⟩ := balanced
    have enclosed := (ihBody bodyBalanced).enclosed.append (ihNext nextBalanced)
    rw [List.append_assoc, List.singleton_append] at enclosed
    exact headerBalanced.append enclosed

theorem all_isInLine_of_isLeaf (leaf : isLeaf text = true) : text.all isInLine = true := by
  rw [List.all_eq_true]
  intro character member
  have content := List.all_eq_true.mp (all_isContent_of_isLeaf leaf) character member
  rw [isContent, Bool.and_eq_true] at content
  exact content.2

/-- Well-formed code fits in a line. -/
theorem all_isInLine_compact (formed : code.WellFormed) : code.compact.all isInLine = true := by
  induction code with
  | done => rfl
  | statement content next ih =>
    rw [compact, List.all_append, List.all_cons, all_isInLine_of_isLeaf formed.1, ih formed.2]
    rfl
  | block header body next ihBody ihNext =>
    rw [compact, List.all_append, List.all_cons, List.all_append, List.all_cons,
      all_isInLine_of_isLeaf formed.1, ihBody formed.2.1, ihNext formed.2.2]
    rfl

end Code

namespace Layout

open Code

variable {text rest : Text} {boundary : Char} {code : Code}

/-! ## Breaking -/

/-- The pieces of what follows a break, if anything does. -/
def piecesAfterBreak : Text → List Text
  | [] => []
  | first :: others => pieces true (first :: others)

/-- Whether what follows a break cannot be mistaken for blanks. -/
def Resumes (text : Text) : Prop := ∀ first ∈ text.head?, isBlank first = false

theorem trimStart_of_resumes (resumes : Resumes text) : trimStart text = text := by
  cases text with
  | nil => rfl
  | cons first others => exact trimStart_cons_of_not_isBlank (resumes first rfl) others

theorem pieces_true_of_resumes (resumes : Resumes text) : pieces true text = pieces false text := by
  rw [pieces_true, trimStart_of_resumes resumes]

/-- Content in front of a boundary is a piece with it, and what follows goes on as after a break. -/
theorem pieces_append_boundary (skipping : Bool) (content : text.all isContent = true)
    (isEnd : isBoundary boundary = true) (starts : Resumes (text ++ [boundary]))
    (resumes : Resumes rest) :
    pieces skipping (text ++ boundary :: rest) = (text ++ [boundary]) :: piecesAfterBreak rest := by
  have noBoundary : ∀ character ∈ text, isBoundary character = false := by
    intro character member
    have inner := List.all_eq_true.mp content character member
    rw [isContent, Bool.and_eq_true, Bool.not_eq_true'] at inner
    exact inner.1
  have broken : pieces false (text ++ boundary :: rest) =
      (text ++ [boundary]) :: piecesAfterBreak rest := by
    cases rest with
    | nil =>
      apply breakLine_eq_self
      rw [endsAtBoundary_append noBoundary isEnd]
      rfl
    | cons first others =>
      rw [piecesAfterBreak, pieces_true_of_resumes resumes]
      exact breakLine_append noBoundary isEnd List.all_nil (resumes first rfl) others
  cases skipping with
  | false => exact broken
  | true =>
    have whole : Resumes (text ++ boundary :: rest) := by
      cases text with
      | nil => exact starts
      | cons first others => exact starts
    rw [pieces_true_of_resumes whole, broken]

theorem resumes_of_isLeaf (leaf : isLeaf text = true) (rest : Text) : Resumes (text ++ rest) := by
  obtain ⟨first, others, rfl, solidFirst⟩ := exists_cons_of_isLeaf leaf
  rintro character ⟨⟩
  exact solidFirst

theorem resumes_compact_append (formed : code.WellFormed) (resumes : Resumes rest) :
    Resumes (code.compact ++ rest) := by
  cases code with
  | done => exact resumes
  | statement content next =>
    rw [compact, List.append_assoc]
    exact resumes_of_isLeaf formed.1 _
  | block header body next =>
    rw [compact, List.append_assoc]
    exact resumes_of_isLeaf formed.1 _

theorem resumes_closingBrace (rest : Text) : Resumes ('}' :: rest) := by
  rintro character ⟨⟩
  decide

theorem piecesAfterBreak_of_isLeaf (leaf : isLeaf text = true) (isEnd : isBoundary boundary = true)
    (resumes : Resumes rest) : piecesAfterBreak (text ++ boundary :: rest) =
      (text ++ [boundary]) :: piecesAfterBreak rest := by
  rw [← pieces_append_boundary true (all_isContent_of_isLeaf leaf) isEnd
    (resumes_of_isLeaf leaf _) resumes]
  obtain ⟨first, others, rfl, -⟩ := exists_cons_of_isLeaf leaf
  rfl

theorem piecesAfterBreak_closingBrace (resumes : Resumes rest) :
    piecesAfterBreak ('}' :: rest) = ['}'] :: piecesAfterBreak rest :=
  pieces_append_boundary true List.all_nil (by decide) (resumes_closingBrace _) resumes

/-- After a break, compact code falls into its statements, headers and closing braces. -/
theorem piecesAfterBreak_compact_append (formed : code.WellFormed) (resumes : Resumes rest) :
    piecesAfterBreak (code.compact ++ rest) = code.broken ++ piecesAfterBreak rest := by
  induction code generalizing rest with
  | done => rfl
  | statement content next ih =>
    rw [compact, broken, List.append_assoc, List.cons_append,
      piecesAfterBreak_of_isLeaf formed.1 (by decide) (resumes_compact_append formed.2 resumes),
      ih formed.2 resumes, List.cons_append]
  | block header body next ihBody ihNext =>
    obtain ⟨headerLeaf, bodyFormed, nextFormed⟩ := formed
    have later := resumes_compact_append nextFormed resumes
    rw [compact, broken, List.append_assoc, List.cons_append, List.append_assoc, List.cons_append,
      piecesAfterBreak_of_isLeaf headerLeaf (by decide)
        (resumes_compact_append bodyFormed (resumes_closingBrace _)),
      ihBody bodyFormed (resumes_closingBrace _), piecesAfterBreak_closingBrace later,
      ihNext nextFormed resumes, List.cons_append, List.append_assoc, List.cons_append]

/-- A line of compact code is broken into its statements, headers and closing braces. -/
theorem breakLine_compact (formed : code.WellFormed) (nonempty : code.compact ≠ []) :
    breakLine code.compact = code.broken := by
  have resumesNil : Resumes [] := by rintro character ⟨⟩
  have all := piecesAfterBreak_compact_append formed resumesNil
  have starts := resumes_compact_append formed resumesNil
  rw [List.append_nil] at all starts
  rw [breakLine, ← pieces_true_of_resumes starts]
  cases found : code.compact with
  | nil => exact absurd found nonempty
  | cons first others =>
    rw [found] at all
    simpa [piecesAfterBreak] using all

/-! ## Separating -/

theorem isHeader_eq_false (noBrace : '{' ∉ text) : isHeader text = false := by
  have closes (text : Text) (noBrace : '{' ∉ text) : closesIntoBlock text = false := by
    induction text with
    | nil => rfl
    | cons first others ih =>
      rw [List.mem_cons, not_or] at noBrace
      have goesOn : goesOnWith '{' others = false := by
        rw [goesOnWith, beq_eq_false_iff_ne]
        intro found
        exact noBrace.2 ((List.dropWhile_sublist isBlank).subset (List.mem_of_mem_head? found))
      rw [closesIntoBlock, goesOn, ih noBrace.2]
      simp
  have opens (text : Text) (noBrace : '{' ∉ text) : opensIntoBlock text = false := by
    rw [opensIntoBlock]
    split
    · next others found =>
      apply closes
      intro member
      apply noBrace
      apply (List.dropWhile_sublist isBlank).subset
      rw [trimStart] at found
      rw [found]
      exact List.mem_cons_of_mem _ member
    · rfl
  induction text with
  | nil => rfl
  | cons first others ih =>
    rw [List.mem_cons, not_or] at noBrace
    rw [isHeader, opens others noBrace.2, ih noBrace.2, Bool.and_false, Bool.or_false]

/-- Whether lines begin with a header. -/
def beginWithHeader (lines : List Text) : Bool := lines.head?.any isHeader

theorem separateBlocks_cons_of_notMem {line : Text} (noBrace : '}' ∉ line) (lines : List Text) :
    separateBlocks (line :: lines) = line :: separateBlocks lines := by
  cases lines with
  | nil => rfl
  | cons next rest => simp [separateBlocks, noBrace]

theorem separateBlocks_closingBrace (lines : List Text) :
    separateBlocks (['}'] :: lines) =
      ['}'] :: ((if beginWithHeader lines then [[]] else []) ++ separateBlocks lines) := by
  cases lines with
  | nil => rfl
  | cons next rest =>
    have closes : (['}'] : Text).contains '}' = true := rfl
    rw [separateBlocks, beginWithHeader, closes, Bool.true_and, List.head?_cons, Option.any_some]
    cases isHeader next <;> rfl

theorem beginWithHeader_broken_append (formed : code.WellFormed) {lines : List Text}
    (plain : beginWithHeader lines = false) :
    beginWithHeader (code.broken ++ lines) = code.beginsWithHeader := by
  cases code with
  | done => exact plain
  | statement content next =>
    apply isHeader_eq_false
    rw [List.mem_append, not_or]
    exact ⟨notMem_of_isLeaf formed.1 (by decide), by decide⟩
  | block header body next => rfl

/-- Separating follows the tree: an empty line stands between a block and a header after it. -/
theorem separateBlocks_broken_append (formed : code.WellFormed) {lines : List Text}
    (plain : beginWithHeader lines = false) :
    separateBlocks (code.broken ++ lines) = code.separated ++ separateBlocks lines := by
  have endedLeaf {text : Text} {ending : Char} (leaf : isLeaf text = true)
      (differs : '}' ≠ ending) : '}' ∉ text ++ [ending] := by
    rw [List.mem_append, not_or, List.mem_singleton]
    exact ⟨notMem_of_isLeaf leaf (by decide), differs⟩
  -- The lines that follow are general: for a body they begin with its closing brace.
  induction code generalizing lines with
  | done => rfl
  | statement content next ih =>
    rw [broken, separated, List.cons_append,
      separateBlocks_cons_of_notMem (endedLeaf formed.1 (by decide)), ih formed.2 plain,
      List.cons_append]
  | block header body next ihBody ihNext =>
    obtain ⟨headerLeaf, bodyFormed, nextFormed⟩ := formed
    have plainClosing : beginWithHeader (['}'] :: (next.broken ++ lines)) = false := by
      rw [beginWithHeader, List.head?_cons, Option.any_some]
      exact isHeader_eq_false (by decide)
    rw [broken, separated, List.cons_append, List.append_assoc, List.cons_append,
      separateBlocks_cons_of_notMem (endedLeaf headerLeaf (by decide)),
      ihBody bodyFormed plainClosing, separateBlocks_closingBrace,
      beginWithHeader_broken_append nextFormed plain, ihNext nextFormed plain]
    simp only [List.cons_append, List.append_assoc]

/-! ## Nesting -/

/-- Nested lines with more lines before them. -/
def precededBy (lines : List Text) (nested : List Text × Nat) : List Text × Nat :=
  (lines ++ nested.1, nested.2)

theorem precededBy_append (first second : List Text) (nested : List Text × Nat) :
    precededBy (first ++ second) nested = precededBy first (precededBy second nested) := by
  simp [precededBy]

/-- A line that begins with a solid character is placed as it is. -/
theorem nestFrom_cons_of_resumes (indent : Indent) (level : Nat) (resumes : Resumes text)
    (nonempty : text ≠ []) (lines : List Text) :
    nestFrom indent level (text :: lines) =
      precededBy [indent.repeated (levelOf level text) ++ text]
        (nestFrom indent (levelAfter level text) lines) := by
  have notEmpty : text.isEmpty = false := by simpa using nonempty
  rw [nestFrom, trimStart_of_resumes resumes, notEmpty]
  rfl

theorem nestFrom_empty (indent : Indent) (level : Nat) (lines : List Text) :
    nestFrom indent level ([] :: lines) = precededBy [[]] (nestFrom indent level lines) := rfl

theorem nestFrom_closingBrace (indent : Indent) (level : Nat) (lines : List Text) :
    nestFrom indent (level + 1) (['}'] :: lines) =
      precededBy [indent.repeated level ++ ['}']] (nestFrom indent level lines) :=
  nestFrom_cons_of_resumes indent (level + 1) (resumes_closingBrace []) (by decide) lines

theorem contains_spaceLine {character : Char} (isSolid : isBlank character = false) (line : Text) :
    (spaceLine line).contains character = line.contains character := by
  rw [Bool.eq_iff_iff, List.contains_iff_mem, List.contains_iff_mem]
  have sameSolid := solid_spaceLine line
  constructor
  · intro member
    have inSolid := mem_solid_iff.mpr ⟨member, isSolid⟩
    rw [sameSolid] at inSolid
    exact (mem_solid_iff.mp inSolid).1
  · intro member
    have inSolid := mem_solid_iff.mpr ⟨member, isSolid⟩
    rw [← sameSolid] at inSolid
    exact (mem_solid_iff.mp inSolid).1

/-- A spaced statement or header is placed as it is, and a header opens a block. -/
theorem nestFrom_spaceLine (indent : Indent) (level : Nat) (leaf : isLeaf text = true)
    {ending : Char} (differs : '}' ≠ ending) (lines : List Text) :
    nestFrom indent level (spaceLine (text ++ [ending]) :: lines) =
      precededBy [indent.repeated level ++ spaceLine (text ++ [ending])]
        (nestFrom indent (if ending = '{' then level + 1 else level) lines) := by
  obtain ⟨first, others, textEq, solidFirst⟩ := exists_cons_of_isLeaf leaf
  have head := head?_spaceLine solidFirst (others ++ [ending])
  rw [← List.cons_append, ← textEq] at head
  have resumes : Resumes (spaceLine (text ++ [ending])) := by
    intro character member
    rw [head] at member
    cases member
    exact solidFirst
  have nonempty : spaceLine (text ++ [ending]) ≠ [] := by
    intro empty
    rw [empty] at head
    cases head
  have noClosing : (text ++ [ending]).contains '}' = false := by
    rw [List.contains_eq_mem, decide_eq_false_iff_not, List.mem_append, not_or, List.mem_singleton]
    exact ⟨notMem_of_isLeaf leaf (by decide), differs⟩
  have opening : (text ++ [ending]).contains '{' = decide (ending = '{') := by
    rw [Bool.eq_iff_iff, List.contains_iff_mem, decide_eq_true_iff, List.mem_append,
      List.mem_singleton]
    constructor
    · rintro (member | equal)
      · exact absurd member (notMem_of_isLeaf leaf (by decide))
      · exact equal.symm
    · exact fun equal => .inr equal.symm
  rw [nestFrom_cons_of_resumes indent level resumes nonempty, levelOf, levelAfter,
    contains_spaceLine (by decide), contains_spaceLine (by decide), noClosing, opening]
  simp only [Bool.false_eq_true, if_false, decide_eq_true_eq]

/-- Nesting follows the tree: the lines of code are its pretty lines. -/
theorem nestFrom_separated_append (indent : Indent) (level : Nat) (formed : code.WellFormed)
    (lines : List Text) :
    nestFrom indent level (code.separated.map spaceLine ++ lines) =
      precededBy (code.pretty indent level) (nestFrom indent level lines) := by
  have spacedClosing : spaceLine ['}'] = ['}'] := by decide
  have emptyLine (condition : Bool) (level : Nat) (lines : List Text) :
      nestFrom indent level ((if condition then [[]] else []).map spaceLine ++ lines) =
        precededBy (if condition then [[]] else []) (nestFrom indent level lines) := by
    cases condition
    · rfl
    · exact nestFrom_empty indent level lines
  -- The level is general, since a body is one level deeper and its closing brace leads back.
  induction code generalizing level lines with
  | done => rfl
  | statement content next ih =>
    rw [separated, List.map_cons, List.cons_append, nestFrom_spaceLine indent level formed.1
      (by decide), if_neg (by decide), ih level formed.2, ← precededBy_append]
    rfl
  | block header body next ihBody ihNext =>
    obtain ⟨headerLeaf, bodyFormed, nextFormed⟩ := formed
    rw [separated, List.map_cons, List.map_append, List.map_cons, List.map_append, List.cons_append,
      List.append_assoc, List.cons_append, List.append_assoc,
      nestFrom_spaceLine indent level headerLeaf (by decide), if_pos rfl,
      ihBody (level + 1) bodyFormed, spacedClosing, nestFrom_closingBrace, emptyLine,
      ihNext level nextFormed, pretty]
    simp only [← precededBy_append, List.cons_append, List.nil_append]

end Layout

end Beanwright
