import Beanwright.Proofs.Layout.Separated
import Beanwright.Proofs.Layout.Tokens

/-!
# What the rules keep of calm texts

In a calm text the characters that the rules react to stand in code. So every break and every blank
that a rule makes or drops is in code, and the tokens stay. Only the spacing of operators parts
compound assignments, and it keeps together those whose equals signs are no operator.
-/

namespace Beanwright.Layout

open Text

variable {before : Text} {reading : Reading} {character : Char} {rest text : Text}
  {ls : List Text} {counts : Nat → Bool → Bool}

/-! ## Cutting -/

/-- The tokens of lines, of which the first is read from a given reading and all others in code. -/
def tokensOfLines (counts : Nat → Bool → Bool) (reading : Reading) :
    List Text → List (Char × Bool)
  | [] => []
  | first :: others => tokens counts reading first ++ others.flatMap (tokens counts .code)

/-- Whether lines are calm, of which the first is read from a given reading. -/
def AreCalm (before : Text) (reading : Reading) : List Text → Prop
  | [] => reading = .code
  | first :: others =>
    isCalm before reading first = true ∧ ∀ line ∈ others, isCalm [] .code line = true

/-- What the first of some lines begins with. -/
def glanceOfLines : List Text → Nat × Bool
  | [] => (0, false)
  | first :: _ => glance first

/-- Lines with a character before the first one. -/
def addToFirst (character : Char) : List Text → List Text
  | [] => [[character]]
  | first :: others => (character :: first) :: others

/-- Lines that a calm text is cut into: they have its tokens, and they are calm. -/
structure Cut (before : Text) (reading : Reading) (text : Text) (ls : List Text) : Prop where
  /-- The tokens are those of the text. -/
  tokens (counts : Nat → Bool → Bool) :
    tokensOfLines counts reading ls = Layout.tokens counts reading text
  /-- The lines are calm. -/
  calm : AreCalm before reading ls
  /-- The first line begins as the text does. -/
  glance : glanceOfLines ls = Layout.glance text

theorem tokensOfLines_code (counts : Nat → Bool → Bool) (ls : List Text) :
    tokensOfLines counts .code ls = ls.flatMap (tokens counts .code) := by
  cases ls <;> rfl

theorem areCalm_code_iff :
    AreCalm before .code ls ↔ ∀ line ∈ ls, isCalm [] .code line = true := by
  cases ls with
  | nil => simp [AreCalm]
  | cons first others => rw [AreCalm, isCalm_code before [], List.forall_mem_cons]

namespace Cut

/-- After blanks in code, a new line begins. -/
theorem newLine (later : Cut [] .code rest ls) {blanks : Text} (blank : isBlankText blanks = true)
    (nonempty : blanks ≠ []) : Cut before .code (blanks ++ rest) ([] :: ls) where
  tokens counts := by
    rw [tokens_blanks_append counts blank, ← later.tokens counts, tokensOfLines_code,
      tokensOfLines_code]
    rfl
  calm := ⟨rfl, areCalm_code_iff.mp later.calm⟩
  glance := by
    cases blanks with
    | nil => exact absurd rfl nonempty
    | cons character others =>
      rw [isBlankText, List.all_cons, Bool.and_eq_true] at blank
      have apart : character ≠ '=' := by
        rintro rfl
        exact absurd blank.1 (by decide)
      rw [List.cons_append, Layout.glance, if_neg apart, isComparison_of_isBlank blank.1]
      rfl

/-- A character goes on the first line. -/
theorem cons (later : Cut (character :: before) (reading.next character) rest ls)
    (calm : isCalm before reading (character :: rest) = true) :
    Cut before reading (character :: rest) (addToFirst character ls) := by
  obtain ⟨placed, -⟩ := isCalm_cons.mp calm
  have added {first : Text} {others : List Text}
      (later : Cut (character :: before) (reading.next character) rest (first :: others)) :
      Cut before reading (character :: rest) ((character :: first) :: others) := by
    have begins : Layout.glance first = Layout.glance rest := later.glance
    refine ⟨fun counts => ?_, ⟨isCalm_cons.mpr ⟨placed, later.calm.1⟩, later.calm.2⟩, ?_⟩
    · rw [Layout.tokens, ← later.tokens counts, ← beginsCompound_congr begins, tokensOfLines,
        tokensOfLines, Layout.tokens]
      split <;> rfl
    · rw [glanceOfLines, Layout.glance, Layout.glance, begins]
  cases ls with
  | nil =>
    have empty : Cut (character :: before) (reading.next character) rest [[]] :=
      ⟨later.tokens, ⟨beq_iff_eq.mpr later.calm, List.forall_mem_nil _⟩, later.glance⟩
    exact added empty
  | cons first others => exact added later

end Cut

/-- A calm text is cut into lines. -/
theorem cut_lines (calm : isCalm before reading text = true) :
    Cut before reading text (lines text) := by
  induction text using lines.induct generalizing before reading with
  | case1 => exact ⟨fun _ => rfl, beq_iff_eq.mp calm, rfl⟩
  | case2 rest ih =>
    obtain rfl := eq_code_of_isCalm calm (by simp [isShaping])
    have later := (isCalm_cons.mp calm).2
    rw [next_blank isBlank_lineFeed, isCalm_code _ []] at later
    have blank : isBlankText ['\n'] = true := by decide
    exact (ih later).newLine blank (List.cons_ne_nil _ _)
  | case3 rest ih =>
    have later := (isCalm_cons.mp calm).2
    -- A line feed stands in code, so the carriage return before it does too.
    have inCode := eq_code_of_isCalm later (by simp [isShaping])
    obtain rfl := eq_code_of_next_blank isBlank_carriageReturn inCode
    have later := (isCalm_cons.mp later).2
    rw [inCode, next_blank isBlank_lineFeed, isCalm_code _ []] at later
    have blank : isBlankText ['\r', '\n'] = true := by decide
    exact (ih later).newLine blank (List.cons_ne_nil _ _)
  | case4 character rest notLineFeed notReturn empty ih =>
    have cut := (ih (isCalm_cons.mp calm).2).cons calm
    rw [empty] at cut
    rw [lines.eq_4 character rest notLineFeed notReturn, empty]
    exact cut
  | case5 character rest notLineFeed notReturn first others found ih =>
    have cut := (ih (isCalm_cons.mp calm).2).cons calm
    rw [found] at cut
    rw [lines.eq_4 character rest notLineFeed notReturn, found]
    exact cut

theorem tokens_trimStart (counts : Nat → Bool → Bool) (text : Text) :
    tokens counts .code (trimStart text) = tokens counts .code text := by
  induction text with
  | nil => rfl
  | cons character rest ih =>
    cases blank : isBlank character with
    | true =>
      rw [trimStart, List.dropWhile_cons_of_pos blank, tokens_blank counts blank]
      exact ih
    | false => rw [trimStart_cons_of_not_isBlank blank]

theorem isCalm_of_tokens {first second : Text} (same : tokens counts reading first =
    tokens counts reading second) (calm : isCalm before reading second = true) :
    isCalm before reading first = true := by
  rw [← isCalm_tokens counts, same, isCalm_tokens]
  exact calm

/-- A boundary is no quote, no equals sign and no blank, and begins no compound assignment. -/
theorem boundary_cases (boundary : isBoundary character = true) :
    Reading.code.next character = .code ∧ isBlank character = false ∧ character ≠ '=' ∧
      isComparison character = false ∧ isAssigning character = false := by
  simp only [isBoundary, Bool.or_eq_true, beq_iff_eq] at boundary
  rcases boundary with (rfl | rfl) | rfl <;> decide

/-- After a boundary, what follows begins a new piece. -/
theorem Cut.newPiece (later : Cut [] .code (trimStart rest) ls)
    (boundary : isBoundary character = true) :
    Cut before .code (character :: rest) ([character] :: ls) := by
  obtain ⟨next, isSolid, apart, plain, notAssigning⟩ := boundary_cases boundary
  have unmarked (counts : Nat → Bool → Bool) (following : Text) :
      Layout.tokens counts .code (character :: following) =
        (character, false) :: Layout.tokens counts .code following := by
    rw [Layout.tokens, isSolid, beginsCompound, notAssigning, next]
    rfl
  refine ⟨fun counts => ?_, ⟨?_, areCalm_code_iff.mp later.calm⟩, ?_⟩
  · rw [tokensOfLines, unmarked, unmarked, ← tokens_trimStart counts rest,
      ← later.tokens counts, tokensOfLines_code]
    rfl
  · rw [isCalm, next]
    rfl
  · simp only [glanceOfLines, Layout.glance, if_neg apart]

/-- A calm text is cut into pieces. -/
theorem cut_pieces (calm : isCalm before reading text = true) :
    Cut before reading text (pieces false text) := by
  induction length : text.length using Nat.strongRecOn generalizing text before reading with
  | ind length ih =>
    subst length
    cases text with
    | nil => exact ⟨fun _ => rfl, ⟨calm, List.forall_mem_nil _⟩, rfl⟩
    | cons character rest =>
      have later := (isCalm_cons.mp calm).2
      rw [pieces, Bool.false_and, if_neg Bool.false_ne_true]
      split
      · next boundary =>
        obtain rfl := eq_code_of_isCalm calm (by simp [isShaping, boundary])
        split
        · exact ⟨fun counts => List.append_nil _, ⟨calm, List.forall_mem_nil _⟩, rfl⟩
        · rw [(boundary_cases boundary).1, isCalm_code _ []] at later
          have trimmed : isCalm [] .code (trimStart rest) = true :=
            isCalm_of_tokens (tokens_trimStart everyRun rest) later
          have shorter : (trimStart rest).length < (character :: rest).length :=
            Nat.lt_succ_of_le (List.dropWhile_sublist _).length_le
          rw [pieces_true]
          exact (ih _ shorter trimmed rfl).newPiece boundary
      · exact (ih rest.length (Nat.lt_succ_self _) later rfl).cons calm

/-! ## Lines

From here on, every line is read in code. -/

/-- The tokens of lines. -/
def lineTokens (counts : Nat → Bool → Bool) (ls : List Text) : List (Char × Bool) :=
  ls.flatMap (tokens counts .code)

/-- The lines of a calm text are calm and have its tokens. -/
theorem lineTokens_lines (calm : isCalm [] .code text = true) (counts : Nat → Bool → Bool) :
    lineTokens counts (lines text) = tokens counts .code text ∧
      ∀ line ∈ lines text, isCalm [] .code line = true := by
  have cut := cut_lines calm
  rw [lineTokens, ← tokensOfLines_code]
  exact ⟨cut.tokens counts, areCalm_code_iff.mp cut.calm⟩

/-- Breaking keeps the tokens of calm lines, and leaves them calm. -/
theorem lineTokens_breakLines (calm : ∀ line ∈ ls, isCalm [] .code line = true)
    (counts : Nat → Bool → Bool) :
    lineTokens counts (breakLines ls) = lineTokens counts ls ∧
      ∀ line ∈ breakLines ls, isCalm [] .code line = true := by
  induction ls with
  | nil => exact ⟨rfl, List.forall_mem_nil _⟩
  | cons line rest ih =>
    rw [List.forall_mem_cons] at calm
    have cut := cut_pieces calm.1
    have tokensHere := cut.tokens counts
    rw [tokensOfLines_code] at tokensHere
    obtain ⟨later, restCalm⟩ := ih calm.2
    rw [lineTokens, breakLines] at later ⊢
    rw [List.flatMap_cons, List.flatMap_append, later, breakLine, tokensHere]
    refine ⟨rfl, fun piece member => ?_⟩
    rcases List.mem_append.mp member with here | there
    · exact areCalm_code_iff.mp cut.calm piece here
    · exact restCalm piece there

/-- Separating adds empty lines only. -/
theorem lineTokens_separateBlocks (counts : Nat → Bool → Bool) (ls : List Text) :
    lineTokens counts (separateBlocks ls) = lineTokens counts ls := by
  induction ls using separateBlocks.induct with
  | case1 => rfl
  | case2 => rfl
  | case3 line next rest separate ih =>
    rw [separateBlocks, if_pos separate, lineTokens, List.flatMap_cons, List.flatMap_cons]
    exact congrArg (tokens counts .code line ++ ·) ih
  | case4 line next rest together ih =>
    rw [separateBlocks, if_neg together, lineTokens, List.flatMap_cons]
    exact congrArg (tokens counts .code line ++ ·) ih

/-! ## Braces and control words -/

theorem glance_spaceBraceAfter (previous : Option Char) (text : Text) :
    glance (spaceBraceAfter previous text) = glance text := by
  induction text generalizing previous with
  | nil => rfl
  | cons character rest ih =>
    unfold spaceBraceAfter
    split
    · next brace =>
      subst brace
      split
      · rfl
      · split <;> rfl
    · rw [glance, glance, ih]

theorem glance_spaceControlsAfter (before text : Text) :
    glance (spaceControlsAfter before text) = glance text := by
  induction text generalizing before with
  | nil => rfl
  | cons character rest ih =>
    rw [spaceControlsAfter]
    split
    · next parenthesis =>
      rw [Bool.and_eq_true, decide_eq_true_iff] at parenthesis
      rw [parenthesis.1]
      rfl
    · rw [glance, glance, ih]

/-- The space before the first brace stands in code. -/
theorem tokens_spaceBraceAfter (calm : isCalm before reading text = true)
    (counts : Nat → Bool → Bool) (previous : Option Char) :
    tokens counts reading (spaceBraceAfter previous text) = tokens counts reading text := by
  induction text generalizing before reading previous with
  | nil => rfl
  | cons character rest ih =>
    unfold spaceBraceAfter
    split
    · next brace =>
      obtain rfl := eq_code_of_isCalm calm (by simp [isShaping, isBoundary, brace])
      split
      · rfl
      · split
        · rfl
        · exact tokens_blank counts isBlank_space _
    · rw [tokens, tokens, ih (isCalm_cons.mp calm).2,
        beginsCompound_congr (glance_spaceBraceAfter (some character) rest)]

/-- The space between a control word and its parenthesis stands in code. -/
theorem tokens_spaceControlsAfter (calm : isCalm before reading text = true)
    (counts : Nat → Bool → Bool) :
    tokens counts reading (spaceControlsAfter before text) = tokens counts reading text := by
  induction text generalizing before reading with
  | nil => rfl
  | cons character rest ih =>
    have later := ih (isCalm_cons.mp calm).2
    have begins : beginsCompound counts character (spaceControlsAfter (character :: before) rest) =
        beginsCompound counts character rest :=
      beginsCompound_congr (glance_spaceControlsAfter (character :: before) rest)
    rw [spaceControlsAfter]
    split
    · next control =>
      have shaping : isShaping before character = true := by
        rw [Bool.and_eq_true, decide_eq_true_iff] at control
        rw [isShaping, control.2, control.1]
        rfl
      obtain rfl := eq_code_of_isCalm calm shaping
      rw [tokens_blank counts isBlank_space, tokens, tokens, later, begins]
    · rw [tokens, tokens, later, begins]

/-! ## Operators -/

section Operators

variable {counts' : Nat → Bool → Bool} {gap follow follow' : Text} {left : Option Char}
  {after operator : Bool} {length : Nat}

theorem getLast?_cons_of_eq_some {last : Char} (found : rest.getLast? = some last) :
    (character :: rest).getLast? = some last := by
  rw [List.getLast?_cons, found]
  rfl

/-- What a text without equals signs is followed by matters to its last character alone. -/
theorem beginsCompound_append (noEquals : '=' ∉ rest) (nonempty : rest ≠ []) :
    beginsCompound counts character (rest ++ follow) = false := by
  cases rest with
  | nil => exact absurd rfl nonempty
  | cons next others =>
    apply beginsCompound_of_head?_ne
    rintro ⟨⟩
    exact noEquals List.mem_cons_self

/-- Texts with the same part before what they go on with have the same tokens if they go on with the
same ones. -/
theorem tokens_append_congr (noEquals : '=' ∉ gap)
    (begins : ∀ last, gap.getLast? = some last →
      beginsCompound counts last follow = beginsCompound counts' last follow')
    (same : tokens counts (reading.after gap) follow =
      tokens counts' (reading.after gap) follow') :
    tokens counts reading (gap ++ follow) = tokens counts' reading (gap ++ follow') := by
  induction gap generalizing reading with
  | nil => exact same
  | cons character rest ih =>
    rw [List.mem_cons, not_or] at noEquals
    have beginsHere : beginsCompound counts character (rest ++ follow) =
        beginsCompound counts' character (rest ++ follow') := by
      by_cases empty : rest = []
      · subst empty
        exact begins character rfl
      · rw [beginsCompound_append noEquals.2 empty, beginsCompound_append noEquals.2 empty]
    have later := ih noEquals.2
      (fun last found => begins last (getLast?_cons_of_eq_some found)) same
    rw [List.cons_append, List.cons_append, tokens, tokens, later, beginsHere]

/-- A part of a text is read on its own if no compound assignment goes on behind it. -/
theorem tokens_append (noEquals : '=' ∉ gap)
    (unmarked : ∀ last, gap.getLast? = some last → beginsCompound counts last follow = false) :
    tokens counts reading (gap ++ follow) =
      tokens counts reading gap ++ tokens counts (reading.after gap) follow := by
  induction gap generalizing reading with
  | nil => rfl
  | cons character rest ih =>
    rw [List.mem_cons, not_or] at noEquals
    have unmarkedHere : beginsCompound counts character (rest ++ follow) =
        beginsCompound counts character rest := by
      have apart : rest.head? ≠ some '=' := head?_ne_of_notMem noEquals.2
      by_cases empty : rest = []
      · subst empty
        rw [beginsCompound_of_head?_ne apart]
        exact unmarked character rfl
      · rw [beginsCompound_append noEquals.2 empty, beginsCompound_of_head?_ne apart]
    have later : tokens counts (reading.next character) (rest ++ follow) =
        tokens counts (reading.next character) rest ++
          tokens counts (reading.after (character :: rest)) follow :=
      ih noEquals.2 fun last found => unmarked last (getLast?_cons_of_eq_some found)
    rw [List.cons_append, tokens, tokens, later, unmarkedHere]
    split <;> rfl

theorem tokens_of_notMem (noEquals : '=' ∉ gap) (counts counts' : Nat → Bool → Bool)
    (reading : Reading) : tokens counts reading gap = tokens counts' reading gap := by
  have ends (counts : Nat → Bool → Bool) (last : Char) : beginsCompound counts last [] = false :=
    beginsCompound_of_head?_ne (by simp)
  rw [← List.append_nil gap]
  exact tokens_append_congr noEquals (fun last _ => by rw [ends, ends]) rfl

theorem tokens_replicate_append (counts : Nat → Bool → Bool) (length : Nat) (text : Text) :
    tokens counts .code (List.replicate length '=' ++ text) =
      List.replicate length ('=', false) ++ tokens counts .code text := by
  induction length with
  | zero => rfl
  | succ length ih =>
    have noArithmetic : isAssigning '=' = false := by decide
    rw [List.replicate_succ, List.cons_append, tokens, beginsCompound, noArithmetic]
    exact congrArg (('=', false) :: ·) ih

/-- An equals sign of a calm text stands in code. -/
theorem isCalm_append_equals (calm : isCalm before reading (gap ++ '=' :: rest) = true) :
    reading.after gap = .code ∧ isCalm [] .code rest = true := by
  induction gap generalizing before reading with
  | nil =>
    obtain rfl := eq_code_of_isCalm calm (by simp [isShaping])
    have later : isCalm ('=' :: before) .code rest = true := (isCalm_cons.mp calm).2
    rw [isCalm_code _ []] at later
    exact ⟨rfl, later⟩
  | cons character others ih => exact ih (isCalm_cons.mp calm).2

theorem isCalm_append_replicate (calm : isCalm before reading
      (gap ++ (List.replicate (length + 1) '=' ++ rest)) = true) :
    reading.after gap = .code ∧ isCalm [] .code rest = true := by
  obtain ⟨ends, later⟩ := isCalm_append_equals calm
  refine ⟨ends, ?_⟩
  clear calm
  induction length with
  | zero => exact later
  | succ length ih =>
    have next : isCalm [] .code ([] ++ '=' :: (List.replicate length '=' ++ rest)) = true := later
    exact ih (isCalm_append_equals next).2

theorem tokens_spaceLeft (counts : Nat → Bool → Bool) (operator : Bool) (gap follow : Text) :
    tokens counts .code (spaceLeft operator gap ++ follow) =
      tokens counts .code (gap ++ follow) := by
  rw [spaceLeft]
  split
  · have cut : gap = gap.takeWhile isBlank ++ trimStart gap :=
      List.takeWhile_append_dropWhile.symm
    have blank : isBlankText (gap.takeWhile isBlank) = true :=
      List.all_takeWhile
    have joined := tokens_blanks_append counts blank (trimStart gap ++ follow)
    rw [← List.append_assoc, ← cut] at joined
    rw [List.cons_append, tokens_blank counts isBlank_space, joined]
  · rfl

theorem tokens_spaceLeft_self (counts : Nat → Bool → Bool) (operator : Bool) (gap : Text) :
    tokens counts .code (spaceLeft operator gap) = tokens counts .code gap := by
  have left := tokens_spaceLeft counts operator gap []
  rwa [List.append_nil, List.append_nil] at left

theorem tokens_blanks {blanks : Text} (blank : isBlankText blanks = true)
    (counts : Nat → Bool → Bool) : tokens counts .code blanks = [] := by
  rw [← List.append_nil blanks, tokens_blanks_append counts blank]
  rfl

theorem tokens_spaceLast (counts : Nat → Bool → Bool) (operator : Bool) (gap : Text) :
    tokens counts .code (spaceLast operator gap) = tokens counts .code gap := by
  rw [spaceLast]
  split
  · next blank =>
    rw [Bool.and_eq_true] at blank
    rw [tokens_blanks blank.2]
    rfl
  · exact tokens_spaceLeft_self counts operator gap

/-- Where a text ends in code, so it does without the blanks at its end. -/
theorem after_trimEnd (ends : reading.after gap = .code) :
    reading.after (trimEnd gap) = .code := by
  obtain ⟨blanks, blank, cut⟩ := exists_trimEnd_append gap
  rw [cut, after_append] at ends
  exact eq_code_of_after_blanks blank ends

theorem notMem_trimEnd (noEquals : '=' ∉ gap) : '=' ∉ trimEnd gap := by
  obtain ⟨blanks, -, cut⟩ := exists_trimEnd_append gap
  intro member
  rw [cut] at noEquals
  exact noEquals (List.mem_append_left _ member)

theorem tokens_trimEnd (noEquals : '=' ∉ gap) (ends : reading.after gap = .code)
    (counts : Nat → Bool → Bool) :
    tokens counts reading (trimEnd gap) = tokens counts reading gap := by
  obtain ⟨blanks, blank, cut⟩ := exists_trimEnd_append gap
  have apart : blanks.head? ≠ some '=' :=
    head?_ne_of_notMem (notMem_of_isBlankText blank (by decide))
  have joined : tokens counts reading (trimEnd gap ++ blanks) =
      tokens counts reading (trimEnd gap) ++ tokens counts (reading.after (trimEnd gap)) blanks :=
    tokens_append (notMem_trimEnd noEquals) fun _ _ => beginsCompound_of_head?_ne apart
  rw [← cut, after_trimEnd ends, tokens_blanks blank, List.append_nil] at joined
  exact joined.symm

/-- Before an operator the blanks at the end of a gap become one space, or none at the start of a
line. -/
theorem tokens_spaceRight (noEquals : '=' ∉ gap) (ends : Reading.code.after gap = .code)
    (counts : Nat → Bool → Bool) (written : Bool) (follow : Text) :
    tokens counts .code (spaceRight written true gap ++ follow) =
      tokens counts .code gap ++ tokens counts .code follow := by
  rw [spaceRight, if_pos rfl]
  split
  · have apart : (' ' :: follow).head? ≠ some '=' := by simp
    rw [List.append_assoc, List.singleton_append, tokens_append (notMem_trimEnd noEquals)
      (fun _ _ => beginsCompound_of_head?_ne apart), after_trimEnd ends,
      tokens_blank counts isBlank_space, tokens_trimEnd noEquals ends]
  · next bare =>
    rw [Bool.or_eq_true, not_or, Bool.not_eq_true', Bool.not_eq_false] at bare
    rw [trimEnd_of_isBlankText bare.2, tokens_blanks bare.2]
    rfl

/-- An arithmetic character makes no comparison. -/
theorem isComparison_of_isAssigning (assigning : isAssigning character = true) :
    isComparison character = false := by
  have found : (!isComparison character) = true :=
    @of_isAssigning character (fun character => !isComparison character) (all_literal (by decide))
      assigning
  rwa [Bool.not_eq_true'] at found

/-- Before a run of equals signs that is an operator stands no compound assignment that is kept
together; before another run every compound assignment is. -/
theorem beginsCompound_run {last : Char} (found : gap.getLast? = some last)
    (apart : rest.head? ≠ some '=')
    (isOperatorHere : isOperator gap.getLast? (length + 1) (Piece.ofText rest) = operator) :
    beginsCompound isSolidRun last (List.replicate (length + 1) '=' ++ rest) =
      (isAssigning last && !operator) := by
  rw [isOperator_ofText apart, found, Option.any_some] at isOperatorHere
  rw [beginsCompound, glance_replicate apart, isSolidRun, ← isOperatorHere]
  cases assigning : isAssigning last with
  | false => rfl
  | true =>
    rw [isComparison_of_isAssigning assigning]
    by_cases short : length + 1 ≤ longestOperator
    · simp [short, Nat.not_lt.mpr short]
    · simp [short, Nat.lt_of_not_le short]

/-- A gap between two operators keeps its tokens. -/
theorem tokens_gap (noEquals : '=' ∉ gap) (ends : Reading.code.after gap = .code)
    (boundary : after = true → left = some '=') (follow : Text) :
    tokens everyRun .code (spaceRight left.isSome true (spaceLeft after gap) ++ follow) =
      tokens isSolidRun .code gap ++ tokens everyRun .code follow := by
  have spacedNoEquals : '=' ∉ spaceLeft after gap :=
    (respaced_spaceLeft boundary).notMem (by decide) noEquals
  have spacedEnds : Reading.code.after (spaceLeft after gap) = .code := by
    rw [← after_tokens everyRun, tokens_spaceLeft_self, after_tokens]
    exact ends
  rw [tokens_spaceRight spacedNoEquals spacedEnds, tokens_spaceLeft_self,
    tokens_of_notMem noEquals everyRun isSolidRun]

/-- The spacing of operators keeps the tokens of a calm line, and keeps a compound assignment
together exactly if its run of equals signs is no operator. -/
theorem tokens_spaceOperatorsFrom {line : Text} (follows : Follows left after line)
    (calm : isCalm [] .code line = true) :
    tokens everyRun .code (spaceOperatorsFrom left after line) = tokens isSolidRun .code line := by
  induction runs line generalizing left after with
  | gap noEquals =>
    rw [spaceOperatorsFrom_gap left after noEquals, tokens_spaceLast,
      tokens_of_notMem noEquals everyRun isSolidRun]
  | @run gap rest length noEquals apart _ ih =>
    obtain ⟨ends, restCalm⟩ := isCalm_append_replicate calm
    have later := fun after => @ih (some '=') after (.run apart) restCalm
    rw [spaceOperatorsFrom_run follows noEquals apart rfl]
    generalize isOperatorHere : isOperator gap.getLast? (length + 1) (Piece.ofText rest) = operator
    have sameRun : tokens everyRun .code
        (List.replicate (length + 1) '=' ++ spaceOperatorsFrom (some '=') operator rest) =
          tokens isSolidRun .code (List.replicate (length + 1) '=' ++ rest) := by
      rw [tokens_replicate_append, tokens_replicate_append, later operator]
    cases operator with
    | false =>
      have untouched : spaceRight left.isSome false (spaceLeft after gap) = spaceLeft after gap :=
        if_neg Bool.false_ne_true
      have followsLater : Follows (some '=') false (spaceOperatorsFrom (some '=') false rest) :=
        (Follows.run apart).spaceOperatorsFrom
      have apartLater := followsLater.head?_ne
      rw [untouched, tokens_spaceLeft]
      apply tokens_append_congr noEquals
      · intro last found
        rw [beginsCompound_run found apart isOperatorHere, beginsCompound,
          glance_replicate apartLater]
        simp [everyRun]
      · rw [ends]
        exact sameRun
    | true =>
      have unmarked : ∀ last, gap.getLast? = some last →
          beginsCompound isSolidRun last (List.replicate (length + 1) '=' ++ rest) = false := by
        intro last found
        rw [beginsCompound_run found apart isOperatorHere]
        simp
      rw [tokens_gap noEquals ends follows.left_eq, sameRun, tokens_append noEquals unmarked, ends]

end Operators

/-- The spacing of a line keeps its tokens, up to the compound assignments that it parts. -/
theorem tokens_spaceLine {line : Text} (calm : isCalm [] .code line = true) :
    tokens everyRun .code (spaceLine line) = tokens isSolidRun .code line := by
  have braced : tokens isSolidRun .code (spaceBrace line) = tokens isSolidRun .code line :=
    tokens_spaceBraceAfter calm isSolidRun none
  have bracedCalm := isCalm_of_tokens braced calm
  have controlled : tokens isSolidRun .code (spaceControls (spaceBrace line)) =
      tokens isSolidRun .code (spaceBrace line) :=
    tokens_spaceControlsAfter bracedCalm isSolidRun
  have controlledCalm := isCalm_of_tokens controlled bracedCalm
  rw [spaceLine, spaceOperators_eq, tokens_spaceOperatorsFrom .start controlledCalm, controlled,
    braced]

/-! ## Indentation -/

/-- Indentation keeps the tokens of lines. -/
theorem lineTokens_nestFrom (counts : Nat → Bool → Bool) (indent : Indent) (level : Nat)
    (ls : List Text) :
    lineTokens counts (nestFrom indent level ls).1 = lineTokens counts ls := by
  induction ls generalizing level with
  | nil => rfl
  | cons line rest ih =>
    have placed (content : Text) (stands : Nat) :
        tokens counts .code (if content.isEmpty then [] else indent.repeated stands ++ content) =
          tokens counts .code content := by
      cases content with
      | nil => rfl
      | cons first others =>
        rw [if_neg (by simp)]
        exact tokens_blanks_append counts (isBlankText_repeated indent stands) _
    have later := ih (levelAfter level (trimStart line))
    rw [lineTokens, lineTokens] at later
    rw [nestFrom, lineTokens, lineTokens, List.flatMap_cons, List.flatMap_cons, placed,
      tokens_trimStart, later]

theorem after_trimStart (text : Text) :
    Reading.code.after (trimStart text) = Reading.code.after text := by
  rw [← after_tokens everyRun, tokens_trimStart, after_tokens]

/-- Indented lines end in code if they did so before. -/
theorem after_of_mem_nestFrom {indent : Indent} {level : Nat}
    (ends : ∀ line ∈ ls, Reading.code.after line = .code) :
    ∀ line ∈ (nestFrom indent level ls).1, Reading.code.after line = .code := by
  induction ls generalizing level with
  | nil => exact List.forall_mem_nil _
  | cons line rest ih =>
    rw [List.forall_mem_cons] at ends
    rw [nestFrom]
    refine List.forall_mem_cons.mpr ⟨?_, ih ends.2⟩
    split
    · rfl
    · rw [after_append, after_blanks (isBlankText_repeated indent _), after_trimStart]
      exact ends.1

theorem tokens_append_lineFeed {line : Text} (ends : reading.after line = .code)
    (counts : Nat → Bool → Bool) (rest : Text) :
    tokens counts reading (line ++ '\n' :: rest) =
      tokens counts reading line ++ tokens counts .code rest := by
  induction line generalizing reading with
  | nil =>
    obtain rfl : reading = .code := ends
    exact tokens_blank counts isBlank_lineFeed rest
  | cons character others ih =>
    rw [List.cons_append, tokens, tokens, ih ends,
      beginsCompound_congr (glance_append rfl others)]
    split <;> rfl

/-- The text of lines that end in code has their tokens. -/
theorem tokens_ofLines (ends : ∀ line ∈ ls, Reading.code.after line = .code)
    (counts : Nat → Bool → Bool) : tokens counts .code (ofLines ls) = lineTokens counts ls := by
  induction ls with
  | nil => exact tokens_blank counts isBlank_lineFeed []
  | cons line rest ih =>
    rw [List.forall_mem_cons] at ends
    cases rest with
    | nil =>
      rw [ofLines_singleton, tokens_append_lineFeed ends.1]
      rfl
    | cons next others =>
      rw [ofLines_cons, tokens_append_lineFeed ends.1, ih ends.2]
      rfl

/-! ## Whole texts -/

/-- Spacing keeps the tokens of calm lines, up to the compound assignments that it parts. -/
theorem lineTokens_map_spaceLine (calm : ∀ line ∈ ls, isCalm [] .code line = true) :
    lineTokens everyRun (ls.map spaceLine) = lineTokens isSolidRun ls ∧
      ∀ line ∈ ls.map spaceLine, Reading.code.after line = .code := by
  constructor
  · rw [lineTokens, lineTokens, List.flatMap_def, List.flatMap_def, List.map_map]
    exact congrArg List.flatten
      (List.map_congr_left fun line member => tokens_spaceLine (calm line member))
  · intro spaced member
    obtain ⟨line, inLines, rfl⟩ := List.mem_map.mp member
    rw [← after_tokens everyRun, tokens_spaceLine (calm line inLines), after_tokens]
    exact after_of_isCalm (calm line inLines)

/-- The lines of a text before the rule for the signature. -/
def unsigned (text : Text) : List Text := separateBlocks (breakLines (lines text))

/-- The layout of a calm text keeps its tokens and keeps together exactly the compound assignments
whose equals signs are no operator, if the rule for the signature changes blanks in code only. -/
theorem tokens_of_format {options : Options} {laid : Text} {above below : List Text}
    {line signed : Text} (calm : isCalm [] .code text = true)
    (found : unsigned text = above ++ line :: below)
    (signs : spaceSignatures (unsigned text) = above ++ signed :: below)
    (same : tokens isSolidRun .code signed = tokens isSolidRun .code line)
    (formatted : format options text = .ok laid) :
    tokens everyRun .code laid = tokens isSolidRun .code text := by
  obtain ⟨linesKept, linesCalm⟩ := lineTokens_lines calm isSolidRun
  obtain ⟨brokenKept, brokenCalm⟩ := lineTokens_breakLines linesCalm isSolidRun
  have unsignedKept : lineTokens isSolidRun (unsigned text) = tokens isSolidRun .code text := by
    rw [unsigned, lineTokens_separateBlocks, brokenKept, linesKept]
  have unsignedCalm : ∀ line ∈ unsigned text, isCalm [] .code line = true := by
    intro line member
    rcases mem_separateBlocks member with rfl | inBroken
    · rfl
    · exact brokenCalm line inBroken
  have signedKept : lineTokens isSolidRun (above ++ signed :: below) =
      lineTokens isSolidRun (unsigned text) := by
    rw [found, lineTokens, lineTokens, List.flatMap_append, List.flatMap_append,
      List.flatMap_cons, List.flatMap_cons, same]
  have signedCalm : ∀ line ∈ above ++ signed :: below, isCalm [] .code line = true := by
    rw [found] at unsignedCalm
    intro other member
    rcases List.mem_append.mp member with inAbove | later
    · exact unsignedCalm other (List.mem_append_left _ inAbove)
    · rcases List.mem_cons.mp later with rfl | inBelow
      · exact isCalm_of_tokens same (unsignedCalm line (by simp))
      · exact unsignedCalm other (by simp [inBelow])
  obtain ⟨spacedKept, ends⟩ := lineTokens_map_spaceLine signedCalm
  have shaped : shape text = (above ++ signed :: below).map spaceLine := by
    rw [← signs]
    rfl
  rw [eq_of_format_eq_ok formatted, nest, tokens_ofLines (after_of_mem_nestFrom (shaped ▸ ends)),
    lineTokens_nestFrom, shaped, spacedKept, signedKept, unsignedKept]

end Beanwright.Layout
