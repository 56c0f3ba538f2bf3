import Beanwright.Proofs.Layout.Inlining

/-!
# The names that source text mentions

A text is read as code and literals, as the target language reads it. In code a run of name
characters is a word. A word mentions a name, unless it begins with a digit or follows a period: the
one is a number, and the other selects a field of what stands before the period. A literal mentions
nothing.
-/

namespace Beanwright.Layout

open Text

/-! ## Reading names -/

/-- Where a reader of names is. -/
structure Scan where
  /-- Where it is as a reader of source text. -/
  reading : Reading
  /-- What it has read of the word it is in. -/
  word : Text
  /-- Whether that word follows a period. -/
  selects : Bool
deriving DecidableEq, Repr

namespace Scan

/-- A reader in code and before a word. -/
def start : Scan := ⟨.code, [], false⟩

/-- The name that is mentioned if the word ends here. -/
def name? (scan : Scan) : Option Text :=
  if scan.selects || scan.word.head?.all Char.isDigit then none else some scan.word

/-- Where a reader is after one more character. -/
def next : Scan → Char → Scan
  | ⟨.code, word, selects⟩, character =>
    if isNameCharacter character then ⟨.code, word ++ [character], selects⟩
    else ⟨Reading.code.next character, [], character == '.'⟩
  | ⟨reading, _, _⟩, character => ⟨reading.next character, [], false⟩

/-- The name whose word a character ends. -/
def ended? : Scan → Char → Option Text
  | ⟨.code, word, selects⟩, character =>
    if isNameCharacter character then none else name? ⟨.code, word, selects⟩
  | _, _ => none

/-- Where a reader is after a text. -/
def after (scan : Scan) (text : Text) : Scan := text.foldl next scan

/-- The names whose words end in a text. -/
def names : Scan → Text → List Text
  | _, [] => []
  | scan, character :: rest => (scan.ended? character).toList ++ names (scan.next character) rest

end Scan

/-- The names that a text mentions, in order. -/
def mentions (text : Text) : List Text :=
  Scan.start.names text ++ (Scan.start.after text).name?.toList

/-- Whether a name does not begin with a lower-case letter. -/
def isProper (name : Text) : Bool := !name.head?.any Char.isLower

example : mentions "v => v.call('Map') && new Set(v, 2, b2)".toList =
    ["v", "v", "new", "Set", "v", "b2"].map String.toList := by decide

/-! ## Reading piece by piece -/

/-- Between two places a text mentions given proper names. -/
structure Reads (first : Scan) (text : Text) (proper : List Text) (last : Scan) : Prop where
  /-- The names that do not begin with a lower-case letter. -/
  filter_names : (first.names text).filter isProper = proper
  /-- The place after the text. -/
  after_eq : first.after text = last

section Reads

variable {first middle last scan : Scan} {text other : Text} {proper later : List Text}

@[simp] theorem Scan.after_cons (scan : Scan) (character : Char) (rest : Text) :
    scan.after (character :: rest) = (scan.next character).after rest := rfl

theorem Scan.after_append (scan : Scan) (text other : Text) :
    scan.after (text ++ other) = (scan.after text).after other := List.foldl_append

theorem Scan.names_append (scan : Scan) (text other : Text) :
    scan.names (text ++ other) = scan.names text ++ (scan.after text).names other := by
  induction text generalizing scan with
  | nil => rfl
  | cons character rest ih =>
    simp only [List.cons_append, names, ih, after_cons, List.append_assoc]

theorem Reads.nil (scan : Scan) : Reads scan [] [] scan := ⟨rfl, rfl⟩

theorem Reads.append (reads : Reads first text proper middle)
    (others : Reads middle other later last) :
    Reads first (text ++ other) (proper ++ later) last where
  filter_names := by
    rw [Scan.names_append, List.filter_append, reads.filter_names, reads.after_eq,
      others.filter_names]
  after_eq := by
    rw [Scan.after_append, reads.after_eq, others.after_eq]

/-- Pieces that each lead back to the same place are read one after another. -/
theorem Reads.flatMap {Item : Type} {items : List Item} {piece : Item → Text}
    {names : Item → List Text} (each : ∀ item ∈ items, Reads scan (piece item) (names item) scan) :
    Reads scan (items.flatMap piece) (items.flatMap names) scan := by
  induction items with
  | nil => exact .nil scan
  | cons item rest ih =>
    rw [List.forall_mem_cons] at each
    exact each.1.append (ih each.2)

/-- A literal is the string of its characters, which need not be decoded to be read. -/
theorem reads_ofList {characters : Text} (reads : Reads first characters proper last) :
    Reads first (String.ofList characters).toList proper last := by
  rwa [String.toList_ofList]

/-- In code a name goes on with the word. -/
theorem reads_code (named : isName text = true) (word : Text) (selects : Bool) :
    Reads ⟨.code, word, selects⟩ text [] ⟨.code, word ++ text, selects⟩ := by
  rw [isName, Bool.and_eq_true] at named
  obtain ⟨-, characters⟩ := named
  induction text generalizing word with
  | nil =>
    rw [List.append_nil]
    exact .nil _
  | cons character rest ih =>
    rw [List.all_cons, Bool.and_eq_true] at characters
    have moved : Scan.next ⟨.code, word, selects⟩ character =
        ⟨.code, word ++ [character], selects⟩ := if_pos characters.1
    have nothing : Scan.ended? ⟨.code, word, selects⟩ character = none := if_pos characters.1
    have later := ih (word ++ [character]) characters.2
    rw [List.append_assoc, List.singleton_append] at later
    constructor
    · rw [Scan.names, nothing, moved, Option.toList_none, List.nil_append, later.filter_names]
    · rw [Scan.after_cons, moved, later.after_eq]

/-- In a literal a quiet text is nothing. -/
theorem reads_literal (quote : Quote) (quiet : text.all isQuiet = true) :
    Reads ⟨.literal quote, [], false⟩ text [] ⟨.literal quote, [], false⟩ := by
  induction text with
  | nil => exact .nil _
  | cons character rest ih =>
    rw [List.all_cons, Bool.and_eq_true] at quiet
    have moved : Scan.next ⟨.literal quote, [], false⟩ character =
        ⟨.literal quote, [], false⟩ := by
      change Scan.mk (Reading.next (.literal quote) character) [] false = _
      rw [Reading.next_of_isQuiet quiet.1 (by rintro other ⟨⟩)]
    have later := ih quiet.2
    constructor
    · change ([] ++ Scan.names (Scan.next _ character) rest).filter isProper = _
      rw [List.nil_append, moved, later.filter_names]
    · rw [Scan.after_cons, moved, later.after_eq]

/-- A text that ends outside of words mentions what its pieces do. -/
theorem Reads.filter_mentions (reads : Reads .start text proper .start) :
    (mentions text).filter isProper = proper := by
  rw [mentions, List.filter_append, reads.filter_names, reads.after_eq]
  exact List.append_nil _

end Reads

end Beanwright.Layout
