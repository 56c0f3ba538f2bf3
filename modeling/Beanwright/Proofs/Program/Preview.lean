import Beanwright.Generation
import Beanwright.Proofs.Program.Listing

/-!
# A class is printed as its listing

The layout of an assembled class goes through its rules one by one: the compact text falls into
statements, headers and closing braces, blocks are set apart, the signature of the constructor and
the inside of all lines are spaced, and every line moves to its level. The lines that come out are
those of the listing.

## Main results

* `ClassProgram.shape_render` — the lines of a class before indentation
* `Generation.preview_eq_listing` — a registry with a class name, identifiers for all properties and
  named guards is printed as its listing, under every indentation and in both modes
-/

namespace Beanwright

open Code Layout Text

variable {className : Text} {members : List Member}

/-! ## The signature -/

namespace Layout

/-- A word inside a longer one is not found. -/
theorem cutAfterWord?_of_letters {word text : Text} {character : Char} {rest : Text}
    (letters : text.all isWordCharacter = true)
    (later : cutAfterWord? word (isWordCharacter character) rest = none) :
    cutAfterWord? word true (text ++ character :: rest) = none := by
  induction text with
  | nil =>
    rw [List.nil_append, cutAfterWord?, if_pos rfl, later]
  | cons first others ih =>
    rw [List.all_cons, Bool.and_eq_true] at letters
    rw [List.cons_append, cutAfterWord?, if_pos rfl, letters.1, ih letters.2]

/-- The header of a class is not taken for the signature of the constructor, as class names begin
with a capital letter or an underscore. -/
theorem spaceSignature?_class (identifier : Registry.isClassIdentifier className = true) :
    spaceSignature? ("class ".toList ++ className ++ ['{']) = none := by
  rw [Registry.isClassIdentifier, Bool.and_eq_true] at identifier
  obtain ⟨named, capital⟩ := identifier
  obtain ⟨first, others, rfl, allowed⟩ := exists_cons_of_isName named
  have letters : others.all isWordCharacter = true := by
    rw [List.all_eq_true]
    intro character member
    exact isWordCharacter_of_isNameCharacter
      (isNameCharacter_of_mem named (List.mem_cons_of_mem _ member))
  have differs : first ≠ 'c' := by
    rintro rfl
    have noCapital : ('c'.isUpper || 'c' == '_') = false := by decide
    rw [List.head?_cons, Option.any_some, noCapital] at capital
    cases capital
  have noWord (rest : Text) : wordAtStart? signatureWord (first :: rest) = none := by
    unfold wordAtStart? signatureWord
    repeat rw [String.toList_ofList]
    simp only [without?, differs, if_false]
  have afterName : cutAfterWord? signatureWord false (first :: others ++ ['{']) = none := by
    rw [List.cons_append, cutAfterWord?, if_neg Bool.false_ne_true, noWord,
      isWordCharacter_of_isNameCharacter allowed, cutAfterWord?_of_letters letters rfl]
  have afterKeyword : cutAfterWord? signatureWord true
      ("lass".toList ++ ' ' :: (first :: others ++ ['{'])) = none :=
    cutAfterWord?_of_letters (by decide) afterName
  have noWordAtStart (rest : Text) : wordAtStart? signatureWord ('c' :: 'l' :: rest) = none := by
    unfold wordAtStart? signatureWord
    simp [without?]
  have whole : "class ".toList ++ (first :: others) ++ ['{'] =
      'c' :: ("lass".toList ++ ' ' :: (first :: others ++ ['{'])) := by
    repeat rw [String.toList_ofList]
    simp only [List.cons_append, List.nil_append]
  have isLetter : isWordCharacter 'c' = true := by decide
  have cut : cutAfterWord? signatureWord false
      ("class ".toList ++ (first :: others) ++ ['{']) = none := by
    have opened : wordAtStart? signatureWord
        ('c' :: ("lass".toList ++ ' ' :: (first :: others ++ ['{']))) = none := by
      repeat rw [String.toList_ofList]
      simp only [List.cons_append, List.nil_append]
      exact noWordAtStart _
    rw [whole, cutAfterWord?, if_neg Bool.false_ne_true, opened, isLetter, afterKeyword]
  rw [spaceSignature?, cut]

theorem spaceSignatures_cons_of_none {line : Text} (unsigned : spaceSignature? line = none)
    (rest : List Text) : spaceSignatures (line :: rest) = line :: spaceSignatures rest := by
  rw [spaceSignatures, unsigned]

theorem spaceSignatures_cons_of_some {line spaced : Text}
    (signed : spaceSignature? line = some spaced) (rest : List Text) :
    spaceSignatures (line :: rest) = spaced :: rest := by
  rw [spaceSignatures, signed]

end Layout

/-! ## The rules one by one -/

namespace ClassProgram

/-- The last line of a generated text. -/
def exportLine (className : Text) : Text :=
  "module.exports = ".toList ++ className ++ ";".toList

/-- Lines between the banner and the export. -/
def framed (className : Text) (lines : List Text) : List Text :=
  ClassText.banner :: [] :: (lines ++ [[], exportLine className])

theorem all_isPlain_banner : ClassText.banner.all isPlain = true := by
  unfold ClassText.banner
  exact all_literal (by decide)

theorem spaceLine_exportLine (named : isName className = true) :
    spaceLine (exportLine className) = exportLine className := by
  have namePlain := all_isPlain_of_isName named
  have plain : (' ' :: (className ++ [';'])).all isPlain = true := by
    rw [List.all_cons, all_isPlain_append namePlain (by decide)]
    decide
  have whole : exportLine className = "module.exports".toList ++ [' '] ++
      (List.replicate 1 '=' ++ ' ' :: (className ++ [';'])) := by
    unfold exportLine
    repeat rw [String.toList_ofList]
    simp only [List.replicate, List.cons_append, List.nil_append]
  have free (character : Char) (differs : character ≠ '=') (special : isPlain character = false)
      (keyword : character ∉ "module.exports".toList ++ [' ']) :
      character ∉ exportLine className := by
    rw [whole, List.mem_append, List.replicate_one, List.singleton_append, List.mem_cons, not_or,
      not_or]
    exact ⟨keyword, differs, notMem_of_isPlain plain special⟩
  obtain ⟨first, others, firstEq, allowed⟩ := exists_cons_of_isName named
  have solid : trimStart (' ' :: (className ++ [';'])) = className ++ [';'] := by
    rw [firstEq, List.cons_append]
    exact trimStart_cons_of_not_isBlank (isBlank_of_isNameCharacter allowed) _
  have nonempty : trimStart (' ' :: (className ++ [';'])) ≠ [] := by
    rw [solid, firstEq]
    exact List.cons_ne_nil _ _
  have spaced : spaceAfterOperator (' ' :: (className ++ [';'])) = ' ' :: (className ++ [';']) := by
    rw [spaceAfterOperator_of_notMem (notMem_of_isPlain plain (by decide)) nonempty, solid]
  have trimmed : trimEnd ("module.exports".toList ++ [' ']) = "module.exports".toList := by
    decide
  rw [spaceLine, spaceBrace_of_notMem (free '{' (by decide) (by decide) (by decide)),
    spaceControls_of_notMem (free '(' (by decide) (by decide) (by decide)), whole,
    spaceOperators_append_operator (by decide) (by decide) (by decide) (by decide)
      (by decide) (by decide), spaced, trimmed]
  simp only [List.replicate, List.append_assoc, List.cons_append, List.nil_append]

/-- The lines of an assembled text. -/
theorem lines_render (formed : ((ofMembers members).code className
    "constructor()".toList).WellFormed) (named : isName className = true) :
    Text.lines (ClassText.ofMembers className members).render = framed className
      [((ofMembers members).code className "constructor()".toList).compact] := by
  have bannerInLine : ClassText.banner.all isInLine = true := by
    unfold ClassText.banner
    exact all_literal (by decide)
  have exportInLine : (exportLine className).all isInLine = true := by
    have nameInLine : className.all isInLine = true := by
      rw [List.all_eq_true]
      intro character member
      exact of_isNameCharacter isInLine (by decide) (isNameCharacter_of_mem named member)
    have keyword : "module.exports = ".toList.all isInLine = true := all_literal (by decide)
    unfold exportLine
    rw [List.all_append, List.all_append, keyword, nameInLine]
    decide
  have ended : "module.exports = ".toList ++ className ++ ";\n".toList =
      exportLine className ++ '\n' :: [] := by
    unfold exportLine
    repeat rw [String.toList_ofList]
    simp only [List.append_assoc, List.cons_append, List.nil_append]
  -- The banner and the export stand on lines of their own; the class is one line between them.
  have emptyLine (rest : Text) : Text.lines ('\n' :: rest) = [] :: Text.lines rest :=
    lines_append_lineFeed List.all_nil rest
  rw [render_ofMembers, lines_append_lineFeed bannerInLine, emptyLine,
    lines_append_lineFeed (all_isInLine_compact formed), emptyLine, ended,
    lines_append_lineFeed exportInLine]
  rfl

section

variable {program : ClassProgram} {header : Text}

/-- Breaking touches the code of a class only. -/
theorem breakLines_framed (formed : (program.code className header).WellFormed)
    (named : isName className = true) :
    breakLines (framed className [(program.code className header).compact]) =
      framed className (program.code className header).broken := by
  have bannerWhole : breakLine ClassText.banner = [ClassText.banner] := by decide
  have exportLeaf : isLeaf ("module.exports = ".toList ++ className) = true :=
    isLeaf_append (check_literal (by decide)) (all_isContent_of_isName named)
  have exportWhole : breakLine (exportLine className) = [exportLine className] :=
    @breakLine_compact (.statement ("module.exports = ".toList ++ className) .done)
      ⟨exportLeaf, trivial⟩ (List.append_ne_nil_of_right_ne_nil _ (List.cons_ne_nil _ _))
  have nonempty : (program.code className header).compact ≠ [] := by
    rw [code, compact]
    exact List.append_ne_nil_of_right_ne_nil _ (List.cons_ne_nil _ _)
  simp only [breakLines, framed, List.cons_append, List.nil_append, List.flatMap_cons,
    List.flatMap_nil, bannerWhole, exportWhole, breakLine_compact formed nonempty, List.append_nil]
  rfl

/-- So does separating. -/
theorem separateBlocks_framed (formed : (program.code className header).WellFormed) :
    separateBlocks (framed className (program.code className header).broken) =
      framed className (program.code className header).separated := by
  have bannerFree : '}' ∉ ClassText.banner := by decide
  have ending : separateBlocks [[], exportLine className] = [[], exportLine className] :=
    separateBlocks_cons_of_notMem List.not_mem_nil _
  rw [framed, separateBlocks_cons_of_notMem bannerFree,
    separateBlocks_cons_of_notMem List.not_mem_nil, separateBlocks_broken_append formed rfl, ending]
  rfl

/-- The signature of the constructor stands on the first line that has its word. -/
theorem spaceSignatures_framed (identifier : Registry.isClassIdentifier className = true) :
    spaceSignatures (framed className
      (program.code className "constructor()".toList).separated) =
        framed className (program.code className "constructor ()".toList).separated := by
  have bannerUnsigned : spaceSignature? ClassText.banner = none := by decide
  have signed : spaceSignature? ("constructor()".toList ++ ['{']) =
      some ("constructor ()".toList ++ ['{']) := by decide
  rw [framed, spaceSignatures_cons_of_none bannerUnsigned, spaceSignatures_cons_of_none rfl]
  simp only [code, separated, List.cons_append]
  rw [spaceSignatures_cons_of_none (spaceSignature?_class identifier),
    spaceSignatures_cons_of_some signed]
  rfl

end

/-- The lines of a class before indentation: between the banner and the export stand the statements
and blocks of the class, set apart and spaced. -/
theorem shape_render
    (namedGuards : HasNamedGuards members)
    (identifier : Registry.isClassIdentifier className = true) :
    shape (ClassText.ofMembers className members).render = framed className
      (((ofMembers members).code className "constructor ()".toList).separated.map spaceLine) := by
  have named := Registry.isName_of_isClassIdentifier identifier
  have headerLeaf : isLeaf "constructor()".toList = true := check_literal (by decide)
  have formed := wellFormed_code namedGuards named headerLeaf
  rw [shape, lines_render formed named, breakLines_framed formed named,
    separateBlocks_framed formed, spaceSignatures_framed identifier]
  simp only [framed, List.map_cons, List.map_append, List.map_nil,
    spaceLine_of_isPlain all_isPlain_banner, spaceLine_exportLine named]
  rfl

/-- A line without braces outside all blocks stays where it is. -/
theorem nestFrom_zero_of_notMem {line : Text} (resumes : Resumes line) (nonempty : line ≠ [])
    (noOpening : '{' ∉ line) (noClosing : '}' ∉ line) (indent : Indent) (lines : List Text) :
    nestFrom indent 0 (line :: lines) = precededBy [line] (nestFrom indent 0 lines) := by
  have opening : line.contains '{' = false := by simpa using noOpening
  have closing : line.contains '}' = false := by simpa using noClosing
  rw [nestFrom_cons_of_resumes indent 0 resumes nonempty, levelOf, levelAfter, opening, closing]
  rfl

/-- Indentation makes the listing of the class, and leaves no block open. -/
theorem nest_shape_render
    (namedGuards : HasNamedGuards members)
    (identifier : Registry.isClassIdentifier className = true) (indent : Indent) :
    nest indent (shape (ClassText.ofMembers className members).render) =
      (Listing.lines indent className members, 0) := by
  have named := Registry.isName_of_isClassIdentifier identifier
  have headerLeaf : isLeaf "constructor ()".toList = true := check_literal (by decide)
  have formed := wellFormed_code namedGuards named headerLeaf
  have exportFree (character : Char) (keyword : character ∉ "module.exports = ".toList)
      (special : isNameCharacter character = false) (differs : character ∉ ";".toList) :
      character ∉ exportLine className := by
    unfold exportLine
    rw [List.mem_append, List.mem_append, not_or, not_or]
    exact ⟨⟨keyword, notMem_of_isName named special⟩, differs⟩
  have exportNested : nestFrom indent 0 [exportLine className] = ([exportLine className], 0) := by
    refine nestFrom_zero_of_notMem ?_ (List.append_ne_nil_of_right_ne_nil _ (by decide))
      (exportFree '{' (by decide) (by decide) (by decide))
      (exportFree '}' (by decide) (by decide) (by decide)) indent []
    rintro first ⟨⟩
    decide
  have bannerResumes : Resumes ClassText.banner := by
    rintro first ⟨⟩
    decide
  rw [shape_render namedGuards identifier, nest, framed,
    nestFrom_zero_of_notMem bannerResumes (by decide) (by decide) (by decide),
    nestFrom_empty, nestFrom_separated_append indent 0 formed, nestFrom_empty, exportNested,
    pretty_code namedGuards identifier]
  simp only [precededBy, Listing.lines, List.cons_append, List.nil_append]
  rfl

theorem ofLines_eq_flatMap {lines : List Text} (nonempty : lines ≠ []) :
    Text.ofLines lines = lines.flatMap fun line => line ++ ['\n'] := by
  induction lines with
  | nil => exact absurd rfl nonempty
  | cons line rest ih =>
    cases rest with
    | nil => rw [ofLines_singleton, List.flatMap_singleton]
    | cons next others =>
      rw [ofLines_cons, ih (List.cons_ne_nil _ _)]
      simp

/-- A class is laid out as its listing, under every indentation and in both modes. -/
theorem format_render
    (namedGuards : HasNamedGuards members)
    (identifier : Registry.isClassIdentifier className = true) (options : Options) :
    format options (ClassText.ofMembers className members).render =
      .ok (Listing.text options.indent className members) := by
  obtain ⟨indent, strict⟩ := options
  have balanced : Balanced (ClassText.ofMembers className members).render :=
    balanced_render
      (fun member inMembers guard inGuards => by
        obtain ⟨check, rfl⟩ := namedGuards member inMembers guard inGuards
        exact balanced_source check)
      (Registry.isName_of_isClassIdentifier identifier)
  have lenient : format ⟨indent, false⟩ (ClassText.ofMembers className members).render =
      .ok (Listing.text indent className members) := by
    rw [format, run_eq_of_lenient, nest_shape_render namedGuards identifier, Except.map,
      Draft.text, Draft.ofNest, ofLines_eq_flatMap (by simp [Listing.lines]), Listing.text]
  cases strict with
  | false => exact lenient
  | true =>
    rw [format, run_strict_of_balanced balanced]
    exact lenient

end ClassProgram

namespace Generation

variable {registry : Registry}

/-- Every registry that a history leads to is printed as its listing, if its class name is set, all
properties have identifiers and all guards are named. Neither the number of properties and guards
nor the indentation matters, nor whether unbalanced braces are refused. -/
theorem preview_eq_listing (reachable : registry.Reachable)
    (named : registry.className = some className) (derivable : registry.Derivable)
    (namedGuards : registry.HasNamedGuards) (options : Options) :
    ∃ members, registry.members = .ok members ∧
      preview registry options = .ok (Listing.text options.indent className members) := by
  obtain ⟨members, found⟩ := Registry.exists_members_iff.mpr derivable
  have properties := Registry.members_eq_ok_iff.mp found
  have membersNamed : ClassProgram.HasNamedGuards members := by
    intro member inMembers
    apply namedGuards
    rw [← properties]
    exact List.mem_map_of_mem inMembers
  have identifier := reachable.isClassIdentifier named
  have assembled : ClassText.ofRegistry registry = .ok (ClassText.ofMembers className members) := by
    rw [ClassText.ofRegistry_eq, Registry.name, named, found]
    rfl
  refine ⟨members, found, ?_⟩
  rw [preview, assembled]
  dsimp only
  rw [ClassProgram.format_render membersNamed identifier]

/-- A class with an immutable property and one guard is printed as its listing. -/
theorem preview_eq_listing_sample :
    ∃ members, (Registry.sample (.named .uint8)).members = .ok members ∧
      preview (Registry.sample (.named .uint8)) ⟨.spaces 4, true⟩ =
        .ok (Listing.text (.spaces 4) ['P'] members) :=
  preview_eq_listing (Registry.sample_reachable _) (Registry.sample_className _)
    (Registry.sample_derivable _) (Registry.sample_allGuards ⟨_, rfl⟩) ⟨.spaces 4, true⟩

end Generation

end Beanwright
