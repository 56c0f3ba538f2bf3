import Beanwright.Proofs.Layout.Inlining
import Beanwright.Proofs.Layout.KeptTokens
import Beanwright.Proofs.Program.Preview

/-!
# The literals of a class

Apart from its guards a class has no compound assignments, and no literals but messages, in which
the rules of layout find nothing to do. So the text of a class is calm if the sources of its custom
guards are. Then its layout keeps all literals, and the compound assignments whose equals signs are
no operator.

A source that is not calm need not survive: an equals sign in a literal is spaced, and so is the one
of a compound assignment.
-/

namespace Beanwright

open Code Layout Text

/-! ## The text of a class -/

namespace ClassText

variable {className name : Text} {index : Nat}

theorem isQuiet_of_isNameCharacter {character : Char} (allowed : isNameCharacter character = true) :
    isQuiet character = true :=
  of_isNameCharacter isQuiet (by decide) allowed

theorem all_isQuiet_of_isName (named : isName name = true) : name.all isQuiet = true := by
  rw [List.all_eq_true]
  intro character inName
  exact isQuiet_of_isNameCharacter (isNameCharacter_of_mem named inName)

/-- A name is read in code and in literals without effect. -/
theorem through?_of_isName (named : isName name = true) :
    through? .code name = some .code ∧
      ∀ quote, through? (.literal quote) name = some (.literal quote) :=
  ⟨through?_of_isQuiet (all_isQuiet_of_isName named) (by rintro quote ⟨⟩), fun _ =>
    through?_of_isQuiet (all_isQuiet_of_isName named) (by rintro quote ⟨⟩)⟩

theorem all_isQuiet_name (member : Member) :
    member.property.name.all isQuiet = true :=
  MemberNames.all_of_isNameCharacter (fun _ => isQuiet_of_isNameCharacter) (by decide)
    member.derived

/-- So is the name of a property in a literal. -/
theorem through?_name (member : Member) (quote : Quote) :
    through? (.literal quote) member.property.name = some (.literal quote) :=
  through?_of_isQuiet (all_isQuiet_name member) (by rintro other ⟨⟩)

theorem inlines_initializer (member : Member) :
    Inlines (initializer member.names.field) [] := by
  have field := (through?_of_isName member.isName_field).1
  unfold initializer
  exact .frame (through?_append (through?_append rfl field) rfl)

theorem inlines_getter (member : Member) : Inlines (getter member) [] := by
  have getterName := (through?_of_isName member.isName_getter).1
  have field := (through?_of_isName member.isName_field).1
  have name := through?_name member .single
  unfold getter
  repeat rw [String.toList_ofList]
  exact .frame (through?_append (through?_append (through?_append (through?_append (through?_append
    (through?_append (through?_append getterName rfl) field) rfl) name) rfl) field) rfl)

theorem inlines_immutabilityCheck (member : Member) :
    Inlines (immutabilityCheck member) [] := by
  have field := (through?_of_isName member.isName_field).1
  have name := through?_name member .single
  unfold immutabilityCheck
  repeat rw [String.toList_ofList]
  exact .frame (through?_append (through?_append (through?_append (through?_append rfl field) rfl)
    name) rfl)

/-- The sources of named guards have no literals at all. -/
theorem isCalm_source (check : TypeCheck) : isCalm [] .code check.source = true := by
  have condition : isCalm [] .code TypeCheck.integerCondition = true := check_literal (by decide)
  have isUnsigned {bound : Text} (calm : isCalm [] .code bound = true) :
      isCalm [] .code (TypeCheck.unsignedSource bound) = true :=
    isCalm_append (isCalm_append condition (check_literal (by decide))) calm
  have isSigned {least greatest : Text} (leastCalm : isCalm [] .code least = true)
      (greatestCalm : isCalm [] .code greatest = true) :
      isCalm [] .code (TypeCheck.signedSource least greatest) = true :=
    isCalm_append (isCalm_append (isCalm_append (isCalm_append condition
      (check_literal (by decide))) leastCalm) (check_literal (by decide))) greatestCalm
  cases check with
  | uint | uint64 | uint8 | uint16 | uint32 => exact isUnsigned (check_literal (by decide))
  | int | int64 | int8 | int16 | int32 =>
    exact isSigned (check_literal (by decide)) (check_literal (by decide))
  | string | boolean | list | set | map | object | func => exact check_literal (by decide)

/-- A guard is inlined as it is. -/
theorem inlines_guardCheck {guard : Guard} (calm : isCalm [] .code guard.source = true) :
    Inlines (guardCheck index guard) [guard.source] := by
  have guardName := (through?_of_isName (isName_guardLocal index)).1
  have declared : Inlines ("let ".toList ++ guardLocal index ++ ['=']) [] :=
    .frame (through?_append (through?_append rfl guardName) rfl)
  have tested : Inlines (';' :: ("if(!".toList ++ guardLocal index ++
      "(value))\x7bthrow new Error('Unexpected value \"' + value + '\" of type ' ".toList ++
        "+ typeof value);\x7d".toList)) [] := by
    repeat rw [String.toList_ofList]
    have semicolon (rest : Text) : isFramed .code ';' rest = true := rfl
    refine .frame ?_
    rw [through?, if_pos (semicolon _)]
    exact through?_append (through?_append (through?_append rfl guardName) rfl) rfl
  have whole := declared.append (.source calm tested)
  unfold guardCheck
  repeat rw [String.toList_ofList] at whole
  repeat rw [String.toList_ofList]
  simp only [List.append_assoc, List.cons_append, List.nil_append] at whole ⊢
  exact whole

theorem inlines_guardChecksFrom {guards : List Guard}
    (calm : ∀ guard ∈ guards, isCalm [] .code guard.source = true) :
    Inlines (guardChecksFrom index guards) (guards.map Guard.source) := by
  induction guards generalizing index with
  | nil => exact .frame rfl
  | cons guard rest ih =>
    rw [List.forall_mem_cons] at calm
    exact (inlines_guardCheck calm.1).append (ih calm.2)

theorem inlines_setter (member : Member)
    (calm : ∀ guard ∈ member.property.guards, isCalm [] .code guard.source = true) :
    Inlines (setter member) (member.property.guards.map Guard.source) := by
  have setterName := (through?_of_isName member.isName_setter).1
  have field := (through?_of_isName member.isName_field).1
  have header : Inlines (member.names.setter ++ " (value) \x7b".toList) [] :=
    .frame (through?_append setterName rfl)
  have immutability :
      Inlines (if member.property.immutable then immutabilityCheck member else []) [] := by
    split
    · exact inlines_immutabilityCheck member
    · exact .frame rfl
  have guarded : Inlines (guardChecksFrom 0 member.property.guards)
      (member.property.guards.map Guard.source) := inlines_guardChecksFrom calm
  have stores : Inlines ("this.".toList ++ member.names.field ++ "=value;\x7d".toList) [] :=
    .frame (through?_append (through?_append rfl field) rfl)
  have whole := ((header.append immutability).append guarded).append stores
  rw [List.append_nil] at whole
  unfold setter
  simp only [List.append_assoc, List.nil_append] at whole ⊢
  exact whole

theorem inlines_dumpMethod (named : isName className = true) :
    Inlines (dumpMethod className) [] := by
  obtain ⟨inCode, inLiteral⟩ := through?_of_isName named
  unfold dumpMethod
  repeat rw [String.toList_ofList]
  exact .frame (through?_append (through?_append (through?_append (through?_append
    (through?_append rfl inCode) rfl) rfl) (inLiteral .single)) rfl)

theorem inlines_loadMethod (named : isName className = true) :
    Inlines (loadMethod className) [] := by
  have inCode := (through?_of_isName named).1
  unfold loadMethod
  repeat rw [String.toList_ofList]
  exact .frame (through?_append (through?_append (through?_append (through?_append
    (through?_append (through?_append rfl rfl) rfl) inCode) rfl) rfl) rfl)

/-- The text of a class is a frame with the sources of all guards in it. -/
theorem inlines_render {members : List Member}
    (calm : ∀ member ∈ members, ∀ guard ∈ member.property.guards,
      isCalm [] .code guard.source = true)
    (named : isName className = true) :
    Inlines (ofMembers className members).render
      (members.flatMap fun member => member.property.guards.map Guard.source) := by
  have name := (through?_of_isName named).1
  have bannerFramed : through? .code banner = some .code := rfl
  have begins : Inlines (banner ++ "\n\nclass ".toList ++ className ++
      "\x7bconstructor()\x7b".toList) [] :=
    .frame (through?_append (through?_append (through?_append bannerFramed rfl) name) rfl)
  have initializers : Inlines (members.flatMap fun member => initializer member.names.field)
      (members.flatMap fun _ => []) :=
    .flatMap fun member inMembers => inlines_initializer member
  have accessors : Inlines (members.flatMap fun member => getter member ++ setter member)
      (members.flatMap fun member => member.property.guards.map Guard.source) :=
    .flatMap fun member inMembers => (inlines_getter member).append
      (inlines_setter member (calm member inMembers))
  have ends : Inlines ("\x7d\n\nmodule.exports = ".toList ++ className ++ ";\n".toList) [] :=
    .frame (through?_append (through?_append rfl name) rfl)
  have closing : Inlines ['}'] [] := .frame rfl
  have nothing : (members.flatMap fun _ => ([] : List Text)) = [] := by simp
  rw [nothing] at initializers
  have whole := (((((begins.append initializers).append closing).append accessors).append
    (inlines_dumpMethod named)).append (inlines_loadMethod named)).append ends
  unfold render
  simp only [ofMembers, List.append_assoc, List.append_nil, List.nil_append] at whole ⊢
  exact whole

end ClassText

/-! ## The signature -/

theorem Text.isInLine_of_isBlank_eq_false {character : Char} (solid : isBlank character = false) :
    isInLine character = true := by
  rw [isInLine, Bool.and_eq_true, bne_iff_ne, bne_iff_ne]
  constructor
  · rintro rfl
    cases solid
  · rintro rfl
    cases solid

/-- A text without line ends begins the first line of what it begins. -/
theorem Text.exists_lines_append {line : Text} (inLine : line.all isInLine = true)
    (nonempty : line ≠ []) (rest : Text) :
    ∃ more others, Text.lines (line ++ rest) = (line ++ more) :: others := by
  induction line with
  | nil => exact absurd rfl nonempty
  | cons character later ih =>
    rw [List.all_cons, Bool.and_eq_true, isInLine, Bool.and_eq_true, bne_iff_ne, bne_iff_ne]
      at inLine
    obtain ⟨⟨notLineFeed, notReturn⟩, inLine⟩ := inLine
    rw [List.cons_append, lines_cons_of_ne notLineFeed notReturn]
    cases later with
    | nil =>
      rw [List.nil_append]
      cases Text.lines rest with
      | nil => exact ⟨[], [], rfl⟩
      | cons first others => exact ⟨first, others, rfl⟩
    | cons next later =>
      obtain ⟨more, others, found⟩ := ih inLine (List.cons_ne_nil _ _)
      rw [found]
      exact ⟨more, others, rfl⟩

namespace ClassProgram

variable {className : Text} {members : List Member}

/-- What follows the signature of the constructor begins with a solid character. -/
theorem exists_render_eq (className : Text) (members : List Member) :
    ∃ first rest, isBlank first = false ∧ (ClassText.ofMembers className members).render =
      ClassText.banner ++ '\n' :: '\n' :: (("class ".toList ++ className ++ '{' ::
        ("constructor()".toList ++ '{' :: [first])) ++ rest) := by
  have formed : (ofMembers members).constructorCode.WellFormed :=
    all_constructorCode fun _ leaf => leaf
  let methods := (ofMembers members).accessorCode (dumpCode className (loadCode className .done))
  let tail := methods.compact ++ '}' :: '\n' :: '\n' ::
    ("module.exports = ".toList ++ (className ++ ";\n".toList))
  have solid := resumes_compact_append formed (resumes_closingBrace tail)
  cases found : (ofMembers members).constructorCode.compact ++ '}' :: tail with
  | nil => exact absurd found (List.append_ne_nil_of_right_ne_nil _ (List.cons_ne_nil _ _))
  | cons first rest =>
    rw [found] at solid
    refine ⟨first, rest, solid first rfl, ?_⟩
    rw [render_ofMembers, code]
    simp only [compact, List.append_assoc, List.cons_append, List.nil_append, ← found, tail,
      methods]

/-- The third line of a class begins with its two headers, after which it is not blank. -/
theorem lines_render_eq (members : List Member) (named : isName className = true) :
    ∃ more others, Resumes more ∧ Text.lines (ClassText.ofMembers className members).render =
      ClassText.banner :: [] :: ("class ".toList ++ className ++ '{' ::
        ("constructor()".toList ++ '{' :: more)) :: others := by
  obtain ⟨first, rest, solid, whole⟩ := exists_render_eq className members
  have bannerInLine : ClassText.banner.all isInLine = true := by
    unfold ClassText.banner
    exact all_literal (by decide)
  have emptyLine (rest : Text) : Text.lines ('\n' :: rest) = [] :: Text.lines rest :=
    lines_append_lineFeed List.all_nil rest
  have titleInLine : ("class ".toList ++ className).all isInLine = true :=
    all_isInLine_of_isLeaf (isLeaf_append (check_literal (by decide))
      (all_isContent_of_isName named))
  have headerInLine : "constructor()".toList.all isInLine = true := all_literal (by decide)
  have inLine : ("class ".toList ++ className ++ '{' ::
      ("constructor()".toList ++ '{' :: [first])).all isInLine = true := by
    rw [List.all_append] at titleInLine
    rw [List.all_append, List.all_append, titleInLine, List.all_cons, List.all_append,
      headerInLine, List.all_cons, List.all_cons, isInLine_of_isBlank_eq_false solid]
    rfl
  obtain ⟨more, others, cut⟩ := Text.exists_lines_append inLine (by simp) rest
  refine ⟨first :: more, others, ?_, ?_⟩
  · rintro character ⟨⟩
    exact solid
  · rw [whole, lines_append_lineFeed bannerInLine, emptyLine, cut]
    simp only [List.append_assoc, List.cons_append, List.nil_append]

/-- Before the rule for the signature the constructor's header is the fourth line, whatever the
guards of the class are. -/
theorem unsigned_render (members : List Member) (named : isName className = true) :
    ∃ below, unsigned (ClassText.ofMembers className members).render =
      [ClassText.banner, [], "class ".toList ++ className ++ ['{']] ++
        ("constructor()".toList ++ ['{']) :: below := by
  obtain ⟨more, others, resumes, cut⟩ := lines_render_eq members named
  have header : isLeaf "constructor()".toList = true := check_literal (by decide)
  have title : isLeaf ("class ".toList ++ className) = true :=
    isLeaf_append (check_literal (by decide)) (all_isContent_of_isName named)
  have bannerWhole : breakLine ClassText.banner = [ClassText.banner] := by decide
  have emptyWhole : breakLine [] = [[]] := rfl
  have broken : breakLine ("class ".toList ++ className ++ '{' ::
      ("constructor()".toList ++ '{' :: more)) = ("class ".toList ++ className ++ ['{']) ::
        ("constructor()".toList ++ ['{']) :: piecesAfterBreak more := by
    rw [breakLine, pieces_append_boundary false (all_isContent_of_isLeaf title) (by decide)
      (resumes_of_isLeaf title _) (resumes_of_isLeaf header _),
      piecesAfterBreak_of_isLeaf header (by decide) resumes]
  have bannerFree : '}' ∉ ClassText.banner := by decide
  have titleFree : '}' ∉ "class ".toList ++ className ++ ['{'] := by
    rw [List.mem_append, not_or]
    exact ⟨notMem_of_isLeaf title (by decide), by decide⟩
  have headerFree : '}' ∉ "constructor()".toList ++ ['{'] := by decide
  refine ⟨separateBlocks (piecesAfterBreak more ++ breakLines others), ?_⟩
  rw [unsigned, cut, breakLines, List.flatMap_cons, List.flatMap_cons, List.flatMap_cons,
    bannerWhole, emptyWhole, broken]
  simp only [List.cons_append, List.nil_append]
  rw [separateBlocks_cons_of_notMem bannerFree, separateBlocks_cons_of_notMem List.not_mem_nil,
    separateBlocks_cons_of_notMem titleFree, separateBlocks_cons_of_notMem headerFree, breakLines]

/-- The rule for the signature puts one blank into the text of a class: into the first line below
the header of the class. -/
theorem spaceSignatures_render (members : List Member)
    (identifier : Registry.isClassIdentifier className = true) :
    ∃ below,
      unsigned (ClassText.ofMembers className members).render =
        [ClassText.banner, [], "class ".toList ++ className ++ ['{']] ++
          ("constructor()".toList ++ ['{']) :: below ∧
      spaceSignatures (unsigned (ClassText.ofMembers className members).render) =
        [ClassText.banner, [], "class ".toList ++ className ++ ['{']] ++
          ("constructor ()".toList ++ ['{']) :: below := by
  obtain ⟨below, found⟩ := unsigned_render members
    (Registry.isName_of_isClassIdentifier identifier)
  have bannerUnsigned : spaceSignature? ClassText.banner = none := by decide
  have signed : spaceSignature? ("constructor()".toList ++ ['{']) =
      some ("constructor ()".toList ++ ['{']) := by decide
  refine ⟨below, found, ?_⟩
  simp only [found, List.cons_append, List.nil_append]
  rw [spaceSignatures_cons_of_none bannerUnsigned, spaceSignatures_cons_of_none rfl,
    spaceSignatures_cons_of_none (spaceSignature?_class identifier),
    spaceSignatures_cons_of_some signed]

theorem spaceSignatures_unsigned (members : List Member)
    (identifier : Registry.isClassIdentifier className = true) :
    ∃ above below,
      unsigned (ClassText.ofMembers className members).render =
        above ++ ("constructor()".toList ++ ['{']) :: below ∧
      spaceSignatures (unsigned (ClassText.ofMembers className members).render) =
        above ++ ("constructor ()".toList ++ ['{']) :: below :=
  ⟨_, spaceSignatures_render members identifier⟩

end ClassProgram

/-! ## Literals and compound assignments -/

/-- The sources of all guards, property by property. -/
def Registry.guardSources (registry : Registry) : List Text :=
  registry.properties.flatMap fun property => property.guards.map Guard.source

namespace Generation

variable {registry : Registry} {className : Text}

/-- Every registry that a history leads to is assembled and laid out, if its class name is set and
all properties have identifiers. If the rules find nothing to do in the literals of the custom
guards, every layout of the class has exactly the literals of the assembled text. The compound
assignments of that text are those of its guards, and the layout keeps exactly those whose equals
signs are not spaced as an operator. -/
theorem literals_kept (reachable : registry.Reachable)
    (named : registry.className = some className) (derivable : registry.Derivable)
    (calm : registry.AllGuards fun guard => ∀ handle source predicate,
      guard = .custom handle source predicate → isCalm [] .code source = true) :
    ∃ pieces, ClassText.ofRegistry registry = .ok pieces ∧
      (∀ indent, Succeeds (format ⟨indent, false⟩ pieces.render)) ∧
      compounds pieces.render = registry.guardSources.flatMap compounds ∧
      ∀ options laid, format options pieces.render = .ok laid →
        literals laid = literals pieces.render ∧
          compounds laid = registry.guardSources.flatMap lastingCompounds := by
  obtain ⟨members, found⟩ := Registry.exists_members_iff.mpr derivable
  have properties := Registry.members_eq_ok_iff.mp found
  have identifier := reachable.isClassIdentifier named
  have sourcesCalm : ∀ member ∈ members, ∀ guard ∈ member.property.guards,
      isCalm [] .code guard.source = true := by
    intro member inMembers guard inGuards
    have inProperties : member.property ∈ registry.properties := by
      rw [← properties]
      exact List.mem_map_of_mem inMembers
    cases guard with
    | named check => exact ClassText.isCalm_source check
    | custom handle source predicate =>
      exact calm member.property inProperties _ inGuards handle source predicate rfl
  have rendered := ClassText.inlines_render sourcesCalm
    (Registry.isName_of_isClassIdentifier identifier)
  have sources : (members.flatMap fun member => member.property.guards.map Guard.source) =
      registry.guardSources := by
    rw [Registry.guardSources, ← properties, List.flatMap_map]
  rw [sources] at rendered
  obtain ⟨above, below, unsignedEq, signedEq⟩ :=
    ClassProgram.spaceSignatures_unsigned members identifier
  refine ⟨_, ClassText.ofRegistry_eq_ok named found, fun indent => ⟨_, rfl⟩,
    rendered.compoundsFrom_eq everyRun, fun options laid formatted => ?_⟩
  have kept := tokens_of_format rendered.calm unsignedEq signedEq (by decide) formatted
  constructor
  · rw [literals, literals, ← literalsFrom_tokens everyRun, kept,
      map_fst_tokens isSolidRun everyRun, literalsFrom_tokens]
  · rw [compounds, compoundsFrom_eq, kept, ← compoundsFrom_eq]
    exact rendered.compoundsFrom_eq isSolidRun

/-- A registry of one property with one custom guard. -/
def guarded (source : Text) : Registry :=
  Registry.empty.after [.setName ['a'], .addProperty ['b'] none false,
    .addGuard ['b'] (.custom 0 source fun _ => true)]

/-- Its property, with the names that the class uses. -/
def guardedMember (source : Text) : Member where
  property := ⟨['b'], none, false, [.custom 0 source fun _ => true]⟩
  names := ⟨['B'], ['_', '_', 'b'], ['g', 'e', 't', 'B'], ['s', 'e', 't', 'B']⟩
  derived := rfl

theorem reachable_guarded (source : Text) : (guarded source).Reachable := ⟨_, rfl⟩

theorem members_guarded (source : Text) :
    (guarded source).members = .ok [guardedMember source] := rfl

theorem derivable_guarded (source : Text) : (guarded source).Derivable :=
  Registry.exists_members_iff.mp ⟨_, members_guarded source⟩

theorem ofRegistry_guarded (source : Text) : ClassText.ofRegistry (guarded source) =
    .ok (ClassText.ofMembers ['A'] [guardedMember source]) :=
  ClassText.ofRegistry_eq_ok rfl (members_guarded source)

theorem allGuards_guarded {holds : Guard → Prop} {source : Text}
    (found : holds (.custom 0 source fun _ => true)) : (guarded source).AllGuards holds :=
  List.forall_mem_singleton.mpr (List.forall_mem_singleton.mpr found)

/-- A guard with a blank in a literal, and with a compound assignment of an operand that begins with
an exclamation mark, comes through the layout. -/
theorem literals_kept_sample :
    ∃ pieces, ClassText.ofRegistry (guarded "v => (v +=!0) !== \"a b\"".toList) = .ok pieces ∧
      ∀ options laid, format options pieces.render = .ok laid →
        literals laid = literals pieces.render ∧ compounds laid = ['+'] := by
  have calm : isCalm [] .code "v => (v +=!0) !== \"a b\"".toList = true := by
    rw [String.toList_ofList]
    decide
  have lasting : (guarded "v => (v +=!0) !== \"a b\"".toList).guardSources.flatMap
      lastingCompounds = ['+'] := by
    change lastingCompounds "v => (v +=!0) !== \"a b\"".toList ++ [] = _
    rw [String.toList_ofList]
    decide
  obtain ⟨pieces, assembled, -, -, kept⟩ := @literals_kept _ ['A'] (reachable_guarded _) rfl
    (derivable_guarded _) (allGuards_guarded (by
      rintro handle source predicate ⟨⟩
      exact calm))
  rw [lasting] at kept
  exact ⟨pieces, assembled, kept⟩

set_option maxRecDepth 4000 in
/-- The layout of a class need not keep its literals and compound assignments. Where a guard has an
equals sign in a literal, the sign is spaced, and a compound assignment is parted. -/
theorem literals_broken :
    (guarded "v => (v += 1) !== \"a=b\"".toList).Reachable ∧
      (guarded "v => (v += 1) !== \"a=b\"".toList).className = some ['A'] ∧
      (guarded "v => (v += 1) !== \"a=b\"".toList).Derivable ∧
      ∃ pieces laid, ClassText.ofRegistry (guarded "v => (v += 1) !== \"a=b\"".toList) =
          .ok pieces ∧ format .standard pieces.render = .ok laid ∧
        literals laid ≠ literals pieces.render ∧ compounds laid ≠ compounds pieces.render := by
  refine ⟨reachable_guarded _, rfl, derivable_guarded _, _, _, ofRegistry_guarded _,
    format_eq .standard _, ?_⟩
  unfold ClassText.render ClassText.ofMembers ClassText.banner ClassText.dumpMethod
    ClassText.loadMethod
  simp only [List.flatMap_cons, List.flatMap_nil]
  unfold ClassText.initializer ClassText.getter ClassText.setter ClassText.guardChecksFrom
    ClassText.guardCheck
  repeat rw [String.toList_ofList]
  decide +kernel

end Generation

end Beanwright
