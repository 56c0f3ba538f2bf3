import Beanwright.Proofs.Program.Spacing

/-!
# The listing of a class

A listing writes the lines of a class one after the other, blanks and indentation included. They
are the pretty lines of the code of the class, statement by statement and block by block.
-/

namespace Beanwright

open Code Layout Text

/-- A line at a level of indentation. -/
def Indent.line (indent : Indent) (level : Nat) (content : Text) : Text :=
  indent.repeated level ++ content

/-! ## Listings -/

namespace Listing

variable (indent : Indent)

/-- The lines of the constructor. -/
def constructorLines (members : List Member) : List Text :=
  [indent.line 1 "constructor () \x7b".toList] ++
    (members.map fun member =>
      indent.line 2 ("this.".toList ++ member.names.field ++ " = null;".toList)) ++
    [indent.line 1 ['}']]

/-- The lines of a getter, after an empty line. -/
def getterLines (member : Member) : List Text := [
  [],
  indent.line 1 ("get".toList ++ member.names.pascal ++ " () \x7b".toList),
  indent.line 2 ("if (this.".toList ++ member.names.field ++ " === null) \x7b".toList),
  indent.line 3 ("throw new Error('Property \"".toList ++ member.property.name ++
    "\" is not set');".toList),
  indent.line 2 ['}'],
  indent.line 2 ("return this.".toList ++ member.names.field ++ ";".toList),
  indent.line 1 ['}']]

/-- The lines that refuse a second value. -/
def immutabilityLines (member : Member) : List Text := [
  indent.line 2 ("if (this.".toList ++ member.names.field ++ " !== null) \x7b".toList),
  indent.line 3 ("throw new Error('Cannot set immutable property \"".toList ++
    member.property.name ++ "\"');".toList),
  indent.line 2 ['}']]

/-- The lines that refuse what a guard rejects. -/
def guardLines (index : Nat) (guard : Guard) : List Text := [
  indent.line 2 ("let ".toList ++ ClassText.guardLocal index ++ " = ".toList ++ guard.source ++
    ";".toList),
  indent.line 2 ("if (!".toList ++ ClassText.guardLocal index ++ "(value)) \x7b".toList),
  indent.line 3
    "throw new Error('Unexpected value \"' + value + '\" of type ' + typeof value);".toList,
  indent.line 2 ['}']]

/-- The lines of all guards of a property, counted from an index on. -/
def guardLinesFrom : (index : Nat) → List Guard → List Text
  | _, [] => []
  | index, guard :: rest => guardLines indent index guard ++ guardLinesFrom (index + 1) rest

/-- The lines of a setter, after an empty line. -/
def setterLines (member : Member) : List Text :=
  [[], indent.line 1 ("set".toList ++ member.names.pascal ++ " (value) \x7b".toList)] ++
    (if member.property.immutable then immutabilityLines indent member else []) ++
    guardLinesFrom indent 0 member.property.guards ++
    [indent.line 2 ("this.".toList ++ member.names.field ++ " = value;".toList),
      indent.line 1 ['}']]

/-- The lines of the method that turns an object into a record, after an empty line. -/
def dumpLines (className : Text) : List Text := [
  [],
  indent.line 1 "static Dump (object, keepObject) \x7b".toList,
  indent.line 2 ("if (object instanceof ".toList ++ className ++ ") \x7b".toList),
  indent.line 3 "let serialized = JSON.stringify(object);".toList,
  indent.line 3 "return keepObject === true ? JSON.parse(serialized) : serialized;".toList,
  indent.line 2 ['}'],
  indent.line 2 ("throw new Error('Can only dump instances of ".toList ++ className ++
    "');".toList),
  indent.line 1 ['}']]

/-- The lines of the method that turns a record into an object, after an empty line. -/
def loadLines (className : Text) : List Text := [
  [],
  indent.line 1 "static Load (serialized) \x7b".toList,
  indent.line 2 "if (Object(serialized) !== serialized) \x7b".toList,
  indent.line 3 "serialized = JSON.parse(serialized);".toList,
  indent.line 2 ['}'],
  [],
  indent.line 2 "if (serialized === null) \x7b".toList,
  indent.line 3 "throw new Error('Failed to load serialized object');".toList,
  indent.line 2 ['}'],
  indent.line 2 ("let object = new ".toList ++ className ++ "();".toList),
  indent.line 2 "for (let key of Object.keys(serialized)) \x7b".toList,
  indent.line 3 "if (object[key] === undefined) \x7b".toList,
  indent.line 4 "throw new Error('Unsupported key \"' + key + '\" for this class');".toList,
  indent.line 3 ['}'],
  indent.line 3 "object[key] = serialized[key];".toList,
  indent.line 2 ['}'],
  indent.line 2 "return object;".toList,
  indent.line 1 ['}']]

/-- The lines of a class from its first to its last brace. -/
def classLines (className : Text) (members : List Member) : List Text :=
  ["class ".toList ++ className ++ " \x7b".toList] ++ constructorLines indent members ++
    (members.flatMap fun member => getterLines indent member ++ setterLines indent member) ++
    dumpLines indent className ++ loadLines indent className ++ [['}']]

/-- The lines of a generated text. -/
def lines (className : Text) (members : List Member) : List Text :=
  [ClassText.banner, []] ++ classLines indent className members ++
    [[], "module.exports = ".toList ++ className ++ ";".toList]

/-- The listing of a class: its lines, each ended by a line feed. -/
def text (className : Text) (members : List Member) : Text :=
  (lines indent className members).flatMap fun line => line ++ ['\n']

end Listing

/-! ## Pieces of code as listed -/

namespace Code

variable {indent : Indent} {level : Nat}

/-- The lines of code that follows a block. -/
def afterBlock (indent : Indent) (level : Nat) (code : Code) : List Text :=
  (if code.beginsWithHeader then [[]] else []) ++ code.pretty indent level

theorem pretty_statement (content : Text) (next : Code) :
    (statement content next).pretty indent level =
      indent.line level (spaceLine (content ++ [';'])) :: next.pretty indent level := rfl

theorem pretty_block (header : Text) (body next : Code) :
    (block header body next).pretty indent level =
      indent.line level (spaceLine (header ++ ['{'])) :: (body.pretty indent (level + 1) ++
        indent.line level ['}'] :: next.afterBlock indent level) := rfl

theorem afterBlock_statement (content : Text) (next : Code) :
    (statement content next).afterBlock indent level =
      indent.line level (spaceLine (content ++ [';'])) :: next.pretty indent level := rfl

theorem afterBlock_done : done.afterBlock indent level = [] := rfl

theorem afterBlock_of_header {code : Code} (header : code.beginsWithHeader = true) :
    code.afterBlock indent level = [] :: code.pretty indent level := by
  rw [afterBlock, header]
  rfl

theorem afterBlock_of_noHeader {code : Code} (noHeader : code.beginsWithHeader = false) :
    code.afterBlock indent level = code.pretty indent level := by
  rw [afterBlock, noHeader]
  rfl

theorem pretty_throwCode {message : Text} (plain : message.all isPlain = true) :
    (throwCode message).pretty indent level =
      [indent.line level ("throw new Error(".toList ++ message ++ ");".toList)] := by
  rw [throwCode, pretty_statement, spaceLine_throw plain, pretty]

theorem pretty_methodCode {name parameters : Text} (namePlain : name.all isPlain = true)
    (plain : parameters.all isPlain = true) (body next : Code) :
    (methodCode name parameters body next).pretty indent level =
      indent.line level (name ++ " (".toList ++ parameters ++ ") \x7b".toList) ::
        (body.pretty indent (level + 1) ++
          indent.line level ['}'] :: next.afterBlock indent level) := by
  rw [methodCode, pretty_block, spaceLine_method namePlain plain]

theorem beginsWithHeader_methodCode {name parameters : Text} (named : isName name = true)
    (opens : opensIntoBlock (" (".toList ++ parameters ++ ") \x7b".toList) = true)
    (body next : Code) : (methodCode name parameters body next).beginsWithHeader = true := by
  have found (text : Text) (front : Text) (header : isHeader text = true) :
      isHeader (front ++ text) = true := by
    induction front with
    | nil => exact header
    | cons first others ih => rw [List.cons_append, isHeader, ih, Bool.or_true]
  obtain ⟨front, last, rfl, allowed⟩ := exists_concat_of_isName named
  have header : isHeader (last :: (" (".toList ++ parameters ++ ") \x7b".toList)) = true := by
    rw [isHeader, opens, isWordCharacter_of_isNameCharacter allowed]
    rfl
  have whole := found _ front header
  simp only [methodCode, beginsWithHeader] at whole ⊢
  repeat rw [String.toList_ofList] at whole
  repeat rw [String.toList_ofList]
  simp only [List.append_assoc, List.cons_append, List.nil_append] at whole ⊢
  exact whole

end Code

namespace ClassProgram

variable {indent : Indent} {members : List Member} {className : Text}

theorem afterBlock_getterCode (member : Member) (next : Code) :
    (member.accessors.getterCode next).afterBlock indent 1 =
      Listing.getterLines indent member ++ next.afterBlock indent 1 := by
  have header : (member.accessors.getterCode next).beginsWithHeader = true :=
    beginsWithHeader_methodCode member.isName_getter (by decide) _ _
  have fieldPlain := all_isPlain_of_isName member.isName_field
  have message : (notSetMessage member.property.name).all isPlain = true :=
    all_isPlain_append
      (all_isPlain_append (all_literal (by decide)) (all_isPlain_name member))
      (all_literal (by decide))
  have returned : ("return this.".toList ++ member.names.field ++ [';']).all isPlain = true :=
    all_isPlain_append (all_isPlain_append (all_literal (by decide)) fieldPlain) (by decide)
  rw [afterBlock_of_header header, AccessorPair.getterCode, Member.accessors,
    pretty_methodCode (all_isPlain_of_isName member.isName_getter) rfl, ifCode, pretty_block,
    spaceLine_if_unset member.isName_field, pretty_throwCode message, afterBlock_statement,
    spaceLine_of_isPlain returned, member.getter_eq, pretty]
  unfold notSetMessage Listing.getterLines
  repeat rw [String.toList_ofList]
  simp only [List.append_assoc, List.cons_append, List.nil_append]

/-- The statement that makes a named guard known is spaced at its first equals sign only. -/
theorem spaceLine_guardStatement (index : Nat) (check : TypeCheck) :
    spaceLine (SetterStep.guardStatement index (.named check) ++ [';']) =
      "let ".toList ++ ClassText.guardLocal index ++ " = ".toList ++ check.source ++
        ";".toList := by
  obtain ⟨noBrace, begins, controlled, spaced⟩ : '{' ∉ check.source ++ [';'] ∧
      (check.source ++ [';']).head? = some 'v' ∧
      spaceControls (check.source ++ [';']) = check.source ++ [';'] ∧
      spaceAfterOperator (check.source ++ [';']) = ' ' :: (check.source ++ [';']) := by
    unfold TypeCheck.source TypeCheck.unsignedSource TypeCheck.signedSource
    cases check
    all_goals
      dsimp only
      repeat rw [String.toList_ofList]
      decide +kernel
  have letPlain : "let ".toList.all isPlain = true := by decide
  have assigned := spaceLine_assignment letPlain (isName_guardLocal index) noBrace begins
    (by decide) (by decide) controlled spaced
  unfold SetterStep.guardStatement
  simp only [Guard.source] at assigned ⊢
  repeat rw [String.toList_ofList] at assigned
  repeat rw [String.toList_ofList]
  simp only [List.append_assoc, List.cons_append, List.nil_append] at assigned ⊢
  exact assigned

theorem endsInControlWord_guardLocal (index : Nat) :
    endsInControlWord (ClassText.guardLocal index) = false := by
  have begins : (ClassText.guardLocal index).head? = some 't' := by cases index <;> rfl
  refine endsInControlWord_eq_false (fun letter inName => ?_) ?_
  · exact isWordCharacter_of_isNameCharacter
      (isNameCharacter_of_mem (isName_guardLocal index) inName)
  · rw [begins]
    decide

/-- The steps of the guards and the final store are listed one after the other, and they do not
begin with a header. -/
theorem pretty_guardSteps (indent : Indent) (member : Member) (index : Nat)
    {guards : List Guard} (namedGuards : ∀ guard ∈ guards, ∃ check, guard = .named check)
    {code : Code} (isCode : code = (SetterStep.ofGuards index guards).foldr SetterStep.code
      (SetterStep.code (.store member.names.field) .done)) :
    code.beginsWithHeader = false ∧ code.pretty indent 2 =
      Listing.guardLinesFrom indent index guards ++
        [indent.line 2 ("this.".toList ++ member.names.field ++ " = value;".toList)] := by
  -- The header of the first step decides whether an empty line precedes it, so both are proved at
  -- once.
  subst isCode
  induction guards generalizing index with
  | nil =>
    have assigned : spaceLine ("this.".toList ++ member.names.field ++ '=' :: "value;".toList) =
        "this.".toList ++ member.names.field ++ " = ".toList ++ "value;".toList :=
      spaceLine_assignment (by decide) member.isName_field (by decide) rfl (by decide) (by decide)
        (by decide) (by decide)
    refine ⟨rfl, ?_⟩
    rw [SetterStep.ofGuards, List.foldr_nil, SetterStep.code, pretty_statement, pretty,
      Listing.guardLinesFrom]
    repeat rw [String.toList_ofList] at assigned
    repeat rw [String.toList_ofList]
    simp only [List.append_assoc, List.cons_append, List.nil_append] at assigned ⊢
    rw [assigned]
  | cons guard rest ih =>
    obtain ⟨check, rfl⟩ := namedGuards guard List.mem_cons_self
    obtain ⟨noHeader, later⟩ := ih (index + 1) fun guard inRest =>
      namedGuards guard (List.mem_cons_of_mem _ inRest)
    have message : rejectionMessage.all isPlain = true := by
      unfold rejectionMessage
      exact all_literal (by decide)
    refine ⟨rfl, ?_⟩
    rw [SetterStep.ofGuards, List.foldr_cons, SetterStep.code, pretty_statement,
      spaceLine_guardStatement, ifCode, pretty_block,
      spaceLine_if_rejected (isName_guardLocal index) (endsInControlWord_guardLocal index),
      pretty_throwCode message, afterBlock_of_noHeader noHeader, later, Listing.guardLinesFrom]
    unfold Listing.guardLines rejectionMessage
    simp only [Guard.source]
    repeat rw [String.toList_ofList]
    simp only [List.append_assoc, List.cons_append, List.nil_append]

theorem afterBlock_setterCode (member : Member)
    (namedGuards : ∀ guard ∈ member.property.guards, ∃ check, guard = .named check)
    (next : Code) :
    (member.accessors.setterCode next).afterBlock indent 1 =
      Listing.setterLines indent member ++ next.afterBlock indent 1 := by
  have header : (member.accessors.setterCode next).beginsWithHeader = true :=
    beginsWithHeader_methodCode member.isName_setter (by decide) _ _
  have message : (immutableMessage member.property.name).all isPlain = true :=
    all_isPlain_append
      (all_isPlain_append (all_literal (by decide)) (all_isPlain_name member))
      (all_literal (by decide))
  obtain ⟨noHeader, guarded⟩ := pretty_guardSteps indent member 0 namedGuards rfl
  rw [afterBlock_of_header header, AccessorPair.setterCode, Member.accessors, Member.setterSteps,
    pretty_methodCode (all_isPlain_of_isName member.isName_setter) (all_literal (by decide)),
    List.foldr_append, List.foldr_append, member.setter_eq]
  unfold Listing.setterLines
  cases member.property.immutable with
  | false =>
    rw [if_neg Bool.false_ne_true, if_neg Bool.false_ne_true, List.foldr_nil, List.foldr_cons,
      List.foldr_nil, guarded]
    repeat rw [String.toList_ofList]
    simp only [List.append_assoc, List.cons_append, List.nil_append]
  | true =>
    rw [if_pos rfl, if_pos rfl, List.foldr_cons, List.foldr_nil, List.foldr_cons, List.foldr_nil,
      SetterStep.code, ifCode, pretty_block, spaceLine_if_set member.isName_field,
      pretty_throwCode message, afterBlock_of_noHeader noHeader, guarded]
    unfold immutableMessage Listing.immutabilityLines
    repeat rw [String.toList_ofList]
    simp only [List.append_assoc, List.cons_append, List.nil_append]

theorem afterBlock_dumpCode (named : isName className = true) (next : Code) :
    (dumpCode className next).afterBlock indent 1 =
      Listing.dumpLines indent className ++ next.afterBlock indent 1 := by
  have isHeader : Layout.isHeader ("static Dump".toList ++ " (".toList ++
      "object, keepObject".toList ++ ") ".toList ++ ['{']) = true := by
    repeat rw [String.toList_ofList]
    decide
  have header : (dumpCode className next).beginsWithHeader = true := isHeader
  have message : (foreignMessage className).all isPlain = true :=
    all_isPlain_append (all_isPlain_append (all_literal (by decide)) (all_isPlain_of_isName named))
      (all_literal (by decide))
  have serialized : spaceLine ("let serialized=JSON.stringify(object)".toList ++ [';']) =
      "let serialized = JSON.stringify(object);".toList :=
    spaceLine_literal (by decide)
  have returned : spaceLine
      ("return keepObject === true ? JSON.parse(serialized) : serialized".toList ++ [';']) =
        "return keepObject === true ? JSON.parse(serialized) : serialized;".toList :=
    spaceLine_literal (by decide)
  rw [afterBlock_of_header header]
  unfold dumpCode
  rw [pretty_methodCode (all_literal (by decide)) (all_literal (by decide)), ifCode, pretty_block,
    spaceLine_if_foreign named, pretty_statement, serialized, pretty_statement, returned, pretty,
    afterBlock_of_noHeader rfl, pretty_throwCode message]
  unfold foreignMessage Listing.dumpLines
  repeat rw [String.toList_ofList]
  simp only [List.append_assoc, List.cons_append, List.nil_append]

/-- A class identifier does not end in a control word, as it begins unlike all of them. -/
theorem endsInControlWord_className (identifier : Registry.isClassIdentifier className = true) :
    endsInControlWord className = false := by
  rw [Registry.isClassIdentifier, Bool.and_eq_true] at identifier
  obtain ⟨named, capital⟩ := identifier
  obtain ⟨first, others, rfl, -⟩ := exists_cons_of_isName named
  refine endsInControlWord_eq_false (fun letter inName => ?_) ?_
  · exact isWordCharacter_of_isNameCharacter (isNameCharacter_of_mem named inName)
  · intro word inWords equal
    have lower : ∀ word ∈ controlWords, word.head?.any (fun first =>
        first.isUpper || first == '_') = false := by decide
    have found := lower word inWords
    rw [← equal, capital] at found
    cases found

theorem spaceLine_newObject (identifier : Registry.isClassIdentifier className = true) :
    spaceLine ("let object=new ".toList ++ className ++ "()".toList ++ [';']) =
      "let object = new ".toList ++ className ++ "();".toList := by
  have noControl : endsInControlWord ("new ".toList ++ className) = false := by
    have boundary : isWordCharacter ' ' = false := by decide
    have hidden := endsInControlWord_append_boundary boundary "new".toList className
    rw [endsInControlWord_className identifier] at hidden
    exact hidden
  have named := Registry.isName_of_isClassIdentifier identifier
  have plain : ("new ".toList ++ className).all isPlain = true :=
    all_isPlain_append (by decide) (all_isPlain_of_isName named)
  have closed : '(' ∉ ");".toList := by decide
  have controlled :=
    spaceControls_parenthesis noControl (notMem_of_isPlain plain (by decide)) closed
  have noBrace : '{' ∉ "new ".toList ++ className ++ '(' :: ");".toList :=
    notMem_append_of_isPlain plain (by decide) (by decide)
  have noEquals : '=' ∉ "new ".toList ++ className ++ '(' :: ");".toList :=
    notMem_append_of_isPlain plain (by decide) (by decide)
  have begins : ("new ".toList ++ className ++ '(' :: ");".toList).head? = some 'n' := rfl
  have spaced : spaceAfterOperator ("new ".toList ++ className ++ '(' :: ");".toList) =
      ' ' :: ("new ".toList ++ className ++ '(' :: ");".toList) := by
    have solid : trimStart ("new ".toList ++ className ++ '(' :: ");".toList) =
        "new ".toList ++ className ++ '(' :: ");".toList :=
      trimStart_cons_of_not_isBlank (by decide) _
    rw [spaceAfterOperator_of_notMem noEquals (by rw [solid]; exact List.cons_ne_nil _ _), solid]
  have letPlain : "let ".toList.all isPlain = true := by decide
  have objectNamed : isName "object".toList = true := by decide
  have assigned := spaceLine_assignment letPlain objectNamed noBrace begins (by decide) (by decide)
    controlled spaced
  repeat rw [String.toList_ofList] at assigned
  repeat rw [String.toList_ofList]
  simp only [List.append_assoc, List.cons_append, List.nil_append] at assigned ⊢
  exact assigned

theorem afterBlock_loadCode (identifier : Registry.isClassIdentifier className = true) :
    (loadCode className .done).afterBlock indent 1 = Listing.loadLines indent className := by
  have isHeader : Layout.isHeader ("static Load".toList ++ " (".toList ++ "serialized".toList ++
      ") ".toList ++ ['{']) = true := by
    repeat rw [String.toList_ofList]
    decide
  have header : (loadCode className .done).beginsWithHeader = true := isHeader
  have isConditionHeader : Layout.isHeader ("if(".toList ++ "serialized===null".toList ++
      ")".toList ++ ['{']) = true := by
    repeat rw [String.toList_ofList]
    decide
  have conditionHeader (body next : Code) :
      (ifCode "serialized===null".toList body next).beginsWithHeader = true := isConditionHeader
  have differs : spaceLine ("if(".toList ++ "Object(serialized) !== serialized".toList ++
      ")".toList ++ ['{']) = "if (Object(serialized) !== serialized) \x7b".toList :=
    spaceLine_if_literal (by decide)
  have parsed : spaceLine ("serialized=JSON.parse(serialized)".toList ++ [';']) =
      "serialized = JSON.parse(serialized);".toList :=
    spaceLine_literal (by decide)
  have isNull : spaceLine ("if(".toList ++ "serialized===null".toList ++ ")".toList ++ ['{']) =
      "if (serialized === null) \x7b".toList :=
    spaceLine_if_literal (by decide)
  have keyed : spaceLine ("for(let key of Object.keys(serialized))".toList ++ ['{']) =
      "for (let key of Object.keys(serialized)) \x7b".toList :=
    spaceLine_literal (by decide)
  have unknown : spaceLine ("if(".toList ++ "object[key]===undefined".toList ++ ")".toList ++
      ['{']) = "if (object[key] === undefined) \x7b".toList :=
    spaceLine_if_literal (by decide)
  have copied : spaceLine ("object[key]=serialized[key]".toList ++ [';']) =
      "object[key] = serialized[key];".toList :=
    spaceLine_literal (by decide)
  have returned : spaceLine ("return object".toList ++ [';']) = "return object;".toList :=
    spaceLine_literal (by decide)
  rw [afterBlock_of_header header]
  unfold loadCode
  rw [pretty_methodCode (all_literal (by decide)) (all_literal (by decide)), ifCode, pretty_block,
    differs, pretty_statement, parsed, pretty, afterBlock_of_header (conditionHeader _ _), ifCode,
    pretty_block, isNull, pretty_throwCode (all_literal (by decide)), afterBlock_statement,
    spaceLine_newObject identifier, pretty_block, keyed, ifCode, pretty_block, unknown,
    pretty_throwCode (all_literal (by decide)), afterBlock_statement, copied, pretty,
    afterBlock_statement, returned, pretty, afterBlock_done]
  unfold Listing.loadLines
  repeat rw [String.toList_ofList]
  simp only [List.cons_append, List.nil_append]

theorem pretty_constructorCode :
    (ofMembers members).constructorCode.pretty indent 2 = members.map fun member =>
      indent.line 2 ("this.".toList ++ member.names.field ++ " = null;".toList) := by
  rw [constructorCode, ofMembers]
  induction members with
  | nil => rfl
  | cons member rest ih =>
    have assigned : spaceLine ("this.".toList ++ member.names.field ++ '=' :: "null;".toList) =
        "this.".toList ++ member.names.field ++ " = ".toList ++ "null;".toList :=
      spaceLine_assignment (by decide) member.isName_field
        (by decide) rfl (by decide) (by decide) (by decide) (by decide)
    dsimp only at ih ⊢
    rw [List.map_cons, List.foldr_cons, pretty_statement, ih, List.map_cons]
    repeat rw [String.toList_ofList] at assigned
    repeat rw [String.toList_ofList]
    simp only [List.append_assoc, List.cons_append, List.nil_append] at assigned ⊢
    rw [assigned]

theorem afterBlock_accessorCode (namedGuards : HasNamedGuards members) (next : Code) :
    ((ofMembers members).accessorCode next).afterBlock indent 1 =
      (members.flatMap fun member =>
        Listing.getterLines indent member ++ Listing.setterLines indent member) ++
        next.afterBlock indent 1 := by
  rw [accessorCode, ofMembers]
  induction members with
  | nil => rfl
  | cons member rest ih =>
    have later := ih fun member inRest => namedGuards member (List.mem_cons_of_mem _ inRest)
    dsimp only at later ⊢
    rw [List.map_cons, List.foldr_cons, AccessorPair.code, afterBlock_getterCode member,
      afterBlock_setterCode member (namedGuards member List.mem_cons_self), later,
      List.flatMap_cons]
    simp only [List.append_assoc]

/-- The pretty lines of a class are its listing. -/
theorem pretty_code (namedGuards : HasNamedGuards members)
    (identifier : Registry.isClassIdentifier className = true) :
    ((ofMembers members).code className "constructor ()".toList).pretty indent 0 =
      Listing.classLines indent className members := by
  have named := Registry.isName_of_isClassIdentifier identifier
  have constructed : spaceLine ("constructor ()".toList ++ ['{']) =
      "constructor () \x7b".toList :=
    spaceLine_literal (by decide)
  rw [code, pretty_block, pretty_block, afterBlock_done, spaceLine_class named, constructed,
    pretty_constructorCode, afterBlock_accessorCode namedGuards,
    afterBlock_dumpCode named, afterBlock_loadCode identifier]
  simp only [Listing.classLines, Listing.constructorLines, List.append_assoc, List.cons_append,
    List.nil_append]
  rfl

end ClassProgram

end Beanwright
