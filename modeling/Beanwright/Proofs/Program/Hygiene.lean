import Beanwright.Proofs.Layout.Mentions
import Beanwright.Proofs.Program.Signature
import Beanwright.Proofs.Registry.ClassName

/-!
# The name of a class among the names in its body

Inside its body a class is known by its name, so a class that has the name of a built-in or of a
local name takes that name away from the code in its body. All local names begin with a lower-case
letter and no class name does. Built-ins are another matter: a class may be called after any of
them. The name does no harm as long as the body does not refer to that built-in, which depends on
the guards.
-/

namespace Beanwright

open Layout Text

/-! ## Names in the body of a class -/

/-- The built-in that the arrow function of a check refers to. -/
def TypeCheck.builtIn? : TypeCheck → Option Text
  | uint | uint8 | uint16 | uint32 | uint64 | int | int8 | int16 | int32 | int64 =>
    some "Number".toList
  | list => some "Array".toList
  | set => some "Set".toList
  | map => some "Map".toList
  | object => some "Object".toList
  | string | boolean | func => none

/-- The built-in that a guard refers to, if it is a named one. -/
def Guard.builtIn? : Guard → Option Text
  | named check => check.builtIn?
  | custom _ _ _ => none

namespace ClassText

/-- The built-ins that a class can refer to. -/
def builtIns : List Text :=
  ["Object".toList, "JSON".toList, "Error".toList, "Number".toList, "Array".toList, "Set".toList,
    "Map".toList]

/-- The built-ins that every class refers to in its accessors and its two helper methods. -/
def helperBuiltIns : List Text := ["Object".toList, "JSON".toList, "Error".toList]

/-- A name is bound locally somewhere in the body of a class: as a parameter, as a variable of a
helper method or as the name of a guard. -/
def IsLocal (name : Text) : Prop :=
  name ∈ ["value".toList, "object".toList, "serialized".toList, "keepObject".toList,
    "key".toList] ∨ ∃ index, name = guardLocal index

/-- The text between the braces of a class that has the name `self`. -/
def body (pieces : ClassText) (self : Text) : Text :=
  "constructor()\x7b".toList ++ pieces.initializers ++ ['}'] ++ pieces.accessors ++
    dumpMethod self ++ loadMethod self

/-- A class refers to a name if its body mentions the name, whatever the class itself is called. -/
def RefersTo (pieces : ClassText) (name : Text) : Prop :=
  ∀ self, Registry.isClassIdentifier self = true → name ∈ mentions (pieces.body self)

/-- The name of the class is neither one of the built-ins that the class refers to nor one of its
local names. -/
def Hygienic (pieces : ClassText) : Prop :=
  ∀ name, name ∈ builtIns ∧ pieces.RefersTo name ∨ IsLocal name → pieces.className ≠ name

/-- The text of a class is its header, its body for its own name, and what follows. -/
theorem render_eq_body (pieces : ClassText) :
    pieces.render = banner ++ "\n\nclass ".toList ++ pieces.className ++ ['{'] ++
      pieces.body pieces.className ++ "\x7d\n\nmodule.exports = ".toList ++ pieces.className ++
        ";\n".toList := by
  have opens : "\x7bconstructor()\x7b".toList = ['{'] ++ "constructor()\x7b".toList := by decide
  unfold render body
  rw [opens]
  simp only [List.append_assoc]

variable {className self : Text} {members : List Member} {index : Nat}

/-! ## What the pieces mention

Names that begin with a lower-case letter are left out. -/

theorem reads_initializer (member : Member) :
    Reads .start (initializer member.names.field) [] .start := by
  have field := reads_code member.isName_field [] true
  have opens : Reads .start "this.".toList [] ⟨.code, [], true⟩ := reads_ofList ⟨rfl, rfl⟩
  have closes : Reads ⟨.code, member.names.field, true⟩ "=null;".toList [] .start :=
    reads_ofList ⟨rfl, rfl⟩
  exact (opens.append field).append closes

theorem reads_getter (member : Member) :
    Reads .start (getter member) ["Error".toList] .start := by
  have getterName := reads_code member.isName_getter [] false
  have field := reads_code member.isName_field [] true
  have name := reads_literal .single (all_isQuiet_name member)
  have opens : Reads ⟨.code, member.names.getter, false⟩ " () \x7bif(this.".toList []
      ⟨.code, [], true⟩ := by
    rw [member.getter_eq]
    exact reads_ofList ⟨rfl, rfl⟩
  have throws : Reads ⟨.code, member.names.field, true⟩
      "===null)\x7bthrow new Error('Property \"".toList ["Error".toList]
      ⟨.literal .single, [], false⟩ := reads_ofList ⟨rfl, rfl⟩
  have returns : Reads ⟨.literal .single, [], false⟩ "\" is not set');\x7dreturn this.".toList []
      ⟨.code, [], true⟩ := reads_ofList ⟨rfl, rfl⟩
  have closes : Reads ⟨.code, member.names.field, true⟩ ";\x7d".toList [] .start :=
    reads_ofList ⟨rfl, rfl⟩
  exact ((((((getterName.append opens).append field).append throws).append name).append
    returns).append field).append closes

theorem reads_immutabilityCheck (member : Member) :
    Reads .start (immutabilityCheck member) ["Error".toList] .start := by
  have field := reads_code member.isName_field [] true
  have name := reads_literal .single (all_isQuiet_name member)
  have opens : Reads .start "if(this.".toList [] ⟨.code, [], true⟩ := reads_ofList ⟨rfl, rfl⟩
  have throws : Reads ⟨.code, member.names.field, true⟩
      " !== null)\x7bthrow new Error('Cannot set immutable property \"".toList ["Error".toList]
      ⟨.literal .single, [], false⟩ := reads_ofList ⟨rfl, rfl⟩
  have closes : Reads ⟨.literal .single, [], false⟩ "\"');\x7d".toList [] .start :=
    reads_ofList ⟨rfl, rfl⟩
  exact (((opens.append field).append throws).append name).append closes

/-- The arrow function of a check mentions its built-in. Where it ends in a word, the semicolon
after it ends that word. -/
theorem reads_source (check : TypeCheck) :
    Reads .start (check.source ++ [';']) check.builtIn?.toList .start := by
  have condition : Reads .start TypeCheck.integerCondition ["Number".toList] .start :=
    reads_ofList ⟨rfl, rfl⟩
  have isUnsigned {bound : Text} (numeral : Reads .start (bound ++ [';']) [] .start) :
      Reads .start (TypeCheck.unsignedSource bound ++ [';']) ["Number".toList] .start := by
    have compares : Reads .start " && v >= 0 && v < ".toList [] .start := reads_ofList ⟨rfl, rfl⟩
    rw [TypeCheck.unsignedSource, List.append_assoc]
    exact (condition.append compares).append numeral
  have isSigned {least greatest : Text} (below : Reads .start (least ++ [' ']) [] .start)
      (above : Reads .start (greatest ++ [';']) [] .start) :
      Reads .start (TypeCheck.signedSource least greatest ++ [';']) ["Number".toList] .start := by
    have compares : Reads .start " && v >= ".toList [] .start := reads_ofList ⟨rfl, rfl⟩
    have parts : " && v <= ".toList = [' '] ++ "&& v <= ".toList := by decide
    have comparesAgain : Reads .start "&& v <= ".toList [] .start := reads_ofList ⟨rfl, rfl⟩
    have whole := (((condition.append compares).append below).append comparesAgain).append above
    rw [TypeCheck.signedSource, parts]
    simp only [List.append_assoc] at whole ⊢
    exact whole
  have literal {source follow : Text} {proper : List Text}
      (reads : Reads .start (source ++ follow) proper .start) :
      Reads .start ((String.ofList source).toList ++ follow) proper .start := by
    rwa [String.toList_ofList]
  cases check with
  | uint | uint64 | uint8 | uint16 | uint32 => exact isUnsigned (literal ⟨rfl, rfl⟩)
  | int | int64 | int8 | int16 | int32 =>
    exact isSigned (literal ⟨rfl, rfl⟩) (literal ⟨rfl, rfl⟩)
  | string | boolean | list | set | map | object | func => exact literal ⟨rfl, rfl⟩

theorem exists_guardLocal_eq (index : Nat) :
    ∃ digits, guardLocal index = "test".toList ++ digits := by
  cases index with
  | zero => exact ⟨[], (List.append_nil _).symm⟩
  | succ index => exact ⟨_, rfl⟩

theorem reads_guardCheck (check : TypeCheck) :
    Reads .start (guardCheck index (.named check)) (check.builtIn?.toList ++ ["Error".toList])
      .start := by
  have guardName := reads_code (isName_guardLocal index) [] false
  obtain ⟨digits, localEq⟩ := exists_guardLocal_eq index
  have declares : Reads .start "let ".toList [] .start := reads_ofList ⟨rfl, rfl⟩
  have defines : Reads ⟨.code, guardLocal index, false⟩ ['='] [] .start := by
    rw [localEq]
    exact ⟨rfl, rfl⟩
  have tests : Reads .start "if(!".toList [] .start := reads_ofList ⟨rfl, rfl⟩
  have applies : Reads ⟨.code, guardLocal index, false⟩
      "(value))\x7bthrow new Error('Unexpected value \"' + value + '\" of type ' ".toList
      ["Error".toList] .start := by
    rw [localEq]
    exact reads_ofList ⟨rfl, rfl⟩
  have closes : Reads .start "+ typeof value);\x7d".toList [] .start := reads_ofList ⟨rfl, rfl⟩
  have whole := ((((((declares.append guardName).append defines).append
    (reads_source check)).append tests).append guardName).append applies).append closes
  have parts : ";if(!".toList = [';'] ++ "if(!".toList := by decide
  unfold guardCheck
  rw [parts]
  simp only [List.append_assoc, List.nil_append, List.append_nil] at whole ⊢
  exact whole

theorem reads_guardChecksFrom {guards : List Guard}
    (named : ∀ guard ∈ guards, ∃ check, guard = .named check) :
    Reads .start (guardChecksFrom index guards)
      (guards.flatMap fun guard => guard.builtIn?.toList ++ ["Error".toList]) .start := by
  induction guards generalizing index with
  | nil => exact .nil _
  | cons guard rest ih =>
    rw [List.forall_mem_cons] at named
    obtain ⟨⟨check, rfl⟩, restNamed⟩ := named
    exact (reads_guardCheck check).append (ih restNamed)

/-- The proper names that a setter mentions. -/
def setterNames (property : Property) : List Text :=
  (if property.immutable then ["Error".toList] else []) ++
    property.guards.flatMap fun guard => guard.builtIn?.toList ++ ["Error".toList]

theorem reads_setter (member : Member)
    (named : ∀ guard ∈ member.property.guards, ∃ check, guard = .named check) :
    Reads .start (setter member) (setterNames member.property) .start := by
  have setterName := reads_code member.isName_setter [] false
  have field := reads_code member.isName_field [] true
  have opens : Reads ⟨.code, member.names.setter, false⟩ " (value) \x7b".toList [] .start := by
    rw [member.setter_eq]
    exact reads_ofList ⟨rfl, rfl⟩
  have immutability : Reads .start
      (if member.property.immutable then immutabilityCheck member else [])
      (if member.property.immutable then ["Error".toList] else []) .start := by
    split
    · exact reads_immutabilityCheck member
    · exact .nil _
  have guarded : Reads .start (guardChecksFrom 0 member.property.guards)
      (member.property.guards.flatMap fun guard => guard.builtIn?.toList ++ ["Error".toList])
      .start := reads_guardChecksFrom named
  have stores : Reads .start "this.".toList [] ⟨.code, [], true⟩ := reads_ofList ⟨rfl, rfl⟩
  have closes : Reads ⟨.code, member.names.field, true⟩ "=value;\x7d".toList [] .start :=
    reads_ofList ⟨rfl, rfl⟩
  have whole := (((((setterName.append opens).append immutability).append guarded).append
    stores).append field).append closes
  simp only [List.append_nil, List.nil_append] at whole
  exact whole

theorem isProper_of_isClassIdentifier (identifier : Registry.isClassIdentifier self = true) :
    isProper self = true := by
  obtain ⟨first, rest, rfl, -, notLower, -⟩ := Registry.exists_cons_of_isClassIdentifier identifier
  rw [isProper, List.head?_cons, Option.any_some, notLower]
  rfl

/-- After the name of the class any other character ends a word, and the name is mentioned. -/
theorem reads_self {character : Char} {rest : Text} {proper : List Text} {last : Scan}
    (identifier : Registry.isClassIdentifier self = true)
    (ends : isNameCharacter character = false)
    (reads : Reads .start (character :: rest) proper last) :
    Reads ⟨.code, self, false⟩ (character :: rest) (self :: proper) last := by
  have moved : Scan.next ⟨.code, self, false⟩ character = Scan.start.next character := by
    rw [Scan.start, Scan.next, Scan.next, ends]
    rfl
  have named : Scan.ended? ⟨.code, self, false⟩ character = some self := by
    obtain ⟨first, rest, rfl, notDigit, -⟩ := Registry.exists_cons_of_isClassIdentifier identifier
    rw [Scan.ended?, ends, Scan.name?, List.head?_cons, Option.all_some, notDigit]
    rfl
  have nothing : Scan.start.ended? character = none := by
    rw [Scan.start, Scan.ended?, ends]
    rfl
  have later := reads.filter_names
  rw [Scan.names, nothing, Option.toList_none, List.nil_append] at later
  constructor
  · rw [Scan.names, named, moved, Option.toList_some, List.singleton_append,
      List.filter_cons_of_pos (isProper_of_isClassIdentifier identifier), later]
  · rw [Scan.after_cons, moved, ← Scan.after_cons, reads.after_eq]

theorem reads_dumpMethod (identifier : Registry.isClassIdentifier self = true) :
    Reads .start (dumpMethod self)
      ["Dump".toList, self, "JSON".toList, "JSON".toList, "Error".toList] .start := by
  have named := Registry.isName_of_isClassIdentifier identifier
  have inCode := reads_code named [] false
  have inLiteral := reads_literal .single (all_isQuiet_of_isName named)
  have opens : Reads .start
      "static Dump (object, keepObject) \x7bif(object instanceof ".toList ["Dump".toList] .start :=
    reads_ofList ⟨rfl, rfl⟩
  have serializes : Reads ⟨.code, self, false⟩
      ")\x7blet serialized=JSON.stringify(object);return keepObject === true ? ".toList
      [self, "JSON".toList] .start := reads_ofList (reads_self identifier rfl ⟨rfl, rfl⟩)
  have parses : Reads .start
      "JSON.parse(serialized) : serialized;\x7dthrow new Error('Can only dump instances of ".toList
      ["JSON".toList, "Error".toList] ⟨.literal .single, [], false⟩ := reads_ofList ⟨rfl, rfl⟩
  have closes : Reads ⟨.literal .single, [], false⟩ "');\x7d".toList [] .start :=
    reads_ofList ⟨rfl, rfl⟩
  exact ((((opens.append inCode).append serializes).append parses).append inLiteral).append closes

theorem reads_loadMethod (identifier : Registry.isClassIdentifier self = true) :
    Reads .start (loadMethod self)
      ["Load".toList, "Object".toList, "JSON".toList, "Error".toList, self, "Object".toList,
        "Error".toList] .start := by
  have inCode := reads_code (Registry.isName_of_isClassIdentifier identifier) [] false
  have opens : Reads .start
      "static Load (serialized) \x7bif(Object(serialized) !== serialized)\x7b".toList
      ["Load".toList, "Object".toList] .start := reads_ofList ⟨rfl, rfl⟩
  have parses : Reads .start
      "serialized=JSON.parse(serialized);\x7dif(serialized===null)\x7b".toList ["JSON".toList]
      .start := reads_ofList ⟨rfl, rfl⟩
  have refuses : Reads .start
      "throw new Error('Failed to load serialized object');\x7dlet object=new ".toList
      ["Error".toList] .start := reads_ofList ⟨rfl, rfl⟩
  have walks : Reads ⟨.code, self, false⟩ "();for(let key of Object.keys(serialized))\x7b".toList
      [self, "Object".toList] .start := reads_ofList (reads_self identifier rfl ⟨rfl, rfl⟩)
  have rejects : Reads .start
      "if(object[key]===undefined)\x7bthrow new Error('Unsupported key \"' + key + ".toList
      ["Error".toList] .start := reads_ofList ⟨rfl, rfl⟩
  have closes : Reads .start
      "'\" for this class');\x7dobject[key]=serialized[key];\x7dreturn object;\x7d".toList []
      .start := reads_ofList ⟨rfl, rfl⟩
  exact (((((opens.append parses).append refuses).append inCode).append walks).append
    rejects).append closes

/-- The proper names that the body of a class mentions. -/
def bodyNames (members : List Member) (self : Text) : List Text :=
  (members.flatMap fun member => "Error".toList :: setterNames member.property) ++
    (["Dump".toList, self, "JSON".toList, "JSON".toList, "Error".toList] ++
      ["Load".toList, "Object".toList, "JSON".toList, "Error".toList, self, "Object".toList,
        "Error".toList])

theorem filter_mentions_body
    (namedGuards : ClassProgram.HasNamedGuards members)
    (identifier : Registry.isClassIdentifier self = true) :
    (mentions ((ofMembers className members).body self)).filter isProper =
      bodyNames members self := by
  have opens : Reads .start "constructor()\x7b".toList [] .start := reads_ofList ⟨rfl, rfl⟩
  have initializers : Reads .start (members.flatMap fun member => initializer member.names.field)
      (members.flatMap fun _ => []) .start :=
    .flatMap fun member inMembers => reads_initializer member
  have closes : Reads .start ['}'] [] .start := ⟨rfl, rfl⟩
  have accessors : Reads .start (members.flatMap fun member => getter member ++ setter member)
      (members.flatMap fun member => "Error".toList :: setterNames member.property) .start :=
    .flatMap fun member inMembers => (reads_getter member).append
      (reads_setter member (namedGuards member inMembers))
  have nothing : (members.flatMap fun _ => ([] : List Text)) = [] := by simp
  rw [nothing] at initializers
  have whole := ((((opens.append initializers).append closes).append accessors).append
    (reads_dumpMethod identifier)).append (reads_loadMethod identifier)
  rw [bodyNames, ← List.append_assoc]
  exact whole.filter_mentions

theorem mem_setterNames_iff {property : Property} {name : Text} :
    name ∈ "Error".toList :: setterNames property ↔
      name = "Error".toList ∨ ∃ guard ∈ property.guards, guard.builtIn? = some name := by
  simp only [setterNames, List.mem_cons, List.mem_append, List.mem_flatMap, Option.mem_toList,
    List.not_mem_nil, or_false, List.mem_ite_nil_right]
  constructor
  · rintro (error | ⟨-, error⟩ | ⟨guard, inGuards, refers | error⟩)
    · exact .inl error
    · exact .inl error
    · exact .inr ⟨guard, inGuards, refers⟩
    · exact .inl error
  · rintro (error | ⟨guard, inGuards, refers⟩)
    · exact .inl error
    · exact .inr (.inr ⟨guard, inGuards, .inl refers⟩)

/-- The proper names in the body of a class are those of its two helpers, its own name, the
built-ins of the helpers and those of its guards. -/
theorem mem_bodyNames_iff {name : Text} : name ∈ bodyNames members self ↔
    name ∈ ["Dump".toList, "Load".toList, self] ∨ name ∈ helperBuiltIns ∨
      ∃ member ∈ members, ∃ guard ∈ member.property.guards, guard.builtIn? = some name := by
  simp only [bodyNames, helperBuiltIns, List.mem_append, List.mem_flatMap, mem_setterNames_iff]
  simp only [List.mem_cons, List.not_mem_nil, or_false]
  generalize "Object".toList = object, "JSON".toList = json, "Error".toList = error,
    "Dump".toList = dump, "Load".toList = load
  constructor
  · rintro (⟨member, inMembers, error | refers⟩ | fixed)
    · exact .inr (.inl (.inr (.inr error)))
    · exact .inr (.inr ⟨member, inMembers, refers⟩)
    · tauto
  · rintro (own | helper | ⟨member, inMembers, refers⟩)
    · tauto
    · tauto
    · exact .inl ⟨member, inMembers, .inr refers⟩

/-- A class refers to the built-ins of its helpers and to those of its guards, and to no other
ones. -/
theorem refersTo_iff
    (namedGuards : ClassProgram.HasNamedGuards members)
    {name : Text} (builtIn : name ∈ builtIns) :
    (ofMembers className members).RefersTo name ↔ name ∈ helperBuiltIns ∨
      ∃ member ∈ members, ∃ guard ∈ member.property.guards, guard.builtIn? = some name := by
  have checked : ∀ name ∈ builtIns, isProper name = true ∧
      name ∉ ["Dump".toList, "Load".toList, ['A']] := by decide
  obtain ⟨proper, apart⟩ := checked name builtIn
  have mentioned (self : Text) (identifier : Registry.isClassIdentifier self = true) :
      name ∈ mentions ((ofMembers className members).body self) ↔
        name ∈ bodyNames members self := by
    rw [← filter_mentions_body namedGuards identifier, List.mem_filter, and_iff_left proper]
  constructor
  · intro refers
    -- The class might be called `A`, which is no built-in.
    have inBody := (mentioned ['A'] (by decide)).mp (refers ['A'] (by decide))
    exact (mem_bodyNames_iff.mp inBody).resolve_left apart
  · intro refers self identifier
    exact (mentioned self identifier).mpr (mem_bodyNames_iff.mpr (.inr refers))

theorem isProper_of_isLocal {name : Text} (isLocal : IsLocal name) : isProper name = false := by
  rcases isLocal with fixed | ⟨index, rfl⟩
  · have checked : ∀ name ∈ ["value".toList, "object".toList, "serialized".toList,
        "keepObject".toList, "key".toList], isProper name = false := by decide
    exact checked name fixed
  · obtain ⟨digits, localEq⟩ := exists_guardLocal_eq index
    rw [localEq]
    rfl

/-- An identifier is no local name. -/
theorem ne_of_isLocal {name : Text} (identifier : Registry.isClassIdentifier self = true)
    (isLocal : IsLocal name) : self ≠ name := by
  rintro rfl
  have proper := isProper_of_isClassIdentifier identifier
  rw [isProper_of_isLocal isLocal] at proper
  cases proper

theorem mem_builtIns {guard : Guard} {name : Text} (refers : guard.builtIn? = some name) :
    name ∈ builtIns := by
  cases guard with
  | custom handle source predicate => cases refers
  | named check => cases check <;> cases refers <;> decide

/-- A class is hygienic unless it is called after a built-in of every class or of one of its
guards. -/
theorem hygienic_iff
    (namedGuards : ClassProgram.HasNamedGuards members)
    (identifier : Registry.isClassIdentifier className = true) :
    (ofMembers className members).Hygienic ↔ className ∉ helperBuiltIns ∧
      ¬∃ member ∈ members, ∃ guard ∈ member.property.guards, guard.builtIn? = some className := by
  constructor
  · intro hygienic
    have apart (builtIn : className ∈ builtIns) :
        ¬(ofMembers className members).RefersTo className :=
      fun refers => hygienic className (.inl ⟨builtIn, refers⟩) rfl
    constructor
    · intro helper
      have builtIn : className ∈ builtIns := List.mem_append_left _ helper
      exact apart builtIn ((refersTo_iff namedGuards builtIn).mpr (.inl helper))
    · intro guarded
      have ⟨_, _, _, _, refers⟩ := guarded
      have builtIn := mem_builtIns refers
      exact apart builtIn ((refersTo_iff namedGuards builtIn).mpr (.inr guarded))
  · rintro ⟨notHelper, notGuarded⟩ name (⟨builtIn, refers⟩ | isLocal) rfl
    · rcases (refersTo_iff namedGuards builtIn).mp refers with helper | guarded
      · exact notHelper helper
      · exact notGuarded guarded
    · exact ne_of_isLocal identifier isLocal rfl

end ClassText

namespace Registry

/-- A guard of the registry refers to a built-in. -/
def GuardsReferTo (registry : Registry) (name : Text) : Prop :=
  ∃ property ∈ registry.properties, ∃ guard ∈ property.guards, guard.builtIn? = some name

/-- What is stored for an accepted class name is an identifier. -/
theorem className_of_setName {registry stored : Registry} {raw : Text}
    (accepted : registry.setName raw = .ok stored) :
    stored.className = some (pascalCased classNameDelimiter raw) ∧
      isClassIdentifier (pascalCased classNameDelimiter raw) = true := by
  rw [setName] at accepted
  split at accepted
  · next isName =>
    cases accepted
    exact ⟨rfl, isClassIdentifier_of_isClassName isName⟩
  · cases accepted

end Registry

namespace Generation

variable {registry other stored : Registry} {raw : Text} {pieces : ClassText}

theorem hasNamedGuards_members {members : List Member} (namedGuards : registry.HasNamedGuards)
    (found : registry.members = .ok members) : ClassProgram.HasNamedGuards members := by
  intro member inMembers
  apply namedGuards
  rw [← Registry.members_eq_ok_iff.mp found]
  exact List.mem_map_of_mem inMembers

/-- Take any class name that is accepted and any registry of named guards with that name that is
assembled. The body of the class mentions no names but its own, those of its two helper methods,
built-ins, and names that begin with a lower-case letter. No local name is the name of the class.
The built-ins that the body refers to are `Object`, `JSON`, `Error` and those of the guards, and
the class is hygienic exactly if it is called after none of them. -/
theorem hygienic_exact (accepted : other.setName raw = .ok stored)
    (sameName : registry.className = stored.className) (namedGuards : registry.HasNamedGuards)
    (assembled : ClassText.ofRegistry registry = .ok pieces) :
    pieces.className = pascalCased Registry.classNameDelimiter raw ∧
    pieces.render = ClassText.banner ++ "\n\nclass ".toList ++ pieces.className ++ ['{'] ++
      pieces.body pieces.className ++ "\x7d\n\nmodule.exports = ".toList ++ pieces.className ++
        ";\n".toList ∧
    (∀ name ∈ mentions (pieces.body pieces.className), isProper name = true →
      name ∈ ClassText.builtIns ∨ name ∈ ["Dump".toList, "Load".toList, pieces.className]) ∧
    (∀ name, ClassText.IsLocal name → pieces.className ≠ name) ∧
    (∀ name ∈ ClassText.builtIns, pieces.RefersTo name ↔
      name ∈ ClassText.helperBuiltIns ∨ registry.GuardsReferTo name) ∧
    (pieces.Hygienic ↔
      pieces.className ∉ ClassText.helperBuiltIns ∧ ¬registry.GuardsReferTo pieces.className) := by
  obtain ⟨className, members, named, found, rfl⟩ := eq_ofMembers_of_ofRegistry assembled
  have properties := Registry.members_eq_ok_iff.mp found
  obtain ⟨storedName, identifier⟩ := Registry.className_of_setName accepted
  have nameEq : className = pascalCased Registry.classNameDelimiter raw := by
    rw [sameName, storedName] at named
    exact (Option.some.inj named).symm
  rw [← nameEq] at identifier
  have membersNamed := hasNamedGuards_members namedGuards found
  have guards (name : Text) : registry.GuardsReferTo name ↔
      ∃ member ∈ members, ∃ guard ∈ member.property.guards, guard.builtIn? = some name := by
    simp only [Registry.GuardsReferTo, ← properties, List.mem_map, exists_exists_and_eq_and]
  refine ⟨nameEq, ClassText.render_eq_body _, ?_, ?_, ?_, ?_⟩
  · intro name mentioned proper
    have inBody : name ∈ ClassText.bodyNames members className := by
      rw [← ClassText.filter_mentions_body membersNamed identifier, List.mem_filter]
      exact ⟨mentioned, proper⟩
    rcases ClassText.mem_bodyNames_iff.mp inBody with own | helper | ⟨_, _, _, _, refers⟩
    · exact .inr own
    · exact .inl (List.mem_append_left _ helper)
    · exact .inl (ClassText.mem_builtIns refers)
  · exact fun name => ClassText.ne_of_isLocal identifier
  · intro name builtIn
    rw [guards]
    exact ClassText.refersTo_iff membersNamed builtIn
  · rw [guards]
    exact ClassText.hygienic_iff membersNamed identifier

/-- The sample registry under another class name. -/
def renamed (className : Text) (guard : Guard) : Registry :=
  { Registry.sample guard with className := some className }

theorem exists_ofRegistry_renamed (className : Text) (guard : Guard) :
    ∃ members, (renamed className guard).members = .ok members ∧
      ClassText.ofRegistry (renamed className guard) =
        .ok (ClassText.ofMembers className members) := by
  obtain ⟨members, found⟩ := Registry.exists_members_iff.mpr (Registry.sample_derivable guard)
  exact ⟨members, found, ClassText.ofRegistry_eq_ok rfl found⟩

theorem allGuards_renamed {holds : Guard → Prop} {className : Text} {guard : Guard}
    (found : holds guard) : (renamed className guard).AllGuards holds :=
  Registry.sample_allGuards found

/-- A class may be called `Map` as long as no guard tests for maps. -/
theorem hygienic_exact_sample :
    (Registry.sample (.named .list)).setName "map".toList =
      .ok (renamed "Map".toList (.named .list)) ∧
    ∃ pieces, ClassText.ofRegistry (renamed "Map".toList (.named .list)) = .ok pieces ∧
      pieces.className = "Map".toList ∧ pieces.Hygienic := by
  have accepted : (Registry.sample (.named .list)).setName "map".toList =
      .ok (renamed "Map".toList (.named .list)) := rfl
  obtain ⟨members, -, assembled⟩ := exists_ofRegistry_renamed "Map".toList (.named .list)
  obtain ⟨-, -, -, -, -, hygienic⟩ :=
    hygienic_exact accepted rfl (allGuards_renamed ⟨_, rfl⟩) assembled
  have notHelper : "Map".toList ∉ ClassText.helperBuiltIns := by decide
  have notGuarded : ¬(renamed "Map".toList (.named .list)).GuardsReferTo "Map".toList := by
    have apart : (renamed "Map".toList (.named .list)).AllGuards
        fun guard => guard.builtIn? ≠ some "Map".toList := allGuards_renamed (by decide)
    rintro ⟨property, inProperties, guard, inGuards, refers⟩
    exact apart property inProperties guard inGuards refers
  exact ⟨accepted, _, assembled, rfl, hygienic.mpr ⟨notHelper, notGuarded⟩⟩

/-- A class is accepted and assembled under the name of a built-in that it refers to. In its body
`Object` means the class, so that neither its guard nor its helper methods work. -/
theorem hygiene_broken :
    (Registry.sample (.named .object)).setName "object".toList =
      .ok (renamed "Object".toList (.named .object)) ∧
    (renamed "Object".toList (.named .object)).HasNamedGuards ∧
    ∃ pieces, ClassText.ofRegistry (renamed "Object".toList (.named .object)) = .ok pieces ∧
      pieces.className = "Object".toList ∧ pieces.RefersTo "Object".toList ∧
      ¬pieces.Hygienic := by
  have namedGuards : (renamed "Object".toList (.named .object)).HasNamedGuards :=
    allGuards_renamed ⟨_, rfl⟩
  obtain ⟨members, found, assembled⟩ := exists_ofRegistry_renamed "Object".toList (.named .object)
  have membersNamed := hasNamedGuards_members namedGuards found
  have helper : "Object".toList ∈ ClassText.helperBuiltIns := List.mem_cons_self
  have refers : (ClassText.ofMembers "Object".toList members).RefersTo "Object".toList :=
    (ClassText.refersTo_iff membersNamed List.mem_cons_self).mpr (.inl helper)
  refine ⟨rfl, namedGuards, _, assembled, rfl, refers, fun hygienic => ?_⟩
  exact ((ClassText.hygienic_iff membersNamed (by decide)).mp hygienic).1 helper

end Generation

end Beanwright
