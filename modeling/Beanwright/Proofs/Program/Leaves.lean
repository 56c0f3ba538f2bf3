import Beanwright.Proofs.Program.Basic

/-!
# The statements and headers of a class

The names in the code of a class program are names, so its statements and headers are such unless a
guard brings in something else. Named guards never do.
-/

namespace Beanwright

open Code Layout Text

variable {first second text name : Text} {members : List Member}

/-! ## Names as content -/

namespace Code

theorem isLeaf_append (leaf : isLeaf first = true) (content : second.all isContent = true) :
    isLeaf (first ++ second) = true := by
  obtain ⟨character, others, rfl, solid⟩ := exists_cons_of_isLeaf leaf
  rw [isLeaf, Bool.and_eq_true]
  refine ⟨by simp [solid], ?_⟩
  rw [List.all_append, all_isContent_of_isLeaf leaf, content]
  rfl

theorem all_isContent_append (firstContent : first.all isContent = true)
    (secondContent : second.all isContent = true) : (first ++ second).all isContent = true := by
  rw [List.all_append, firstContent, secondContent]
  rfl

theorem isContent_of_isNameCharacter {character : Char}
    (allowed : isNameCharacter character = true) : isContent character = true :=
  of_isNameCharacter isContent (by decide) allowed

theorem all_isContent_of_isName (named : isName name = true) : name.all isContent = true := by
  rw [List.all_eq_true]
  intro character inName
  exact isContent_of_isNameCharacter (isNameCharacter_of_mem named inName)

theorem isLeaf_of_isName (named : isName name = true) : isLeaf name = true := by
  obtain ⟨character, others, rfl, allowed⟩ := exists_cons_of_isName named
  rw [isLeaf, Bool.and_eq_true]
  exact ⟨by simp [isBlank_of_isNameCharacter allowed], all_isContent_of_isName named⟩

end Code

theorem isName_guardLocal (index : Nat) : isName (ClassText.guardLocal index) = true := by
  cases index with
  | zero => decide
  | succ index =>
    have letters : "test".toList.all isNameCharacter = true := by decide
    rw [isName, Bool.and_eq_true]
    refine ⟨rfl, ?_⟩
    change ("test".toList ++ Text.ofNat (index + 1)).all isNameCharacter = true
    rw [List.all_append, letters, Bool.true_and, List.all_eq_true]
    intro digit inDigits
    have isDigit := Nat.isDigit_of_mem_toDigits (by decide) (by decide) inDigits
    simp [isNameCharacter, Char.isAlphanum, isDigit]

/-! ## The names of a member -/

namespace Member

theorem isName_pascal (member : Member) : isName member.names.pascal = true :=
  MemberNames.isName_pascal member.derived

theorem getter_eq (member : Member) :
    member.names.getter = "get".toList ++ member.names.pascal := by
  rw [MemberNames.eq_ofPascal member.derived]
  rfl

theorem setter_eq (member : Member) :
    member.names.setter = "set".toList ++ member.names.pascal := by
  rw [MemberNames.eq_ofPascal member.derived]
  rfl

theorem isName_append (firstNamed : isName first = true) (secondNamed : isName second = true) :
    isName (first ++ second) = true := by
  rw [isName, Bool.and_eq_true] at firstNamed secondNamed ⊢
  rw [List.all_append, firstNamed.2, secondNamed.2]
  refine ⟨?_, rfl⟩
  cases first with
  | nil => cases firstNamed.1
  | cons character others => rfl

theorem isName_field (member : Member) : isName member.names.field = true := by
  have lower := isName_lowercased member.isName_pascal
  rw [MemberNames.eq_ofPascal member.derived] at lower ⊢
  exact isName_append (by decide) lower

theorem isName_getter (member : Member) : isName member.names.getter = true := by
  rw [member.getter_eq]
  exact isName_append (by decide) member.isName_pascal

theorem isName_setter (member : Member) : isName member.names.setter = true := by
  rw [member.setter_eq]
  exact isName_append (by decide) member.isName_pascal

/-- A property with an identifier has a name without boundaries. -/
theorem all_isContent_name (member : Member) :
    member.property.name.all isContent = true :=
  MemberNames.all_of_isNameCharacter (fun _ => isContent_of_isNameCharacter) (by decide)
    member.derived

end Member

/-! ## Statements and headers

Each piece of code is treated in front of the code that follows it, as it is written. -/

section

variable {holds : Text → Prop} {body next : Code} {condition parameters : Text}

theorem all_throwCode (leaves : ∀ text, isLeaf text = true → holds text)
    (content : text.all isContent = true) : (throwCode text).All holds :=
  ⟨leaves _ (isLeaf_append (isLeaf_append (check_literal (by decide)) content)
    (all_literal (by decide))), trivial⟩

theorem all_ifCode (leaves : ∀ text, isLeaf text = true → holds text)
    (content : condition.all isContent = true) (inside : body.All holds) (later : next.All holds) :
    (ifCode condition body next).All holds :=
  ⟨leaves _ (isLeaf_append (isLeaf_append (check_literal (by decide)) content)
    (all_literal (by decide))), inside, later⟩

theorem all_methodCode (leaves : ∀ text, isLeaf text = true → holds text)
    (leaf : isLeaf name = true) (content : parameters.all isContent = true)
    (inside : body.All holds) (later : next.All holds) :
    (methodCode name parameters body next).All holds :=
  ⟨leaves _ (isLeaf_append (isLeaf_append (isLeaf_append leaf (all_literal (by decide))) content)
    (all_literal (by decide))), inside, later⟩

/-- A text with a name in its middle can be a statement or a header if the rest of it can. -/
theorem isLeaf_around {ending : Text} (leaf : isLeaf text = true) (named : isName name = true)
    (content : ending.all isContent = true) : isLeaf (text ++ name ++ ending) = true :=
  isLeaf_append (isLeaf_append leaf (all_isContent_of_isName named)) content

theorem all_guardSteps (leaves : ∀ text, isLeaf text = true → holds text) (index : Nat)
    {guards : List Guard}
    (sources : ∀ index, ∀ guard ∈ guards, holds (SetterStep.guardStatement index guard))
    (later : next.All holds) :
    ((SetterStep.ofGuards index guards).foldr SetterStep.code next).All holds := by
  induction guards generalizing index with
  | nil => exact later
  | cons guard rest ih =>
    have condition : isLeaf (['!'] ++ ClassText.guardLocal index ++ "(value)".toList) = true :=
      isLeaf_around (by decide) (isName_guardLocal index) (all_literal (by decide))
    refine ⟨sources index guard List.mem_cons_self,
      all_ifCode leaves (all_isContent_of_isLeaf condition)
        (all_throwCode leaves (all_literal (by decide))) ?_⟩
    exact ih (index + 1) fun index guard inRest =>
      sources index guard (List.mem_cons_of_mem _ inRest)

theorem all_setterCode (leaves : ∀ text, isLeaf text = true → holds text)
    (member : Member)
    (sources : ∀ index, ∀ guard ∈ member.property.guards,
      holds (SetterStep.guardStatement index guard))
    (later : next.All holds) : (member.accessors.setterCode next).All holds := by
  have stored : (SetterStep.code (.store member.names.field) .done).All holds :=
    ⟨leaves _ (isLeaf_around (check_literal (by decide)) member.isName_field
      (all_literal (by decide))), trivial⟩
  refine all_methodCode leaves (isLeaf_of_isName member.isName_setter) (all_literal (by decide))
    ?_ later
  rw [Member.accessors, Member.setterSteps, List.foldr_append, List.foldr_append]
  have guarded := all_guardSteps leaves 0 sources stored
  cases member.property.immutable with
  | false => exact guarded
  | true =>
    have condition : isLeaf ("this.".toList ++ member.names.field ++ " !== null".toList) = true :=
      isLeaf_around (check_literal (by decide)) member.isName_field (all_literal (by decide))
    refine all_ifCode leaves (all_isContent_of_isLeaf condition) (all_throwCode leaves ?_) guarded
    exact all_isContent_append (all_isContent_append (all_literal (by decide))
      member.all_isContent_name) (all_literal (by decide))

theorem all_getterCode (leaves : ∀ text, isLeaf text = true → holds text)
    (member : Member) (later : next.All holds) :
    (member.accessors.getterCode next).All holds := by
  have condition : isLeaf ("this.".toList ++ member.names.field ++ "===null".toList) = true :=
    isLeaf_around (check_literal (by decide)) member.isName_field (all_literal (by decide))
  refine all_methodCode leaves (isLeaf_of_isName member.isName_getter) rfl
    (all_ifCode leaves (all_isContent_of_isLeaf condition) (all_throwCode leaves ?_)
      ⟨leaves _ ?_, trivial⟩) later
  · exact all_isContent_append (all_isContent_append (all_literal (by decide))
      member.all_isContent_name) (all_literal (by decide))
  · exact isLeaf_append (check_literal (by decide)) (all_isContent_of_isName member.isName_field)

end

namespace ClassProgram

variable {holds : Text → Prop} {className header : Text} {next : Code}

theorem all_constructorCode (leaves : ∀ text, isLeaf text = true → holds text) :
    (ofMembers members).constructorCode.All holds := by
  rw [constructorCode, ofMembers]
  induction members with
  | nil => trivial
  | cons member rest ih =>
    refine ⟨leaves _ ?_, ih⟩
    exact isLeaf_around (check_literal (by decide)) member.isName_field (all_literal (by decide))

theorem all_accessorCode (leaves : ∀ text, isLeaf text = true → holds text)
    (sources : ∀ member ∈ members, ∀ index, ∀ guard ∈ member.property.guards,
      holds (SetterStep.guardStatement index guard))
    (later : next.All holds) : ((ofMembers members).accessorCode next).All holds := by
  rw [accessorCode, ofMembers]
  induction members with
  | nil => exact later
  | cons member rest ih =>
    have others := ih fun member inRest => sources member (List.mem_cons_of_mem _ inRest)
    exact all_getterCode leaves member
      (all_setterCode leaves member (sources member List.mem_cons_self) others)

theorem all_dumpCode (leaves : ∀ text, isLeaf text = true → holds text)
    (named : isName className = true) (later : next.All holds) :
    (dumpCode className next).All holds := by
  have content := all_isContent_of_isName named
  have foreign : (foreignMessage className).all isContent = true :=
    all_isContent_append (all_isContent_append (all_literal (by decide)) content)
      (all_literal (by decide))
  have serialized : holds "let serialized=JSON.stringify(object)".toList :=
    leaves _ (check_literal (by decide))
  have returned :
      holds "return keepObject === true ? JSON.parse(serialized) : serialized".toList :=
    leaves _ (check_literal (by decide))
  refine all_methodCode leaves (check_literal (by decide)) (all_literal (by decide)) ?_ later
  exact all_ifCode leaves (all_isContent_append (all_literal (by decide)) content)
    ⟨serialized, returned, trivial⟩ (all_throwCode leaves foreign)

theorem all_loadCode (leaves : ∀ text, isLeaf text = true → holds text)
    (named : isName className = true) (later : next.All holds) :
    (loadCode className next).All holds := by
  have parsed : holds "serialized=JSON.parse(serialized)".toList :=
    leaves _ (check_literal (by decide))
  have created : holds ("let object=new ".toList ++ className ++ "()".toList) :=
    leaves _ (isLeaf_around (check_literal (by decide)) named (all_literal (by decide)))
  have keyed : holds "for(let key of Object.keys(serialized))".toList :=
    leaves _ (check_literal (by decide))
  have copied : holds "object[key]=serialized[key]".toList := leaves _ (check_literal (by decide))
  have returned : holds "return object".toList := leaves _ (check_literal (by decide))
  have failed : (throwCode "'Failed to load serialized object'".toList).All holds :=
    all_throwCode leaves (all_literal (by decide))
  have refused : (throwCode "'Unsupported key \"' + key + '\" for this class'".toList).All holds :=
    all_throwCode leaves (all_literal (by decide))
  refine all_methodCode leaves (check_literal (by decide)) (all_literal (by decide)) ?_ later
  refine all_ifCode leaves (all_literal (by decide)) ⟨parsed, trivial⟩ ?_
  refine all_ifCode leaves (all_literal (by decide)) failed ⟨created, keyed, ?_, returned, trivial⟩
  exact all_ifCode leaves (all_literal (by decide)) refused ⟨copied, trivial⟩

/-- What holds of all statements and headers, and of the guards of all properties, holds
throughout a class. -/
theorem all_code (leaves : ∀ text, isLeaf text = true → holds text)
    (sources : ∀ member ∈ members, ∀ index, ∀ guard ∈ member.property.guards,
      holds (SetterStep.guardStatement index guard))
    (named : isName className = true) (isHeader : isLeaf header = true) :
    ((ofMembers members).code className header).All holds := by
  have titled : holds ("class ".toList ++ className) :=
    leaves _ (isLeaf_append (check_literal (by decide)) (all_isContent_of_isName named))
  have loaded : (loadCode className .done).All holds := all_loadCode leaves named trivial
  have accessed := all_accessorCode leaves sources (all_dumpCode leaves named loaded)
  exact ⟨titled, ⟨leaves _ isHeader, all_constructorCode leaves, accessed⟩, trivial⟩

/-- A class with balanced guards is balanced. -/
theorem balanced_code
    (sources : ∀ member ∈ members, ∀ guard ∈ member.property.guards, Balanced guard.source)
    (named : isName className = true) (isHeader : isLeaf header = true) :
    Balanced ((ofMembers members).code className header).compact := by
  apply balanced_compact
  refine all_code (fun _ => balanced_of_isLeaf) ?_ named isHeader
  intro member inMembers index guard inGuards
  have declared : Balanced ("let ".toList ++ ClassText.guardLocal index ++ ['=']) := by
    apply balanced_of_isLeaf
    exact isLeaf_around (check_literal (by decide)) (isName_guardLocal index) (by decide)
  have whole := declared.append (sources member inMembers guard inGuards)
  rw [List.append_assoc _ ['='], List.singleton_append] at whole
  exact whole

/-- So is its text. -/
theorem balanced_render
    (sources : ∀ member ∈ members, ∀ guard ∈ member.property.guards, Balanced guard.source)
    (named : isName className = true) :
    Balanced (ClassText.ofMembers className members).render := by
  have banner : Balanced (ClassText.banner ++ ['\n', '\n']) :=
    balanced_of_noBrace (by decide)
  have exported : Balanced ('\n' :: '\n' :: ("module.exports = ".toList ++ className ++
      ";\n".toList)) := by
    have keyword : Balanced ("\n\nmodule.exports = ".toList) :=
      balanced_of_noBrace (all_literal (by decide))
    have name := balanced_of_isLeaf (isLeaf_of_isName named)
    have ended : Balanced (";\n".toList) := balanced_of_noBrace (all_literal (by decide))
    have whole := (keyword.append name).append ended
    repeat rw [String.toList_ofList] at whole
    repeat rw [String.toList_ofList]
    simp only [List.cons_append, List.nil_append] at whole ⊢
    exact whole
  have headerLeaf : isLeaf "constructor()".toList = true := check_literal (by decide)
  have framedClass := balanced_code sources named headerLeaf
  have whole := banner.append (framedClass.append exported)
  rw [render_ofMembers]
  simp only [List.append_assoc, List.cons_append, List.nil_append] at whole ⊢
  exact whole

/-- The guards of the members are named. -/
def HasNamedGuards (members : List Member) : Prop :=
  ∀ member ∈ members, ∀ guard ∈ member.property.guards, ∃ check, guard = .named check

theorem all_isContent_source (check : TypeCheck) : check.source.all isContent = true := by
  unfold TypeCheck.source TypeCheck.unsignedSource TypeCheck.signedSource
  cases check
  all_goals
    dsimp only
    repeat rw [String.toList_ofList]
    decide

theorem balanced_source (check : TypeCheck) : Balanced check.source :=
  balanced_of_all_isContent (all_isContent_source check)

/-- A class with named guards is well-formed. -/
theorem wellFormed_code
    (namedGuards : HasNamedGuards members) (named : isName className = true)
    (isHeader : isLeaf header = true) :
    ((ofMembers members).code className header).WellFormed := by
  refine all_code (fun _ leaf => leaf) ?_ named isHeader
  intro member inMembers index guard inGuards
  obtain ⟨check, rfl⟩ := namedGuards member inMembers guard inGuards
  have declared : isLeaf ("let ".toList ++ ClassText.guardLocal index) = true :=
    isLeaf_append (check_literal (by decide)) (all_isContent_of_isName (isName_guardLocal index))
  exact isLeaf_append declared (by
    rw [List.all_cons, Guard.source, all_isContent_source]
    decide)

end ClassProgram

end Beanwright
