import Beanwright.Assembly.Assembler
import Beanwright.Proofs.Layout.Code
import Beanwright.Proofs.Registry.Reachable

/-!
# Class programs

A class program says what a generated class does, apart from its text: which fields it has, and for
each property the steps of the setter in order. The program of a registry can be written as code and
be executed on a store of fields. What assembly collects is the code of the program.

## Main definitions

* `ClassProgram` — the fields and accessors of a class
* `ClassProgram.ofMembers` — the program of the properties of a registry
* `ClassProgram.code` — the class as code

## Main results

* `ClassText.ofRegistry_eq` — which registries are assembled, and into which pieces
* `ClassProgram.compact_constructorCode`, `ClassProgram.compact_accessorCode` — the pieces are the
  code of the program
-/

namespace Beanwright

/-- A step of a setter. -/
inductive SetterStep where
  /-- Throw if the field of a property holds a value. -/
  | refuseIfSet (name field : Text)
  /-- Throw unless a guard accepts the value. The guards of a property are counted from zero. -/
  | refuseUnless (index : Nat) (guard : Guard)
  /-- Store the value in a field. -/
  | store (field : Text)

/-- The getter and the setter of a property. The getter throws if the field is null. -/
structure AccessorPair where
  /-- The name of the property. -/
  name : Text
  /-- The names derived from it. -/
  names : MemberNames
  /-- The steps of the setter. -/
  steps : List SetterStep

/-- What a class does. -/
structure ClassProgram where
  /-- The fields in order, all of them null in a new object. -/
  fields : List Text
  /-- The accessors in order. -/
  accessors : List AccessorPair

/-- The steps that check guards in order, counted from an index on. -/
def SetterStep.ofGuards : (index : Nat) → List Guard → List SetterStep
  | _, [] => []
  | index, guard :: rest => refuseUnless index guard :: ofGuards (index + 1) rest

/-- The steps of the setter of a property: the check that it is unset if it is immutable, then its
guards in order, then the store. -/
def Member.setterSteps (member : Member) : List SetterStep :=
  (if member.property.immutable then [.refuseIfSet member.property.name member.names.field]
    else []) ++ SetterStep.ofGuards 0 member.property.guards ++ [.store member.names.field]

/-- The accessors of a property. -/
def Member.accessors (member : Member) : AccessorPair :=
  ⟨member.property.name, member.names, member.setterSteps⟩

/-- The program of properties in order. -/
def ClassProgram.ofMembers (members : List Member) : ClassProgram :=
  ⟨members.map fun member => member.names.field, members.map Member.accessors⟩

/-! ## Code

Each piece of code is written in front of the code that follows it. -/

/-- The code that throws an error. -/
def throwCode (message : Text) : Code :=
  .statement ("throw new Error(".toList ++ message ++ ")".toList) .done

/-- The code that is run under a condition. -/
def ifCode (condition : Text) (body next : Code) : Code :=
  .block ("if(".toList ++ condition ++ ")".toList) body next

/-- The code of a method. -/
def methodCode (name parameters : Text) (body next : Code) : Code :=
  .block (name ++ " (".toList ++ parameters ++ ") ".toList) body next

/-- The message about a property that is not set. -/
def notSetMessage (name : Text) : Text := "'Property \"".toList ++ name ++ "\" is not set'".toList

/-- The message about an immutable property that is set. -/
def immutableMessage (name : Text) : Text :=
  "'Cannot set immutable property \"".toList ++ name ++ "\"'".toList

/-- The message about a value that a guard rejects. -/
def rejectionMessage : Text := "'Unexpected value \"' + value + '\" of type ' + typeof value".toList

/-- The message about an object of another class. -/
def foreignMessage (className : Text) : Text :=
  "'Can only dump instances of ".toList ++ className ++ "'".toList

namespace SetterStep

/-- The statement that makes a guard known in a setter. -/
def guardStatement (index : Nat) (guard : Guard) : Text :=
  "let ".toList ++ ClassText.guardLocal index ++ '=' :: guard.source

/-- The code of a step. -/
def code : SetterStep → (next : Code) → Code
  | refuseIfSet name field, next =>
    ifCode ("this.".toList ++ field ++ " !== null".toList) (throwCode (immutableMessage name)) next
  | refuseUnless index guard, next =>
    .statement (guardStatement index guard)
      (ifCode ('!' :: ClassText.guardLocal index ++ "(value)".toList)
        (throwCode rejectionMessage) next)
  | store field, next => .statement ("this.".toList ++ field ++ "=value".toList) next

end SetterStep

namespace AccessorPair

/-- The code of a getter. -/
def getterCode (pair : AccessorPair) (next : Code) : Code :=
  methodCode pair.names.getter []
    (ifCode ("this.".toList ++ pair.names.field ++ "===null".toList)
      (throwCode (notSetMessage pair.name))
      (.statement ("return this.".toList ++ pair.names.field) .done))
    next

/-- The code of a setter. -/
def setterCode (pair : AccessorPair) (next : Code) : Code :=
  methodCode pair.names.setter "value".toList (pair.steps.foldr SetterStep.code .done) next

/-- The code of a getter and a setter. -/
def code (pair : AccessorPair) (next : Code) : Code := pair.getterCode (pair.setterCode next)

end AccessorPair

namespace ClassProgram

/-- The code of the method that turns an object into a record. -/
def dumpCode (className : Text) (next : Code) : Code :=
  methodCode "static Dump".toList "object, keepObject".toList
    (ifCode ("object instanceof ".toList ++ className)
      (.statement "let serialized=JSON.stringify(object)".toList
        (.statement
          "return keepObject === true ? JSON.parse(serialized) : serialized".toList .done))
      (throwCode (foreignMessage className)))
    next

/-- The code of the method that turns a record into an object. -/
def loadCode (className : Text) (next : Code) : Code :=
  methodCode "static Load".toList "serialized".toList
    (ifCode "Object(serialized) !== serialized".toList
      (.statement "serialized=JSON.parse(serialized)".toList .done)
      (ifCode "serialized===null".toList
        (throwCode "'Failed to load serialized object'".toList)
        (.statement ("let object=new ".toList ++ className ++ "()".toList)
          (.block "for(let key of Object.keys(serialized))".toList
            (ifCode "object[key]===undefined".toList
              (throwCode "'Unsupported key \"' + key + '\" for this class'".toList)
              (.statement "object[key]=serialized[key]".toList .done))
            (.statement "return object".toList .done)))))
    next

/-- The code of the constructor's body. -/
def constructorCode (program : ClassProgram) : Code :=
  program.fields.foldr
    (fun field next => .statement ("this.".toList ++ field ++ "=null".toList) next) .done

/-- The code of all accessors. -/
def accessorCode (program : ClassProgram) (next : Code) : Code :=
  program.accessors.foldr AccessorPair.code next

/-- The class of a program, with a given header of its constructor. -/
def code (program : ClassProgram) (className constructorHeader : Text) : Code :=
  .block ("class ".toList ++ className)
    (.block constructorHeader program.constructorCode
      (program.accessorCode (dumpCode className (loadCode className .done))))
    .done

end ClassProgram

/-! ## Assembly -/

namespace Assembler

variable {properties : List Property} {members : List Member}

/-- Properties with identifiers leave their pieces, and what follows them is collected next. -/
theorem collect_append (found : properties.mapM Registry.member = .ok members)
    (rest : List (Except BeanError Member)) (assembler : Assembler) :
    collect (properties.map Registry.member ++ rest) assembler =
      collect rest (members.foldl add assembler) := by
  induction properties generalizing members assembler with
  | nil =>
    cases found
    rfl
  | cons property others ih =>
    rw [List.mapM_cons] at found
    rw [List.map_cons]
    cases first : Registry.member property with
    | error cause =>
      rw [first] at found
      cases found
    | ok member =>
      cases later : others.mapM Registry.member with
      | error cause =>
        rw [first, later] at found
        cases found
      | ok otherMembers =>
        rw [first, later] at found
        cases found
        exact ih later _

theorem collect_of_mapM_eq_ok (found : properties.mapM Registry.member = .ok members)
    (assembler : Assembler) :
    collect (properties.map Registry.member) assembler = (members.foldl add assembler, .ok ()) := by
  have collected := collect_append found [] assembler
  rwa [List.append_nil] at collected

theorem collect_of_mapM_eq_error {cause : BeanError}
    (found : properties.mapM Registry.member = .error cause) (assembler : Assembler) :
    (collect (properties.map Registry.member) assembler).2 = .error (.schema cause) := by
  induction properties generalizing assembler with
  | nil => cases found
  | cons property rest ih =>
    rw [List.mapM_cons] at found
    rw [List.map_cons]
    cases first : Registry.member property with
    | error other =>
      rw [first] at found
      cases found
      rfl
    | ok member =>
      cases later : rest.mapM Registry.member with
      | error other =>
        rw [first, later] at found
        cases found
        exact ih later _
      | ok others =>
        rw [first, later] at found
        cases found

theorem foldl_add (members : List Member) (assembler : Assembler) :
    members.foldl add assembler =
      { assembler with
        initializers := assembler.initializers ++
          members.flatMap fun member => ClassText.initializer member.names.field
        accessors := assembler.accessors ++
          members.flatMap fun member => ClassText.getter member ++ ClassText.setter member } := by
  induction members generalizing assembler with
  | nil => simp
  | cons member rest ih =>
    rw [List.foldl_cons, ih, add]
    simp

end Assembler

namespace ClassText

/-- The pieces of a class with given properties. -/
def ofMembers (className : Text) (members : List Member) : ClassText where
  className := className
  count := members.length
  initializers := members.flatMap fun member => initializer member.names.field
  accessors := members.flatMap fun member => getter member ++ setter member

/-- A registry is assembled if its name is set and all properties have identifiers, and then into
the pieces of its properties in order. -/
theorem ofRegistry_eq (registry : Registry) :
    ofRegistry registry =
      (do
        let className ← registry.name
        let members ← registry.members
        return ofMembers className members).mapError AssemblyError.schema := by
  cases named : registry.name with
  | error cause =>
    rw [ofRegistry, Assembler.assemble]
    simp only [Assembler.bind, Assembler.cleared, named]
    rfl
  | ok className =>
    have assembled : ofRegistry registry =
        (Assembler.collect (registry.properties.map Registry.member)
          (Assembler.fresh.bind registry).cleared).2.map fun _ =>
            ⟨className, registry.size,
              (Assembler.collect (registry.properties.map Registry.member)
                (Assembler.fresh.bind registry).cleared).1.initializers,
              (Assembler.collect (registry.properties.map Registry.member)
                (Assembler.fresh.bind registry).cleared).1.accessors⟩ := by
      rw [ofRegistry, Assembler.assemble]
      simp only [Assembler.bind, Assembler.cleared, named, Registry.walk]
      generalize Assembler.collect (registry.properties.map Registry.member) _ = collected
      obtain ⟨full, error | ⟨⟩⟩ := collected
      · rfl
      · rfl
    rw [assembled]
    cases found : registry.members with
    | error cause =>
      rw [Assembler.collect_of_mapM_eq_error found]
      rfl
    | ok members =>
      have size : registry.size = members.length := by
        rw [Registry.size, ← Registry.members_eq_ok_iff.mp found, List.length_map]
      rw [Assembler.collect_of_mapM_eq_ok found, Assembler.foldl_add, size]
      rfl

theorem ofRegistry_eq_ok {registry : Registry} {className : Text}
    (named : registry.className = some className) (found : registry.members = .ok members) :
    ofRegistry registry = .ok (ofMembers className members) := by
  rw [ofRegistry_eq, Registry.name, named, found]
  rfl

end ClassText

/-! ## The code of the pieces -/

namespace ClassProgram

variable {members : List Member}

theorem compact_throwCode (message : Text) :
    (throwCode message).compact = "throw new Error(".toList ++ message ++ ");".toList := by
  simp only [throwCode, Code.compact]
  repeat rw [String.toList_ofList]
  simp only [List.append_assoc, List.cons_append, List.nil_append]

theorem compact_ifCode (condition : Text) (body next : Code) :
    (ifCode condition body next).compact =
      "if(".toList ++ condition ++ ')' :: '{' :: (body.compact ++ '}' :: next.compact) := by
  simp only [ifCode, Code.compact]
  repeat rw [String.toList_ofList]
  simp only [List.append_assoc, List.cons_append, List.nil_append]

theorem compact_methodCode (name parameters : Text) (body next : Code) :
    (methodCode name parameters body next).compact =
      name ++ " (".toList ++ parameters ++ ')' :: ' ' :: '{' ::
        (body.compact ++ '}' :: next.compact) := by
  simp only [methodCode, Code.compact]
  repeat rw [String.toList_ofList]
  simp only [List.append_assoc, List.cons_append, List.nil_append]

theorem compact_guardSteps (index : Nat) (guards : List Guard) (next : Code) :
    ((SetterStep.ofGuards index guards).foldr SetterStep.code next).compact =
      ClassText.guardChecksFrom index guards ++ next.compact := by
  induction guards generalizing index with
  | nil => rfl
  | cons guard rest ih =>
    rw [SetterStep.ofGuards, List.foldr_cons, ClassText.guardChecksFrom]
    unfold ClassText.guardCheck
    simp only [SetterStep.code, compact_ifCode, Code.compact, compact_throwCode, ih]
    unfold SetterStep.guardStatement rejectionMessage
    repeat rw [String.toList_ofList]
    simp only [List.append_assoc, List.cons_append, List.nil_append]

theorem compact_setterCode (member : Member) (next : Code) :
    (member.accessors.setterCode next).compact = ClassText.setter member ++ next.compact := by
  -- The first and the last step are single texts; the guards between them are an induction.
  have stored : (SetterStep.code (.store member.names.field) .done).compact =
      "this.".toList ++ member.names.field ++ "=value;".toList := by
    simp only [SetterStep.code, Code.compact]
    repeat rw [String.toList_ofList]
    simp only [List.append_assoc, List.cons_append, List.nil_append]
  have checked (next : Code) :
      (SetterStep.code (.refuseIfSet member.property.name member.names.field) next).compact =
        ClassText.immutabilityCheck member ++ next.compact := by
    simp only [SetterStep.code, compact_ifCode, compact_throwCode]
    unfold immutableMessage ClassText.immutabilityCheck
    repeat rw [String.toList_ofList]
    simp only [List.append_assoc, List.cons_append, List.nil_append]
  rw [AccessorPair.setterCode, compact_methodCode]
  unfold ClassText.setter
  simp only [Member.accessors, Member.setterSteps, List.foldr_append]
  cases member.property.immutable
  all_goals
    simp only [Bool.false_eq_true, if_false, if_true, List.foldr_cons, List.foldr_nil,
      compact_guardSteps, stored, checked]
    repeat rw [String.toList_ofList]
    simp only [List.append_assoc, List.cons_append, List.nil_append]

theorem compact_getterCode (member : Member) (next : Code) :
    (member.accessors.getterCode next).compact = ClassText.getter member ++ next.compact := by
  unfold AccessorPair.getterCode ClassText.getter notSetMessage
  simp only [Code.compact, compact_methodCode, compact_ifCode, compact_throwCode, Member.accessors]
  repeat rw [String.toList_ofList]
  simp only [List.append_assoc, List.cons_append, List.nil_append]

/-- The statements of the constructor are the code of the program. -/
theorem compact_constructorCode (members : List Member) :
    (ofMembers members).constructorCode.compact =
      members.flatMap fun member => ClassText.initializer member.names.field := by
  rw [constructorCode, ofMembers]
  induction members with
  | nil => rfl
  | cons member rest ih =>
    dsimp only at ih ⊢
    simp only [List.map_cons, List.foldr_cons, List.flatMap_cons, Code.compact, ih]
    unfold ClassText.initializer
    repeat rw [String.toList_ofList]
    simp only [List.append_assoc, List.cons_append, List.nil_append]

/-- The accessors are the code of the program. -/
theorem compact_accessorCode (members : List Member) (next : Code) :
    ((ofMembers members).accessorCode next).compact =
      (members.flatMap fun member => ClassText.getter member ++ ClassText.setter member) ++
        next.compact := by
  rw [accessorCode, ofMembers]
  induction members with
  | nil => rfl
  | cons member rest ih =>
    dsimp only at ih ⊢
    simp only [List.map_cons, List.foldr_cons, List.flatMap_cons, AccessorPair.code,
      compact_getterCode, compact_setterCode, ih, List.append_assoc]

set_option maxRecDepth 4000 in
theorem compact_dumpCode (className : Text) (next : Code) :
    (dumpCode className next).compact = ClassText.dumpMethod className ++ next.compact := by
  unfold ClassText.dumpMethod dumpCode foreignMessage
  simp only [Code.compact, compact_methodCode, compact_ifCode, compact_throwCode]
  repeat rw [String.toList_ofList]
  simp only [List.append_assoc, List.cons_append, List.nil_append]

set_option maxRecDepth 4000 in
theorem compact_loadCode (className : Text) (next : Code) :
    (loadCode className next).compact = ClassText.loadMethod className ++ next.compact := by
  unfold ClassText.loadMethod loadCode
  simp only [Code.compact, compact_methodCode, compact_ifCode, compact_throwCode]
  repeat rw [String.toList_ofList]
  simp only [List.append_assoc, List.cons_append, List.nil_append]

/-- The text of a class is the code of its program between the banner and the export. -/
theorem render_ofMembers (className : Text) (members : List Member) :
    (ClassText.ofMembers className members).render =
      ClassText.banner ++ '\n' :: '\n' ::
        (((ofMembers members).code className "constructor()".toList).compact ++
          '\n' :: '\n' :: ("module.exports = ".toList ++ className ++ ";\n".toList)) := by
  unfold ClassText.render code
  simp only [Code.compact, compact_constructorCode, compact_accessorCode, compact_dumpCode,
    compact_loadCode, ClassText.ofMembers]
  repeat rw [String.toList_ofList]
  simp only [List.append_assoc, List.cons_append, List.nil_append]

end ClassProgram

end Beanwright
