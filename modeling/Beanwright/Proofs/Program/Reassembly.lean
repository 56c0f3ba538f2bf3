import Beanwright.Proofs.Program.Basic

/-!
# Assembling again

An assembler keeps pieces between calls: a run that meets a property without an identifier stops
with the pieces of all properties before it. The next run starts without them, since pieces are
dropped when a registry is bound and once more before the first property is read. So of all that
happened to an assembler, a run sees only which registry was bound last.
-/

namespace Beanwright.Assembler

/-- A call to an assembler. -/
inductive Call where
  /-- Bind a registry. -/
  | bind (registry : Registry)
  /-- Assemble the class of the bound registry. -/
  | assemble

/-- The registry that a call binds. -/
def Call.registry? : Call → Option Registry
  | bind registry => some registry
  | assemble => none

/-- The assembler after a call, whether the call fails or not. -/
def call (assembler : Assembler) : Call → Assembler
  | .bind registry => assembler.bind registry
  | .assemble => assembler.assemble.1

/-- The assembler after calls. -/
def after (assembler : Assembler) (calls : List Call) : Assembler := calls.foldl call assembler

/-- What the runs among calls reply, in order. -/
def replies : Assembler → List Call → List (Except AssemblyError ClassText)
  | _, [] => []
  | assembler, .bind registry :: rest => replies (assembler.bind registry) rest
  | assembler, .assemble :: rest => assembler.assemble.2 :: replies assembler.assemble.1 rest

/-- The registry that the last of the calls that bind one has bound. -/
def lastBound (calls : List Call) : Option Registry := (calls.filterMap Call.registry?).getLast?

/-- What a new assembler replies after a registry was bound to it, or none. -/
def answer : Option Registry → Except AssemblyError ClassText
  | none => .error .unbound
  | some registry => (fresh.bind registry).assemble.2

/-- What new assemblers reply, each bound to the registry that was bound last when it is asked. -/
def answers : Option Registry → List Call → List (Except AssemblyError ClassText)
  | _, [] => []
  | _, .bind registry :: rest => answers (some registry) rest
  | bound, .assemble :: rest => answer bound :: answers bound rest

variable {assembler : Assembler} {registry : Registry}

/-! ## Pieces that stay -/

/-- A run that meets a property without an identifier stops with the pieces of those before it. -/
theorem assemble_of_stopped {className : Text} {members : List Member} {cause : BeanError}
    {before rest : List Property} {property : Property} (bound : assembler.registry = some registry)
    (named : registry.className = some className)
    (cut : registry.properties = before ++ property :: rest)
    (found : before.mapM Registry.member = .ok members)
    (refused : Registry.member property = .error cause) :
    assembler.assemble = (members.foldl add assembler.cleared, .error (.schema cause)) := by
  have stopped : collect registry.walk assembler.cleared =
      (members.foldl add assembler.cleared, .error (.schema cause)) := by
    rw [Registry.walk, cut, List.map_append, collect_append found, List.map_cons, refused]
    rfl
  rw [assemble, bound]
  simp only [Registry.name, named, stopped]

/-! ## The bound registry -/

theorem registry_collect (properties : List (Except BeanError Member)) (assembler : Assembler) :
    (collect properties assembler).1.registry = assembler.registry := by
  induction properties generalizing assembler with
  | nil => rfl
  | cons property rest ih =>
    cases property with
    | error cause => rfl
    | ok member => exact ih (assembler.add member)

/-- A run keeps the bound registry, however it ends. -/
theorem registry_assemble (assembler : Assembler) :
    assembler.assemble.1.registry = assembler.registry := by
  rw [assemble]
  split
  · rfl
  · next registry bound =>
    split
    · rfl
    · have kept := registry_collect registry.walk assembler.cleared
      split
      · next stopped error collected =>
        rw [collected] at kept
        exact kept
      · next full collected =>
        rw [collected] at kept
        exact kept

/-- A call binds its registry or keeps the one that is bound. -/
theorem registry_call (assembler : Assembler) (request : Call) :
    (assembler.call request).registry = request.registry?.or assembler.registry := by
  cases request with
  | bind registry => rfl
  | assemble => exact registry_assemble assembler

theorem registry_after (assembler : Assembler) (calls : List Call) :
    (assembler.after calls).registry = (lastBound calls).or assembler.registry := by
  induction calls generalizing assembler with
  | nil => rfl
  | cons request rest ih =>
    rw [after, List.foldl_cons, ← after, ih, registry_call, lastBound, lastBound,
      List.filterMap_cons]
    cases request.registry? with
    | none => rfl
    | some registry =>
      rw [List.getLast?_cons]
      cases (rest.filterMap Call.registry?).getLast? <;> rfl

/-! ## Runs -/

/-- A run depends on the bound registry only, not on the pieces that it finds. -/
theorem assemble_eq_answer (assembler : Assembler) :
    assembler.assemble.2 = answer assembler.registry := by
  obtain ⟨bound, initializers, accessors⟩ := assembler
  cases bound with
  | none => rfl
  | some registry =>
    rw [answer, assemble, assemble]
    simp only [bind, cleared]
    split
    · rfl
    · split <;> rfl

/-- Whatever happened to an assembler, a run replies what a new assembler replies that is bound to
the registry that was bound last. This holds for every run of a sequence of calls, be the runs
before it complete, stopped half-way or refused at once. -/
theorem replies_forget (calls : List Call) :
    (fresh.after calls).assemble.2 = answer (lastBound calls) ∧
      replies fresh calls = answers none calls := by
  constructor
  · rw [assemble_eq_answer, registry_after]
    exact congrArg answer (Option.or_none ..)
  · have general (assembler : Assembler) :
        replies assembler calls = answers assembler.registry calls := by
      induction calls generalizing assembler with
      | nil => rfl
      | cons request rest ih =>
        cases request with
        | bind registry => exact ih (assembler.bind registry)
        | assemble =>
          rw [replies, answers, assemble_eq_answer, ih, registry_assemble]
    exact general fresh

end Beanwright.Assembler
