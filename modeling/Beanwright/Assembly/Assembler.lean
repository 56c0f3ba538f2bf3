import Beanwright.Assembly.ClassText

/-!
# Assembling a class

An assembler is bound to a registry and collects the pieces of the class that the registry declares,
property by property. A run that fails half-way leaves pieces behind; the next run starts without
them.
-/

namespace Beanwright

/-- Why a class cannot be assembled. -/
inductive AssemblyError where
  /-- No registry is bound. -/
  | unbound
  /-- The registry does not declare a complete class. -/
  | schema (cause : BeanError)

namespace AssemblyError

/-- The wording of an error. -/
def message : AssemblyError → Text
  | unbound => "no class schema is bound to the assembler".toList
  | schema cause => cause.message

/-- The messages of the deeper causes of an error. -/
def causes : AssemblyError → List Text
  | unbound => []
  | schema cause => cause.causes

end AssemblyError

/-- The bound registry and the pieces collected so far. -/
structure Assembler where
  /-- The registry, once one is bound. -/
  registry : Option Registry
  /-- The statements of the constructor. -/
  initializers : Text
  /-- The getters and setters. -/
  accessors : Text

namespace Assembler

/-- An assembler without registry and pieces. -/
def fresh : Assembler := ⟨none, [], []⟩

/-- The assembler without pieces. -/
def cleared (assembler : Assembler) : Assembler :=
  { assembler with initializers := [], accessors := [] }

/-- The assembler bound to a registry, without pieces. -/
def bind (assembler : Assembler) (registry : Registry) : Assembler :=
  { assembler with registry := some registry }.cleared

/-- The assembler with the pieces of one more property. -/
def add (assembler : Assembler) (member : Member) : Assembler :=
  { assembler with
    initializers := assembler.initializers ++ ClassText.initializer member.names.field
    accessors := assembler.accessors ++ ClassText.getter member ++ ClassText.setter member }

/-- Collects the pieces of properties, and stops at the first that has no identifier. -/
def collect : List (Except BeanError Member) → Assembler → Assembler × Except AssemblyError Unit
  | [], assembler => (assembler, .ok ())
  | .ok member :: rest, assembler => collect rest (assembler.add member)
  | .error error :: _, assembler => (assembler, .error (.schema error))

/-- Assembles the class of the bound registry and hands its pieces out. -/
def assemble (assembler : Assembler) : Assembler × Except AssemblyError ClassText :=
  match assembler.registry with
  | none => (assembler, .error .unbound)
  | some registry =>
    match registry.name with
    | .error error => (assembler, .error (.schema error))
    | .ok className =>
      match collect registry.walk assembler.cleared with
      | (stopped, .error error) => (stopped, .error error)
      | (full, .ok ()) =>
        (full.cleared, .ok ⟨className, registry.size, full.initializers, full.accessors⟩)

end Assembler

/-- The pieces of the class that a registry declares. -/
def ClassText.ofRegistry (registry : Registry) : Except AssemblyError ClassText :=
  (Assembler.fresh.bind registry).assemble.2

end Beanwright
