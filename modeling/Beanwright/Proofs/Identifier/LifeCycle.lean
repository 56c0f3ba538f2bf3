import Mathlib.Data.List.Induction
import Beanwright.Proofs.Identifier.Derivation

/-!
# The life of an identifier

An identifier is validated and built by calls that may come in any order and any number of times.
Validation finds the same positions whenever it is asked, and a build gives the same names, so of
all calls only two things matter: whether there was a validation, and whether a build came after
one. Everything else about the identifier is fixed by its raw name and its delimiter. In particular
an identifier that is built has nothing left to change.

## Main definitions

* `Identifier.Call`, `Identifier.call`, `Identifier.after` — calls to one identifier
* `Identifier.reached` — what calls make of a new identifier

## Main results

* `Identifier.call_validate`, `Identifier.call_build` — what a call does and replies
* `Identifier.after_fresh` — what a sequence of calls does
* `Identifier.call_of_built`, `Identifier.after_of_built` — nothing changes once the names are there
* `Identifier.life_cycle` — when an identifier is built, and what can be read from it before and
  after
-/

namespace Beanwright.Identifier

/-- A call that may change an identifier. -/
inductive Call where
  /-- Look for offending characters. -/
  | validate
  /-- Derive the names. -/
  | build
deriving DecidableEq, Repr

/-- The identifier after a call, and the reply. A build that fails changes nothing, a validation
that fails keeps what it found. -/
def call (identifier : Identifier) : Call → Identifier × Except IdentifierError Unit
  | .validate => identifier.validate
  | .build =>
    match identifier.build with
    | .ok built => (built, .ok ())
    | .error cause => (identifier, .error cause)

/-- The identifier after calls, whether they fail or not. -/
def after (identifier : Identifier) (calls : List Call) : Identifier :=
  calls.foldl (fun before request => (before.call request).1) identifier

/-- The joined words of a name that gives an identifier. -/
def pascal? (raw : Text) (delimiter : Option Char) : Option Text :=
  match ofName raw delimiter with
  | .ok identifier => identifier.built
  | .error _ => none

/-- What calls make of a new identifier. Its findings are there once there was a validation, its
joined words once a build came after one. -/
def reached (raw : Text) (delimiter : Option Char) (calls : List Call) : Identifier where
  raw := raw
  delimiter := delimiter
  findings := if .validate ∈ calls then some (offenders raw delimiter) else none
  built := if [.validate, .build].Sublist calls then pascal? raw delimiter else none

variable {raw : Text} {delimiter : Option Char} {identifier : Identifier} {calls : List Call}

/-! ## Names that give an identifier -/

theorem ofName_eq_ok (built : ofName raw delimiter = .ok identifier) :
    ∃ pascal, identifier = ⟨raw, delimiter, some [], some pascal⟩ := by
  rw [ofName_of_isWordy (isWordy_of_ofName built)] at built
  exact ⟨_, (Except.ok.inj built).symm⟩

theorem offenders_of_ofName (built : ofName raw delimiter = .ok identifier) :
    offenders raw delimiter = [] :=
  offenders_eq_nil (isWordy_of_ofName built)

@[simp] theorem isSome_pascal? :
    (pascal? raw delimiter).isSome = true ↔
      ∃ identifier, ofName raw delimiter = .ok identifier := by
  unfold pascal?
  cases made : ofName raw delimiter with
  | error cause => simp
  | ok identifier =>
    obtain ⟨pascal, rfl⟩ := ofName_eq_ok made
    simp

theorem eq_of_ofName (built : ofName raw delimiter = .ok identifier) :
    identifier = ⟨raw, delimiter, some [], pascal? raw delimiter⟩ := by
  rw [pascal?, built]
  obtain ⟨pascal, rfl⟩ := ofName_eq_ok built
  rfl

/-- Building after a validation that found nothing is all that is left of making the identifier of
a name. -/
theorem build_of_clean (clean : offenders raw delimiter = []) :
    build ⟨raw, delimiter, some [], none⟩ = ofName raw delimiter := by
  simp [ofName, validate, fresh, clean]

/-! ## One call -/

/-- Only a build can be the later one of the two. -/
theorem sublist_concat_iff {request : Call} :
    [.validate, .build].Sublist (calls ++ [request]) ↔
      [.validate, .build].Sublist calls ∨ request = .build ∧ .validate ∈ calls := by
  have backwards : [.validate, .build].Sublist calls ↔ [.build, .validate].Sublist calls.reverse :=
    List.reverse_sublist.symm
  rw [backwards, ← List.reverse_sublist, List.reverse_append]
  simp [List.cons_sublist_cons', eq_comm]

/-- A validation finds the same whenever it is asked for, and changes nothing else. -/
theorem call_validate (raw : Text) (delimiter : Option Char) (calls : List Call) :
    (reached raw delimiter calls).call .validate =
      (reached raw delimiter (calls ++ [.validate]),
        if offenders raw delimiter = [] then .ok ()
        else .error (.invalidCharacters raw (offenders raw delimiter))) := by
  simp [call, validate, reached, sublist_concat_iff]

/-- Without a validation there are no names, and with wrong findings there never will be. -/
theorem built_reached (notReady : ¬(.validate ∈ calls ∧ offenders raw delimiter = [])) :
    (reached raw delimiter calls).built = none := by
  simp only [reached, ite_eq_right_iff]
  intro inOrder
  have validated : .validate ∈ calls := inOrder.subset (by simp)
  rw [pascal?]
  cases made : ofName raw delimiter with
  | error cause => rfl
  | ok identifier => exact absurd ⟨validated, offenders_of_ofName made⟩ notReady

/-- So a build makes no difference then. -/
theorem reached_concat_build (notReady : ¬(.validate ∈ calls ∧ offenders raw delimiter = [])) :
    reached raw delimiter (calls ++ [.build]) = reached raw delimiter calls := by
  have before := built_reached notReady
  have later : (reached raw delimiter (calls ++ [.build])).built = none :=
    built_reached (by simpa using notReady)
  simp only [reached] at before later ⊢
  rw [later, before]
  simp

/-- A build needs a validation that found nothing, and then does what making the identifier of the
name does. -/
theorem call_build (raw : Text) (delimiter : Option Char) (calls : List Call) :
    (reached raw delimiter calls).call .build =
      (reached raw delimiter (calls ++ [.build]),
        if .validate ∈ calls ∧ offenders raw delimiter = [] then
          (ofName raw delimiter).map fun _ => ()
        else .error (.notValidated raw)) := by
  by_cases ready : .validate ∈ calls ∧ offenders raw delimiter = []
  · obtain ⟨validated, clean⟩ := ready
    cases made : ofName raw delimiter with
    | error cause =>
      have nothing : pascal? raw delimiter = none := by rw [pascal?, made]
      have refused := (build_of_clean clean).trans made
      simp [call, reached, validated, clean, nothing, refused, Except.map]
    | ok identifier =>
      by_cases early : [.validate, .build].Sublist calls
      · have named : (pascal? raw delimiter).isSome = true := isSome_pascal?.mpr ⟨_, made⟩
        obtain ⟨pascal, found⟩ := Option.isSome_iff_exists.mp named
        simp [call, build, reached, validated, clean, early, found, Except.map]
      · have succeeded := (build_of_clean clean).trans made
        simp [call, reached, sublist_concat_iff, validated, clean, early, succeeded,
          eq_of_ofName made, Except.map]
  · have refused : (reached raw delimiter calls).findings ≠ some [] := by
      simpa [reached] using ready
    rw [call, build, built_reached ready, if_neg ready, reached_concat_build ready]
    simp only [if_pos refused]
    rfl

/-! ## Sequences of calls -/

theorem after_concat (identifier : Identifier) (calls : List Call) (request : Call) :
    identifier.after (calls ++ [request]) = ((identifier.after calls).call request).1 :=
  List.foldl_concat ..

/-- A new identifier is, after calls, what these calls make of it. -/
theorem after_fresh (raw : Text) (delimiter : Option Char) (calls : List Call) :
    (fresh raw delimiter).after calls = reached raw delimiter calls := by
  induction calls using List.reverseRecOn with
  | nil => rfl
  | append_singleton earlier request ih =>
    rw [after_concat, ih]
    cases request with
    | validate => rw [call_validate]
    | build => rw [call_build]

/-! ## Built identifiers -/

theorem isBuilt_reached_iff : (reached raw delimiter calls).isBuilt = true ↔
    (∃ identifier, ofName raw delimiter = .ok identifier) ∧ [.validate, .build].Sublist calls := by
  by_cases inOrder : [.validate, .build].Sublist calls
  · simp [isBuilt, reached, inOrder]
  · simp [isBuilt, reached, inOrder]

/-- An identifier that is built by calls is the one that its name gives. -/
theorem ofName_of_isBuilt (built : (reached raw delimiter calls).isBuilt = true) :
    ofName raw delimiter = .ok (reached raw delimiter calls) := by
  obtain ⟨⟨identifier, made⟩, inOrder⟩ := isBuilt_reached_iff.mp built
  have validated : .validate ∈ calls := inOrder.subset (by simp)
  rw [made, eq_of_ofName made]
  simp [reached, inOrder, validated, offenders_of_ofName made]

/-- Nothing changes an identifier that is built, and nothing is refused any more. -/
theorem call_of_built (built : ofName raw delimiter = .ok identifier) (request : Call) :
    identifier.call request = (identifier, .ok ()) := by
  obtain ⟨pascal, rfl⟩ := ofName_eq_ok built
  cases request with
  | validate => simp [call, validate, offenders_of_ofName built]
  | build => rfl

theorem after_of_built (built : ofName raw delimiter = .ok identifier) (later : List Call) :
    identifier.after later = identifier := by
  induction later with
  | nil => rfl
  | cons request rest ih => rwa [after, List.foldl_cons, call_of_built built]

theorem succeeds_read_iff {wanted : DerivedName} :
    (∃ name, identifier.read wanted = .ok name) ↔ identifier.isBuilt = true := by
  unfold read isBuilt
  cases identifier.built <;> simp

/-- An identifier is built if its name gives one and a build came after a validation. Then it is
that identifier, and no call changes it. A build that comes before any validation, or for a name
with a character out of place, is refused; any other build does and replies what making the
identifier of the name does. Derived names can be read exactly from a built identifier. The
findings are empty until the first validation, and from then on they are all the positions that
hold a character out of place, in order. -/
theorem life_cycle (raw : Text) (delimiter : Option Char) (calls : List Call) :
    let identifier := (fresh raw delimiter).after calls
    (identifier.isBuilt = true ↔
      (∃ made, ofName raw delimiter = .ok made) ∧ [.validate, .build].Sublist calls) ∧
    (identifier.isBuilt = true → ofName raw delimiter = .ok identifier ∧
      (∀ request, identifier.call request = (identifier, .ok ())) ∧
        ∀ later, identifier.after later = identifier) ∧
    ((.validate ∉ calls ∨ ∃ position character, Offends delimiter raw position character) →
      identifier.call .build = (identifier, .error (.notValidated raw))) ∧
    (.validate ∈ calls → (¬∃ position character, Offends delimiter raw position character) →
      (identifier.call .build).2 = (ofName raw delimiter).map fun _ => ()) ∧
    (∀ wanted, (∃ name, identifier.read wanted = .ok name) ↔ identifier.isBuilt = true) ∧
    (.validate ∉ calls → identifier.lastOffenders = []) ∧
    (.validate ∈ calls →
      identifier.lastOffenders.Pairwise (fun first second => first.1 < second.1) ∧
      ∀ position character, (position, character) ∈ identifier.lastOffenders ↔
        Offends delimiter raw position character) := by
  intro identifier
  have shape : identifier = reached raw delimiter calls := after_fresh raw delimiter calls
  have offends : (∃ position character, Offends delimiter raw position character) ↔
      offenders raw delimiter ≠ [] := by
    simp only [← mem_offenders_iff, ne_eq, List.eq_nil_iff_forall_not_mem, not_forall, not_not,
      Prod.exists]
  rw [shape, call_build]
  refine ⟨isBuilt_reached_iff, ?_, ?_, ?_, fun _ => succeeds_read_iff, ?_, ?_⟩
  · intro built
    have made := ofName_of_isBuilt built
    exact ⟨made, call_of_built made, after_of_built made⟩
  · intro refused
    -- Whichever of the two it is, no validation has found the name clean.
    have notReady : ¬(.validate ∈ calls ∧ offenders raw delimiter = []) := by
      rintro ⟨validated, clean⟩
      exact refused.elim (fun untried => untried validated) fun found => offends.mp found clean
    rw [if_neg notReady, reached_concat_build notReady]
  · intro validated clean
    rw [offends, not_not] at clean
    rw [if_pos ⟨validated, clean⟩]
  · intro untried
    simp [lastOffenders, reached, untried]
  · intro validated
    have findings : (reached raw delimiter calls).lastOffenders = offenders raw delimiter := by
      simp [lastOffenders, reached, validated]
    rw [findings]
    exact ⟨pairwise_offenders raw delimiter, fun _ _ => mem_offenders_iff⟩

/-- A build that comes too early is made good by a later one, and a name with a digit is never
built. -/
theorem life_cycle_sample :
    ((fresh "an.ox".toList (some '.')).after [.build, .validate, .build, .validate]).isBuilt = true ∧
    ofName "an.ox".toList (some '.') =
      .ok ((fresh "an.ox".toList (some '.')).after [.build, .validate, .build, .validate]) ∧
    ((fresh "ox2".toList none).after [.validate]).call .build =
      ((fresh "ox2".toList none).after [.validate], .error (.notValidated "ox2".toList)) := by
  obtain ⟨built, whole, -⟩ :=
    life_cycle "an.ox".toList (some '.') [.build, .validate, .build, .validate]
  have inOrder := built.mpr ⟨⟨_, rfl⟩, by decide⟩
  obtain ⟨-, -, refused, -⟩ := life_cycle "ox2".toList none [.validate]
  have digit : Offends none "ox2".toList 2 '2' := ⟨rfl, rfl, by simp⟩
  exact ⟨inOrder, (whole inOrder).1, refused (.inr ⟨2, '2', digit⟩)⟩

end Beanwright.Identifier
