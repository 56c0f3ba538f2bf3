import Beanwright.Proofs.Program.Agreement
import Beanwright.Proofs.Program.Literals

/-!
# The signature of the class's own constructor

The rule for the signature takes the first line that has the word `constructor`. In the text of a
class three lines stand above its constructor: the banner, an empty line and the header of the
class. None of them has the word, since a class name begins with a capital letter or an underscore
and is a word of its own. So the rule finds the constructor of the class, whatever the properties
are called and whatever the sources of custom guards say, since all of that stands below.
-/

namespace Beanwright

open Layout

namespace Layout

/-- The draft that the rules before a given rule make of a text. -/
def draftBefore (rule : Rule) (options : Options) (text : Text) : Except Unbalanced Draft :=
  (options.rules.takeWhile (· != rule)).foldlM (fun draft rule => rule.apply options.indent draft)
    ⟨Text.lines text, 0⟩

/-- A layout goes on from the draft that a rule is given. -/
theorem run_eq_draftBefore (rule : Rule) (options : Options) (text : Text) :
    run options text = draftBefore rule options text >>= fun draft =>
      (options.rules.dropWhile (· != rule)).foldlM
        (fun draft rule => rule.apply options.indent draft) draft := by
  rw [draftBefore, ← List.foldlM_append, List.takeWhile_append_dropWhile, run]

/-- Before the rule for the signature, lines are broken and blocks separated. -/
theorem draftBefore_signature (options : Options) (text : Text) :
    draftBefore .signature options text = .ok ⟨unsigned text, 0⟩ := by
  obtain ⟨indent, strict⟩ := options
  cases strict <;> rfl

end Layout

namespace Generation

variable {registry : Registry} {pieces : ClassText}

/-- The pieces of a class are those of its properties in order. -/
theorem eq_ofMembers_of_ofRegistry (assembled : ClassText.ofRegistry registry = .ok pieces) :
    ∃ className members, registry.className = some className ∧ registry.members = .ok members ∧
      pieces = ClassText.ofMembers className members := by
  obtain ⟨⟨className, named⟩, derivable⟩ := succeeds_ofRegistry_iff.mp ⟨pieces, assembled⟩
  obtain ⟨members, found⟩ := Registry.exists_members_iff.mpr derivable
  rw [ClassText.ofRegistry_eq_ok named found] at assembled
  exact ⟨className, members, named, found, (Except.ok.inj assembled).symm⟩

/-- Whatever class is assembled, the rule for the signature is given the banner, an empty line, the
header of the class and right below it the header of the constructor. It puts a space into that one
line and leaves all others as they are. -/
theorem signature_spaced (reachable : registry.Reachable)
    (assembled : ClassText.ofRegistry registry = .ok pieces) (options : Options) :
    ∃ className above below draft,
      registry.className = some className ∧
      above = [ClassText.banner, [], "class ".toList ++ className ++ ['{']] ∧
      draftBefore .signature options pieces.render = .ok draft ∧
      draft.lines = above ++ ("constructor()".toList ++ ['{']) :: below ∧
      Rule.signature.apply options.indent draft =
        .ok { draft with lines := above ++ ("constructor ()".toList ++ ['{']) :: below } := by
  obtain ⟨className, members, named, found, rfl⟩ := eq_ofMembers_of_ofRegistry assembled
  have identifier := reachable.isClassIdentifier named
  obtain ⟨below, unsignedEq, signedEq⟩ := ClassProgram.spaceSignatures_render members identifier
  have given := draftBefore_signature options (ClassText.ofMembers className members).render
  -- Only the form of the lines matters from here on, not how they came about.
  generalize unsigned (ClassText.ofMembers className members).render = lines at *
  refine ⟨className, _, below, _, named, rfl, given, unsignedEq, ?_⟩
  rw [Rule.apply, Draft.mapLines, signedEq]

/-- A class whose name, property and guard all have the word in them. -/
def constructors : Registry :=
  Registry.empty.after [.setName "_constructor".toList,
    .addProperty "constructor".toList none false,
    .addGuard "constructor".toList (.custom 0 "v => v.constructor === Number".toList fun _ => true)]

/-- The member of its property. -/
def constructorsMember : Member where
  property := ⟨"constructor".toList, none, false,
    [.custom 0 "v => v.constructor === Number".toList fun _ => true]⟩
  names := ⟨"Constructor".toList, "__constructor".toList, "getConstructor".toList,
    "setConstructor".toList⟩
  derived := rfl

theorem className_constructors : constructors.className = some "_constructor".toList := rfl

theorem members_constructors : constructors.members = .ok [constructorsMember] := rfl

/-- The rule still finds the class's own constructor. -/
theorem signature_spaced_sample :
    constructors.Reachable ∧ ∃ pieces, ClassText.ofRegistry constructors = .ok pieces ∧
      ∃ below draft, draftBefore .signature .standard pieces.render = .ok draft ∧
        draft.lines = [ClassText.banner, [], "class ".toList ++ "_constructor".toList ++ ['{']] ++
          ("constructor()".toList ++ ['{']) :: below := by
  have reachable : constructors.Reachable := ⟨_, rfl⟩
  have assembled := ClassText.ofRegistry_eq_ok className_constructors members_constructors
  obtain ⟨className, above, below, draft, named, rfl, given, lines, -⟩ :=
    signature_spaced reachable assembled .standard
  obtain rfl := Option.some_inj.mp (className_constructors.symm.trans named)
  exact ⟨reachable, _, assembled, below, draft, given, lines⟩

end Generation

end Beanwright
