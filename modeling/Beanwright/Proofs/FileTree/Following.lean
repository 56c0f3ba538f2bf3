import Mathlib.Data.List.Basic
import Beanwright.FileTree

/-!
# Following names

What stays open as a tree grows. Names are followed by looking at nodes that stand on the way, so a
tree that keeps every node and adds no symbolic link leads the same names to the same place; and so
does a host that refuses less. Following the names of a longer way goes on where the shorter one
ended, with whatever number of links is left.
-/

namespace Beanwright.FileTree

/-- A name is followed from a directory that lets it, to a node of its own. -/
structure Enters (tree : FileTree) (host : Host) (purpose : Purpose) (location : Location)
    (name : Text) (rest : List Text) : Prop where
  /-- The name is looked for in a directory. -/
  directory : tree.isDirectory location = true
  /-- The host lets names be followed from there. -/
  entering : host.entering location = none
  /-- The name is neither empty nor made of dots. -/
  plain : name ≠ [] ∧ name ≠ ['.'] ∧ name ≠ ['.', '.']
  /-- A file that is to be stored bears no slash. -/
  unclosed : ¬(purpose = .storing ∧ rest = [[]])
  /-- The name is not too long. -/
  short : Text.utf8Length name ≤ longestName

/-- Names lead from a location to a stop. -/
inductive Advances (tree : FileTree) (host : Host) (purpose : Purpose) :
    Location → List Text → Stop → Prop
  | done (location : Location) : Advances tree host purpose location [] (.place location)
  | slash {location : Location} {rest : List Text} {stop : Stop}
      (directory : tree.isDirectory location = true)
      (goesOn : Advances tree host purpose location rest stop) :
      Advances tree host purpose location ([] :: rest) stop
  | dot {location : Location} {rest : List Text} {stop : Stop}
      (directory : tree.isDirectory location = true) (entering : host.entering location = none)
      (goesOn : Advances tree host purpose location rest stop) :
      Advances tree host purpose location (['.'] :: rest) stop
  | dots {location : Location} {rest : List Text} {stop : Stop}
      (directory : tree.isDirectory location = true) (entering : host.entering location = none)
      (goesOn : Advances tree host purpose location.dropLast rest stop) :
      Advances tree host purpose location (['.', '.'] :: rest) stop
  | into {location : Location} {name : Text} {rest : List Text} {node : Node} {stop : Stop}
      (enters : Enters tree host purpose location name rest)
      (stands : tree.node? (location ++ [name]) = some node) (noLink : ∀ path, node ≠ .link path)
      (goesOn : Advances tree host purpose (location ++ [name]) rest stop) :
      Advances tree host purpose location (name :: rest) stop
  | link {location : Location} {name : Text} {rest : List Text} {path : Text}
      (enters : Enters tree host purpose location name rest)
      (stands : tree.node? (location ++ [name]) = some (.link path)) :
      Advances tree host purpose location (name :: rest) (.link location path rest)
  | missing {location : Location} {name : Text}
      (enters : Enters tree host purpose location name []) (storing : purpose = .storing)
      (absent : tree.node? (location ++ [name]) = none) :
      Advances tree host purpose location [name] (.place (location ++ [name]))

variable {tree other middle : FileTree} {host later : Host} {purpose : Purpose}
  {location place found start parent : Location} {name path : Text} {way rest : List Text}
  {stop : Stop} {node : Node} {number links : Nat}

/-! ## Nodes -/

theorem isDirectory_iff :
    tree.isDirectory location = true ↔ tree.node? location = some .directory := beq_iff_eq

section Entered

variable (enters : Enters tree host purpose location name rest)

include enters

theorem Enters.advance_link (stands : tree.node? (location ++ [name]) = some (.link path)) :
    tree.advance host purpose location (name :: rest) = .ok (.link location path rest) := by
  simp [advance, enters.directory, enters.entering, enters.plain, enters.unclosed,
    Nat.not_lt.mpr enters.short, stands]

theorem Enters.advance_node (stands : tree.node? (location ++ [name]) = some node)
    (noLink : ∀ path, node ≠ .link path) : tree.advance host purpose location (name :: rest) =
      tree.advance host purpose (location ++ [name]) rest := by
  simp [advance, enters.directory, enters.entering, enters.plain, enters.unclosed,
    Nat.not_lt.mpr enters.short, stands]

theorem Enters.advance_none (absent : tree.node? (location ++ [name]) = none) :
    tree.advance host purpose location (name :: rest) =
      if purpose = .storing ∧ rest = [] then .ok (.place (location ++ [name]))
      else .error .notFound := by
  simp [advance, enters.directory, enters.entering, enters.plain, enters.unclosed,
    Nat.not_lt.mpr enters.short, absent]

end Entered

/-- What following names up to the first link can do. -/
theorem advance_eq_ok_iff :
    tree.advance host purpose location way = .ok stop ↔
      Advances tree host purpose location way stop := by
  constructor
  · intro advanced
    fun_induction advance tree host purpose location way with
    | case1 location =>
      cases advanced
      exact .done location
    | case3 location name rest directory blank ih =>
      rw [List.isEmpty_iff.mp blank]
      exact .slash (by simpa using directory) (ih advanced)
    | case5 location rest directory entering _ ih =>
      exact .dot (by simpa using directory) entering (ih advanced)
    | case6 location rest directory entering _ _ ih =>
      exact .dots (by simpa using directory) entering (ih advanced)
    | case9 location name rest directory filled entering noDot noDots unclosed short path stands =>
      cases advanced
      exact .link ⟨by simpa using directory, entering, ⟨by simpa using filled, noDot, noDots⟩,
        unclosed, Nat.le_of_not_lt short⟩ stands
    | case10 location name rest directory filled entering noDot noDots unclosed short node noLink
        stands ih =>
      exact .into ⟨by simpa using directory, entering, ⟨by simpa using filled, noDot, noDots⟩,
        unclosed, Nat.le_of_not_lt short⟩ stands (fun path same => noLink path same) (ih advanced)
    | case11 location name rest directory filled entering noDot noDots unclosed short absent last =>
      obtain ⟨storing, rfl⟩ := last
      cases advanced
      exact .missing ⟨by simpa using directory, entering, ⟨by simpa using filled, noDot, noDots⟩,
        unclosed, Nat.le_of_not_lt short⟩ storing absent
    | case2 | case4 | case7 | case8 | case12 => cases advanced
  · intro advances
    induction advances with
    | done location => rfl
    | slash directory _ ih => simp [advance, directory, ih]
    | dot directory entering _ ih => simp [advance, directory, entering, ih]
    | dots directory entering _ ih => simp [advance, directory, entering, ih]
    | into enters stands noLink _ ih => rw [enters.advance_node stands noLink, ih]
    | link enters stands => exact enters.advance_link stands
    | missing enters storing absent => rw [enters.advance_none absent, if_pos ⟨storing, rfl⟩]

/-- A tree keeps every node of another one, and has no symbolic links but those. -/
structure Extends (tree other : FileTree) : Prop where
  /-- Every node is kept. -/
  kept : ∀ location node, tree.node? location = some node → other.node? location = some node
  /-- No link is new. -/
  noLink : ∀ location path, other.node? location = some (.link path) →
    tree.node? location = some (.link path)

theorem Extends.refl (tree : FileTree) : Extends tree tree :=
  ⟨fun _ _ stands => stands, fun _ _ stands => stands⟩

theorem Extends.isDirectory (extended : Extends tree other)
    (directory : tree.isDirectory location = true) : other.isDirectory location = true := by
  rw [isDirectory_iff] at directory ⊢
  exact extended.kept _ _ directory

/-- A host lets names be followed from every directory from which another one lets them. -/
def Opens (host later : Host) : Prop :=
  ∀ location, host.entering location = none → later.entering location = none

theorem opens_willing (host : Host) (start : Location) : Opens host (.willing start) :=
  fun _ _ => rfl

theorem Enters.mono (enters : Enters tree host purpose location name rest)
    (extended : Extends tree other) (opens : Opens host later) :
    Enters other later purpose location name rest :=
  ⟨extended.isDirectory enters.directory, opens _ enters.entering, enters.plain, enters.unclosed,
    enters.short⟩

theorem Advances.mono (advances : Advances tree host purpose location way stop)
    (extended : Extends tree other) (opens : Opens host later) :
    Advances other later purpose location way stop := by
  induction advances with
  | done location => exact .done location
  | slash directory _ ih => exact .slash (extended.isDirectory directory) ih
  | dot directory entering _ ih => exact .dot (extended.isDirectory directory) (opens _ entering) ih
  | dots directory entering _ ih =>
    exact .dots (extended.isDirectory directory) (opens _ entering) ih
  | into enters stands noLink _ ih =>
    exact .into (enters.mono extended opens) (extended.kept _ _ stands) noLink ih
  | link enters stands => exact .link (enters.mono extended opens) (extended.kept _ _ stands)
  | @missing location name enters storing absent =>
    cases stands : other.node? (location ++ [name]) with
    | none => exact .missing (enters.mono extended opens) storing stands
    | some node =>
      refine .into (enters.mono extended opens) stands (fun path same => ?_) (.done _)
      rw [same] at stands
      have before := extended.noLink _ _ stands
      rw [absent] at before
      cases before

/-! ## Finding and storing -/

/-- What stands where a file would be stored is found there. -/
theorem Advances.finding (advances : Advances tree host .storing location way stop)
    (stands : ∀ place, stop = .place place → tree.node? place ≠ none) :
    Advances tree host .finding location way stop := by
  have found {location : Location} {name : Text} {rest : List Text}
      (enters : Enters tree host .storing location name rest) :
      Enters tree host .finding location name rest :=
    ⟨enters.directory, enters.entering, enters.plain, by simp, enters.short⟩
  induction advances with
  | done location => exact .done location
  | slash directory _ ih => exact .slash directory (ih stands)
  | dot directory entering _ ih => exact .dot directory entering (ih stands)
  | dots directory entering _ ih => exact .dots directory entering (ih stands)
  | into enters standing noLink _ ih => exact .into (found enters) standing noLink (ih stands)
  | link enters standing => exact .link (found enters) standing
  | missing enters storing absent => exact absurd absent (stands _ rfl)

/-- Where something is found a file would be stored, unless a slash follows its name. -/
theorem Advances.storing (advances : Advances tree host .finding location way stop) :
    tree.advance host .storing location way = .ok stop ∨
      tree.advance host .storing location way = .error .isADirectory := by
  have stored {location : Location} {name : Text} {rest : List Text}
      (enters : Enters tree host .finding location name rest) :
      Enters tree host .storing location name rest ∨
        tree.advance host .storing location (name :: rest) = .error .isADirectory := by
    by_cases closed : rest = [[]]
    · right
      simp [advance, enters.directory, enters.entering, enters.plain, closed]
    · exact .inl ⟨enters.directory, enters.entering, enters.plain, fun both => closed both.2,
        enters.short⟩
  induction advances with
  | done location => exact .inl rfl
  | slash directory _ ih => simpa [advance, directory] using ih
  | dot directory entering _ ih => simpa [advance, directory, entering] using ih
  | dots directory entering _ ih => simpa [advance, directory, entering] using ih
  | into enters stands noLink _ ih =>
    rcases stored enters with enters | refused
    · rw [enters.advance_node stands noLink]
      exact ih
    · exact .inr refused
  | link enters stands =>
    rcases stored enters with enters | refused
    · exact .inl (enters.advance_link stands)
    · exact .inr refused
  | missing enters storing absent => cases storing

/-! ## Through links -/

theorem resolve_eq_ok_iff : tree.resolve host purpose links location way = .ok found ↔
    Advances tree host purpose location way (.place found) ∨
      ∃ directory path rest fewer, links = fewer + 1 ∧
        Advances tree host purpose location way (.link directory path rest) ∧
        tree.resolve host purpose fewer (if Path.isAbsolute path then [] else directory)
          (names path ++ rest) = .ok found := by
  simp only [← advance_eq_ok_iff]
  cases links with
  | zero =>
    rw [resolve]
    split <;> simp [*]
  | succ links =>
    rw [resolve]
    split <;> simp [*]

theorem resolve_mono (resolved : tree.resolve host purpose links location way = .ok found)
    (extended : Extends tree other) (opens : Opens host later) :
    other.resolve later purpose links location way = .ok found := by
  induction links generalizing location way with
  | zero =>
    rw [resolve_eq_ok_iff] at resolved ⊢
    rcases resolved with advances | ⟨_, _, _, fewer, ⟨⟩, -⟩
    exact .inl (advances.mono extended opens)
  | succ links ih =>
    rw [resolve_eq_ok_iff] at resolved ⊢
    rcases resolved with advances | ⟨directory, path, rest, fewer, ⟨⟩, advances, resolved⟩
    · exact .inl (advances.mono extended opens)
    · exact .inr ⟨directory, path, rest, links, rfl, advances.mono extended opens, ih resolved⟩

theorem Advances.directory (advances : Advances tree host purpose location (name :: rest) stop) :
    tree.isDirectory location = true := by
  cases advances with
  | slash directory | dot directory | dots directory => exact directory
  | into enters | link enters | missing enters => exact enters.directory

theorem lead_eq_ok_iff : tree.lead host purpose start way = .ok found ↔
    (∀ name ∈ way, '\x00' ∉ name) ∧
      tree.resolve host purpose mostLinks start way = .ok found := by
  rw [lead]
  split
  · next nul =>
    obtain ⟨name, member, contained⟩ := List.any_eq_true.mp nul
    constructor
    · rintro ⟨⟩
    · rintro ⟨clean, -⟩
      exact absurd (List.contains_iff_mem.mp contained) (clean name member)
  · next clean =>
    refine (and_iff_right fun name member nul => clean ?_).symm
    exact List.any_eq_true.mpr ⟨name, member, List.contains_iff_mem.mpr nul⟩

theorem lead_mono (led : tree.lead host purpose start way = .ok found)
    (extended : Extends tree other) (opens : Opens host later) :
    other.lead later purpose start way = .ok found := by
  rw [lead_eq_ok_iff] at led ⊢
  exact ⟨led.1, resolve_mono led.2 extended opens⟩

theorem follow_eq_ok_iff : tree.follow host purpose path = .ok found ↔
    path ≠ [] ∧ tree.lead host purpose (host.start path) (names path) = .ok found := by
  rw [follow]
  split
  · next empty => simp [List.isEmpty_iff.mp empty]
  · next filled => simp [mt List.isEmpty_iff.mpr filled]

theorem start_congr (same : later.workingDirectory = host.workingDirectory) (path : Text) :
    later.start path = host.start path := by rw [Host.start, Host.start, same]

theorem follow_mono (followed : tree.follow host purpose path = .ok found)
    (extended : Extends tree other) (opens : Opens host later)
    (same : later.workingDirectory = host.workingDirectory) :
    other.follow later purpose path = .ok found := by
  rw [follow_eq_ok_iff] at followed ⊢
  rw [start_congr same]
  exact ⟨followed.1, lead_mono followed.2 extended opens⟩

end Beanwright.FileTree
