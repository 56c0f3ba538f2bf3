import Mathlib.Data.Set.List
import Beanwright.Guard.TypeCheck
import Beanwright.Proofs.Json.Equality

/-!
# Arrays that count as sets

The set check compares each item with the items after it, one way round. Equality is symmetric, so
what it finds out is that no two positions hold equal items. That does not depend on the order of
the items, nor on the order of fields inside them, since equality is blind to the latter.
-/

namespace Beanwright

namespace Json

variable {items others : List Json}

/-- No two positions of a list hold equal values. -/
def AreDistinct (items : List Json) : Prop :=
  ∀ (first second : Nat) (one other : Json), first ≠ second → items[first]? = some one →
    items[second]? = some other → ¬Equal one other

/-- By symmetry it is enough to compare each item with later ones. -/
theorem areDistinct_iff_pairwise :
    AreDistinct items ↔ items.Pairwise fun one other => ¬Equal one other := by
  rw [List.pairwise_iff_getElem]
  constructor
  · intro distinct first second firstInside secondInside before
    exact distinct first second _ _ (Nat.ne_of_lt before) (List.getElem?_eq_getElem firstInside)
      (List.getElem?_eq_getElem secondInside)
  · intro ordered first second one other differs found otherFound equal
    obtain ⟨firstInside, rfl⟩ := List.getElem?_eq_some_iff.mp found
    obtain ⟨secondInside, rfl⟩ := List.getElem?_eq_some_iff.mp otherFound
    rcases Nat.lt_or_gt_of_ne differs with before | after
    · exact ordered first second firstInside secondInside before equal
    · exact ordered second first secondInside firstInside after equal.symm

/-- The scan over a list decides whether its items are distinct. -/
theorem allDistinct_iff (items : List Keyed) :
    allDistinct (items.map Subtype.val) = true ↔ AreDistinct (items.map Subtype.val) := by
  rw [areDistinct_iff_pairwise]
  induction items with
  | nil => exact iff_of_true rfl .nil
  | cons item rest ih =>
    rw [List.map_cons, allDistinct, List.pairwise_cons, Bool.and_eq_true, ih, Bool.not_eq_true',
      List.any_eq_false, List.forall_mem_map, List.forall_mem_map]
    refine and_congr_left' (forall₂_congr fun other _ => ?_)
    rw [same_iff]

theorem AreDistinct.perm (distinct : AreDistinct items) (shuffled : items.Perm others) :
    AreDistinct others := by
  rw [areDistinct_iff_pairwise] at distinct ⊢
  exact (shuffled.pairwise_iff fun differs equal => differs equal.symm).mp distinct

/-- Distinct items stay distinct when each is replaced by an equal one. -/
theorem AreDistinct.of_equal (distinct : AreDistinct items)
    (equal : Equal (array items) (array others)) : AreDistinct others := by
  cases equal with
  | array length all =>
    have old {position : Nat} {other : Json} (found : others[position]? = some other) :
        ∃ one, items[position]? = some one ∧ Equal one other := by
      obtain ⟨inside, -⟩ := List.getElem?_eq_some_iff.mp found
      have oldFound := List.getElem?_eq_getElem (length ▸ inside)
      exact ⟨_, oldFound, all position _ other oldFound found⟩
    intro first second one other differs found otherFound equal
    obtain ⟨oldOne, oldFound, like⟩ := old found
    obtain ⟨oldOther, oldOtherFound, otherLike⟩ := old otherFound
    exact distinct first second oldOne oldOther differs oldFound oldOtherFound
      ((like.trans equal).trans otherLike.symm)

end Json

namespace TypeCheck

open Json

theorem accepts_set_iff (value : Keyed) :
    set.accepts value.1 = true ↔ ∃ items, value.1 = .array items ∧ AreDistinct items := by
  obtain ⟨value, keyed⟩ := value
  dsimp only
  cases value with
  | array items =>
    lift items to List Keyed using isKeyed_array_iff.mp keyed
    have scanned := allDistinct_iff items
    constructor
    · intro accepted
      exact ⟨_, rfl, scanned.mp accepted⟩
    · rintro ⟨_, ⟨⟩, distinct⟩
      exact scanned.mpr distinct
  | _ => exact iff_of_false Bool.false_ne_true fun ⟨_, isArray, _⟩ => Json.noConfusion isArray

/-- The set check accepts the arrays in which no two positions hold equal values. Neither the order
of the items nor the order of fields anywhere inside them changes its answer. An object is a map, so
it repeats no key, and no value that was read has one that does. -/
theorem set_exact (value : Json) (keyed : value.isKeyed = true) :
    (set.accepts value = true ↔ ∃ items, value = .array items ∧
      ∀ (first second : Nat) (one other : Json), first ≠ second → items[first]? = some one →
        items[second]? = some other → ¬Equal one other) ∧
    (∀ items shuffled : List Json, value = .array items → items.Perm shuffled →
      set.accepts (.array shuffled) = set.accepts value) ∧
    ∀ other : Json, Reordered value other → set.accepts other = set.accepts value := by
  refine ⟨accepts_set_iff ⟨value, keyed⟩, ?_, ?_⟩
  · rintro items shuffled rfl permuted
    have shuffledKeyed : (array shuffled).isKeyed = true := by
      rw [isKeyed_array_iff] at keyed ⊢
      intro item member
      exact keyed item (permuted.mem_iff.mpr member)
    rw [Bool.eq_iff_iff, accepts_set_iff ⟨_, shuffledKeyed⟩, accepts_set_iff ⟨_, keyed⟩]
    constructor
    · rintro ⟨_, ⟨⟩, distinct⟩
      exact ⟨items, rfl, distinct.perm permuted.symm⟩
    · rintro ⟨_, ⟨⟩, distinct⟩
      exact ⟨shuffled, rfl, distinct.perm permuted⟩
  · intro other reordered
    obtain ⟨otherKeyed, equal⟩ := reordered.equal keyed
    have carried {one other : Json} (equal : Equal one other)
        (found : ∃ items, one = .array items ∧ AreDistinct items) :
        ∃ items, other = .array items ∧ AreDistinct items := by
      obtain ⟨items, rfl, distinct⟩ := found
      cases equal with
      | array length all => exact ⟨_, rfl, distinct.of_equal (.array length all)⟩
    rw [Bool.eq_iff_iff, accepts_set_iff ⟨other, otherKeyed⟩, accepts_set_iff ⟨value, keyed⟩]
    exact ⟨carried equal.symm, carried equal⟩

/-- An object, and the same object with its fields the other way round. -/
def sampleObjects : Json × Json :=
  (.object [("a".toList, .integer 1), ("b".toList, .null)],
    .object [("b".toList, .null), ("a".toList, .integer 1)])

/-- The other way round it is the same object, so both together are no set. -/
theorem set_exact_sample :
    (array [sampleObjects.1, sampleObjects.2]).isKeyed = true ∧
      set.accepts (array [sampleObjects.1, sampleObjects.2]) = false := by
  have keyed : (array [sampleObjects.1, sampleObjects.2]).isKeyed = true := by decide
  have decided := (set_exact (array [sampleObjects.1, sampleObjects.2]) keyed).1
  refine ⟨keyed, Bool.eq_false_iff.mpr fun accepted => ?_⟩
  obtain ⟨_, ⟨⟩, distinct⟩ := decided.mp accepted
  have swapped : Reordered sampleObjects.1 sampleObjects.2 := .fields (.swap _ _ [])
  have equal := (swapped.equal (by decide)).2
  exact distinct 0 1 sampleObjects.1 sampleObjects.2 Nat.zero_ne_one rfl rfl equal

end TypeCheck

end Beanwright
