import Mathlib.Data.List.Sort
import Mathlib.Tactic.Common

/-! # `sorted(by:)`

The standard library promises of `sorted(by:)` that the result is a permutation
of the list, ordered whenever the predicate is a strict weak order on the
elements. Which of the ordered permutations it is, is left open.
-/

/-- `areInIncreasingOrder` is a strict weak order on the elements of the list:
elements that are not ordered one way or the other count as equal. -/
structure StrictWeakOn {α : Type*} (areInIncreasingOrder : α → α → Bool) (xs : List α) : Prop where
  asymm : ∀ a ∈ xs, ∀ b ∈ xs,
    areInIncreasingOrder a b = true → areInIncreasingOrder b a = false
  trans : ∀ a ∈ xs, ∀ b ∈ xs, ∀ c ∈ xs, areInIncreasingOrder a b = false →
    areInIncreasingOrder b c = false → areInIncreasingOrder a c = false

/-- An implementation of `sorted(by:)`. -/
structure SortedBy (α : Type*) where
  sorted : (α → α → Bool) → List α → List α
  perm : ∀ areInIncreasingOrder xs, (sorted areInIncreasingOrder xs).Perm xs
  ordered : ∀ areInIncreasingOrder xs, StrictWeakOn areInIncreasingOrder xs →
    (sorted areInIncreasingOrder xs).Pairwise fun a b => areInIncreasingOrder b a = false

namespace SortedBy

variable {α : Type*}

/-- Sorting by insertion orders the elements of the list. -/
theorem pairwise_insertionSort {lt : α → α → Bool} {xs : List α} (h : StrictWeakOn lt xs) :
    (xs.insertionSort fun a b => lt b a = false).Pairwise fun a b => lt b a = false := by
  -- the order is total and transitive on the elements only
  have hmap : xs.insertionSort (fun a b => lt b a = false) =
      (xs.attach.insertionSort fun a b => lt b.val a.val = false).map Subtype.val := by
    rw [List.map_insertionSort (fun a b : {x // x ∈ xs} => lt b.val a.val = false)
      (fun a b => lt b a = false) Subtype.val xs.attach fun _ _ _ _ => Iff.rfl,
      List.attach_map_subtype_val]
  have htotal : Std.Total fun a b : {x // x ∈ xs} => lt b.val a.val = false := by
    constructor
    intro a b
    cases hba : lt b.val a.val with
    | false => exact Or.inl rfl
    | true => exact Or.inr (h.asymm b.val b.property a.val a.property hba)
  have htrans : IsTrans {x // x ∈ xs} fun a b => lt b.val a.val = false := by
    constructor
    intro a b c hab hbc
    exact h.trans c.val c.property b.val b.property a.val a.property hbc hab
  rw [hmap, List.pairwise_map]
  exact List.pairwise_insertionSort _ _

/-- Insertion sort is one. -/
def insertion : SortedBy α where
  sorted lt xs := xs.insertionSort fun a b => lt b a = false
  perm _ _ := List.perm_insertionSort _ _
  ordered _ _ h := pairwise_insertionSort h

end SortedBy
