import Mathlib.Data.List.Basic
import Mathlib.Tactic.Common

/-! # First occurrences

The entries of a list whose key no earlier entry has, in their order.
-/

namespace Firsts

variable {α κ : Type*} [DecidableEq κ] (key : α → κ)

/-- Keep the first entry of each key. -/
def firstsBy : List α → List α
  | [] => []
  | x :: xs => x :: (firstsBy xs).filter fun y => key y ≠ key x

/-- Every key that occurs is kept. -/
theorem mem_map_firstsBy {xs : List α} {k : κ} :
    k ∈ (firstsBy key xs).map key ↔ k ∈ xs.map key := by
  induction xs with
  | nil => exact Iff.rfl
  | cons x xs ih =>
      simp only [List.mem_map] at ih
      simp only [firstsBy, List.map_cons, List.mem_cons, List.mem_map, List.mem_filter,
        decide_eq_true_eq]
      constructor
      · rintro (hk | ⟨y, ⟨hy, -⟩, hyk⟩)
        · exact Or.inl hk
        · exact Or.inr (ih.1 ⟨y, hy, hyk⟩)
      · rintro (hk | hmem)
        · exact Or.inl hk
        · by_cases hkx : k = key x
          · exact Or.inl hkx
          · rcases ih.2 hmem with ⟨y, hy, hyk⟩
            exact Or.inr ⟨y, ⟨hy, hyk ▸ hkx⟩, hyk⟩

/-- No key is kept twice. -/
theorem nodup_map_firstsBy (xs : List α) : ((firstsBy key xs).map key).Nodup := by
  induction xs with
  | nil => exact List.nodup_nil
  | cons x xs ih =>
      rw [firstsBy, List.map_cons, List.nodup_cons]
      constructor
      · intro hmem
        rcases List.mem_map.1 hmem with ⟨y, hy, hyx⟩
        have hne : key y ≠ key x := by simpa using (List.mem_filter.1 hy).2
        exact hne hyx
      · exact ih.sublist (List.filter_sublist.map key)

/-- The kept entries are those that no entry with their key precedes. -/
theorem mem_firstsBy {xs : List α} {y : α} :
    y ∈ firstsBy key xs ↔ ∃ pre post, xs = pre ++ y :: post ∧ key y ∉ pre.map key := by
  induction xs with
  | nil => simp [firstsBy]
  | cons x xs ih =>
      rw [firstsBy, List.mem_cons, List.mem_filter, ih, decide_eq_true_eq]
      constructor
      · rintro (rfl | ⟨⟨pre, post, rfl, hpre⟩, hne⟩)
        · exact ⟨[], xs, rfl, List.not_mem_nil⟩
        · refine ⟨x :: pre, post, rfl, ?_⟩
          rw [List.map_cons, List.mem_cons]
          rintro (h | h)
          · exact hne h
          · exact hpre h
      · rintro ⟨pre, post, heq, hpre⟩
        cases pre with
        | nil =>
            rw [List.nil_append, List.cons.injEq] at heq
            exact Or.inl heq.1.symm
        | cons z pre =>
            rw [List.cons_append, List.cons.injEq] at heq
            rw [List.map_cons, List.mem_cons, not_or] at hpre
            rcases heq with ⟨rfl, rfl⟩
            exact Or.inr ⟨⟨pre, post, rfl, hpre.2⟩, hpre.1⟩

/-- An entry that comes later is kept when its key is new. -/
theorem firstsBy_append_singleton (xs : List α) (x : α) :
    firstsBy key (xs ++ [x]) =
      if key x ∈ xs.map key then firstsBy key xs else firstsBy key xs ++ [x] := by
  induction xs with
  | nil => rfl
  | cons z xs ih =>
      rw [List.cons_append, firstsBy, ih, List.map_cons, firstsBy]
      by_cases hxs : key x ∈ xs.map key
      · rw [if_pos hxs, if_pos (List.mem_cons_of_mem _ hxs)]
      · rw [if_neg hxs, List.filter_append]
        -- the key is new to the rest; it may still be the key of the head
        by_cases hz : key x = key z
        · rw [if_pos (hz ▸ List.mem_cons_self)]
          simp [hz]
        · have hmem : key x ∉ key z :: xs.map key := by
            rw [List.mem_cons, not_or]
            exact ⟨hz, hxs⟩
          rw [if_neg hmem]
          simp [hz]

/-- The kept entries stand in the order of the list. -/
theorem firstsBy_sublist (xs : List α) : (firstsBy key xs).Sublist xs := by
  induction xs with
  | nil => exact List.Sublist.refl []
  | cons x xs ih => exact (List.filter_sublist.trans ih).cons_cons x

end Firsts
