import Mathlib.Data.List.Forall2
import Mathlib.Data.List.Sort
import Mathlib.Tactic.Common

/-! # Filtering, ordering and limiting lists

Facts about lists that are filtered, sorted and cut off, as a store answers a
query, about leaving one entry out, and about the list that is made of another one entry by
entry.
-/

namespace OrderedList

variable {α : Type*}

/-! ## Filtering and sorting -/

section Sorting

variable (r : α → α → Prop) [DecidableRel r]

/-- Filtering commutes with sorting when no two entries are equivalent. -/
theorem filter_insertionSort (htotal : ∀ a b, r a b ∨ r b a)
    (htrans : ∀ a b c, r a b → r b c → r a c) (p : α → Bool) (l : List α)
    (hanti : ∀ a ∈ l, ∀ b ∈ l, r a b → r b a → a = b) :
    (l.insertionSort r).filter p = (l.filter p).insertionSort r := by
  have : Std.Total r := ⟨htotal⟩
  have : IsTrans α r := ⟨htrans⟩
  have hsorted : ((l.insertionSort r).filter p).Pairwise r :=
    (List.pairwise_insertionSort r l).sublist List.filter_sublist
  have hperm : ((l.insertionSort r).filter p).Perm ((l.filter p).insertionSort r) :=
    ((List.perm_insertionSort r l).filter p).trans (List.perm_insertionSort r (l.filter p)).symm
  apply List.Perm.eq_of_pairwise _ hsorted (List.pairwise_insertionSort r _) hperm
  intro a b ha hb
  exact hanti a ((List.mem_insertionSort r).1 (List.mem_filter.1 ha).1)
    b (List.mem_filter.1 ((List.mem_insertionSort r).1 hb)).1

end Sorting

/-! ## Leaving one entry out

`p` tells the entries that stay, and at most one entry does not.
-/

section LeaveOut

variable {p : α → Bool} {l : List α}

/-- At most one entry is left out. -/
theorem length_le_length_filter_succ (h : l.countP (fun a => !p a) ≤ 1) :
    l.length ≤ (l.filter p).length + 1 := by
  have hsplit := List.length_eq_countP_add_countP p (l := l)
  rw [← List.countP_eq_length_filter]
  have hneg : l.countP (fun a => ¬ p a = true) = l.countP fun a => !p a := by
    congr 1
    funext a
    simp
  omega

/-- One entry more than wanted is enough to leave one out. -/
theorem take_filter_take_succ (h : l.countP (fun a => !p a) ≤ 1) (n : ℕ) :
    ((l.take (n + 1)).filter p).take n = (l.filter p).take n := by
  induction l generalizing n with
  | nil => simp
  | cons a l ih =>
      rw [List.take_succ_cons]
      cases ha : p a with
      | false =>
          -- the entry that goes is here, so the rest is cut at `n` on both sides
          have hstay : ∀ b ∈ l, p b = true := by
            have hzero : l.countP (fun b => !p b) = 0 := by
              rw [List.countP_cons_of_pos (by simp [ha])] at h
              omega
            simpa using hzero
          rw [List.filter_cons_of_neg (by simp [ha]), List.filter_cons_of_neg (by simp [ha]),
            List.filter_eq_self.2 hstay,
            List.filter_eq_self.2 fun b hb => hstay b (List.mem_of_mem_take hb),
            List.take_take, min_self]
      | true =>
          rw [List.countP_cons_of_neg (by simp [ha])] at h
          rw [List.filter_cons_of_pos ha, List.filter_cons_of_pos ha]
          cases n with
          | zero => simp
          | succ n => rw [List.take_succ_cons, List.take_succ_cons, ih h]

/-- Whether `n` entries stay shows among the first `n + 1`. -/
theorem le_length_filter_take_succ (h : l.countP (fun a => !p a) ≤ 1) (n : ℕ) :
    n ≤ ((l.take (n + 1)).filter p).length ↔ n ≤ (l.filter p).length := by
  have hlength := congrArg List.length (take_filter_take_succ h n)
  rw [List.length_take, List.length_take] at hlength
  omega

/-- When fewer than `n` entries stay, the first `n + 1` are all there is. -/
theorem filter_take_succ_of_lt (h : l.countP (fun a => !p a) ≤ 1) {n : ℕ}
    (hlt : (l.filter p).length < n) : (l.take (n + 1)).filter p = l.filter p := by
  have hlength := length_le_length_filter_succ h
  rw [List.take_of_length_le (by omega)]

end LeaveOut

/-! ## Cutting off -/

/-- Filtering before the cut changes nothing exactly when the filter keeps
every entry before the cut. -/
theorem take_filter_eq_take_iff (p : α → Bool) (l : List α) (n : ℕ) :
    (l.filter p).take n = l.take n ↔ ∀ a ∈ l.take n, p a = true := by
  constructor
  · intro h a ha
    rw [← h] at ha
    exact (List.mem_filter.1 (List.mem_of_mem_take ha)).2
  · intro h
    induction l generalizing n with
    | nil => simp
    | cons a l ih =>
        cases n with
        | zero => simp
        | succ n =>
            rw [List.take_succ_cons] at h
            have ha : p a = true := h a List.mem_cons_self
            rw [List.filter_cons_of_pos ha, List.take_succ_cons, List.take_succ_cons,
              ih n fun b hb => h b (List.mem_cons_of_mem a hb)]

/-! ## Entry by entry -/

section EntryByEntry

variable {β : Type*} {R : α → β → Prop} {l : List α} {l' : List β}

/-- Every entry has been made into one. -/
theorem exists_of_forall₂_left (h : List.Forall₂ R l l') : ∀ a ∈ l, ∃ b ∈ l', R a b := by
  induction h with
  | nil => simp
  | cons hR _ ih =>
      intro a ha
      rcases List.mem_cons.1 ha with rfl | ha
      · exact ⟨_, List.mem_cons_self, hR⟩
      · rcases ih a ha with ⟨b, hb, hab⟩
        exact ⟨b, List.mem_cons_of_mem _ hb, hab⟩

/-- Every entry that was made was made of one. -/
theorem exists_of_forall₂_right (h : List.Forall₂ R l l') : ∀ b ∈ l', ∃ a ∈ l, R a b :=
  fun b hb => exists_of_forall₂_left h.flip b hb

end EntryByEntry

end OrderedList
