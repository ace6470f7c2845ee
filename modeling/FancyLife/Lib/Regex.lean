import Mathlib.Data.List.Basic
import Mathlib.Tactic.Common

/-! # Patterns

Patterns over any alphabet: one letter, a run of letters, sequence and
lookahead. `Matches` says which prefix of a text a pattern can consume;
`rests` computes what is left of it, and `accepts` is the match of a whole text.
-/

/-- A pattern over `α`. -/
inductive Regex (α : Type*) where
  | one (p : α → Bool)
  | many (p : α → Bool) (least : Nat) (most : Option Nat)
  | seq (r s : Regex α)
  | look (r : Regex α)

namespace Regex

variable {α : Type*}

/-- `r.Matches w rest`: `r` can consume a prefix of `w` and leave `rest`. -/
def Matches : Regex α → List α → List α → Prop
  | .one p, w, rest => ∃ a, p a = true ∧ w = a :: rest
  | .many p least most, w, rest =>
      ∃ u, w = u ++ rest ∧ (∀ a ∈ u, p a = true) ∧ least ≤ u.length ∧
        ∀ n, most = some n → u.length ≤ n
  | .seq r s, w, rest => ∃ mid, Matches r w mid ∧ Matches s mid rest
  | .look r, w, rest => rest = w ∧ ∃ rest', Matches r w rest'

/-- What `one p` leaves. -/
def restsOne (p : α → Bool) : List α → List (List α)
  | a :: w => if p a then [w] else []
  | [] => []

/-- What `many p least most` leaves. -/
def restsMany (p : α → Bool) : Nat → Option Nat → List α → List (List α)
  | least, _, [] => if least = 0 then [[]] else []
  | least, most, a :: w =>
      (if least = 0 then [a :: w] else []) ++
        if p a ∧ most ≠ some 0 then restsMany p (least - 1) (most.map (· - 1)) w else []

/-- All that `r` can leave of a text. -/
def rests : Regex α → List α → List (List α)
  | .one p, w => restsOne p w
  | .many p least most, w => restsMany p least most w
  | .seq r s, w => (rests r w).flatMap (rests s)
  | .look r, w => if (rests r w).isEmpty then [] else [w]

/-- The pattern matches the whole text. -/
def accepts (r : Regex α) (w : List α) : Bool := (r.rests w).any List.isEmpty

/-! ## The matcher is right -/

theorem mem_restsOne {p : α → Bool} {w rest : List α} :
    rest ∈ restsOne p w ↔ (one p).Matches w rest := by
  unfold Matches
  cases w with
  | nil => simp [restsOne]
  | cons a w =>
      show rest ∈ (if p a then [w] else []) ↔ _
      by_cases h : p a = true
      · rw [if_pos h, List.mem_singleton]
        constructor
        · rintro rfl
          exact ⟨a, h, rfl⟩
        · rintro ⟨b, -, heq⟩
          exact (List.cons.inj heq).2.symm
      · rw [if_neg h]
        constructor
        · intro hnil
          cases hnil
        · rintro ⟨b, hb, heq⟩
          rcases List.cons.inj heq with ⟨rfl, -⟩
          exact absurd hb h

theorem mem_restsMany {p : α → Bool} {least : Nat} {most : Option Nat} {w rest : List α} :
    rest ∈ restsMany p least most w ↔ (many p least most).Matches w rest := by
  induction w generalizing least most with
  | nil =>
      simp only [restsMany, Matches]
      constructor
      · intro h
        by_cases h0 : least = 0
        · simp only [h0, if_true, List.mem_singleton] at h
          exact ⟨[], by simp [h], by simp, by simp [h0], by simp⟩
        · simp [h0] at h
      · rintro ⟨u, hw, -, hleast, -⟩
        rcases List.append_eq_nil_iff.1 hw.symm with ⟨rfl, rfl⟩
        simp only [List.length_nil, Nat.le_zero] at hleast
        simp [hleast]
  | cons a w ih =>
      simp only [restsMany, List.mem_append]
      constructor
      · rintro (h | h)
        · -- nothing is consumed
          by_cases h0 : least = 0
          · simp only [h0, if_true, List.mem_singleton] at h
            exact ⟨[], by simp [h], by simp, by simp [h0], by simp⟩
          · simp [h0] at h
        · -- `a` is consumed, and the rest of the run with it
          split at h
          · rename_i hp
            rcases ih.1 h with ⟨u, rfl, hu, hleast, hmost⟩
            refine ⟨a :: u, rfl, ?_, ?_, ?_⟩
            · intro b hb
              rcases List.mem_cons.1 hb with rfl | hb
              · exact hp.1
              · exact hu b hb
            · rw [List.length_cons]
              omega
            · rintro (_ | n) rfl
              · exact absurd rfl hp.2
              · have := hmost n rfl
                rw [List.length_cons]
                omega
          · cases h
      · rintro ⟨u, hw, hu, hleast, hmost⟩
        cases u with
        | nil =>
            -- an empty run
            left
            simp only [List.length_nil, Nat.le_zero] at hleast
            simp [hleast, hw]
        | cons b u =>
            -- a run that starts with `a`, so the bounds go down by one
            right
            rcases List.cons.inj hw with ⟨rfl, rfl⟩
            have hne : most ≠ some 0 := by
              intro h0
              have := hmost 0 h0
              simp at this
            rw [if_pos ⟨hu a List.mem_cons_self, hne⟩]
            refine ih.2 ⟨u, rfl, fun c hc => hu c (List.mem_cons_of_mem a hc), ?_, ?_⟩
            · rw [List.length_cons] at hleast
              omega
            · intro n hn
              rcases Option.map_eq_some_iff.1 hn with ⟨n', rfl, rfl⟩
              have := hmost n' rfl
              rw [List.length_cons] at this
              omega

/-- The matcher computes exactly the matches. -/
theorem mem_rests {r : Regex α} {w rest : List α} : rest ∈ r.rests w ↔ r.Matches w rest := by
  induction r generalizing w rest with
  | one p => exact mem_restsOne
  | many p least most => exact mem_restsMany
  | seq r s ihr ihs =>
      simp only [rests, Matches, List.mem_flatMap, ihr, ihs]
  | look r ih =>
      simp only [rests, Matches]
      have hempty : (r.rests w).isEmpty = true ↔ ¬ ∃ rest', r.Matches w rest' := by
        rw [List.isEmpty_iff, List.eq_nil_iff_forall_not_mem]
        simp only [ih, not_exists]
      by_cases h : ∃ rest', r.Matches w rest'
      · rw [if_neg (by rw [hempty]; exact not_not_intro h)]
        simp [h]
      · rw [if_pos (hempty.2 h)]
        simp [h]

theorem accepts_iff {r : Regex α} {w : List α} : r.accepts w = true ↔ r.Matches w [] := by
  unfold accepts
  rw [List.any_eq_true, ← mem_rests]
  constructor
  · rintro ⟨rest, hrest, hnil⟩
    rwa [List.isEmpty_iff.1 hnil] at hrest
  · intro h
    exact ⟨[], h, rfl⟩

/-! ## Rules for lookaheads -/

/-- A lookahead in front adds a condition on the whole text. -/
theorem matches_look_seq {r s : Regex α} {w rest : List α} :
    ((look r).seq s).Matches w rest ↔ (∃ rest', r.Matches w rest') ∧ s.Matches w rest := by
  constructor
  · rintro ⟨mid, ⟨rfl, hr⟩, hs⟩
    exact ⟨hr, hs⟩
  · rintro ⟨hr, hs⟩
    exact ⟨w, ⟨rfl, hr⟩, hs⟩

/-! ## Rules for sequences -/

/-- A letter in front. -/
theorem matches_one_seq {p : α → Bool} {r : Regex α} {w rest : List α} :
    ((one p).seq r).Matches w rest ↔ ∃ a v, w = a :: v ∧ p a = true ∧ r.Matches v rest := by
  constructor
  · rintro ⟨mid, ⟨a, ha, rfl⟩, hr⟩
    exact ⟨a, mid, rfl, ha, hr⟩
  · rintro ⟨a, v, rfl, ha, hr⟩
    exact ⟨v, ⟨a, ha, rfl⟩, hr⟩

/-- A run in front: the text is split behind it. -/
theorem matches_many_seq {p : α → Bool} {least : Nat} {most : Option Nat} {r : Regex α}
    {w rest : List α} :
    ((many p least most).seq r).Matches w rest ↔
      ∃ u v, w = u ++ v ∧ (∀ a ∈ u, p a = true) ∧ least ≤ u.length ∧
        (∀ n, most = some n → u.length ≤ n) ∧ r.Matches v rest := by
  constructor
  · rintro ⟨mid, ⟨u, rfl, hu, hleast, hmost⟩, hr⟩
    exact ⟨u, mid, rfl, hu, hleast, hmost, hr⟩
  · rintro ⟨u, v, rfl, hu, hleast, hmost, hr⟩
    exact ⟨v, ⟨u, rfl, hu, hleast, hmost⟩, hr⟩

/-- A run that takes the whole text. -/
theorem matches_many_whole {p : α → Bool} {least : Nat} {most : Option Nat} {w : List α} :
    (many p least most).Matches w [] ↔
      (∀ a ∈ w, p a = true) ∧ least ≤ w.length ∧ ∀ n, most = some n → w.length ≤ n := by
  constructor
  · rintro ⟨u, hw, hu, hleast, hmost⟩
    rw [List.append_nil] at hw
    exact hw ▸ ⟨hu, hleast, hmost⟩
  · rintro ⟨hw, hleast, hmost⟩
    exact ⟨w, (List.append_nil w).symm, hw, hleast, hmost⟩

/-- A run without an upper bound that takes the whole text. -/
theorem matches_many_all {p : α → Bool} {least : Nat} {w : List α} :
    (many p least none).Matches w [] ↔ (∀ a ∈ w, p a = true) ∧ least ≤ w.length := by
  rw [matches_many_whole]
  constructor
  · rintro ⟨hw, hleast, -⟩
    exact ⟨hw, hleast⟩
  · rintro ⟨hw, hleast⟩
    exact ⟨hw, hleast, nofun⟩

/-- In a text of `p`s, a run of them before a `q` finds any `q`. -/
theorem exists_matches_many_one {p q : α → Bool} {w : List α} (hw : ∀ a ∈ w, p a = true) :
    (∃ rest, ((many p 0 none).seq (one q)).Matches w rest) ↔ ∃ a ∈ w, q a = true := by
  constructor
  · rintro ⟨rest, mid, ⟨u, rfl, -⟩, a, ha, rfl⟩
    exact ⟨a, by simp, ha⟩
  · rintro ⟨a, ha, hq⟩
    rcases List.append_of_mem ha with ⟨u, v, rfl⟩
    refine ⟨v, a :: v, ⟨u, rfl, ?_, Nat.zero_le _, by simp⟩, a, hq, rfl⟩
    intro b hb
    exact hw b (List.mem_append_left _ hb)

end Regex
