import Mathlib.Data.Rat.Floor
import Mathlib.Algebra.Order.Field.Rat
import Mathlib.Algebra.Order.AbsoluteValue.Basic
import Mathlib.Tactic.Common
import Mathlib.Tactic.Linarith
import Mathlib.Tactic.Ring
import Mathlib.Tactic.FieldSimp
import Mathlib.Tactic.Positivity

/-! # Decimal texts

A number written with a fixed count of digits after the point: the nearest such
number, ties to the one with an even last digit. Read back, the text is that number.
-/

namespace Decimal

/-! ## The nearest integer -/

/-- The nearest integer; ties go to the even one. -/
def nearest (q : Rat) : Int :=
  if q - q.floor < 1 / 2 then q.floor
  else if 1 / 2 < q - q.floor then q.floor + 1
  else if q.floor % 2 = 0 then q.floor
  else q.floor + 1

/-- An integer is the nearest one: closer than any other, or even on a tie. -/
def IsNearest (n : Int) (q : Rat) : Prop :=
  |(n : Rat) - q| < 1 / 2 ∨ |(n : Rat) - q| = 1 / 2 ∧ n % 2 = 0

theorem floor_bounds (q : Rat) : (q.floor : Rat) ≤ q ∧ q < q.floor + 1 := by
  refine ⟨Rat.floor_le q, ?_⟩
  have hlt := Rat.lt_floor_add_one q
  rw [Int.cast_add, Int.cast_one] at hlt
  exact hlt

theorem isNearest_nearest (q : Rat) : IsNearest (nearest q) q := by
  rcases floor_bounds q with ⟨hle, hlt⟩
  have hbelow : |(q.floor : Rat) - q| = q - q.floor := by
    rw [abs_sub_comm, abs_of_nonneg (by linarith)]
  have habove : |((q.floor + 1 : Int) : Rat) - q| = q.floor + 1 - q := by
    rw [Int.cast_add, Int.cast_one, abs_of_nonneg (by linarith)]
  unfold nearest
  split
  · rename_i hhalf
    left
    rw [hbelow]
    exact hhalf
  · rename_i hnot
    split
    · rename_i hhalf
      left
      rw [habove]
      linarith
    · rename_i hnot'
      -- a tie
      have htie : q - q.floor = 1 / 2 := le_antisymm (not_lt.1 hnot') (not_lt.1 hnot)
      split
      · rename_i heven
        right
        exact ⟨hbelow.trans htie, heven⟩
      · rename_i hodd
        right
        refine ⟨habove.trans (by linarith), ?_⟩
        omega

/-- There is only one nearest integer. -/
theorem IsNearest.unique {m n : Int} {q : Rat} (hm : IsNearest m q) (hn : IsNearest n q) :
    m = n := by
  have hm' : |(m : Rat) - q| ≤ 1 / 2 := hm.elim le_of_lt fun h => le_of_eq h.1
  have hn' : |(n : Rat) - q| ≤ 1 / 2 := hn.elim le_of_lt fun h => le_of_eq h.1
  have hdist : |(m : Rat) - n| ≤ |(m : Rat) - q| + |(n : Rat) - q| := by
    rw [abs_sub_comm (n : Rat) q]
    exact abs_sub_le _ _ _
  have hint : |m - n| ≤ 1 := by
    have hcast : ((|m - n| : Int) : Rat) ≤ (1 : Int) := by
      push_cast
      linarith
    exact_mod_cast hcast
  rcases hm with hm | ⟨hm, hmeven⟩
  · -- closer than one half, so closer than one
    have hlt : ((|m - n| : Int) : Rat) < (1 : Int) := by
      push_cast
      linarith
    have hzero : |m - n| < 1 := by exact_mod_cast hlt
    have := abs_lt.1 hzero
    omega
  · rcases hn with hn | ⟨hn, hneven⟩
    · have hlt : ((|m - n| : Int) : Rat) < (1 : Int) := by
        push_cast
        linarith
      have hzero : |m - n| < 1 := by exact_mod_cast hlt
      have := abs_lt.1 hzero
      omega
    · have := abs_le.1 hint
      omega

theorem abs_nearest_sub_le (q : Rat) : |(nearest q : Rat) - q| ≤ 1 / 2 :=
  (isNearest_nearest q).elim le_of_lt fun h => le_of_eq h.1

@[simp] theorem nearest_intCast (n : Int) : nearest n = n := by
  refine (isNearest_nearest n).unique (Or.inl ?_)
  rw [sub_self, abs_zero]
  norm_num

@[simp] theorem nearest_neg (q : Rat) : nearest (-q) = -nearest q := by
  have hdist : |((-nearest q : Int) : Rat) - -q| = |(nearest q : Rat) - q| := by
    rw [Int.cast_neg, ← abs_neg]
    congr 1
    ring
  refine (isNearest_nearest (-q)).unique ?_
  rcases isNearest_nearest q with h | ⟨h, heven⟩
  · exact Or.inl (hdist.trans_lt h)
  · exact Or.inr ⟨hdist.trans h, by omega⟩

theorem nearest_mono {p q : Rat} (h : p ≤ q) : nearest p ≤ nearest q := by
  by_contra hnot
  have hgap : nearest q + 1 ≤ nearest p := by omega
  have hcast : (nearest q : Rat) + 1 ≤ nearest p := by exact_mod_cast hgap
  have hp := abs_le.1 (abs_nearest_sub_le p)
  have hq := abs_le.1 (abs_nearest_sub_le q)
  -- both are ties of the same number
  have heq : p = q := by linarith
  rw [heq] at hnot
  exact hnot (le_refl _)

theorem nearest_nonneg {q : Rat} (h : 0 ≤ q) : 0 ≤ nearest q := by
  have hzero : nearest ((0 : Int) : Rat) ≤ nearest q := nearest_mono (by exact_mod_cast h)
  rwa [nearest_intCast] at hzero

/-! ## Rounding to a count of digits -/

/-- The nearest number with `digits` digits after the point. -/
def rounded (digits : Nat) (q : Rat) : Rat := nearest (q * 10 ^ digits) / 10 ^ digits

theorem abs_rounded_sub_le (digits : Nat) (q : Rat) :
    |rounded digits q - q| ≤ 1 / 2 / 10 ^ digits := by
  have hpow : (0 : Rat) < 10 ^ digits := by positivity
  have hdiff : rounded digits q - q =
      (nearest (q * 10 ^ digits) - q * 10 ^ digits) / 10 ^ digits := by
    unfold rounded
    field_simp
  rw [hdiff, abs_div, abs_of_pos hpow]
  exact div_le_div_of_nonneg_right (abs_nearest_sub_le _) hpow.le

/-- A number that is closer than half a digit to one with so many digits. -/
theorem rounded_eq_of_close {digits : Nat} {q : Rat} {n : Int}
    (h : |q - n / 10 ^ digits| < 1 / 2 / 10 ^ digits) : rounded digits q = n / 10 ^ digits := by
  have hpow : (0 : Rat) < 10 ^ digits := by positivity
  have hscaled : |(n : Rat) - q * 10 ^ digits| < 1 / 2 := by
    have hdiff : (n : Rat) - q * 10 ^ digits = -(q - n / 10 ^ digits) * 10 ^ digits := by
      field_simp
      ring
    rw [hdiff, abs_mul, abs_neg, abs_of_pos hpow]
    exact (lt_div_iff₀ hpow).1 h
  have hnearest : nearest (q * 10 ^ digits) = n :=
    (isNearest_nearest _).unique (Or.inl hscaled)
  unfold rounded
  rw [hnearest]

/-! ## Texts -/

/-- The digits of `n` in front of `rest`. -/
def padded (digits n : Nat) : List Char := List.leftpad digits '0' (Nat.toDigits 10 n)

/-- The text of a number with `digits` digits after the point. A negative number has a
sign, also when nothing but zeros is left of it. -/
def format (digits : Nat) (q : Rat) : String :=
  let n := (nearest (|q| * 10 ^ digits)).toNat
  (if q < 0 then "-" else "") ++ toString (n / 10 ^ digits) ++ "." ++
    String.ofList (padded digits (n % 10 ^ digits))

/-- The number of a text without a sign. -/
def readUnsigned (text : List Char) : Rat :=
  (Nat.ofDigitChars 10 (text.takeWhile (· ≠ '.') ++ (text.dropWhile (· ≠ '.')).tail) 0 : Nat) /
    10 ^ (text.dropWhile (· ≠ '.')).tail.length

/-- The number of a text. -/
def read (text : String) : Rat :=
  match text.toList with
  | '-' :: rest => -readUnsigned rest
  | text => readUnsigned text

theorem length_padded {digits n : Nat} (hdigits : 0 < digits) (hn : n < 10 ^ digits) :
    (padded digits n).length = digits := by
  have hlength : (Nat.toDigits 10 n).length ≤ digits :=
    (Nat.length_toDigits_le_iff (by omega) hdigits).2 hn
  unfold padded List.leftpad
  rw [List.length_append, List.length_replicate]
  omega

theorem ofDigitChars_padded (digits n : Nat) : Nat.ofDigitChars 10 (padded digits n) 0 = n := by
  unfold padded List.leftpad
  rw [Nat.ofDigitChars_append, Nat.ofDigitChars_replicate_zero, Nat.mul_zero,
    Nat.ofDigitChars_ten_toDigits]

/-- The digits of both sides of the point make up the whole number. -/
theorem ofDigitChars_split {digits : Nat} (hdigits : 0 < digits) (n : Nat) :
    Nat.ofDigitChars 10
      (Nat.toDigits 10 (n / 10 ^ digits) ++ padded digits (n % 10 ^ digits)) 0 = n := by
  have hlt : n % 10 ^ digits < 10 ^ digits := Nat.mod_lt _ (by positivity)
  rw [Nat.ofDigitChars_append, Nat.ofDigitChars_ten_toDigits, Nat.ofDigitChars_eq_ofDigitChars_zero,
    length_padded hdigits hlt, ofDigitChars_padded]
  exact Nat.div_add_mod n (10 ^ digits)

/-- There is no point and no sign among the digits. -/
theorem ne_of_mem_toDigits {n : Nat} {c : Char} (h : c ∈ Nat.toDigits 10 n) :
    c ≠ '.' ∧ c ≠ '-' := by
  have hdigit : c.isDigit = true := Nat.isDigit_of_mem_toDigits (by omega) (by omega) h
  constructor
  · rintro rfl
    cases hdigit
  · rintro rfl
    cases hdigit

/-- A text without a sign is read as its number. -/
theorem readUnsigned_digits {digits : Nat} (hdigits : 0 < digits) (n : Nat) :
    readUnsigned (Nat.toDigits 10 (n / 10 ^ digits) ++
      '.' :: padded digits (n % 10 ^ digits)) = n / 10 ^ digits := by
  have hwhole : ∀ c ∈ Nat.toDigits 10 (n / 10 ^ digits), decide (c ≠ '.') = true := by
    intro c hc
    exact decide_eq_true (ne_of_mem_toDigits hc).1
  have htake : (Nat.toDigits 10 (n / 10 ^ digits) ++
      '.' :: padded digits (n % 10 ^ digits)).takeWhile (· ≠ '.') =
        Nat.toDigits 10 (n / 10 ^ digits) := by
    rw [List.takeWhile_append_of_pos hwhole, List.takeWhile_cons_of_neg (by decide),
      List.append_nil]
  have hdrop : (Nat.toDigits 10 (n / 10 ^ digits) ++
      '.' :: padded digits (n % 10 ^ digits)).dropWhile (· ≠ '.') =
        '.' :: padded digits (n % 10 ^ digits) := by
    rw [List.dropWhile_append_of_pos hwhole, List.dropWhile_cons_of_neg (by decide)]
  have hlt : n % 10 ^ digits < 10 ^ digits := Nat.mod_lt _ (by positivity)
  unfold readUnsigned
  rw [htake, hdrop, List.tail_cons, ofDigitChars_split hdigits, length_padded hdigits hlt]

/-- The text of a number is read as the number rounded to its digits. -/
theorem read_format {digits : Nat} (hdigits : 0 < digits) (q : Rat) :
    read (format digits q) = rounded digits q := by
  have hchars : (format digits q).toList = (if q < 0 then ['-'] else []) ++
      (Nat.toDigits 10 ((nearest (|q| * 10 ^ digits)).toNat / 10 ^ digits) ++
        '.' :: padded digits ((nearest (|q| * 10 ^ digits)).toNat % 10 ^ digits)) := by
    unfold format
    split <;> simp [Nat.toList_repr]
  have habs : ((nearest (|q| * 10 ^ digits)).toNat : Rat) = nearest (|q| * 10 ^ digits) := by
    have hnonneg : 0 ≤ nearest (|q| * 10 ^ digits) := nearest_nonneg (by positivity)
    exact_mod_cast Int.toNat_of_nonneg hnonneg
  by_cases hneg : q < 0
  · have hread : read (format digits q) = -readUnsigned
        (Nat.toDigits 10 ((nearest (|q| * 10 ^ digits)).toNat / 10 ^ digits) ++
          '.' :: padded digits ((nearest (|q| * 10 ^ digits)).toNat % 10 ^ digits)) := by
      unfold read
      rw [hchars, if_pos hneg]
      rfl
    rw [hread, readUnsigned_digits hdigits, habs, abs_of_neg hneg, neg_mul, nearest_neg]
    unfold rounded
    push_cast
    ring
  · have hread : read (format digits q) = readUnsigned
        (Nat.toDigits 10 ((nearest (|q| * 10 ^ digits)).toNat / 10 ^ digits) ++
          '.' :: padded digits ((nearest (|q| * 10 ^ digits)).toNat % 10 ^ digits)) := by
      unfold read
      rw [hchars, if_neg hneg, List.nil_append]
      -- the first digit is not a sign
      cases hdigits' : Nat.toDigits 10 ((nearest (|q| * 10 ^ digits)).toNat / 10 ^ digits) with
      | nil => exact absurd hdigits' Nat.toDigits_ne_nil
      | cons c rest =>
          have hsign : c ≠ '-' := by
            refine (@ne_of_mem_toDigits ((nearest (|q| * 10 ^ digits)).toNat / 10 ^ digits) c ?_).2
            rw [hdigits']
            exact List.mem_cons_self
          rw [List.cons_append]
          split
          · rename_i heq
            exact absurd (List.cons.inj heq).1 hsign
          · rfl
    rw [hread, readUnsigned_digits hdigits, habs, abs_of_nonneg (not_lt.1 hneg)]
    rfl

end Decimal
