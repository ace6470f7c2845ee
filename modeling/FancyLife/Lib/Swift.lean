import FancyLife.Lib.Binary64

/-! # Swift's numbers and strings

`Double` keeps the value of a finite double exactly; the sign of a zero is not
kept. `Int` is a machine word: its arithmetic traps outside its range.

`==` on strings is canonical equivalence in the sense of the Unicode standard: `é` as
one character equals `e` with a combining accent. The tables of the standard are a
parameter, the class `Unicode`; `stringEq` is the comparison, and strings that are equal
have one decomposition `nfd`, which therefore serves as the key wherever strings are told
apart. `stringEq_plain` evaluates comparisons of literals.
-/

namespace Swift

/-- A double-precision number. -/
inductive Double where
  | finite (q : Rat)
  | posInf
  | negInf
  | nan
deriving DecidableEq

/-- The comparison `==` of doubles: `nan` differs from everything. -/
def Double.eq : Double → Double → Bool
  | .finite p, .finite q => decide (p = q)
  | .posInf, .posInf => true
  | .negInf, .negInf => true
  | _, _ => false

/-- The comparison `<` of doubles: false when one side is `nan`. -/
def Double.lt : Double → Double → Bool
  | .finite p, .finite q => decide (p < q)
  | .finite _, .posInf => true
  | .negInf, .finite _ => true
  | .negInf, .posInf => true
  | _, _ => false

theorem Double.lt_asymm {a b : Double} (h : a.lt b = true) : b.lt a = false := by
  cases a <;> cases b <;> simp_all [Double.lt]
  exact le_of_lt h

/-- Not being smaller is transitive through a number. -/
theorem Double.not_lt_trans {a b c : Double} (hb : b ≠ .nan) (hab : a.lt b = false)
    (hbc : b.lt c = false) : a.lt c = false := by
  cases b with
  | nan => exact absurd rfl hb
  | finite q =>
      cases a <;> cases c <;> simp_all [Double.lt]
      exact le_trans hbc hab
  | posInf => cases a <;> cases c <;> simp_all [Double.lt]
  | negInf => cases a <;> cases c <;> simp_all [Double.lt]

/-- `Double(exactly:)` of an integer: it has at most 53 significant bits. -/
def exactDouble (n : Int) : Option Double :=
  if 2 ^ (n.natAbs.log2 - 52) ∣ n.natAbs then some (.finite n) else none

/-- `String(format:)` with `digits` digits after the point. -/
def Double.format (digits : Nat) : Double → String
  | .finite q => Decimal.format digits q
  | .posInf => "inf"
  | .negInf => "-inf"
  | .nan => "nan"

/-- `String(format: "%.1f", x)`. -/
def Double.format1 : Double → String := Double.format 1

/-- `String(format: "%.2f", x)`. -/
def Double.format2 : Double → String := Double.format 2

/-- The double that an exact result is rounded to. -/
def Double.round (q : Rat) : Double :=
  if |Binary64.round q| < 2 ^ 1024 then .finite (Binary64.round q)
  else if 0 < q then .posInf
  else .negInf

/-- `x / n` by a positive number. -/
def Double.div (x : Double) (n : Nat) : Double :=
  match x with
  | .finite q => .round (q / n)
  | x => x

/-- The largest `Int`. -/
def intMax : Int := 2 ^ 63 - 1

/-- The smallest `Int`. -/
def intMin : Int := -2 ^ 63

/-- `a + b` on `Int`; `none` is the overflow trap. -/
def addInt (a b : Int) : Option Int :=
  if intMin ≤ a + b ∧ a + b ≤ intMax then some (a + b) else none

/-- Adding one to a number that is not negative traps at the largest one. -/
theorem addInt_one {a : Int} (h : 0 ≤ a) :
    addInt a 1 = if a < intMax then some (a + 1) else none := by
  have hmin : intMin ≤ a + 1 := by
    have : intMin ≤ 0 := by decide
    omega
  simp only [addInt, hmin, true_and]
  rfl

/-- `Int(x)`: rounds toward zero; `none` is the trap on a value that is not a number
or does not fit. -/
def Double.toInt : Double → Option Int
  | .finite q =>
      let n := if 0 ≤ q then q.floor else q.ceil
      if intMin ≤ n ∧ n ≤ intMax then some n else none
  | _ => none

/-- The finite numbers that `Int(x)` takes. -/
theorem Double.isSome_toInt_finite {q : Rat} :
    (Double.finite q).toInt.isSome ↔ -2 ^ 63 - 1 < q ∧ q < 2 ^ 63 := by
  unfold Double.toInt
  by_cases hq : 0 ≤ q
  · have hfloor : 0 ≤ q.floor := Rat.le_floor_iff.2 (by exact_mod_cast hq)
    have hlow : intMin ≤ q.floor := by
      have : intMin ≤ 0 := by decide
      omega
    have hhigh : q.floor ≤ intMax ↔ q < 2 ^ 63 := by
      rw [← Int.lt_add_one_iff, Rat.floor_lt_iff]
      norm_num [intMax]
    simp only [if_pos hq, hlow, true_and]
    rw [and_iff_right (by linarith), ← hhigh]
    split <;> simp_all
  · have hceil : q.ceil ≤ 0 := Rat.ceil_le_iff.2 (by exact_mod_cast (not_le.1 hq).le)
    have hhigh : q.ceil ≤ intMax := by
      have : 0 ≤ intMax := by decide
      omega
    have hlow : intMin ≤ q.ceil ↔ -2 ^ 63 - 1 < q := by
      rw [← Int.sub_one_lt_iff, Rat.lt_ceil_iff]
      norm_num [intMin]
    simp only [if_neg hq, hhigh, and_true]
    rw [and_iff_left (by linarith), ← hlow]
    split <;> simp_all

/-- The positive numbers whose quotient `Int(x / n)` takes. -/
theorem Double.isSome_toInt_div {q : Rat} (hq : 0 < q) {n : Nat} (hn : 0 < n) :
    ((Double.finite q).div n).toInt.isSome ↔ q < n * (2 ^ 63 - 2 ^ 9) := by
  have hn' : (0 : Rat) < n := by exact_mod_cast hn
  have hpos : 0 < q / n := div_pos hq hn'
  have hround := @Binary64.round_lt_iff (q / n) 63 (by decide) hpos
  have hnonneg := Binary64.round_nonneg hpos
  norm_num at hround
  rw [mul_comm, ← div_lt_iff₀ hn']
  norm_num
  rw [← hround]
  unfold Double.div Double.round
  simp only [abs_of_nonneg hnonneg]
  by_cases hfinite : Binary64.round (q / n) < 2 ^ 1024
  · rw [if_pos hfinite, Double.isSome_toInt_finite, and_iff_right (by linarith)]
    norm_num
  · rw [if_neg hfinite, if_pos hpos]
    refine iff_of_false (fun h => by cases h) ?_
    rw [not_lt] at hfinite ⊢
    have hpow : (2 : Rat) ^ 63 ≤ 2 ^ 1024 := pow_le_pow_right₀ (by norm_num) (by decide)
    norm_num at hpow
    exact hpow.trans hfinite

/-! ## Strings -/

/-- The characters below U+00C0 and the unified ideographs: each of them is its own
canonical decomposition, and none combines with the one before it. -/
def Plain (c : Char) : Prop := c.toNat < 0xC0 ∨ 0x4E00 ≤ c.toNat ∧ c.toNat ≤ 0x9FFF

instance (c : Char) : Decidable (Plain c) := inferInstanceAs (Decidable (_ ∨ _))

/-- The canonical decomposition (NFD) of the Unicode standard, and what is used of it. -/
class Unicode where
  nfd : String → String
  nfd_plain : ∀ s : String, (∀ c ∈ s.toList, Plain c) → nfd s = s

/-- A Unicode that decomposes nothing. On plain strings it is the standard's. -/
@[reducible] def Unicode.codePoints : Unicode where
  nfd := id
  nfd_plain _ _ := rfl

/-- A Unicode that decomposes the letter `é` alone. It is the standard's on strings of
plain characters, this letter and its accent. -/
@[reducible] def Unicode.acute : Unicode where
  nfd s := String.ofList (s.toList.flatMap fun c => if c = '\u00e9' then ['e', '\u0301'] else [c])
  nfd_plain s h := by
    have hself : ∀ l : List Char, (∀ c ∈ l, Plain c) →
        (l.flatMap fun c => if c = '\u00e9' then ['e', '\u0301'] else [c]) = l := by
      intro l hl
      induction l with
      | nil => rfl
      | cons c l ih =>
          have hc : c ≠ '\u00e9' := by
            rintro rfl
            exact absurd (hl _ List.mem_cons_self) (by decide)
          rw [List.flatMap_cons, if_neg hc, ih fun d hd => hl d (List.mem_cons_of_mem c hd)]
          rfl
    rw [hself s.toList h, String.ofList_toList]

section Comparison

variable [Unicode]

/-- The comparison `==` of strings. -/
def stringEq (s t : String) : Bool := decide (Unicode.nfd s = Unicode.nfd t)

theorem stringEq_iff {s t : String} : stringEq s t = true ↔ Unicode.nfd s = Unicode.nfd t :=
  decide_eq_true_iff

theorem stringEq_refl (s : String) : stringEq s s = true := stringEq_iff.2 rfl

/-- Plain strings are compared by their characters. -/
theorem stringEq_plain {s t : String} (hs : ∀ c ∈ s.toList, Plain c)
    (ht : ∀ c ∈ t.toList, Plain c) : stringEq s t = decide (s = t) := by
  unfold stringEq
  rw [Unicode.nfd_plain s hs, Unicode.nfd_plain t ht]

end Comparison

end Swift
