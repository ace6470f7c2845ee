import FancyLife.Accounts

/-! # String+Ext

The two formats that strings are checked against, in words. The local part of
`emailFormat` has the range `0-0`, so that of the digits it takes 0 only.
-/

namespace FancyLife

/-! ## Passwords -/

/-- A text in one line is a valid password exactly when it has eight characters, an
upper case letter, a digit and a lower case letter. -/
theorem isValidPassword_iff (s : String) (hs : ∀ c ∈ s.toList, isLineTerminator c = false) :
    isValidPassword s = true ↔
      8 ≤ s.toList.length ∧ (∃ c ∈ s.toList, 'A' ≤ c ∧ c ≤ 'Z') ∧
        (∃ c ∈ s.toList, '0' ≤ c ∧ c ≤ '9') ∧ ∃ c ∈ s.toList, 'a' ≤ c ∧ c ≤ 'z' := by
  have hany : ∀ c ∈ s.toList, anyCharacter c = true := by
    intro c hc
    rw [anyCharacter, hs c hc]
    rfl
  rw [validPassword_spec, and_iff_right hany]
  simp only [between_eq_true]

/-- The three kinds of characters may come in any order. -/
theorem isValidPassword_mixed : isValidPassword "1bcdefgA" = true := by
  have hline : ("1bcdefgA".toList.all fun c => !isLineTerminator c) = true := by decide
  have hs : ∀ c ∈ "1bcdefgA".toList, isLineTerminator c = false := by
    intro c hc
    have hnot := List.all_eq_true.1 hline c hc
    simpa using hnot
  refine (isValidPassword_iff "1bcdefgA" hs).2 ⟨by decide, ?_, ?_, ?_⟩
  · exact ⟨'A', by decide, by decide⟩
  · exact ⟨'1', by decide, by decide⟩
  · exact ⟨'b', by decide, by decide⟩

/-! ## Email addresses -/

/-- `[A-Z0-0a-z._%+-]` -/
def localCharacter (c : Char) : Bool :=
  between 'A' 'Z' c || between '0' '0' c || between 'a' 'z' c ||
    c == '.' || c == '_' || c == '%' || c == '+' || c == '-'

/-- `[A-Za-z0-9.-]` -/
def domainCharacter (c : Char) : Bool :=
  between 'A' 'Z' c || between 'a' 'z' c || between '0' '9' c || c == '.' || c == '-'

/-- `[A-Za-z]` -/
def tldCharacter (c : Char) : Bool := between 'A' 'Z' c || between 'a' 'z' c

/-- `[A-Z0-0a-z._%+-]+@[A-Za-z0-9.-]+\.[A-Za-z]{2,64}` -/
def emailFormat : Regex Char :=
  .seq (.many localCharacter 1 none)
    (.seq (.one (· == '@'))
      (.seq (.many domainCharacter 1 none)
        (.seq (.one (· == '.')) (.many tldCharacter 2 (some 64)))))

/-- `isValidEmail`: the predicate `SELF MATCHES emailFormat`. -/
def isValidEmail (s : String) : Bool := emailFormat.accepts s.toList

/-! ## Addresses -/

def IsLetter (c : Char) : Prop := ('A' ≤ c ∧ c ≤ 'Z') ∨ ('a' ≤ c ∧ c ≤ 'z')

def IsDigit (c : Char) : Prop := '0' ≤ c ∧ c ≤ '9'

/-- What an address is made of. -/
structure Address where
  localPart : List Char
  domain : List Char
  tld : List Char
  localPart_ne : localPart ≠ []
  localPart_chars : ∀ c ∈ localPart, IsLetter c ∨ IsDigit c ∨ c ∈ ['.', '_', '%', '+', '-']
  domain_ne : domain ≠ []
  domain_chars : ∀ c ∈ domain, IsLetter c ∨ IsDigit c ∨ c = '.' ∨ c = '-'
  tld_length : 2 ≤ tld.length ∧ tld.length ≤ 64
  tld_chars : ∀ c ∈ tld, IsLetter c

/-- `local@domain.tld` -/
def Address.text (address : Address) : List Char :=
  address.localPart ++ '@' :: (address.domain ++ '.' :: address.tld)

/-- The text can be split into the parts of an address. -/
def IsEmail (s : String) : Prop := ∃ address : Address, s.toList = address.text

/-- A digit that the range `0-0` leaves out. -/
def Missed (c : Char) : Prop := '1' ≤ c ∧ c ≤ '9'

/-! ## Characters -/

theorem tldCharacter_iff (c : Char) : tldCharacter c = true ↔ IsLetter c := by
  simp only [tldCharacter, IsLetter, Bool.or_eq_true, between_eq_true]

theorem domainCharacter_iff (c : Char) :
    domainCharacter c = true ↔ IsLetter c ∨ IsDigit c ∨ c = '.' ∨ c = '-' := by
  simp only [domainCharacter, IsLetter, IsDigit, Bool.or_eq_true, between_eq_true, beq_iff_eq,
    or_assoc]

/-- The local part takes what the grammar has, but for the digits that are missed. -/
theorem localCharacter_iff (c : Char) :
    localCharacter c = true ↔
      (IsLetter c ∨ IsDigit c ∨ c ∈ ['.', '_', '%', '+', '-']) ∧ ¬ Missed c := by
  have hle : ∀ a b : Char, a ≤ b ↔ a.toNat ≤ b.toNat := fun _ _ => Iff.rfl
  simp only [localCharacter, IsLetter, IsDigit, Missed, Bool.or_eq_true, between_eq_true,
    beq_iff_eq, List.mem_cons, List.not_mem_nil, or_false]
  -- what is left is about code points
  simp only [hle, ← Char.toNat_inj, Char.reduceToNat]
  omega

/-! ## The format and the grammar -/

/-- The format accepts the addresses without a missed digit in the local part. -/
theorem isValidEmail_spec (s : String) :
    isValidEmail s = true ↔
      ∃ address : Address, s.toList = address.text ∧ ∀ c ∈ address.localPart, ¬ Missed c := by
  unfold isValidEmail emailFormat
  rw [Regex.accepts_iff, Regex.matches_many_seq]
  simp only [Regex.matches_one_seq, Regex.matches_many_seq, Regex.matches_many_whole, beq_iff_eq]
  constructor
  · rintro ⟨loc, -, hs, hloc, hloc_pos, -, -, -, rfl, rfl, domain, -, rfl, hdomain, hdomain_pos,
      -, -, tld, rfl, rfl, htld, htld_least, htld_most⟩
    refine ⟨⟨loc, domain, tld, List.length_pos_iff.1 hloc_pos, ?_,
      List.length_pos_iff.1 hdomain_pos, ?_, ⟨htld_least, htld_most 64 rfl⟩, ?_⟩, hs, ?_⟩
    · intro c hc
      exact ((localCharacter_iff c).1 (hloc c hc)).1
    · intro c hc
      exact (domainCharacter_iff c).1 (hdomain c hc)
    · intro c hc
      exact (tldCharacter_iff c).1 (htld c hc)
    · intro c hc
      exact ((localCharacter_iff c).1 (hloc c hc)).2
  · rintro ⟨address, hs, hmissed⟩
    have hunbounded : ∀ w : List Char, ∀ n, (none : Option Nat) = some n → w.length ≤ n := by
      intro w n hn
      cases hn
    refine ⟨address.localPart, _, hs, ?_, List.length_pos_iff.2 address.localPart_ne,
      hunbounded _, '@', _, rfl, rfl, address.domain, _, rfl, ?_,
      List.length_pos_iff.2 address.domain_ne, hunbounded _, '.', _, rfl, rfl, ?_,
      address.tld_length.1, ?_⟩
    · intro c hc
      exact (localCharacter_iff c).2 ⟨address.localPart_chars c hc, hmissed c hc⟩
    · intro c hc
      exact (domainCharacter_iff c).2 (address.domain_chars c hc)
    · intro c hc
      exact (tldCharacter_iff c).2 (address.tld_chars c hc)
    · rintro n hn
      rw [← Option.some.inj hn]
      exact address.tld_length.2

/-- The local part is the text before the first `@`. -/
theorem Address.takeWhile_text (address : Address) :
    address.text.takeWhile (· != '@') = address.localPart := by
  have hloc : ∀ c ∈ address.localPart, (c != '@') = true := by
    intro c hc
    rw [bne_iff_ne]
    rintro rfl
    have hat := address.localPart_chars '@' hc
    revert hat
    simp only [IsLetter, IsDigit]
    decide
  unfold Address.text
  rw [List.takeWhile_append_of_pos hloc, List.takeWhile_cons_of_neg (by decide), List.append_nil]

/-- The format is right about a text unless it is an address with a digit from 1 to 9
before the `@`. -/
theorem isValidEmail_right_iff (s : String) :
    (isValidEmail s = true ↔ IsEmail s) ↔
      ¬ (IsEmail s ∧ ∃ c ∈ s.toList.takeWhile (· != '@'), Missed c) := by
  rw [isValidEmail_spec]
  constructor
  · rintro hright ⟨hemail, c, hc, hmissed⟩
    rcases hright.2 hemail with ⟨address, hs, hnone⟩
    rw [hs, address.takeWhile_text] at hc
    exact hnone c hc hmissed
  · intro hnot
    constructor
    · rintro ⟨address, hs, -⟩
      exact ⟨address, hs⟩
    · rintro ⟨address, hs⟩
      refine ⟨address, hs, ?_⟩
      intro c hc hmissed
      apply hnot
      refine ⟨⟨address, hs⟩, c, ?_, hmissed⟩
      rw [hs, address.takeWhile_text]
      exact hc

/-- An address with a 1 is turned down. -/
theorem address_with_digit_rejected : IsEmail "a1@b.cc" ∧ isValidEmail "a1@b.cc" = false := by
  have ha : IsLetter 'a' := by simp [IsLetter]
  have hb : IsLetter 'b' := by simp [IsLetter]
  have hc : IsLetter 'c' := by simp [IsLetter]
  have hone : IsDigit '1' := by simp [IsDigit]
  refine ⟨⟨⟨['a', '1'], ['b'], ['c', 'c'], by simp, ?_, by simp, ?_, by simp, ?_⟩, rfl⟩,
    by decide⟩
  · simp only [List.forall_mem_cons, ha, hone, true_or, or_true, true_and]
    simp
  · simp only [List.forall_mem_cons, hb, true_or, true_and]
    simp
  · simp only [List.forall_mem_cons, hc, true_and]
    simp

end FancyLife
