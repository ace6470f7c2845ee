import FancyLife.Models
import FancyLife.Lib.Regex
import Mathlib.Data.List.TakeWhile

/-! # Signing up and signing in

The two forms validate their text fields and then call the backend.
`createNewAccount` looks at the password field twice and at the confirmation
field never, and it is the confirmation that it sends.
-/

namespace FancyLife

/-! ## Strings -/

/-- `CharacterSet.whitespacesAndNewlines`: the separators, tab, U+000A to U+000D
and U+0085. -/
def whitespacesAndNewlines (c : Char) : Bool :=
  let n := c.toNat
  (0x9 ≤ n && n ≤ 0xD) || n == 0x20 || n == 0x85 || n == 0xA0 || n == 0x1680 ||
    (0x2000 ≤ n && n ≤ 0x200A) || n == 0x2028 || n == 0x2029 || n == 0x202F || n == 0x205F ||
    n == 0x3000

/-- `s.trimmingCharacters(in: set)`. -/
def trimmingCharacters (set : Char → Bool) (s : String) : String :=
  String.ofList ((s.toList.dropWhile set).reverse.dropWhile set).reverse

/-- What `.` does not match. -/
def isLineTerminator (c : Char) : Bool :=
  let n := c.toNat
  (0xA ≤ n && n ≤ 0xD) || n == 0x85 || n == 0x2028 || n == 0x2029

/-- `.` -/
def anyCharacter (c : Char) : Bool := !isLineTerminator c

/-- `[a-b]` -/
def between (a b c : Char) : Bool := decide (a ≤ c) && decide (c ≤ b)

theorem between_eq_true {a b c : Char} : between a b c = true ↔ a ≤ c ∧ c ≤ b := by
  simp only [between, Bool.and_eq_true, decide_eq_true_eq]

/-- `(?=.*[a-b])` -/
def ahead (a b : Char) : Regex Char :=
  .look (.seq (.many anyCharacter 0 none) (.one (between a b)))

/-- `(?=.*[A-Z])(?=.*[0-9])(?=.*[a-z]).{8,}` -/
def passwordFormat : Regex Char :=
  .seq (ahead 'A' 'Z') (.seq (ahead '0' '9') (.seq (ahead 'a' 'z') (.many anyCharacter 8 none)))

/-- `isValidPassword`: the predicate `SELF MATCHES passwordFormat`. -/
def isValidPassword (s : String) : Bool := passwordFormat.accepts s.toList

/-- Trimming leaves nothing exactly of a text that is all in the set. -/
theorem trimmingCharacters_eq_empty_iff {set : Char → Bool} {s : String} :
    trimmingCharacters set s = "" ↔ ∀ c ∈ s.toList, set c = true := by
  unfold trimmingCharacters
  rw [String.ofList_eq_empty_iff, List.reverse_eq_nil_iff, List.dropWhile_eq_nil_iff]
  constructor
  · intro h
    have hnil : s.toList.dropWhile set = [] := by
      by_contra hne
      -- the first letter that is kept is not in the set, but the trim at the end drops it
      have hhead := List.head_dropWhile_not set hne
      rw [h _ (List.mem_reverse.2 (List.head_mem hne))] at hhead
      cases hhead
    exact List.dropWhile_eq_nil_iff.1 hnil
  · intro h c hc
    exact h c ((List.dropWhile_sublist set).mem (List.mem_reverse.1 hc))

/-- The password policy in words. -/
theorem validPassword_spec (s : String) :
    isValidPassword s = true ↔
      (∀ c ∈ s.toList, anyCharacter c = true) ∧ 8 ≤ s.toList.length ∧
        (∃ c ∈ s.toList, between 'A' 'Z' c = true) ∧
        (∃ c ∈ s.toList, between '0' '9' c = true) ∧
        ∃ c ∈ s.toList, between 'a' 'z' c = true := by
  unfold isValidPassword passwordFormat ahead
  rw [Regex.accepts_iff, Regex.matches_look_seq, Regex.matches_look_seq,
    Regex.matches_look_seq, Regex.matches_many_all]
  constructor
  · rintro ⟨hupper, hdigit, hlower, hall, hlength⟩
    rw [Regex.exists_matches_many_one hall] at hupper hdigit hlower
    exact ⟨hall, hlength, hupper, hdigit, hlower⟩
  · rintro ⟨hall, hlength, hupper, hdigit, hlower⟩
    rw [Regex.exists_matches_many_one hall, Regex.exists_matches_many_one hall,
      Regex.exists_matches_many_one hall]
    exact ⟨hupper, hdigit, hlower, hall, hlength⟩

/-- A valid password is not blank. -/
theorem trim_ne_empty_of_valid {s : String} (h : isValidPassword s = true) :
    trimmingCharacters whitespacesAndNewlines s ≠ "" := by
  intro hblank
  rw [trimmingCharacters_eq_empty_iff] at hblank
  rcases ((validPassword_spec s).1 h).2.2.1 with ⟨c, hc, hupper⟩
  have hspace := hblank c hc
  rw [between_eq_true] at hupper
  have hlo : 65 ≤ c.toNat := hupper.1
  have hhi : c.toNat ≤ 90 := hupper.2
  simp only [whitespacesAndNewlines, Bool.or_eq_true, Bool.and_eq_true, decide_eq_true_eq,
    beq_iff_eq] at hspace
  omega

/-! ## The forms -/

/-- What a form does when its button is tapped. -/
inductive AccountEffect where
  | presentAlert (alert : FLAlert)
  | createUser (email password inviteCode : String)
  | pushHomeVC
  | signIn (email password : String)
deriving DecidableEq

/-- `validateMessage` and `isValid`. -/
structure Validation where
  validateMessage : String
  isValid : Bool

/-- `if bad { validateMessage += message; isValid = false }`. -/
def Validation.check (v : Validation) (bad : Bool) (message : String) : Validation :=
  if bad then ⟨v.validateMessage ++ message, false⟩ else v

@[simp] theorem Validation.check_isValid (v : Validation) (bad : Bool) (message : String) :
    (v.check bad message).isValid = (v.isValid && !bad) := by
  cases bad <;> simp [check]

def Validation.alert (v : Validation) : FLAlert :=
  { title := "Validation Message", message := v.validateMessage, buttonTitle := "Ok" }

/-- A field that is empty after trimming. Only the empty string equals `""`, so that the
characters decide. -/
def isBlank (text : String) : Bool := trimmingCharacters whitespacesAndNewlines text == ""

theorem isBlank_eq_false {text : String} :
    isBlank text = false ↔ trimmingCharacters whitespacesAndNewlines text ≠ "" := by
  simp [isBlank]

/-- The texts of the sign-up form; `text` of a field is never nil when read. -/
structure SignUpVC where
  emailTextField : String
  passwordTextField : String
  passwordConfirmTextField : String
  inviteCodeTextField : String

/-- The validation in `createNewAccount`. -/
def SignUpVC.validation (vc : SignUpVC) : Validation :=
  ((Validation.mk "" true).check
      (isBlank vc.emailTextField || isBlank vc.passwordTextField ||
        isBlank vc.passwordConfirmTextField) "Please fill in all fields").check
    (!isValidPassword vc.passwordTextField) "Password entered is invalid." |>.check
    (!isValidPassword vc.passwordTextField) "Confirm password  entered is invalid."

/-- `createNewAccount()`. -/
def SignUpVC.createNewAccount (vc : SignUpVC) : List AccountEffect :=
  if vc.validation.isValid then
    let inviteCode := trimmingCharacters whitespacesAndNewlines vc.inviteCodeTextField
    [.createUser vc.emailTextField vc.passwordConfirmTextField inviteCode, .pushHomeVC]
  else [.presentAlert vc.validation.alert]

/-- The texts of the sign-in form. -/
structure SignInVC where
  emailTextField : String
  passwordTextField : String

/-- The validation in `signin`. -/
def SignInVC.validation (vc : SignInVC) : Validation :=
  ((Validation.mk "" true).check
      (isBlank vc.emailTextField || isBlank vc.passwordTextField)
      "Please fill in all fields").check
    (!isValidPassword vc.passwordTextField) "Password entered is invalid."

/-- `signin()`. -/
def SignInVC.signin (vc : SignInVC) : List AccountEffect :=
  if vc.validation.isValid then [.signIn vc.emailTextField vc.passwordTextField]
  else [.presentAlert vc.validation.alert]

/-! ## Accounts that can be used -/

theorem SignUpVC.validation_isValid (vc : SignUpVC) :
    vc.validation.isValid = true ↔
      isBlank vc.emailTextField = false ∧ isBlank vc.passwordConfirmTextField = false ∧
        isValidPassword vc.passwordTextField = true := by
  simp only [SignUpVC.validation, Validation.check_isValid, Bool.true_and, Bool.and_eq_true,
    Bool.not_eq_true', Bool.or_eq_false_iff, Bool.not_eq_false']
  constructor
  · rintro ⟨⟨⟨⟨hemail, -⟩, hconfirm⟩, hvalid⟩, -⟩
    exact ⟨hemail, hconfirm, hvalid⟩
  · rintro ⟨hemail, hconfirm, hvalid⟩
    exact ⟨⟨⟨⟨hemail, isBlank_eq_false.2 (trim_ne_empty_of_valid hvalid)⟩, hconfirm⟩, hvalid⟩,
      hvalid⟩

theorem SignUpVC.mem_createNewAccount {vc : SignUpVC} {email password inviteCode : String} :
    .createUser email password inviteCode ∈ vc.createNewAccount ↔
      vc.validation.isValid = true ∧ email = vc.emailTextField ∧
        password = vc.passwordConfirmTextField ∧
        inviteCode = trimmingCharacters whitespacesAndNewlines vc.inviteCodeTextField := by
  unfold SignUpVC.createNewAccount
  by_cases h : vc.validation.isValid = true <;> simp [h]

theorem SignInVC.signin_accepts {vc : SignInVC} (hemail : isBlank vc.emailTextField = false)
    (hvalid : isValidPassword vc.passwordTextField = true) :
    vc.signin = [.signIn vc.emailTextField vc.passwordTextField] := by
  have hpassword : isBlank vc.passwordTextField = false :=
    isBlank_eq_false.2 (trim_ne_empty_of_valid hvalid)
  unfold SignInVC.signin
  rw [if_pos]
  simp [SignInVC.validation, hemail, hpassword, hvalid]

/-- An account is created only from filled-in fields, with the password that
both password fields hold, and the sign-in form accepts it. -/
def SignUpVC.CreatesUsableAccounts (vc : SignUpVC) : Prop :=
  ∀ email password inviteCode, .createUser email password inviteCode ∈ vc.createNewAccount →
    trimmingCharacters whitespacesAndNewlines vc.emailTextField ≠ "" ∧
    trimmingCharacters whitespacesAndNewlines vc.passwordTextField ≠ "" ∧
    trimmingCharacters whitespacesAndNewlines vc.passwordConfirmTextField ≠ "" ∧
    vc.passwordTextField = password ∧ vc.passwordConfirmTextField = password ∧
    isValidPassword password = true ∧
    SignInVC.signin ⟨email, password⟩ = [.signIn email password]

/-- Sign-up keeps its promise exactly when the two password fields agree, or
the form is turned down. -/
theorem SignUpVC.createNewAccount_usable_iff (vc : SignUpVC) :
    vc.CreatesUsableAccounts ↔
      vc.passwordTextField = vc.passwordConfirmTextField ∨
        isBlank vc.emailTextField = true ∨ isBlank vc.passwordConfirmTextField = true ∨
        isValidPassword vc.passwordTextField = false := by
  constructor
  · intro h
    by_cases hvalid : vc.validation.isValid = true
    · -- the form is accepted, so an account is created
      rcases h _ _ _ (SignUpVC.mem_createNewAccount.2 ⟨hvalid, rfl, rfl, rfl⟩)
        with ⟨-, -, -, hpassword, -⟩
      exact Or.inl hpassword
    · rw [SignUpVC.validation_isValid, not_and_or, not_and_or] at hvalid
      right
      simpa using hvalid
  · intro h email password inviteCode hcreate
    rcases SignUpVC.mem_createNewAccount.1 hcreate with ⟨hvalid, rfl, rfl, -⟩
    rcases (SignUpVC.validation_isValid vc).1 hvalid with ⟨hemail, hconfirm, hpassword⟩
    have heq : vc.passwordTextField = vc.passwordConfirmTextField := by
      simpa [hemail, hconfirm, hpassword] using h
    refine ⟨isBlank_eq_false.1 hemail, trim_ne_empty_of_valid hpassword,
      isBlank_eq_false.1 hconfirm, heq, rfl, heq ▸ hpassword, ?_⟩
    exact SignInVC.signin_accepts hemail (heq ▸ hpassword)

/-- A mistyped confirmation becomes the password, and nobody can sign in with it. -/
theorem SignUpVC.mistyped_confirmation_creates_account :
    (SignUpVC.mk "a@b.cc" "Abcdefg1" "x" "").createNewAccount =
        [.createUser "a@b.cc" "x" "", .pushHomeVC] ∧
      SignInVC.signin ⟨"a@b.cc", "x"⟩ =
        [.presentAlert ⟨"Validation Message", "Password entered is invalid.", "Ok"⟩] ∧
      ¬ (SignUpVC.mk "a@b.cc" "Abcdefg1" "x" "").CreatesUsableAccounts := by
  refine ⟨by decide, by decide, ?_⟩
  intro h
  rcases h "a@b.cc" "x" "" (by decide) with ⟨-, -, -, hpassword, -⟩
  revert hpassword
  decide

end FancyLife
