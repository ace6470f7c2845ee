import FancyLife.Accounts
import FancyLife.Lib.EventMachine

/-! # The documents `users/{uid}`

Two flows write them: `SignUpVC.createNewAccount` after `createUser`, and
`AppDelegate.sign(_:didSignInFor:withError:)` after every Google sign-in. Both
replace the whole document, with different fields. The requests to Auth and the
writes to the database are answered later, in any order.
-/

namespace FancyLife

/-- A document of the collection `users`, as `setData` receives it. -/
abbrev UserDocument := List (String × String)

/-- The dictionary that `createNewAccount` stores. -/
def SignUpVC.userDocument (uid inviteCode : String) : UserDocument :=
  [("uid", uid), ("inviteCode", inviteCode)]

/-- The dictionary that the Google sign-in stores. -/
def AppDelegate.userDocument (uid : String) : UserDocument :=
  [("uid", uid), ("username", "default"), ("inviteCode", "default")]

/-- `GIDAuthentication`. -/
structure GIDAuthentication where
  idToken : String
  accessToken : String
deriving DecidableEq

/-- A request to Auth that has not been answered. -/
inductive AuthRequest where
  | createUser (email password inviteCode : String)
  | signIn (credential : GIDAuthentication)
deriving DecidableEq

/-- A `setData` without merge on `users/{uid}` that has not landed. A sign-up
brings the invite code that the user entered, a sign-in brings none. -/
structure UserWrite where
  uid : String
  inviteCode : Option String
deriving DecidableEq

/-- The document that a write stores. -/
def UserWrite.document (write : UserWrite) : UserDocument :=
  match write.inviteCode with
  | some inviteCode => SignUpVC.userDocument write.uid inviteCode
  | none => AppDelegate.userDocument write.uid

/-- The requests that `createNewAccount()` sends. -/
def SignUpVC.requests (vc : SignUpVC) : List AuthRequest :=
  vc.createNewAccount.filterMap fun effect =>
    match effect with
    | .createUser email password inviteCode => some (.createUser email password inviteCode)
    | _ => none

/-- The requests that `sign(_:didSignInFor:withError:)` sends. -/
def AppDelegate.requests (error : Option String) (authentication : Option GIDAuthentication) :
    List AuthRequest :=
  match error, authentication with
  | none, some authentication => [.signIn authentication]
  | _, _ => []

/-- What the callback of a request stores for the `uid` that Auth resolves it to. -/
def AuthRequest.write (request : AuthRequest) (uid : String) : UserWrite :=
  match request with
  | .createUser _ _ inviteCode => ⟨uid, some inviteCode⟩
  | .signIn _ => ⟨uid, none⟩

/-- The database, and what is under way. `entered` only records: the invite code
that the last sign-up of each uid has stored. -/
structure UserDocuments where
  users : String → Option UserDocument
  requests : List AuthRequest
  writes : List UserWrite
  entered : String → Option String

namespace UserDocuments

/-- A form is submitted, Google calls back, Auth answers the `i`-th request with
a uid or an error, or the `i`-th write lands or fails. -/
inductive Event where
  | createNewAccount (vc : SignUpVC)
  | didSignIn (error : Option String) (authentication : Option GIDAuthentication)
  | authAnswers (i : Nat) (uid : Option String)
  | writeLands (i : Nat)
  | writeFails (i : Nat)

/-- The database after a write: the whole document is replaced. -/
def land (s : UserDocuments) (write : UserWrite) : UserDocuments :=
  { s with
    users := Function.update s.users write.uid (some write.document)
    entered :=
      match write.inviteCode with
      | some inviteCode => Function.update s.entered write.uid (some inviteCode)
      | none => s.entered }

/-- One event. -/
def step (s : UserDocuments) : Event → Option UserDocuments
  | .createNewAccount vc => some { s with requests := s.requests ++ vc.requests }
  | .didSignIn error authentication =>
      some { s with requests := s.requests ++ AppDelegate.requests error authentication }
  | .authAnswers i uid =>
      match s.requests[i]? with
      | some request =>
          some { s with
            requests := s.requests.eraseIdx i
            writes := s.writes ++ (uid.map request.write).toList }
      | none => none
  | .writeLands i =>
      match s.writes[i]? with
      | some write => some ({ s with writes := s.writes.eraseIdx i }.land write)
      | none => none
  | .writeFails i =>
      match s.writes[i]? with
      | some _ => some { s with writes := s.writes.eraseIdx i }
      | none => none

/-- Any database, before the first sign-up. -/
def initial (users : String → Option UserDocument) : UserDocuments := ⟨users, [], [], fun _ => none⟩

def machine : EventMachine UserDocuments Event where
  init s := ∃ users, s = initial users
  step := step

/-- Every user's document holds the invite code entered at the user's sign-up. -/
def Kept (s : UserDocuments) : Prop :=
  ∀ uid inviteCode, s.entered uid = some inviteCode →
    ∃ document, s.users uid = some document ∧ document.lookup "inviteCode" = some inviteCode

/-- A Google sign-in whose document is about to land on a user that has entered
an invite code finds the code `"default"` there. -/
def Spares (s : UserDocuments) : Event → Prop
  | .writeLands i =>
      ∀ write, s.writes[i]? = some write → write.inviteCode = none →
        ∀ inviteCode, s.entered write.uid = some inviteCode → inviteCode = "default"
  | _ => True

/-! ## What one write does -/

theorem lookup_document (write : UserWrite) :
    write.document.lookup "inviteCode" = some (write.inviteCode.getD "default") := by
  unfold UserWrite.document
  cases write.inviteCode <;> rfl

/-- Users other than the write's keep document and code. -/
theorem land_of_ne {s : UserDocuments} {write : UserWrite} {uid : String} (h : uid ≠ write.uid) :
    (s.land write).users uid = s.users uid ∧ (s.land write).entered uid = s.entered uid := by
  constructor
  · exact Function.update_of_ne h _ _
  · unfold land
    cases write.inviteCode with
    | none => rfl
    | some inviteCode => exact Function.update_of_ne h _ _

/-- The write's own user ends with its document. -/
theorem land_users_self (s : UserDocuments) (write : UserWrite) :
    (s.land write).users write.uid = some write.document := Function.update_self _ _ _

/-- A write keeps the codes if and only if the write's own user keeps it. -/
theorem kept_land_iff {s : UserDocuments} {write : UserWrite} (h : s.Kept) :
    (s.land write).Kept ↔
      (write.inviteCode = none →
        ∀ inviteCode, s.entered write.uid = some inviteCode → inviteCode = "default") := by
  constructor
  · intro hkept hnone inviteCode hentered
    have hsame : (s.land write).entered = s.entered := by
      unfold land
      rw [hnone]
    rcases hkept write.uid inviteCode (hsame ▸ hentered) with ⟨document, hdocument, hlookup⟩
    rw [land_users_self, Option.some.injEq] at hdocument
    rw [← hdocument, lookup_document, hnone] at hlookup
    exact (Option.some.inj hlookup).symm
  · intro hspares uid inviteCode hentered
    by_cases huid : uid = write.uid
    · subst huid
      refine ⟨write.document, land_users_self s write, ?_⟩
      rw [lookup_document]
      cases hcode : write.inviteCode with
      | none =>
          -- a sign-in: the code that was entered has to be the default one
          have hsame : (s.land write).entered = s.entered := by
            unfold land
            rw [hcode]
          rw [hspares hcode inviteCode (hsame ▸ hentered)]
          rfl
      | some code =>
          have hself : (s.land write).entered write.uid = some code := by
            unfold land
            rw [hcode]
            exact Function.update_self _ _ _
          rw [hself] at hentered
          exact hentered
    · rcases land_of_ne (s := s) huid with ⟨husers, hsame⟩
      rw [hsame] at hentered
      rw [husers]
      exact h uid inviteCode hentered

/-- Step lemma: from a state that keeps the codes, exactly the steps that spare
them lead to one that keeps them. -/
theorem step_kept_iff {s s' : UserDocuments} {e : Event} (h : s.step e = some s') (hkept : s.Kept) :
    s'.Kept ↔ s.Spares e := by
  cases e with
  | createNewAccount vc =>
      obtain rfl := Option.some.inj h
      exact iff_of_true hkept trivial
  | didSignIn error authentication =>
      obtain rfl := Option.some.inj h
      exact iff_of_true hkept trivial
  | authAnswers i uid =>
      simp only [step] at h
      split at h
      · obtain rfl := Option.some.inj h
        exact iff_of_true hkept trivial
      · cases h
  | writeLands i =>
      simp only [step] at h
      split at h
      · rename_i write hwrite
        obtain rfl := Option.some.inj h
        have hkept' : Kept { s with writes := s.writes.eraseIdx i } := hkept
        rw [@kept_land_iff _ write hkept']
        simp [Spares, hwrite]
      · cases h
  | writeFails i =>
      simp only [step] at h
      split at h
      · obtain rfl := Option.some.inj h
        exact iff_of_true hkept trivial
      · cases h

/-- In a run every state keeps the entered invite codes if and only if every
Google sign-in spares them. -/
theorem along_kept_iff (users : String → Option UserDocument) (es : List Event) :
    machine.Along (fun _ _ s' => s'.Kept) (initial users) es ↔
      machine.Along (fun s e _ => s.Spares e) (initial users) es := by
  have hstart : (initial users).Kept := by
    intro uid inviteCode hentered
    cases hentered
  refine EventMachine.along_iff ?_ ?_ hstart
  · intro s e s' hstep hs
    exact step_kept_iff hstep hs
  · intro s e s' _ hs' _
    exact hs'

/-- A user who has signed up with a code signs in with Google, to the same uid. -/
theorem googleSignIn_loses_inviteCode :
    ∃ s, machine.run (initial fun _ => none)
        [.createNewAccount ⟨"a@b.cc", "Abcdefg1", "Abcdefg1", "VIP888"⟩, .authAnswers 0 (some "u"),
          .writeLands 0, .didSignIn none (some ⟨"id", "access"⟩), .authAnswers 0 (some "u"),
          .writeLands 0] = some s ∧
      s.users "u" = some [("uid", "u"), ("username", "default"), ("inviteCode", "default")] ∧
      ¬ s.Kept := by
  refine ⟨_, rfl, rfl, ?_⟩
  intro hkept
  rcases hkept "u" "VIP888" rfl with ⟨document, hdocument, hlookup⟩
  obtain rfl := Option.some.inj hdocument
  revert hlookup
  decide

end UserDocuments

end FancyLife
