import FancyLife.UserDocuments

/-! # What a sign-up leaves behind

`createUser` never resolves to a user that Auth already has, and the document of a
new user is written in its callback only. So there is one chance to store the invite
code: if that write fails, no later sign-up repairs it.

Of Auth it is assumed that a user is created once, and that the answer that creates a
user is not overtaken by that of a later sign-in of the same user (`Answers`); otherwise
answers and writes may come at any time.
-/

namespace FancyLife

/-- The documents, and the users that Auth has. -/
structure SignUps where
  documents : UserDocuments
  uids : List String

namespace SignUps

/-- A request that creates a user. -/
def IsSignUp : AuthRequest → Bool
  | .createUser _ _ _ => true
  | .signIn _ => false

/-- Auth may answer the `i`-th request with `uid`: a new user for a sign-up, any user
for a sign-in. New is a user that no answer has named before: the answers for one user
do not overtake each other. -/
def Answers (s : SignUps) (i : Nat) (uid : String) : Prop :=
  ∀ request, s.documents.requests[i]? = some request → IsSignUp request = true → uid ∉ s.uids

instance (s : SignUps) (i : Nat) (uid : String) : Decidable (s.Answers i uid) :=
  match h : s.documents.requests[i]? with
  | none => isTrue fun request hrequest _ => by rw [h] at hrequest; cases hrequest
  | some request =>
      decidable_of_iff (IsSignUp request = true → uid ∉ s.uids)
        ⟨fun himp other hother => by rw [h] at hother; exact Option.some.inj hother ▸ himp,
          fun hall => hall request h⟩

/-- One event. -/
def step (s : SignUps) (e : UserDocuments.Event) : Option SignUps :=
  match e with
  | .authAnswers i (some uid) =>
      if s.Answers i uid then (s.documents.step e).map (⟨·, uid :: s.uids⟩) else none
  | _ => (s.documents.step e).map (⟨·, s.uids⟩)

/-- Any database and any users, before the first sign-up. -/
def machine : EventMachine SignUps UserDocuments.Event where
  init s := ∃ users, s.documents = UserDocuments.initial users
  step := step

/-- The write of a sign-up of `uid`. -/
def bringsCode (uid : String) (write : UserWrite) : Bool :=
  write.uid = uid && write.inviteCode.isSome

/-- The writes under way that bring the invite code of `uid`. -/
def pending (s : SignUps) (uid : String) : Nat := s.documents.writes.countP (bringsCode uid)

/-- Whether the invite code of `uid` has been stored. -/
def stored (s : SignUps) (uid : String) : Nat :=
  if (s.documents.entered uid).isSome then 1 else 0

/-- A user is signed up once at most, and then Auth has the user. -/
def Once (s : SignUps) : Prop :=
  ∀ uid, s.pending uid + s.stored uid ≤ 1 ∧ (s.pending uid + s.stored uid ≠ 0 → uid ∈ s.uids)

/-- What one event can do. -/
inductive Step (s : SignUps) : UserDocuments.Event → SignUps → Prop where
  | request (e : UserDocuments.Event) (requests : List AuthRequest) :
      Step s e ⟨{ s.documents with requests }, s.uids⟩
  | refused (i : Nat) :
      Step s (.authAnswers i none)
        ⟨{ s.documents with requests := s.documents.requests.eraseIdx i }, s.uids⟩
  | answered (i : Nat) (uid : String) (request : AuthRequest)
      (hfresh : IsSignUp request = true → uid ∉ s.uids) :
      Step s (.authAnswers i (some uid))
        ⟨{ s.documents with
          requests := s.documents.requests.eraseIdx i
          writes := s.documents.writes ++ [request.write uid] }, uid :: s.uids⟩
  | lands (i : Nat) (write : UserWrite) (hwrite : s.documents.writes[i]? = some write) :
      Step s (.writeLands i)
        ⟨{ s.documents with writes := s.documents.writes.eraseIdx i }.land write, s.uids⟩
  | fails (i : Nat) (write : UserWrite) (hwrite : s.documents.writes[i]? = some write) :
      Step s (.writeFails i)
        ⟨{ s.documents with writes := s.documents.writes.eraseIdx i }, s.uids⟩

theorem step_cases {s s' : SignUps} {e : UserDocuments.Event} (h : machine.step s e = some s') :
    Step s e s' := by
  cases e with
  | createNewAccount vc =>
      obtain rfl := Option.some.inj h
      exact .request _ _
  | didSignIn error authentication =>
      obtain rfl := Option.some.inj h
      exact .request _ _
  | authAnswers i answer =>
      cases hrequest : s.documents.requests[i]? with
      | none =>
          have hnone : s.documents.step (.authAnswers i answer) = none := by
            simp only [UserDocuments.step, hrequest]
          cases answer with
          | none => simp [machine, step, hnone] at h
          | some uid => simp [machine, step, hnone] at h
      | some request =>
          have hsome : s.documents.step (.authAnswers i answer) = some { s.documents with
              requests := s.documents.requests.eraseIdx i
              writes := s.documents.writes ++ (answer.map request.write).toList } := by
            simp only [UserDocuments.step, hrequest]
          cases answer with
          | none =>
              simp only [machine, step, hsome, Option.map_some, Option.some.injEq] at h
              rw [← h, Option.map_none, Option.toList_none, List.append_nil]
              exact .refused i
          | some uid =>
              by_cases hanswers : s.Answers i uid
              · simp only [machine, step, hsome, if_pos hanswers, Option.map_some,
                  Option.some.injEq] at h
                rw [← h]
                exact .answered i uid request (hanswers request hrequest)
              · simp only [machine, step, if_neg hanswers] at h
                cases h
  | writeLands i =>
      cases hwrite : s.documents.writes[i]? with
      | none => simp [machine, step, UserDocuments.step, hwrite] at h
      | some write =>
          simp only [machine, step, UserDocuments.step, hwrite, Option.map_some,
            Option.some.injEq] at h
          rw [← h]
          exact .lands i write hwrite
  | writeFails i =>
      cases hwrite : s.documents.writes[i]? with
      | none => simp [machine, step, UserDocuments.step, hwrite] at h
      | some write =>
          simp only [machine, step, UserDocuments.step, hwrite, Option.map_some,
            Option.some.injEq] at h
          rw [← h]
          exact .fails i write hwrite

/-! ## At most one sign-up for each user -/

/-- A write that is taken off the list. -/
theorem countP_eraseIdx_add {writes : List UserWrite} {i : Nat} {write : UserWrite}
    (p : UserWrite → Bool) (hwrite : writes[i]? = some write) :
    (writes.eraseIdx i).countP p + (if p write then 1 else 0) = writes.countP p := by
  rcases List.getElem?_eq_some_iff.1 hwrite with ⟨hlt, rfl⟩
  rw [← (List.getElem_cons_eraseIdx_perm hlt).countP_eq p, List.countP_cons]

/-- A write that lands is no longer pending; if it brings a code, the code is stored. -/
theorem land_counts (s : SignUps) {i : Nat} {write : UserWrite}
    (hwrite : s.documents.writes[i]? = some write) (uid : String) :
    let s' : SignUps :=
      ⟨{ s.documents with writes := s.documents.writes.eraseIdx i }.land write, s.uids⟩
    s'.pending uid + (if bringsCode uid write then 1 else 0) = s.pending uid ∧
      s'.stored uid = if bringsCode uid write then 1 else s.stored uid := by
  refine ⟨countP_eraseIdx_add (bringsCode uid) hwrite, ?_⟩
  by_cases huid : uid = write.uid
  · subst huid
    cases hcode : write.inviteCode with
    | none =>
        simp [stored, UserDocuments.land, bringsCode, hcode]
    | some code =>
        simp [stored, UserDocuments.land, bringsCode, hcode]
  · have hsame := (@UserDocuments.land_of_ne
      { s.documents with writes := s.documents.writes.eraseIdx i } write uid huid).2
    have hother : bringsCode uid write = false := by
      simp [bringsCode, Ne.symm huid]
    rw [hother, if_neg Bool.false_ne_true]
    show (if (UserDocuments.entered _ uid).isSome then 1 else 0) = _
    rw [hsame]
    rfl

/-- An answer of Auth brings one write more. -/
theorem pending_answered (s : SignUps) (i : Nat) (write : UserWrite) (uids : List String)
    (uid : String) :
    SignUps.pending ⟨{ s.documents with
        requests := s.documents.requests.eraseIdx i
        writes := s.documents.writes ++ [write] }, uids⟩ uid =
      s.pending uid + (if bringsCode uid write then 1 else 0) := by
  show (s.documents.writes ++ [write]).countP (bringsCode uid) = _
  rw [List.countP_append, List.countP_singleton]
  rfl

/-- Only a sign-up brings a code. -/
theorem isSignUp_of_bringsCode {request : AuthRequest} {uid other : String}
    (hbrings : bringsCode other (request.write uid) = true) :
    uid = other ∧ IsSignUp request = true := by
  simp only [bringsCode, Bool.and_eq_true, decide_eq_true_eq] at hbrings
  rcases hbrings with ⟨huid, hsome⟩
  cases request with
  | signIn credential => cases hsome
  | createUser email password inviteCode => exact ⟨huid, rfl⟩

/-- Auth creates a user only once, so that a new user has not been signed up before. -/
theorem Once.answered {s : SignUps} {uid : String} {request : AuthRequest} (i : Nat)
    (hfresh : IsSignUp request = true → uid ∉ s.uids) (h : s.Once) :
    SignUps.Once ⟨{ s.documents with
      requests := s.documents.requests.eraseIdx i
      writes := s.documents.writes ++ [request.write uid] }, uid :: s.uids⟩ := by
  intro other
  rcases h other with ⟨hone, hknown⟩
  rw [pending_answered]
  show s.pending other + _ + s.stored other ≤ 1 ∧
    (s.pending other + _ + s.stored other ≠ 0 → other ∈ uid :: s.uids)
  cases hbrings : bringsCode other (request.write uid) with
  | false =>
      refine ⟨hone, ?_⟩
      intro hne
      exact List.mem_cons_of_mem _ (hknown hne)
  | true =>
      rcases isSignUp_of_bringsCode hbrings with ⟨rfl, hsignUp⟩
      have hzero : s.pending uid + s.stored uid = 0 := by
        by_contra hne
        exact hfresh hsignUp (hknown hne)
      refine ⟨?_, fun _ => List.mem_cons_self⟩
      simp only [if_true]
      omega

/-- A write that lands moves a code from the writes to the store. -/
theorem Once.lands {s : SignUps} {i : Nat} {write : UserWrite}
    (hwrite : s.documents.writes[i]? = some write) (h : s.Once) :
    SignUps.Once
      ⟨{ s.documents with writes := s.documents.writes.eraseIdx i }.land write, s.uids⟩ := by
  intro other
  rcases h other with ⟨hone, hknown⟩
  rcases land_counts s hwrite other with ⟨hpending, hstored⟩
  show SignUps.pending ⟨_, s.uids⟩ other + SignUps.stored ⟨_, s.uids⟩ other ≤ 1 ∧
    (SignUps.pending ⟨_, s.uids⟩ other + SignUps.stored ⟨_, s.uids⟩ other ≠ 0 →
      other ∈ s.uids)
  rw [hstored]
  cases hbrings : bringsCode other write with
  | false =>
      simp only [hbrings, Bool.false_eq_true, if_false, Nat.add_zero] at hpending ⊢
      rw [hpending]
      exact ⟨hone, hknown⟩
  | true =>
      simp only [hbrings, if_true] at hpending ⊢
      exact ⟨by omega, fun _ => hknown (by omega)⟩

/-- A write that fails is gone, and nothing is stored. -/
theorem Once.fails {s : SignUps} {i : Nat} {write : UserWrite}
    (hwrite : s.documents.writes[i]? = some write) (h : s.Once) :
    SignUps.Once
      ⟨{ s.documents with writes := s.documents.writes.eraseIdx i }, s.uids⟩ := by
  intro other
  rcases h other with ⟨hone, hknown⟩
  have hpending := countP_eraseIdx_add (bringsCode other) hwrite
  have hle : SignUps.pending
      ⟨{ s.documents with writes := s.documents.writes.eraseIdx i }, s.uids⟩ other ≤
        s.pending other := by
    show (s.documents.writes.eraseIdx i).countP (bringsCode other) ≤
      s.documents.writes.countP (bringsCode other)
    omega
  have hstored : SignUps.stored
      ⟨{ s.documents with writes := s.documents.writes.eraseIdx i }, s.uids⟩ other =
        s.stored other := rfl
  exact ⟨by omega, fun hne => hknown (by omega)⟩

/-- Step lemma: a user is signed up once. -/
theorem Once.step {s s' : SignUps} {e : UserDocuments.Event} (hstep : machine.step s e = some s')
    (h : s.Once) : s'.Once := by
  cases step_cases hstep with
  | request _ requests => exact h
  | refused i => exact h
  | answered i uid request hfresh => exact h.answered i hfresh
  | lands i write hwrite => exact h.lands hwrite
  | fails i write hwrite => exact h.fails hwrite

theorem Once.init {s : SignUps} (hs : machine.init s) : s.Once := by
  rcases hs with ⟨users, husers⟩
  intro uid
  have hzero : s.pending uid + s.stored uid = 0 := by
    unfold pending stored
    rw [husers]
    rfl
  exact ⟨by omega, fun hne => absurd hzero hne⟩

/-! ## No second chance -/

/-- Auth has the user, and no write that brings its code is under way. -/
structure Settled (s : SignUps) (uid : String) : Prop where
  known : uid ∈ s.uids
  pending : s.pending uid = 0

/-- A write for a settled user brings no code. -/
theorem Settled.not_bringsCode {s : SignUps} {uid : String} (h : s.Settled uid)
    {write : UserWrite} (hwrite : write ∈ s.documents.writes) :
    bringsCode uid write = false := by
  have hnot := List.countP_eq_zero.1 h.pending write hwrite
  exact Bool.eq_false_iff.2 hnot

/-- A write without a code leaves what was entered alone, and leaves the document
alone or replaces it by the one of the Google sign-in. -/
theorem land_of_not_bringsCode (documents : UserDocuments) {write : UserWrite} {uid : String}
    (h : bringsCode uid write = false) :
    (documents.land write).entered uid = documents.entered uid ∧
      ((documents.land write).users uid = documents.users uid ∨
        (documents.land write).users uid = some (AppDelegate.userDocument uid)) := by
  by_cases huid : uid = write.uid
  · subst huid
    cases hcode : write.inviteCode with
    | some code => simp [bringsCode, hcode] at h
    | none =>
        constructor
        · unfold UserDocuments.land
          rw [hcode]
        · right
          rw [UserDocuments.land_users_self]
          unfold UserWrite.document
          rw [hcode]
  · rcases UserDocuments.land_of_ne (s := documents) huid with ⟨husers, hentered⟩
    exact ⟨hentered, Or.inl husers⟩

/-- What has become of a settled user: nothing new was entered, and the document is
the old one or that of the Google sign-in. -/
structure Kept (uid : String) (inviteCode : Option String) (document : Option UserDocument)
    (s : SignUps) : Prop where
  settled : s.Settled uid
  entered : s.documents.entered uid = inviteCode
  document : s.documents.users uid = document ∨
    s.documents.users uid = some (AppDelegate.userDocument uid)

/-- Step lemma: a settled user stays settled. -/
theorem Kept.step {uid : String} {inviteCode : Option String} {document : Option UserDocument}
    {s s' : SignUps} {e : UserDocuments.Event} (hstep : machine.step s e = some s')
    (h : Kept uid inviteCode document s) : Kept uid inviteCode document s' := by
  cases step_cases hstep with
  | request _ requests => exact ⟨⟨h.settled.known, h.settled.pending⟩, h.entered, h.document⟩
  | refused i => exact ⟨⟨h.settled.known, h.settled.pending⟩, h.entered, h.document⟩
  | answered i other request hfresh =>
      refine ⟨⟨List.mem_cons_of_mem _ h.settled.known, ?_⟩, h.entered, h.document⟩
      have hnot : bringsCode uid (request.write other) = false := by
        -- a sign-up is for another user
        by_contra hbrings
        rcases isSignUp_of_bringsCode (Bool.eq_true_of_not_eq_false hbrings) with ⟨rfl, hsignUp⟩
        exact hfresh hsignUp h.settled.known
      rw [pending_answered, hnot]
      exact h.settled.pending
  | lands i write hwrite =>
      have hnot := h.settled.not_bringsCode (List.mem_of_getElem? hwrite)
      have hpending := (land_counts s hwrite uid).1
      rw [hnot] at hpending
      rcases land_of_not_bringsCode
        { s.documents with writes := s.documents.writes.eraseIdx i } hnot with ⟨hentered, husers⟩
      refine ⟨⟨h.settled.known, hpending.trans h.settled.pending⟩, hentered.trans h.entered, ?_⟩
      rcases husers with husers | husers
      · show UserDocuments.users _ uid = document ∨ UserDocuments.users _ uid = _
        rw [husers]
        exact h.document
      · exact Or.inr husers
  | fails i write hwrite =>
      refine ⟨⟨h.settled.known, ?_⟩, h.entered, h.document⟩
      have hcount := countP_eraseIdx_add (bringsCode uid) hwrite
      have hpending : s.documents.writes.countP (bringsCode uid) = 0 := h.settled.pending
      show (s.documents.writes.eraseIdx i).countP (bringsCode uid) = 0
      omega

/-- In every run the invite code of a user is written at most once. Once Auth has the
user and that write is no longer under way, nothing that happens later enters a code:
a code that was stored is not replaced by another sign-up, and one whose write failed
is lost; the document changes to that of the Google sign-in at most. -/
theorem inviteCode_written_once {s : SignUps} (hs : machine.Reachable s) (uid : String) :
    s.pending uid + s.stored uid ≤ 1 ∧
      (s.Settled uid → ∀ es s', machine.run s es = some s' →
        s'.documents.entered uid = s.documents.entered uid ∧
          (s'.documents.users uid = s.documents.users uid ∨
            s'.documents.users uid = some (AppDelegate.userDocument uid))) := by
  have honce : s.Once := EventMachine.reachable_invariant (fun _ => Once.init)
    (fun _ _ _ hstep h => h.step hstep) hs
  refine ⟨(honce uid).1, ?_⟩
  intro hsettled es s' hrun
  have hkept : Kept uid (s.documents.entered uid) (s.documents.users uid) s' :=
    EventMachine.run_invariant (fun _ _ _ hstep h => h.step hstep) hrun
      ⟨hsettled, rfl, Or.inl rfl⟩
  exact ⟨hkept.entered, hkept.document⟩

/-- The write of a sign-up fails, and the user signs up again: Auth resolves to a new
user, and the first one stays without a code. -/
theorem failed_write_not_repaired :
    ∃ s s', machine.run ⟨UserDocuments.initial fun _ => none, []⟩
        [.createNewAccount ⟨"a@b.cc", "Abcdefg1", "Abcdefg1", "VIP888"⟩,
          .authAnswers 0 (some "u"), .writeFails 0] = some s ∧
      machine.run s [.createNewAccount ⟨"a@b.cd", "Abcdefg1", "Abcdefg1", "VIP888"⟩,
        .authAnswers 0 (some "v"), .writeLands 0] = some s' ∧
      s'.documents.entered "v" = some "VIP888" ∧ s'.documents.entered "u" = none := by
  have hfirst : ∃ s, machine.run ⟨UserDocuments.initial fun _ => none, []⟩
      [.createNewAccount ⟨"a@b.cc", "Abcdefg1", "Abcdefg1", "VIP888"⟩,
        .authAnswers 0 (some "u"), .writeFails 0] = some s ∧ s.uids = ["u"] ∧
      s.pending "u" = 0 ∧ s.documents.entered "u" = none ∧
      ∃ s', machine.run s [.createNewAccount ⟨"a@b.cd", "Abcdefg1", "Abcdefg1", "VIP888"⟩,
        .authAnswers 0 (some "v"), .writeLands 0] = some s' ∧
      s'.documents.entered "v" = some "VIP888" := ⟨_, rfl, rfl, rfl, rfl, _, rfl, rfl⟩
  rcases hfirst with ⟨s, hrun, huids, hpending, hnone, s', hrun', hstored⟩
  have hsettled : s.Settled "u" := ⟨huids ▸ List.mem_singleton_self _, hpending⟩
  have hlater := (inviteCode_written_once ⟨_, _, ⟨_, rfl⟩, hrun⟩ "u").2 hsettled _ s' hrun'
  exact ⟨s, s', hrun, hrun', hstored, hlater.1.trans hnone⟩

end SignUps

end FancyLife
