import FancyLife.Accounts
import FancyLife.Lib.MainLoop

/-! # The requests of the account forms

What becomes of the calls that the two forms make. Sign-up goes to the home
screen in the tap itself and prints the failures of its two requests; the
callback of sign-in does not look at the error that it gets.
-/

namespace FancyLife

/-- What Firebase Auth does with a request: an error, or the uid of the user. -/
abbrev AuthAnswer := Except String String

/-- The first argument of the callback: nil on failure. -/
def AuthAnswer.authResult : AuthAnswer → Option String
  | .ok uid => some uid
  | .error _ => none

/-- The second argument: an error on failure. -/
def AuthAnswer.authError : AuthAnswer → Option String
  | .ok _ => none
  | .error err => some err

/-- The only block of both screens: the one of `presentFLAlertOnMainThread`. -/
inductive AccountBlock where
  | present (alert : FLAlert)

/-! ## Sign-up -/

namespace SignUpVC

/-- A call of `createUser`, with the tap that made it. -/
structure CreateUser where
  tap : Nat
  email : String
  password : String
  inviteCode : String

/-- A call of `setData` on `users/{uid}`. -/
structure SetData where
  tap : Nat
  uid : String
  inviteCode : String

/-- The form with its requests that are not answered yet. `created`, `stored` and
`pushed` are the taps whose account has been created, whose document has been
written, and which have pushed HomeVC. -/
structure Screen where
  form : SignUpVC
  taps : Nat
  creating : List CreateUser
  storing : List SetData
  created : List Nat
  stored : List Nat
  pushed : List Nat

inductive Event where
  | edit (form : SignUpVC)
  | tap
  | createUserAnswer (i : Nat) (answer : AuthAnswer)
  | setDataAnswer (i : Nat) (error : Option String)

/-- One call of `createNewAccount()`. -/
def perform (s : Screen) : AccountEffect → Screen × List AccountBlock
  | .presentAlert alert => (s, [.present alert])
  | .createUser email password inviteCode =>
      ({ s with creating := s.creating ++ [⟨s.taps, email, password, inviteCode⟩] }, [])
  | .pushHomeVC => ({ s with pushed := s.pushed ++ [s.taps] }, [])
  | .signIn _ _ => (s, [])

def performAll : Screen → List AccountEffect → Screen × List AccountBlock
  | s, [] => (s, [])
  | s, effect :: rest =>
      let (s, blocks) := perform s effect
      let (s, blocks') := performAll s rest
      (s, blocks ++ blocks')

/-- The closure of `createUser`. A failure is printed. -/
def userCreated (s : Screen) (request : CreateUser) (answer : AuthAnswer) :
    Outcome Screen AccountBlock :=
  if answer.authError.isSome then .ok s []
  else
    match answer.authResult with
    | some uid =>
        .ok { s with
          created := s.created ++ [request.tap]
          storing := s.storing ++ [⟨request.tap, uid, request.inviteCode⟩] } []
    | none => .trap

/-- The closure of `setData`. A failure is printed. -/
def dataSet (s : Screen) (request : SetData) (error : Option String) :
    Outcome Screen AccountBlock :=
  match error with
  | some _ => .ok s []
  | none => .ok { s with stored := s.stored ++ [request.tap] } []

def handlers : Handlers Screen Event AccountBlock where
  handle s
    | .edit form => some (.ok { s with form } [])
    | .tap =>
        let (s', blocks) := performAll s s.form.createNewAccount
        some (.ok { s' with taps := s.taps + 1 } blocks)
    | .createUserAnswer i answer =>
        (s.creating[i]?).map fun request =>
          userCreated { s with creating := s.creating.eraseIdx i } request answer
    | .setDataAnswer i error =>
        (s.storing[i]?).map fun request =>
          dataSet { s with storing := s.storing.eraseIdx i } request error
  block s
    | .present _ => .ok s []

/-- A form that has not been tapped. -/
def fresh (form : SignUpVC) : MainLoop Screen AccountBlock :=
  .start ⟨form, 0, [], [], [], [], []⟩ []

def machine : EventMachine (MainLoop Screen AccountBlock) (LoopStep Event) :=
  MainLoop.machine handlers fun l => ∃ form, l = fresh form

/-- A request is answered with a failure. -/
def Fails : LoopStep Event → Prop
  | .event (.createUserAnswer _ (.error _)) => True
  | .event (.setDataAnswer _ (some _)) => True
  | _ => False

/-- A step pushes HomeVC only for a tap whose account and document exist, and
schedules an alert when a request has failed. -/
structure Reports (l : MainLoop Screen AccountBlock) (x : LoopStep Event)
    (l' : MainLoop Screen AccountBlock) : Prop where
  trapped : l'.trapped = false
  pushes : ∀ tap ∈ l'.state.pushed, tap ∉ l.state.pushed →
    tap ∈ l.state.created ∧ tap ∈ l.state.stored
  alerts : Fails x → ∃ alert, .present alert ∈ MainLoop.deferredBy handlers l x

/-- The form is tapped and turned down, if it is tapped at all. -/
def TurnedDown (l : MainLoop Screen AccountBlock) (x : LoopStep Event) : Prop :=
  x = .event .tap → l.state.form.validation.isValid = false

/-- No valid form has been tapped yet. -/
structure Untouched (l : MainLoop Screen AccountBlock) : Prop where
  creating : l.state.creating = []
  storing : l.state.storing = []
  created : l.state.created = []
  pushed : l.state.pushed = []

/-- What a tap does with a valid form, and with another one. -/
theorem performAll_createNewAccount (s : Screen) :
    performAll s s.form.createNewAccount =
      if s.form.validation.isValid then
        ({ s with
          creating := s.creating ++ [⟨s.taps, s.form.emailTextField,
            s.form.passwordConfirmTextField,
            trimmingCharacters whitespacesAndNewlines s.form.inviteCodeTextField⟩]
          pushed := s.pushed ++ [s.taps] }, [])
      else (s, [.present s.form.validation.alert]) := by
  unfold createNewAccount
  split
  · rfl
  · rfl

/-- Step lemma: before the first tap on a valid form every step reports, and that
tap does not. -/
theorem Untouched.step {l l' : MainLoop Screen AccountBlock} {x : LoopStep Event}
    (hstep : machine.step l x = some l') (h : Untouched l) :
    (TurnedDown l x ∧ Reports l x l' ∧ Untouched l') ∨ (¬ TurnedDown l x ∧ ¬ Reports l x l') := by
  rcases MainLoop.step_cases hstep with ⟨htrapped, ⟨e, o, rfl, ho, rfl⟩ | ⟨b, rest, rfl, hq, rfl⟩⟩
  · cases e with
    | edit form =>
        obtain rfl := Option.some.inj ho
        refine Or.inl ⟨nofun, ⟨rfl, ?_, False.elim⟩, ⟨h.creating, h.storing, h.created, h.pushed⟩⟩
        intro tap hmem hnot
        exact absurd hmem hnot
    | tap =>
        simp only [handlers, performAll_createNewAccount] at ho
        by_cases hvalid : l.state.form.validation.isValid = true
        · rw [if_pos hvalid] at ho
          obtain rfl := Option.some.inj ho
          right
          constructor
          · intro hdown
            have hfalse := hdown rfl
            rw [hvalid] at hfalse
            cases hfalse
          · intro hreports
            have hmem : l.state.taps ∈ l.state.pushed ++ [l.state.taps] := by simp
            have hnew : l.state.taps ∉ l.state.pushed := by simp [h.pushed]
            have hcreated := (hreports.pushes l.state.taps hmem hnew).1
            rw [h.created] at hcreated
            cases hcreated
        · rw [if_neg hvalid] at ho
          obtain rfl := Option.some.inj ho
          refine Or.inl ⟨fun _ => by simpa using hvalid, ⟨rfl, ?_, False.elim⟩,
            ⟨h.creating, h.storing, h.created, h.pushed⟩⟩
          intro tap hmem hnot
          exact absurd hmem hnot
    | createUserAnswer i answer => simp [handlers, h.creating] at ho
    | setDataAnswer i error => simp [handlers, h.storing] at ho
  · cases b
    refine Or.inl ⟨nofun, ⟨rfl, ?_, False.elim⟩, ⟨h.creating, h.storing, h.created, h.pushed⟩⟩
    intro tap hmem hnot
    exact absurd hmem hnot

theorem fresh_untouched (form : SignUpVC) : Untouched (fresh form) := ⟨rfl, rfl, rfl, rfl⟩

/-- Sign-up goes home and reports as it should exactly in the runs that tap no
valid form. -/
theorem along_reports_iff (form : SignUpVC) (es : List (LoopStep Event)) :
    machine.Along Reports (fresh form) es ↔
      machine.Along (fun l x _ => TurnedDown l x) (fresh form) es := by
  refine EventMachine.along_iff ?_ ?_ (fresh_untouched form)
  · intro l x l' hstep h
    rcases h.step hstep with ⟨hdown, hreports, -⟩ | ⟨hdown, hreports⟩
    · exact iff_of_true hreports hdown
    · exact iff_of_false hreports hdown
  · intro l x l' hstep hreports h
    rcases h.step hstep with ⟨-, -, h'⟩ | ⟨-, hnot⟩
    · exact h'
    · exact absurd hreports hnot

end SignUpVC

/-! ## Sign-in -/

namespace SignInVC

/-- The form with the number of its calls of `signIn` that are not answered yet;
`alive` says that the screen has not been deallocated. -/
structure Screen where
  form : SignInVC
  signingIn : Nat
  printed : List String
  alive : Bool

inductive Event where
  | edit (form : SignInVC)
  | tap
  | signInAnswer (answer : AuthAnswer)
  | deallocate

/-- The closure of `signIn`. -/
def signedIn (s : Screen) (answer : AuthAnswer) : Outcome Screen AccountBlock :=
  if s.alive then
    match answer.authResult with
    | some uid => .ok { s with printed := s.printed ++ [uid] } []
    | none => .trap
  else .ok s []

def handlers : Handlers Screen Event AccountBlock where
  handle s
    | .edit form => if s.alive then some (.ok { s with form } []) else none
    | .tap =>
        if s.alive then
          match s.form.signin with
          | [.signIn _ _] => some (.ok { s with signingIn := s.signingIn + 1 } [])
          | [.presentAlert alert] => some (.ok s [.present alert])
          | _ => some (.ok s [])
        else none
    | .signInAnswer answer =>
        match s.signingIn with
        | 0 => none
        | n + 1 => some (signedIn { s with signingIn := n } answer)
    | .deallocate => some (.ok { s with alive := false } [])
  block s
    | .present _ => .ok s []

/-- A form that has not been tapped. -/
def fresh (form : SignInVC) : MainLoop Screen AccountBlock := .start ⟨form, 0, [], true⟩ []

def machine : EventMachine (MainLoop Screen AccountBlock) (LoopStep Event) :=
  MainLoop.machine handlers fun l => ∃ form, l = fresh form

/-- A request is answered with a failure. -/
def Fails : LoopStep Event → Prop
  | .event (.signInAnswer (.error _)) => True
  | _ => False

/-- A step does not unwrap nil, and schedules an alert when the request has failed. -/
structure Reports (l : MainLoop Screen AccountBlock) (x : LoopStep Event)
    (l' : MainLoop Screen AccountBlock) : Prop where
  trapped : l'.trapped = false
  alerts : Fails x → ∃ alert, .present alert ∈ MainLoop.deferredBy handlers l x

/-- A step reports unless it is a failing answer: that one crashes, or passes
unnoticed when the screen is gone. -/
theorem reports_iff {l l' : MainLoop Screen AccountBlock} {x : LoopStep Event}
    (hstep : machine.step l x = some l') : Reports l x l' ↔ ¬ Fails x := by
  rcases MainLoop.step_cases hstep with ⟨htrapped, ⟨e, o, rfl, ho, rfl⟩ | ⟨b, rest, rfl, hq, rfl⟩⟩
  · cases e with
    | edit form =>
        simp only [handlers] at ho
        split at ho
        · obtain rfl := Option.some.inj ho
          exact iff_of_true ⟨rfl, False.elim⟩ False.elim
        · cases ho
    | tap =>
        simp only [handlers] at ho
        split at ho
        · split at ho
          · obtain rfl := Option.some.inj ho
            exact iff_of_true ⟨rfl, False.elim⟩ False.elim
          · obtain rfl := Option.some.inj ho
            exact iff_of_true ⟨rfl, False.elim⟩ False.elim
          · obtain rfl := Option.some.inj ho
            exact iff_of_true ⟨rfl, False.elim⟩ False.elim
        · cases ho
    | signInAnswer answer =>
        simp only [handlers] at ho
        split at ho
        · cases ho
        · rename_i n hn
          obtain rfl := Option.some.inj ho
          cases answer with
          | ok uid =>
              refine iff_of_true ⟨?_, False.elim⟩ False.elim
              unfold signedIn
              split
              · rfl
              · rfl
          | error err =>
              refine iff_of_false ?_ (fun hnot => hnot trivial)
              intro hreports
              -- the closure schedules nothing
              rcases hreports.alerts trivial with ⟨alert, halert⟩
              have hnone : MainLoop.deferredBy handlers l
                  (.event (.signInAnswer (.error err))) = [] := by
                simp only [MainLoop.deferredBy, handlers, hn, signedIn]
                cases l.state.alive <;> rfl
              rw [hnone] at halert
              cases halert
    | deallocate =>
        obtain rfl := Option.some.inj ho
        exact iff_of_true ⟨rfl, False.elim⟩ False.elim
  · cases b
    exact iff_of_true ⟨rfl, False.elim⟩ False.elim

/-- Sign-in reports as it should exactly in the runs without a failing answer. -/
theorem along_reports_iff (form : SignInVC) (es : List (LoopStep Event)) :
    machine.Along Reports (fresh form) es ↔
      machine.Along (fun _ x _ => ¬ Fails x) (fresh form) es :=
  EventMachine.along_iff_of_step fun _ _ _ hstep => reports_iff hstep

end SignInVC

/-! ## Both forms -/

/-- Sign-up keeps its promise only in runs that tap no valid form: such a tap
pushes HomeVC before the account exists. Sign-in keeps it exactly in the runs in
which no request fails. -/
theorem account_requests_report_iff (signUp : SignUpVC) (signIn : SignInVC)
    (es : List (LoopStep SignUpVC.Event)) (fs : List (LoopStep SignInVC.Event)) :
    (SignUpVC.machine.Along SignUpVC.Reports (SignUpVC.fresh signUp) es ↔
      SignUpVC.machine.Along (fun l x _ => SignUpVC.TurnedDown l x) (SignUpVC.fresh signUp) es) ∧
    (SignInVC.machine.Along SignInVC.Reports (SignInVC.fresh signIn) fs ↔
      SignInVC.machine.Along (fun _ x _ => ¬ SignInVC.Fails x) (SignInVC.fresh signIn) fs) :=
  ⟨SignUpVC.along_reports_iff signUp es, SignInVC.along_reports_iff signIn fs⟩

/-- The account is not created, and HomeVC is shown without an alert; the sign-in
is refused, and the app crashes. -/
theorem failures_unreported :
    (∃ l, SignUpVC.machine.run (SignUpVC.fresh ⟨"a@b.cc", "Abcdefg1", "Abcdefg1", ""⟩)
        [.event .tap, .event (.createUserAnswer 0 (.error "offline"))] = some l ∧
      l.state.pushed = [0] ∧ l.state.created = [] ∧ l.Drained ∧
      ¬ SignUpVC.machine.Along SignUpVC.Reports
        (SignUpVC.fresh ⟨"a@b.cc", "Abcdefg1", "Abcdefg1", ""⟩)
        [.event .tap, .event (.createUserAnswer 0 (.error "offline"))]) ∧
    ∃ l, SignInVC.machine.run (SignInVC.fresh ⟨"a@b.cc", "Abcdefg1"⟩)
        [.event .tap, .event (.signInAnswer (.error "offline"))] = some l ∧ l.trapped = true := by
  constructor
  · refine ⟨_, rfl, rfl, rfl, rfl, ?_⟩
    intro halong
    rcases halong _ rfl with ⟨hreports, -⟩
    have hcreated := (hreports.pushes 0 (by decide) (by decide)).1
    cases hcreated
  · exact ⟨_, rfl, rfl⟩

end FancyLife
