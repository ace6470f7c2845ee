import FancyLife.Accounts
import FancyLife.Lib.MainLoop

/-! # AccountVC

The account screen puts a `SignInVC` into itself. Both lifecycle hooks look at
`Auth.auth().currentUser` and add the child in a block on the main queue;
nothing removes it.
-/

namespace FancyLife

/-- The screen, with the uid of `Auth.auth().currentUser`. -/
structure AccountVC where
  currentUser : Option String
  children : List SignInVC

namespace AccountVC

/-- The screen appears, or the user signs in or out somewhere in the app. -/
inductive Event where
  | viewDidAppear
  | signIn (uid : String)
  | signOut
deriving DecidableEq

/-- `add(childVC: SignInVC(), to: view)` on the main queue. -/
inductive Block where
  | addSignInVC
deriving DecidableEq

/-- `isLoggedIn`. -/
def isLoggedIn (vc : AccountVC) : Bool := vc.currentUser.isSome

/-- `add(childVC: SignInVC(), to: self.view)`. -/
def addChild (vc : AccountVC) : AccountVC := { vc with children := vc.children ++ [⟨"", ""⟩] }

/-- The common body of `viewDidLoad` and `viewDidAppear`: the blocks it defers. -/
def appear (vc : AccountVC) : List Block := if vc.isLoggedIn then [.addSignInVC] else []

/-- The handlers of the screen. -/
def handlers : Handlers AccountVC Event Block where
  handle vc
    | .viewDidAppear => some (.ok vc vc.appear)
    | .signIn uid => some (.ok { vc with currentUser := some uid } [])
    | .signOut => some (.ok { vc with currentUser := none } [])
  block vc
    | .addSignInVC => .ok vc.addChild []

/-- `viewDidLoad()`, with `user` signed in or nobody. -/
def viewDidLoad (user : Option String) : MainLoop AccountVC Block :=
  let vc : AccountVC := ⟨user, []⟩
  .start vc vc.appear

/-- The screen, opened by any user. -/
def machine : EventMachine (MainLoop AccountVC Block) (LoopStep Event) :=
  MainLoop.machine handlers fun l => ∃ user, l = viewDidLoad user

/-- One sign-in page when nobody is signed in, and none otherwise. -/
def SignInMatches (vc : AccountVC) : Prop :=
  (vc.currentUser = none → vc.children.length = 1) ∧
    (vc.currentUser ≠ none → vc.children.length = 0)

instance (vc : AccountVC) : Decidable vc.SignInMatches :=
  inferInstanceAs (Decidable (_ ∧ _))

/-! ## What the events say -/

/-- Who is signed in after a run that started with `user`. -/
def userAfter : Option String → List (LoopStep Event) → Option String
  | user, [] => user
  | _, .event (.signIn uid) :: es => userAfter (some uid) es
  | _, .event .signOut :: es => userAfter none es
  | user, _ :: es => userAfter user es

/-- How often the screen appears in a run while a user is signed in. -/
def signedInAppearances : Option String → List (LoopStep Event) → Nat
  | _, [] => 0
  | user, .event .viewDidAppear :: es =>
      (if user.isSome then 1 else 0) + signedInAppearances user es
  | _, .event (.signIn uid) :: es => signedInAppearances (some uid) es
  | _, .event .signOut :: es => signedInAppearances none es
  | user, .block :: es => signedInAppearances user es

/-- How often a hook runs while a user is signed in, `viewDidLoad` included. -/
def signedInHooks (user : Option String) (es : List (LoopStep Event)) : Nat :=
  (if user.isSome then 1 else 0) + signedInAppearances user es

/-- The children that are there, and those that are still on the queue. -/
def pages (l : MainLoop AccountVC Block) : Nat := l.state.children.length + l.queue.length

theorem length_appear (vc : AccountVC) :
    vc.appear.length = if vc.currentUser.isSome then 1 else 0 := by
  unfold appear isLoggedIn
  cases vc.currentUser <;> rfl

/-- Step lemma: one step changes the user and the number of pages as its event says. -/
theorem step_spec {l l' : MainLoop AccountVC Block} {x : LoopStep Event}
    (h : machine.step l x = some l') :
    l'.state.currentUser = userAfter l.state.currentUser [x] ∧
      pages l' = pages l + signedInAppearances l.state.currentUser [x] := by
  rcases MainLoop.step_cases h with ⟨-, ⟨e, o, rfl, ho, rfl⟩ | ⟨b, rest, rfl, hq, rfl⟩⟩
  · cases e with
    | viewDidAppear =>
        obtain rfl := Option.some.inj ho
        have hlen := length_appear l.state
        refine ⟨rfl, ?_⟩
        simp only [pages, MainLoop.absorb_ok, List.length_append, hlen, signedInAppearances]
        omega
    | signIn uid =>
        obtain rfl := Option.some.inj ho
        simp [pages, userAfter, signedInAppearances]
    | signOut =>
        obtain rfl := Option.some.inj ho
        simp [pages, userAfter, signedInAppearances]
  · cases b with
    | addSignInVC =>
        refine ⟨rfl, ?_⟩
        -- the page moves from the queue into the screen
        simp only [handlers, MainLoop.absorb_ok, List.append_nil, pages, addChild,
          List.length_append, List.length_cons, List.length_nil, signedInAppearances, hq]
        omega

theorem userAfter_cons (user : Option String) (x : LoopStep Event)
    (es : List (LoopStep Event)) :
    userAfter user (x :: es) = userAfter (userAfter user [x]) es := by
  rcases x with (_ | _ | _) | _ <;> rfl

theorem signedInAppearances_cons (user : Option String) (x : LoopStep Event)
    (es : List (LoopStep Event)) :
    signedInAppearances user (x :: es) =
      signedInAppearances user [x] + signedInAppearances (userAfter user [x]) es := by
  rcases x with (_ | _ | _) | _ <;> simp [signedInAppearances, userAfter]

/-- Run lemma: a run changes the user and the number of pages as its events say. -/
theorem run_spec {l l' : MainLoop AccountVC Block} {es : List (LoopStep Event)}
    (hrun : machine.run l es = some l') :
    l'.state.currentUser = userAfter l.state.currentUser es ∧
      pages l' = pages l + signedInAppearances l.state.currentUser es := by
  induction es generalizing l with
  | nil =>
      rw [EventMachine.run_nil, Option.some.injEq] at hrun
      rw [hrun]
      exact ⟨rfl, rfl⟩
  | cons x es ih =>
      rcases machine.run_cons_eq_some.1 hrun with ⟨t, hstep, hrest⟩
      rcases step_spec hstep with ⟨huser, hpages⟩
      rcases ih hrest with ⟨huser', hpages'⟩
      rw [userAfter_cons, signedInAppearances_cons, huser', hpages', hpages, huser]
      exact ⟨rfl, Nat.add_assoc _ _ _⟩

theorem userAfter_blocks (user : Option String) (n : Nat) :
    userAfter user (List.replicate n .block) = user := by
  induction n with
  | zero => rfl
  | succ n ih => exact ih

theorem signedInAppearances_blocks (user : Option String) (n : Nat) :
    signedInAppearances user (List.replicate n .block) = 0 := by
  induction n with
  | zero => rfl
  | succ n ih => exact ih

/-- The state once the screen has appeared and its blocks have run. -/
theorem appeared_spec {user : Option String} {es : List (LoopStep Event)} {n : Nat}
    {l : MainLoop AccountVC Block}
    (hrun : machine.run (viewDidLoad user)
      (es ++ .event .viewDidAppear :: List.replicate n .block) = some l)
    (hdrained : l.Drained) :
    l.state.currentUser = userAfter user es ∧
      l.state.children.length =
        signedInHooks user es + if (userAfter user es).isSome then 1 else 0 := by
  rw [EventMachine.run_append] at hrun
  rcases Option.bind_eq_some_iff.1 hrun with ⟨t, hes, hrest⟩
  rcases run_spec hes with ⟨huser, hpages⟩
  rcases run_spec hrest with ⟨huser', hpages'⟩
  -- the blocks change neither the user nor the number of pages
  rw [userAfter_cons, userAfter_blocks] at huser'
  rw [signedInAppearances_cons, signedInAppearances_blocks] at hpages'
  have hstart : pages (viewDidLoad user) = if user.isSome then 1 else 0 := by
    have hlen := length_appear ⟨user, []⟩
    simp only [pages, viewDidLoad, MainLoop.start, List.length_nil, hlen]
    omega
  have hqueue : l.queue = [] := hdrained
  have hcurrent : (viewDidLoad user).state.currentUser = user := rfl
  rw [hcurrent] at huser hpages
  rw [huser] at huser' hpages'
  refine ⟨huser', ?_⟩
  simp only [pages, hqueue, List.length_nil, signedInAppearances] at hpages hpages' hstart
  unfold signedInHooks
  omega

/-- The screen stays empty for a user who has never signed in. -/
theorem signIn_missing :
    ∃ l, machine.run (viewDidLoad none) [.event .viewDidAppear] = some l ∧
      l.Drained ∧ ¬ l.state.SignInMatches :=
  ⟨_, rfl, rfl, by decide⟩

/-- After an appearance and its blocks the screen shows the right pages if and
only if nobody is signed in and exactly one earlier hook ran while a user was. -/
theorem signInMatches_iff {user : Option String} {es : List (LoopStep Event)} {n : Nat}
    {l : MainLoop AccountVC Block}
    (hrun : machine.run (viewDidLoad user)
      (es ++ .event .viewDidAppear :: List.replicate n .block) = some l)
    (hdrained : l.Drained) :
    l.state.SignInMatches ↔ userAfter user es = none ∧ signedInHooks user es = 1 := by
  rcases appeared_spec hrun hdrained with ⟨huser, hlength⟩
  unfold SignInMatches
  rw [huser]
  cases hafter : userAfter user es with
  | none =>
      rw [hafter] at hlength
      simp [hlength]
  | some uid =>
      rw [hafter] at hlength
      -- the appearance itself has added a page
      have hpos : l.state.children.length ≠ 0 := by
        simp only [Option.isSome_some, if_true] at hlength
        omega
      simp [hpos]

/-- Opened while signed in, then signed out: the one page is that of `viewDidLoad`. -/
theorem signInMatches_iff_signedOut :
    ∃ l, machine.run (viewDidLoad (some "u"))
        ([.event .signOut] ++ .event .viewDidAppear :: List.replicate 1 .block) = some l ∧
      l.Drained ∧ l.state.SignInMatches := by
  refine ⟨_, rfl, rfl, ?_⟩
  exact (@signInMatches_iff (some "u") [.event .signOut] 1 _ rfl rfl).2 ⟨rfl, rfl⟩

end AccountVC

end FancyLife
