import FancyLife.Navigation

/-! # Ways through the app

What a step does to the screens, said once (`step_moved`), and what follows for every
way through the app:

- `bars_fit_screen`: the bars fit the screen that is shown. The sign-up form is the
  exception: it loses its navigation bar when the user turns to another tab.
- `root_reachable_from_everywhere`: every screen can be left, also the form without its bar.
- `back_from_details`: the way back from a shop's products leads to that shop.
- `signUp_stays_covered`: a sign-up covers its own form.
-/

namespace FancyLife.FLTabBarController

/-! ## What a step does -/

/-- The same app but for the callbacks that are waited for. -/
structure SameScreens (app app' : FLTabBarController) : Prop where
  selected : app'.selected = app.selected
  controllers : app'.controllers = app.controllers
  isTabBarHidden : app'.isTabBarHidden = app.isTabBarHidden

/-- What a step does to the screens. -/
inductive Moved (app : FLTabBarController) : Event → FLTabBarController → Prop where
  | quiet (e : Event) (app' : FLTabBarController) (hsame : SameScreens app app') :
      Moved app e app'
  | push (e : Event) (app₁ : FLTabBarController) (screen top : Screen) (rest : List Screen)
      (hsame : SameScreens app app₁) (hstack : app₁.stack app₁.selected = top :: rest)
      (hfollows : Follows screen top) (hform : screen ≠ .signUpVC) :
      Moved app e (app₁.push app₁.selected screen)
  | pushSignUp (rest : List Screen) (hstack : app.stack app.selected = .accountVC :: rest) :
      Moved app .tapSignUp app.pushSignUpVC
  | pop (e : Event) (app₁ : FLTabBarController) (top : Screen) (rest : List Screen)
      (hsame : SameScreens app app₁) (hstack : app₁.stack app₁.selected = top :: rest)
      (hhome : top ≠ .homeVC) : Moved app e (app₁.pop app₁.selected)
  | select (tab : Tab) (htabBar : app.isTabBarHidden = false) (htab : tab ≠ app.selected) :
      Moved app (.selectTab tab) (app.select tab)
  | popToRoot (htabBar : app.isTabBarHidden = false) :
      Moved app (.selectTab app.selected) app.popToRoot

section Steps

variable {app app' app₁ : FLTabBarController} {e : Event} {top : Screen} {number : Nat}

theorem SameScreens.refl (app : FLTabBarController) : SameScreens app app := ⟨rfl, rfl, rfl⟩

theorem SameScreens.stack (h : SameScreens app app') : app'.stack = app.stack := by
  funext tab
  unfold FLTabBarController.stack
  rw [h.controllers]

theorem SameScreens.bars (h : SameScreens app app') : app'.bars = app.bars := by
  unfold FLTabBarController.bars
  rw [h.controllers, h.selected, h.isTabBarHidden]

theorem Consistent.sameScreens (h : Consistent app) (hsame : SameScreens app app') :
    Consistent app' := by
  refine ⟨?_, ?_, ?_⟩
  · rw [hsame.stack]
    exact h.opened
  · rw [hsame.stack, hsame.selected, hsame.bars]
    exact h.visible
  · rw [hsame.stack, hsame.selected, hsame.controllers]
    exact h.background

/-- The screen on top, as the taps find it. -/
theorem stack_of_top (h : app.top = some top) :
    ∃ rest, app.stack app.selected = top :: rest := List.head?_eq_some_iff.1 h

/-- The answer of `getShop` pushes onto the stack that is shown, or does nothing. -/
theorem shopAnswered_moved (hsame : SameScreens app app₁) (h : Consistent app₁)
    (result : Except FLError Shop) : Moved app e (app₁.shopAnswered number result) := by
  cases result with
  | error error => exact .quiet e _ hsame
  | ok shop =>
      unfold FLTabBarController.shopAnswered
      cases htabOf : app₁.tabOf number with
      | none => exact .quiet e _ hsame
      | some tab =>
          rcases h.tabOf htabOf with ⟨rfl, top, rest, hstack, htop⟩
          have hfollows : Follows (.shopInfoVC shop) top := by
            rcases htop with ⟨n, rfl⟩ | hdetail
            · exact .result shop n
            · cases top with
              | shopInfoVC => exact .recommended _ _
              | productVC => exact .lateProducts _ _
              | eventVC => exact .lateEvents _ _
              | _ => cases hdetail
          exact .push e app₁ _ top rest hsame hstack hfollows nofun

/-- The end of a dismissal pops a search or a detail screen, or does nothing. -/
theorem searchDismissed_moved (hsame : SameScreens app app₁) (h : Consistent app₁) :
    Moved app e (app₁.searchDismissed number) := by
  unfold FLTabBarController.searchDismissed
  cases htabOf : app₁.tabOf number with
  | none => exact .quiet e _ hsame
  | some tab =>
      rcases h.tabOf htabOf with ⟨rfl, top, rest, hstack, htop⟩
      refine .pop e app₁ top rest hsame hstack ?_
      rintro rfl
      rcases htop with ⟨n, hn⟩ | hdetail
      · cases hn
      · cases hdetail

/-- A tap that opens a screen. -/
theorem push_moved {screen : Screen} (htop : app.top = some top) (hfollows : Follows screen top)
    (hform : screen ≠ .signUpVC) : Moved app e (app.push app.selected screen) := by
  rcases stack_of_top htop with ⟨rest, hstack⟩
  exact .push e app screen top rest (.refl app) hstack hfollows hform

theorem pushSearchVC_moved (htop : app.top = some top)
    (hfollows : Follows (.searchVC app.nextSearch) top) : Moved app e app.pushSearchVC := by
  rcases stack_of_top htop with ⟨rest, hstack⟩
  exact .push e { app with nextSearch := app.nextSearch + 1 } _ top rest ⟨rfl, rfl, rfl⟩ hstack
    hfollows nofun

/-- Inversion of a tap on a tab. -/
theorem selectTab_cases {tab : Tab} (hstep : step app (.selectTab tab) = some app') :
    app.isTabBarHidden = false ∧
      ((tab = app.selected ∧ app' = app.popToRoot) ∨
        (tab ≠ app.selected ∧ app' = app.select tab)) := by
  simp only [step] at hstep
  split at hstep
  · cases hstep
  rename_i htabBar
  refine ⟨by simpa using htabBar, ?_⟩
  split at hstep <;> rename_i htab <;> obtain rfl := Option.some.inj hstep
  · exact Or.inl ⟨htab, rfl⟩
  · exact Or.inr ⟨htab, rfl⟩

/-- Inversion of a tap on the button that opens the sign-up form. -/
theorem tapSignUp_cases (hstep : step app .tapSignUp = some app') :
    ∃ rest, app.stack app.selected = .accountVC :: rest ∧ app' = app.pushSignUpVC := by
  simp only [step] at hstep
  split at hstep
  · rename_i htop
    obtain rfl := Option.some.inj hstep
    rcases stack_of_top htop with ⟨rest, hstack⟩
    exact ⟨rest, hstack, rfl⟩
  · cases hstep

/-- Inversion of a step. -/
theorem step_moved (hstep : step app e = some app') (h : Consistent app) : Moved app e app' := by
  cases e with
  | selectTab tab =>
      rcases selectTab_cases hstep with ⟨htabBar, ⟨rfl, rfl⟩ | ⟨htab, rfl⟩⟩
      · exact .popToRoot htabBar
      · exact .select tab htabBar htab
  | tapCategory item =>
      simp only [step] at hstep
      split at hstep
      · rename_i category htop hoption
        obtain rfl := Option.some.inj hstep
        exact push_moved htop (.category category (List.mem_of_getElem? hoption)) nofun
      · cases hstep
  | tapSearchBar =>
      simp only [step] at hstep
      split at hstep
      · rename_i htop
        obtain rfl := Option.some.inj hstep
        exact pushSearchVC_moved htop (.searchHome _)
      · rename_i category htop
        obtain rfl := Option.some.inj hstep
        exact pushSearchVC_moved htop (.searchShops _ category)
      · cases hstep
  | tapShop shop =>
      simp only [step] at hstep
      split at hstep
      · rename_i category htop
        obtain rfl := Option.some.inj hstep
        exact push_moved htop (.shop shop category) nofun
      · cases hstep
  | tapRecommendation shop =>
      simp only [step] at hstep
      split at hstep
      · rename_i shop' htop
        obtain rfl := Option.some.inj hstep
        exact push_moved htop (.recommended shop shop') nofun
      · cases hstep
  | tapProducts =>
      simp only [step] at hstep
      split at hstep
      · rename_i shop htop
        obtain rfl := Option.some.inj hstep
        exact push_moved htop (.products shop) nofun
      · cases hstep
  | tapEvents =>
      simp only [step] at hstep
      split at hstep
      · rename_i shop htop
        obtain rfl := Option.some.inj hstep
        exact push_moved htop (.events shop) nofun
      · cases hstep
  | createAccount =>
      simp only [step] at hstep
      split at hstep
      · rename_i htop
        obtain rfl := Option.some.inj hstep
        exact push_moved htop .home nofun
      · cases hstep
  | tapSignUp =>
      rcases tapSignUp_cases hstep with ⟨rest, hstack, rfl⟩
      exact .pushSignUp rest hstack
  | back =>
      simp only [step] at hstep
      split at hstep
      · rename_i screen htop
        split at hstep
        · rename_i hback
          obtain rfl := Option.some.inj hstep
          rcases stack_of_top htop with ⟨rest, hstack⟩
          refine .pop _ app screen rest (.refl app) hstack ?_
          rintro rfl
          cases hback.1
        · cases hstep
      · cases hstep
  | tapResult =>
      simp only [step] at hstep
      split at hstep
      · obtain rfl := Option.some.inj hstep
        exact .quiet _ _ ⟨rfl, rfl, rfl⟩
      · cases hstep
  | cancel =>
      simp only [step] at hstep
      split at hstep
      · split at hstep
        · obtain rfl := Option.some.inj hstep
          exact .quiet _ _ ⟨rfl, rfl, rfl⟩
        · cases hstep
      · cases hstep
  | shopAnswer number result =>
      simp only [step] at hstep
      split at hstep
      · obtain rfl := Option.some.inj hstep
        have hsame : SameScreens app { app with
            shopRequests := app.shopRequests.erase number } := ⟨rfl, rfl, rfl⟩
        exact shopAnswered_moved hsame (h.sameScreens hsame) result
      · cases hstep
  | dismissed number =>
      simp only [step] at hstep
      split at hstep
      · obtain rfl := Option.some.inj hstep
        have hsame : SameScreens app { app with
            dismissals := app.dismissals.erase number } := ⟨rfl, rfl, rfl⟩
        exact searchDismissed_moved hsame (h.sameScreens hsame)
      · cases hstep

/-- Step lemma. -/
theorem Consistent.step (hstep : step app e = some app') (h : Consistent app) :
    Consistent app' := by
  cases step_moved hstep h with
  | quiet _ _ hsame => exact h.sameScreens hsame
  | push _ app₁ screen top rest hsame hstack hfollows hform =>
      exact (h.sameScreens hsame).push hstack hfollows
  | pushSignUp rest hstack => exact h.pushSignUpVC hstack
  | pop _ app₁ top rest hsame hstack hhome => exact (h.sameScreens hsame).pop hstack hhome
  | select tab htabBar htab => exact h.select htabBar htab
  | popToRoot htabBar => exact (h.popToRoot htabBar).1

end Steps

theorem launched_consistent : Consistent launched := by
  refine ⟨?_, ?_, ?_⟩
  · intro tab
    have hstack : launched.stack tab = [tab.root] := stack_setBars _ tab
    rw [hstack]
    exact .root
  · exact ⟨rfl, fun s hs hidden hhidden => by cases hs; cases hhidden; rfl⟩
  · intro tab htab
    cases tab with
    | home => exact absurd rfl htab
    | shop | wallet | account =>
        exact ⟨rfl, fun s hs hshown => by cases hs; rfl⟩

/-- Run lemma. -/
theorem run_consistent {app app' : FLTabBarController} {es : List Event}
    (hrun : machine.run app es = some app') (h : Consistent app) : Consistent app' := by
  have hstep : ∀ s e s', machine.step s e = some s' → Consistent s → Consistent s' :=
    fun _ _ _ hs hinv => Consistent.step hs hinv
  exact EventMachine.run_invariant hstep hrun h

theorem reachable_consistent {app : FLTabBarController} (h : machine.Reachable app) :
    Consistent app := by
  rcases h with ⟨app₀, es, rfl, hrun⟩
  exact run_consistent hrun launched_consistent

/-! ## The bars -/

/-- The account screen is the root of its tab. -/
theorem Opened.account {tab : Tab} {rest : List Screen} (h : Opened tab (.accountVC :: rest)) :
    tab = .account ∧ rest = [] := by
  generalize hscreens : Screen.accountVC :: rest = screens at h
  cases h with
  | root =>
      refine ⟨?_, (List.cons.inj hscreens).2⟩
      cases tab with
      | account => rfl
      | home | shop | wallet => cases hscreens
  | push _ _ _ hfollows _ =>
      rcases List.cons.inj hscreens with ⟨rfl, -⟩
      cases hfollows

/-- The sign-up form lies on the account screen. -/
theorem Opened.signUp {tab : Tab} {rest : List Screen} (h : Opened tab (.signUpVC :: rest)) :
    tab = .account ∧ rest = [.accountVC] := by
  generalize hscreens : Screen.signUpVC :: rest = screens at h
  cases h with
  | root => cases tab <;> cases hscreens
  | push _ below rest' hfollows hbelow =>
      rcases List.cons.inj hscreens with ⟨rfl, rfl⟩
      cases hfollows
      exact ⟨hbelow.account.1, by rw [hbelow.account.2]⟩

/-- A tab other than that of the sign-up form is tapped, or the form is opened anew. -/
def turn (away : Bool) : Event → Bool
  | .tapSignUp => false
  | .selectTab tab => away || decide (tab ≠ .account)
  | _ => away

/-- The user has turned to another tab since the sign-up form was opened. -/
def turnedAway (past : List Event) : Bool := past.foldl turn false

theorem turnedAway_append (past : List Event) (e : Event) :
    turnedAway (past ++ [e]) = turn (turnedAway past) e := by
  simp only [turnedAway, List.foldl_append, List.foldl_cons, List.foldl_nil]

/-- The form has lost its navigation bar when the user has turned away. -/
structure FormShown (app : FLTabBarController) (past : List Event) : Prop where
  bar : (app.controllers .account).isNavigationBarHidden = turnedAway past
  away : app.selected ≠ .account → turnedAway past = true

/-- The form, when it is the last screen of its tab. -/
def FormFollows (app : FLTabBarController) (past : List Event) : Prop :=
  (app.stack .account).head? = some .signUpVC → FormShown app past

section Form

variable {app app' : FLTabBarController} {past past' : List Event} {e : Event} {tab : Tab}
  {screens : List Screen} {bars : Bars}

/-- A change of the visible stack that does not bring the form to light. -/
theorem FormFollows.shows (h : FormFollows app past) (hshows : Shows app app' screens bars)
    (hscreens : screens.head? ≠ some .signUpVC)
    (hturn : turnedAway past = true → turnedAway past' = true) : FormFollows app' past' := by
  intro htop
  by_cases hselected : app.selected = .account
  · have hstack := hshows.stack
    rw [hselected] at hstack
    rw [hstack] at htop
    exact absurd htop hscreens
  · have hother := hshows.others .account fun heq => hselected heq.symm
    have hstack : app'.stack .account = app.stack .account :=
      congrArg UINavigationController.viewControllers hother
    rw [hstack] at htop
    have hshown := h htop
    have haway := hturn (hshown.away hselected)
    refine ⟨?_, fun _ => haway⟩
    rw [hother, hshown.bar, hshown.away hselected, haway]

/-- Another tab comes to the front. -/
theorem FormFollows.select (h : FormFollows app past)
    (htabBar : app.isTabBarHidden = false) (htab : tab ≠ app.selected) :
    FormFollows (app.select tab) (past ++ [.selectTab tab]) := by
  intro htop
  rw [stack_select] at htop
  have hshown := h htop
  rcases List.head?_eq_some_iff.1 htop with ⟨rest, hstack⟩
  by_cases haccount : tab = .account
  · -- the user comes back to the form, which does not touch the bar
    subst haccount
    have hturned : turnedAway (past ++ [.selectTab .account]) = turnedAway past := by
      rw [turnedAway_append]
      exact Bool.or_false _
    have hbars := congrArg Bars.isNavigationBarHidden (bars_select hstack htabBar htab)
    unfold FLTabBarController.bars at hbars
    rw [selected_select] at hbars
    refine ⟨hbars.trans ?_, fun hne => absurd (selected_select _) hne⟩
    rw [hturned]
    exact hshown.bar
  · have hturned : turnedAway (past ++ [.selectTab tab]) = true := by
      rw [turnedAway_append]
      show (turnedAway past || decide (tab ≠ .account)) = true
      rw [decide_eq_true haccount, Bool.or_true]
    refine ⟨?_, fun _ => hturned⟩
    rw [hturned]
    by_cases hselected : app.selected = .account
    · -- the form disappears
      rw [← hselected] at hstack ⊢
      exact controllers_select_old hstack htab
    · rw [controllers_select_other (fun heq => haccount heq.symm) fun heq => hselected heq.symm,
        hshown.bar]
      exact hshown.away hselected

/-- A step that is no tap on a tab and does not open the form. -/
theorem FormFollows.moved (h : FormFollows app past) (hc : Consistent app)
    (hmoved : Moved app e app') (htab : ∀ tab, e ≠ .selectTab tab) (hform : e ≠ .tapSignUp) :
    FormFollows app' (past ++ [e]) := by
  have hturned : turnedAway (past ++ [e]) = turnedAway past := by
    rw [turnedAway_append]
    cases e with
    | selectTab tab => exact absurd rfl (htab tab)
    | tapSignUp => exact absurd rfl hform
    | _ => rfl
  have hsame : ∀ app₁, SameScreens app app₁ → FormFollows app₁ (past ++ [e]) := by
    intro app₁ hsame htop
    rw [hsame.stack] at htop
    have hshown := h htop
    refine ⟨?_, ?_⟩
    · rw [hturned, hsame.controllers]
      exact hshown.bar
    · rw [hturned, hsame.selected]
      exact hshown.away
  cases hmoved with
  | quiet _ _ hquiet => exact hsame _ hquiet
  | push _ app₁ screen top rest hquiet hstack hfollows hscreen =>
      have hshows := change_shows hstack screen (top :: rest)
      unfold FLTabBarController.push
      rw [hstack]
      refine (hsame _ hquiet).shows hshows ?_ id
      intro htop
      exact hscreen (Option.some.inj htop)
  | pop _ app₁ top rest hquiet hstack hhome =>
      have hopened := (hc.sameScreens hquiet).opened app₁.selected
      unfold FLTabBarController.pop
      rw [hstack] at hopened ⊢
      cases hopened with
      | root => exact hsame _ hquiet
      | push _ below rest' hfollows hbelow =>
          refine (hsame _ hquiet).shows (change_shows hstack below rest') ?_ id
          -- only the home screen is ever put on the form
          intro htop
          obtain rfl := Option.some.inj htop
          cases hfollows
          exact hhome rfl
  | pushSignUp => exact absurd rfl hform
  | select tab => exact absurd rfl (htab tab)
  | popToRoot => exact absurd rfl (htab _)

/-- Step lemma. -/
theorem FormFollows.step (hc : Consistent app) (hstep : step app e = some app')
    (h : FormFollows app past) : FormFollows app' (past ++ [e]) := by
  have hmoved := step_moved hstep hc
  cases e with
  | selectTab tab =>
      rcases selectTab_cases hstep with ⟨htabBar, ⟨rfl, rfl⟩ | ⟨htab, rfl⟩⟩
      · have hshows : ∃ bars, Shows app app.popToRoot [app.selected.root] bars := by
          rcases popToRoot_cases hc with ⟨heq, hstack⟩ | ⟨top, below, rest, -, hshows⟩
          · rw [heq]
            exact ⟨app.bars, rfl, hstack, rfl, fun _ _ => rfl⟩
          · exact ⟨_, hshows⟩
        rcases hshows with ⟨bars, hshows⟩
        refine h.shows hshows ?_ ?_
        · cases app.selected <;> exact nofun
        · intro haway
          rw [turnedAway_append, haway]
          rfl
      · exact h.select htabBar htab
  | tapSignUp =>
      rcases tapSignUp_cases hstep with ⟨rest, hstack, rfl⟩
      intro _
      have hopened := hc.opened app.selected
      rw [hstack] at hopened
      have hselected := hopened.account.1
      have hshows := pushSignUpVC_shows hstack
      have hturned : turnedAway (past ++ [.tapSignUp]) = false := turnedAway_append past _
      have hbar := congrArg Bars.isNavigationBarHidden hshows.bars
      unfold FLTabBarController.bars at hbar
      rw [hshows.selected, hselected] at hbar
      refine ⟨hbar.trans hturned.symm, ?_⟩
      rw [hshows.selected]
      exact absurd hselected
  | _ => exact h.moved hc hmoved nofun nofun

end Form

/-- Run lemma. -/
theorem run_form {app : FLTabBarController} {es : List Event}
    (hrun : machine.run launched es = some app) : Consistent app ∧ FormFollows app es := by
  have hstep : ∀ s e s' past, machine.step s e = some s' → Consistent s ∧ FormFollows s past →
      Consistent s' ∧ FormFollows s' (past ++ [e]) := by
    intro s e s' past hs hinv
    exact ⟨Consistent.step hs hinv.1, hinv.2.step hinv.1 hs⟩
  have hlaunched : FormFollows launched [] := fun htop => by cases htop
  have hinv := EventMachine.history_invariant hstep hrun ⟨launched_consistent, hlaunched⟩
  rwa [List.nil_append] at hinv

/-- However a screen was reached, the tab bar is as the topmost screen that sets it
has set it, and the navigation bar fits the screen on top: the screens that are left
by a button in it find it shown. The sign-up form does so exactly as long as the user
has not turned to another tab since the form was opened. -/
theorem bars_fit_screen {app : FLTabBarController} {es : List Event}
    (hrun : machine.run launched es = some app) :
    app.isTabBarHidden = tabBarHiddenBy (app.stack app.selected) ∧
      (∀ screen, app.top = some screen → ∀ hidden, navigationBarHiddenBy screen = some hidden →
        app.bars.isNavigationBarHidden = hidden) ∧
      (app.top = some .signUpVC → app.bars.isNavigationBarHidden = turnedAway es) := by
  rcases run_form hrun with ⟨hc, hform⟩
  have hfits := hc.visible
  refine ⟨hfits.tabBar, ?_, ?_⟩
  · intro screen htop hidden hhidden
    exact hfits.navigationBar screen htop hidden hhidden
  · intro htop
    rcases stack_of_top htop with ⟨rest, hstack⟩
    have hopened := hc.opened app.selected
    rw [hstack] at hopened
    have hselected := hopened.signUp.1
    rw [hselected] at hstack
    unfold FLTabBarController.bars
    rw [hselected]
    exact (hform (List.head?_eq_some_iff.2 ⟨rest, hstack⟩)).bar

/-- The user opens the sign-up form, looks at the home screen and comes back. -/
def lookingAway : List Event :=
  [.selectTab .account, .tapSignUp, .selectTab .home, .selectTab .account]

/-- The form has no bar then, and no back button. -/
theorem form_loses_bar :
    ∃ app, machine.run launched lookingAway = some app ∧ app.top = some .signUpVC ∧
      app.bars.isNavigationBarHidden = true := by
  have hrun : ∃ app, machine.run launched lookingAway = some app ∧ app.top = some .signUpVC :=
    ⟨_, rfl, rfl⟩
  rcases hrun with ⟨app, hrun, htop⟩
  exact ⟨app, hrun, htop, (bars_fit_screen hrun).2.2 htop⟩

/-! ## There is always a way out -/

/-- A search, opened from the shop list. -/
def searching : List Event := [.selectTab .shop, .tapSearchBar]

/-- The events that only leave screens. -/
inductive Leaves : Event → Prop where
  | selectTab (tab : Tab) : Leaves (.selectTab tab)
  | back : Leaves .back
  | cancel : Leaves .cancel
  | dismissed (number : Nat) : Leaves (.dismissed number)

section Leaving

variable {app : FLTabBarController} {top below : Screen} {rest : List Screen} {number : Nat}

theorem pop_shows (hstack : app.stack app.selected = top :: below :: rest) :
    Shows app (app.pop app.selected) (below :: rest) (below.appear (top.disappear app.bars)) := by
  unfold FLTabBarController.pop
  rw [hstack]
  exact change_shows hstack below rest

/-- A search on top is found in the tab that is shown. -/
theorem Consistent.tabOf_top (h : Consistent app)
    (hstack : app.stack app.selected = .searchVC number :: rest) :
    app.tabOf number = some app.selected := by
  have hmem : .searchVC number ∈ app.stack app.selected := by
    rw [hstack]
    exact List.mem_cons_self
  cases htabOf : app.tabOf number with
  | some tab => rw [(h.tabOf htabOf).1]
  | none =>
      have hnone := List.find?_eq_none.1 htabOf app.selected (by cases app.selected <;> simp)
      simp [hmem] at hnone

/-- The cancel button pops the search, when nothing comes in between. -/
theorem cancel_pops (h : Consistent app)
    (hstack : app.stack app.selected = .searchVC number :: below :: rest) :
    ∃ app', machine.run app [.cancel, .dismissed number] = some app' ∧
      app'.selected = app.selected ∧ app'.stack app.selected = below :: rest := by
  have hshown : app.bars.isNavigationBarHidden = false := by
    have hvisible := h.visible
    rw [hstack] at hvisible
    exact hvisible.navigationBar _ rfl false rfl
  have hcancel : step app .cancel =
      some { app with dismissals := number :: app.dismissals } := by
    simp only [step, top_of_stack hstack, if_pos hshown]
  have hdismissed : step { app with dismissals := number :: app.dismissals }
      (.dismissed number) = some (app.pop app.selected) := by
    have htabOf := h.tabOf_top hstack
    simp only [step, List.mem_cons_self, if_true, List.erase_cons_head]
    show some (searchDismissed app number) = _
    unfold searchDismissed
    rw [htabOf]
  have hpop := pop_shows hstack
  refine ⟨app.pop app.selected, ?_, hpop.selected, hpop.stack⟩
  exact (machine.run_cons_eq_some).2 ⟨_, hcancel,
    (machine.run_cons_eq_some).2 ⟨_, hdismissed, rfl⟩⟩

/-- The back button pops a screen that has one, the sign-up form apart. -/
theorem back_pops (h : Consistent app) (hstack : app.stack app.selected = top :: below :: rest)
    (hback : hasBackButton top = true) (hshown : navigationBarHiddenBy top = some false) :
    step app .back = some (app.pop app.selected) := by
  have hbar : app.bars.isNavigationBarHidden = false := by
    have hvisible := h.visible
    rw [hstack] at hvisible
    exact hvisible.navigationBar _ rfl false hshown
  simp only [step, top_of_stack hstack]
  exact if_pos ⟨hback, hbar⟩

/-- Some screens can be left, and the stack that is shown gets shorter. -/
def CanLeave (app : FLTabBarController) : Prop :=
  ∃ es app', (∀ e ∈ es, Leaves e) ∧ machine.run app es = some app' ∧ Consistent app' ∧
    (app'.stack app'.selected).length < (app.stack app.selected).length

theorem canLeave_back (h : Consistent app) (hstack : app.stack app.selected = top :: below :: rest)
    (hback : hasBackButton top = true) (hshown : navigationBarHiddenBy top = some false) :
    CanLeave app := by
  have hstep := back_pops h hstack hback hshown
  have hpop := pop_shows hstack
  refine ⟨[.back], _, ?_, (machine.run_cons_eq_some).2 ⟨_, hstep, rfl⟩, h.step hstep, ?_⟩
  · intro e he
    rw [List.mem_singleton.1 he]
    exact .back
  · rw [hpop.selected, hpop.stack, hstack]
    exact Nat.lt_succ_self _

theorem canLeave_cancel (h : Consistent app)
    (hstack : app.stack app.selected = .searchVC number :: below :: rest) : CanLeave app := by
  rcases cancel_pops h hstack with ⟨app', hrun, hselected, hstack'⟩
  refine ⟨_, app', ?_, hrun, ?_, ?_⟩
  · intro e he
    rcases List.mem_cons.1 he with rfl | he
    · exact .cancel
    · rw [List.mem_singleton.1 he]
      exact .dismissed number
  · exact run_consistent hrun h
  · rw [hselected, hstack', hstack]
    exact Nat.lt_succ_self _

/-- While the tab bar is hidden, the user can leave the screen on top. -/
theorem canLeave_of_hidden (h : Consistent app) (hhidden : app.isTabBarHidden = true) :
    CanLeave app := by
  rcases h.exists_top app.selected with ⟨top, screens, hstack⟩
  have hopened := h.opened app.selected
  have htabBar : true = tabBarHiddenBy (app.stack app.selected) :=
    hhidden.symm.trans h.visible.tabBar
  rw [hstack] at hopened htabBar
  cases hopened with
  | root =>
      exfalso
      generalize app.selected = tab at htabBar
      cases tab <;> cases htabBar
  | push _ below rest hfollows hbelow =>
      cases hfollows with
      | searchHome number => exact canLeave_cancel h hstack
      | searchShops number => exact canLeave_cancel h hstack
      | category | shop | result | recommended | lateProducts | lateEvents | products | events =>
          exact canLeave_back h hstack rfl rfl
      | home => cases htabBar
      | signUp =>
          -- the tab bar is shown around the account tab's own screens
          obtain rfl := hbelow.account.2
          cases htabBar

/-- With the tab bar in view, a tap on the selected tab leads to its root. -/
theorem tap_root (h : Consistent app) (htabBar : app.isTabBarHidden = false) :
    ∃ app', step app (.selectTab app.selected) = some app' ∧ app'.selected = app.selected ∧
      app'.stack app.selected = [app.selected.root] := by
  rcases h.popToRoot htabBar with ⟨-, hselected, hstack⟩
  refine ⟨app.popToRoot, ?_, hselected, hstack⟩
  simp only [step, htabBar, Bool.false_eq_true, if_false, if_true]

/-- With the tab bar in view, one or two taps on a tab lead to its root. -/
theorem taps_root (h : Consistent app) (htabBar : app.isTabBarHidden = false) (tab : Tab) :
    ∃ es app', (∀ e ∈ es, Leaves e) ∧ machine.run app es = some app' ∧
      app'.selected = tab ∧ app'.stack tab = [tab.root] := by
  by_cases htab : tab = app.selected
  · rcases tap_root h htabBar with ⟨app', hstep, hselected, hstack⟩
    rw [htab]
    refine ⟨[.selectTab app.selected], app', ?_, (machine.run_cons_eq_some).2 ⟨_, hstep, rfl⟩,
      hselected, hstack⟩
    intro e he
    rw [List.mem_singleton.1 he]
    exact .selectTab _
  · have hselect : step app (.selectTab tab) = some (app.select tab) := by
      simp only [step, htabBar, Bool.false_eq_true, if_false, if_neg htab]
    have h₁ := h.select htabBar htab
    have htabBar₁ : (app.select tab).isTabBarHidden = false := by
      have hfits := h₁.visible.tabBar
      rw [selected_select, stack_select, (h.background tab htab).tabBar] at hfits
      exact hfits
    rcases tap_root h₁ htabBar₁ with ⟨app', hstep, hselected, hstack⟩
    rw [selected_select] at hstep hselected hstack
    refine ⟨[.selectTab tab, .selectTab tab], app', ?_, (machine.run_cons_eq_some).2
      ⟨_, hselect, (machine.run_cons_eq_some).2 ⟨_, hstep, rfl⟩⟩, hselected, hstack⟩
    intro e he
    have hmem : e = .selectTab tab := by simpa using he
    rw [hmem]
    exact .selectTab tab

end Leaving

/-- The app has no dead end: from every screen, however it was reached, back buttons,
cancel buttons and the tab bar lead to the root of every tab. -/
theorem root_reachable_from_everywhere {app : FLTabBarController} (h : machine.Reachable app)
    (tab : Tab) :
    ∃ es app', (∀ e ∈ es, Leaves e) ∧ machine.run app es = some app' ∧
      app'.selected = tab ∧ app'.stack tab = [tab.root] := by
  have hprogress : ∀ app, Consistent app → ¬ app.isTabBarHidden = false →
      ∃ es app', (∀ e ∈ es, Leaves e) ∧ machine.run app es = some app' ∧ Consistent app' ∧
        (app'.stack app'.selected).length < (app.stack app.selected).length := by
    intro app h hnot
    exact canLeave_of_hidden h (by simpa using hnot)
  rcases EventMachine.exists_run_of_progress (fun app => (app.stack app.selected).length)
    hprogress (reachable_consistent h) with ⟨es, app₁, hes, hrun, h₁, htabBar⟩
  rcases taps_root h₁ htabBar tab with ⟨fs, app', hfs, hrun', hselected, hstack⟩
  refine ⟨es ++ fs, app', ?_, ?_, hselected, hstack⟩
  · intro e he
    rcases List.mem_append.1 he with he | he
    · exact hes e he
    · exact hfs e he
  · rw [machine.run_append, hrun]
    exact hrun'

theorem wallet_reachable_from_search :
    ∃ app, machine.run launched searching = some app ∧
      ∃ es app', (∀ e ∈ es, Leaves e) ∧ machine.run app es = some app' ∧
        app'.selected = .wallet ∧ app'.stack .wallet = [.walletVC] :=
  ⟨_, rfl, root_reachable_from_everywhere ⟨launched, searching, rfl, rfl⟩ .wallet⟩

/-! ## Going back -/

/-- The products and events of a shop lie on the screen of that shop. -/
theorem Opened.below_details {tab : Tab} {screens above rest : List Screen} {screen : Screen}
    {shop : Shop} (h : Opened tab screens) (heq : screens = above ++ screen :: rest)
    (hscreen : screen = .productVC shop ∨ screen = .eventVC shop) :
    ∃ rest', rest = .shopInfoVC shop :: rest' := by
  induction h generalizing above with
  | root =>
      exfalso
      cases above with
      | nil =>
          obtain rfl := (List.cons.inj heq).1
          rcases hscreen with hroot | hroot <;> cases tab <;> cases hroot
      | cons s above => cases above <;> cases (List.cons.inj heq).2
  | push top below rest' hfollows hbelow ih =>
      cases above with
      | nil =>
          rcases List.cons.inj heq with ⟨rfl, rfl⟩
          rcases hscreen with rfl | rfl
          · cases hfollows with
            | products => exact ⟨rest', rfl⟩
          · cases hfollows with
            | events => exact ⟨rest', rfl⟩
      | cons s above => exact ih (List.cons.inj heq).2

/-- Wherever the products or events of a shop are open, they lie on the screen of the
same shop, and the back button returns to it, even when late answers of a search have
opened other shops on top in the meantime. -/
theorem back_from_details {app : FLTabBarController} (h : machine.Reachable app)
    {screen : Screen} {shop : Shop} (hscreen : screen = .productVC shop ∨ screen = .eventVC shop) :
    (∀ tab above rest, app.stack tab = above ++ screen :: rest →
      ∃ rest', rest = .shopInfoVC shop :: rest') ∧
    (app.top = some screen → ∃ app', step app .back = some app' ∧
      app'.top = some (.shopInfoVC shop) ∧ app'.bars.isNavigationBarHidden = false) := by
  have hconsistent := reachable_consistent h
  refine ⟨fun tab above rest heq => (hconsistent.opened tab).below_details heq hscreen, ?_⟩
  intro htop
  rcases stack_of_top htop with ⟨rest, hstack⟩
  have heq : app.stack app.selected = [] ++ screen :: rest := hstack
  rcases (hconsistent.opened app.selected).below_details heq hscreen with ⟨rest', rfl⟩
  have hback : hasBackButton screen = true ∧ navigationBarHiddenBy screen = some false := by
    rcases hscreen with rfl | rfl <;> exact ⟨rfl, rfl⟩
  have hstep := back_pops hconsistent hstack hback.1 hback.2
  have hpop := pop_shows hstack
  have hstack' : (app.pop app.selected).stack (app.pop app.selected).selected =
      .shopInfoVC shop :: rest' := by
    rw [hpop.selected]
    exact hpop.stack
  refine ⟨_, hstep, top_of_stack hstack', ?_⟩
  have hvisible := (hconsistent.step hstep).visible
  rw [hstack'] at hvisible
  exact hvisible.navigationBar _ rfl false rfl

/-- A shop with nothing to it. -/
def corner : Shop :=
  ⟨"corner", "", "", "", .finite 0, .finite 0, [], "", "", "", none, ""⟩

/-- Its products are opened, and a late answer of the search comes and goes. -/
def lateAnswer : List Event :=
  searching ++ [.tapResult, .tapResult, .shopAnswer 0 (.ok corner), .tapProducts,
    .shopAnswer 0 (.ok corner), .back]

theorem back_from_corner :
    ∃ app, machine.run launched lateAnswer = some app ∧
      (∀ tab above rest, app.stack tab = above ++ .productVC corner :: rest →
        ∃ rest', rest = .shopInfoVC corner :: rest') ∧
      (app.top = some (.productVC corner) → ∃ app', step app .back = some app' ∧
        app'.top = some (.shopInfoVC corner) ∧ app'.bars.isNavigationBarHidden = false) :=
  ⟨_, rfl, back_from_details ⟨launched, lateAnswer, rfl, rfl⟩ (Or.inl rfl)⟩

/-! ## The home screen over the sign-up form -/

/-- The screens under a home screen that `createNewAccount` has pushed. -/
def signedUp : List Screen := [.homeVC, .signUpVC, .accountVC]

/-- A tap on the account tab while it is selected. -/
def RetapsAccount (app : FLTabBarController) (e : Event) : Prop :=
  app.selected = .account ∧ e = .selectTab .account

/-- What a change of the visible stack does to the account tab. -/
theorem Shows.account {app app' : FLTabBarController} {screens : List Screen} {bars : Bars}
    (h : Shows app app' screens bars) (hsigned : signedUp <:+ app.stack .account)
    (hscreens : app.selected = .account → signedUp <:+ screens) :
    signedUp <:+ app'.stack .account := by
  by_cases hselected : app.selected = .account
  · have hstack := h.stack
    rw [hselected] at hstack
    rw [hstack]
    exact hscreens hselected
  · have hother := h.others .account fun heq => hselected heq.symm
    unfold FLTabBarController.stack at hsigned ⊢
    rw [hother]
    exact hsigned

/-- Step lemma: only another tap on the account tab removes these screens. -/
theorem signedUp_step {app app' : FLTabBarController} {e : Event} (h : Consistent app)
    (hstep : step app e = some app') (hretap : ¬ RetapsAccount app e)
    (hsigned : signedUp <:+ app.stack .account) : signedUp <:+ app'.stack .account := by
  cases step_moved hstep h with
  | quiet _ _ hsame =>
      rw [hsame.stack]
      exact hsigned
  | push _ app₁ screen top rest hsame hstack hfollows hform =>
      rw [← hsame.stack] at hsigned
      have hshows := change_shows hstack screen (top :: rest)
      unfold push
      rw [hstack]
      refine hshows.account hsigned ?_
      intro hselected
      rw [hselected] at hstack
      rw [hstack] at hsigned
      exact hsigned.trans (List.suffix_cons _ _)
  | pushSignUp rest hstack =>
      refine (pushSignUpVC_shows hstack).account hsigned ?_
      intro hselected
      rw [hselected] at hstack
      rw [hstack] at hsigned
      exact hsigned.trans (List.suffix_cons _ _)
  | pop _ app₁ top rest hsame hstack hhome =>
      rw [← hsame.stack] at hsigned
      cases hrest : rest with
      | nil =>
          subst hrest
          have hpop : app₁.pop app₁.selected = app₁ := by
            unfold pop
            rw [hstack]
          rw [hpop]
          exact hsigned
      | cons below rest' =>
          subst hrest
          refine (pop_shows hstack).account hsigned ?_
          intro hselected
          rw [hselected] at hstack
          rw [hstack] at hsigned
          -- the home screen stays, since another screen is popped
          rcases List.suffix_cons_iff.1 hsigned with heq | hsuffix
          · exact absurd (List.cons.inj heq).1.symm hhome
          · exact hsuffix
  | select tab htabBar htab =>
      rw [stack_select]
      exact hsigned
  | popToRoot htabBar =>
      rcases popToRoot_cases h with ⟨heq, -⟩ | ⟨top, below, rest, -, hshows⟩
      · rw [heq]
        exact hsigned
      · refine hshows.account hsigned ?_
        intro hselected
        exact absurd ⟨hselected, congrArg Event.selectTab hselected⟩ hretap

/-- Once `createNewAccount` has pushed the home screen, whether the account was created
or not, the user does not get back to the sign-up form or the account screen, until
the account tab is tapped again. -/
theorem signUp_stays_covered {app app' : FLTabBarController} (h : machine.Reachable app)
    (hsigned : signedUp <:+ app.stack .account) {es : List Event}
    (hrun : machine.run app es = some app')
    (hretap : machine.Along (fun app e _ => ¬ RetapsAccount app e) app es) :
    signedUp <:+ app'.stack .account ∧
      (app'.selected = .account → app'.top ≠ some .signUpVC ∧ app'.top ≠ some .accountVC) := by
  have hstep : ∀ s e s', machine.step s e = some s' → ¬ RetapsAccount s e →
      Consistent s ∧ signedUp <:+ s.stack .account →
      Consistent s' ∧ signedUp <:+ s'.stack .account := by
    intro s e s' hs hnot hinv
    exact ⟨Consistent.step hs hinv.1, signedUp_step hinv.1 hs hnot hinv.2⟩
  rcases EventMachine.run_invariant_along hstep hrun hretap
    ⟨reachable_consistent h, hsigned⟩ with ⟨hconsistent, hcovered⟩
  refine ⟨hcovered, ?_⟩
  intro hselected
  have hopened := hconsistent.opened .account
  -- the two screens have too little below them
  have hshort : ∀ screen, app'.top = some screen →
      (∀ rest, app'.stack .account = screen :: rest → rest.length < 2) → False := by
    intro screen htop hrest
    rcases stack_of_top htop with ⟨rest, hstack⟩
    rw [hselected] at hstack
    have hlength := hcovered.length_le
    have hlt := hrest rest hstack
    rw [hstack, List.length_cons] at hlength
    simp only [signedUp, List.length_cons, List.length_nil] at hlength
    omega
  constructor
  · intro htop
    refine hshort _ htop fun rest hstack => ?_
    rw [hstack] at hopened
    rw [hopened.signUp.2]
    decide
  · intro htop
    refine hshort _ htop fun rest hstack => ?_
    rw [hstack] at hopened
    rw [hopened.account.2]
    decide

/-- The sign-up form is sent off. -/
def signingUp : List Event := [.selectTab .account, .tapSignUp, .createAccount]

/-- Then a shop category is opened and left. -/
def leavingCategory : List Event := [.tapCategory 0, .back]

theorem sign_up_form_stays_covered :
    ∃ app app', machine.run launched signingUp = some app ∧
      machine.run app leavingCategory = some app' ∧
      signedUp <:+ app'.stack .account ∧
      (app'.selected = .account → app'.top ≠ some .signUpVC ∧ app'.top ≠ some .accountVC) := by
  refine ⟨_, _, rfl, rfl, ?_⟩
  refine @signUp_stays_covered _ _ ⟨launched, signingUp, rfl, rfl⟩ (List.suffix_refl _)
    leavingCategory rfl ?_
  refine (EventMachine.along_cons_of_some _ _ rfl).2 ⟨?_, ?_⟩
  · rintro ⟨-, heq⟩
    cases heq
  · refine (EventMachine.along_cons_of_some _ _ rfl).2 ⟨?_, trivial⟩
    rintro ⟨-, heq⟩
    cases heq

end FancyLife.FLTabBarController
