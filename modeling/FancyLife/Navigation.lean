import FancyLife.Models
import FancyLife.Lib.EventMachine
import Mathlib.Logic.Function.Basic

/-! # Navigation

The four tabs of the app, each with a navigation stack. A screen sets the bars
when it appears, and some screens leave them as they are, so that what is shown
depends on the way that was taken. `SearchVC` works with callbacks that come
later: the answer of `getShop` pushes, and the end of the search controller's
dismissal pops, whatever screen is on top by then.

Alerts, the presented search controller and the content of the screens are left out.
-/

namespace FancyLife

/-- The tabs of `FLTabBarController`, in the order of `viewControllers`. -/
inductive Tab where
  | home
  | shop
  | wallet
  | account
deriving DecidableEq

/-- A view controller on a stack; `number` tells two `SearchVC`s apart. -/
inductive Screen where
  | homeVC
  | shopVC (category : Option String)
  | searchVC (number : Nat)
  | shopInfoVC (shop : Shop)
  | productVC (shop : Shop)
  | eventVC (shop : Shop)
  | walletVC
  | accountVC
  | signUpVC
deriving DecidableEq

/-- The bars around a screen. -/
structure Bars where
  isNavigationBarHidden : Bool
  isTabBarHidden : Bool
deriving DecidableEq

namespace Screen

/-- What `viewWillAppear(_:)`, or `viewDidAppear(_:)` of the account screen, does
to the bars. -/
def appear (bars : Bars) : Screen → Bars
  | .homeVC => ⟨true, false⟩
  | .shopVC category => ⟨false, category.isSome⟩
  | .searchVC _ => ⟨false, true⟩
  | .accountVC => { bars with isNavigationBarHidden := true }
  | .shopInfoVC _ | .productVC _ | .eventVC _ | .walletVC | .signUpVC => bars

/-- What `viewWillDisappear(_:)` does to the bars. -/
def disappear (bars : Bars) : Screen → Bars
  | .signUpVC => { bars with isNavigationBarHidden := true }
  | _ => bars

end Screen

/-- A `UINavigationController`; the top of the stack comes first. -/
structure UINavigationController where
  viewControllers : List Screen
  isNavigationBarHidden : Bool

/-- The root of a tab's stack. -/
def Tab.root : Tab → Screen
  | .home => .homeVC
  | .shop => .shopVC none
  | .wallet => .walletVC
  | .account => .accountVC

/-- The app. `shopRequests` are the `SearchVC`s that wait for an answer of
`getShop`, and `dismissals` those whose search controller is being dismissed, one
entry each. -/
structure FLTabBarController where
  selected : Tab
  controllers : Tab → UINavigationController
  isTabBarHidden : Bool
  nextSearch : Nat
  shopRequests : List Nat
  dismissals : List Nat

namespace FLTabBarController

/-- What the user does, and the callbacks of `SearchVC`. -/
inductive Event where
  | selectTab (tab : Tab)
  | tapCategory (item : Nat)
  | tapSearchBar
  | tapShop (shop : Shop)
  | tapResult
  | shopAnswer (number : Nat) (result : Except FLError Shop)
  | tapRecommendation (shop : Shop)
  | tapProducts
  | tapEvents
  | back
  | cancel
  | dismissed (number : Nat)
  | tapSignUp
  | createAccount

def stack (app : FLTabBarController) (tab : Tab) : List Screen :=
  (app.controllers tab).viewControllers

/-- The screen that the user sees. -/
def top (app : FLTabBarController) : Option Screen := (app.stack app.selected).head?

/-- The bars around the selected tab's screen. -/
def bars (app : FLTabBarController) : Bars where
  isNavigationBarHidden := (app.controllers app.selected).isNavigationBarHidden
  isTabBarHidden := app.isTabBarHidden

def setBars (app : FLTabBarController) (bars : Bars) : FLTabBarController :=
  { app with
    controllers := Function.update app.controllers app.selected
      { app.controllers app.selected with isNavigationBarHidden := bars.isNavigationBarHidden }
    isTabBarHidden := bars.isTabBarHidden }

def setStack (app : FLTabBarController) (tab : Tab) (screens : List Screen) :
    FLTabBarController :=
  { app with
    controllers := Function.update app.controllers tab
      { app.controllers tab with viewControllers := screens } }

/-- The visible screen is about to disappear. -/
def leave (app : FLTabBarController) : FLTabBarController :=
  match app.top with
  | some screen => app.setBars (screen.disappear app.bars)
  | none => app

/-- The screen on top of the selected tab appears. -/
def enter (app : FLTabBarController) : FLTabBarController :=
  match app.top with
  | some screen => app.setBars (screen.appear app.bars)
  | none => app

/-- A new stack in a tab; the screens are told if the tab is on the screen. -/
def change (app : FLTabBarController) (tab : Tab) (screens : List Screen) :
    FLTabBarController :=
  if tab = app.selected then (app.leave.setStack tab screens).enter
  else app.setStack tab screens

/-- `navigationController?.pushViewController(screen, animated:)` in a tab. -/
def push (app : FLTabBarController) (tab : Tab) (screen : Screen) : FLTabBarController :=
  app.change tab (screen :: app.stack tab)

/-- `navigationController?.popViewController(animated:)`: a root stays. -/
def pop (app : FLTabBarController) (tab : Tab) : FLTabBarController :=
  match app.stack tab with
  | _ :: below :: rest => app.change tab (below :: rest)
  | _ => app

/-- UIKit, when the selected tab is tapped again. -/
def popToRoot (app : FLTabBarController) : FLTabBarController :=
  match app.stack app.selected with
  | _ :: below :: rest => app.change app.selected [(below :: rest).getLast (List.cons_ne_nil _ _)]
  | _ => app

/-- UIKit, when another tab is tapped. -/
def select (app : FLTabBarController) (tab : Tab) : FLTabBarController :=
  { app.leave with selected := tab }.enter

/-- The tab of a `SearchVC`; `none` when it has been popped, and its
`navigationController` is nil. -/
def tabOf (app : FLTabBarController) (number : Nat) : Option Tab :=
  [Tab.home, .shop, .wallet, .account].find? fun tab => .searchVC number ∈ app.stack tab

/-- `pushSignUpVC()` of `SignInVC`. -/
def pushSignUpVC (app : FLTabBarController) : FLTabBarController :=
  (app.setBars { app.bars with isNavigationBarHidden := false }).push app.selected .signUpVC

/-- `pushSearchVC()`. -/
def pushSearchVC (app : FLTabBarController) : FLTabBarController :=
  { app with nextSearch := app.nextSearch + 1 }.push app.selected (.searchVC app.nextSearch)

/-- The screens with a button in the navigation bar that pops them; on the sign-up
form it is the one of UIKit. -/
def hasBackButton : Screen → Bool
  | .shopInfoVC _ | .productVC _ | .eventVC _ | .signUpVC => true
  | .shopVC category => category.isSome
  | _ => false

/-- The closure of `getShop` in `SearchVC`. -/
def shopAnswered (app : FLTabBarController) (number : Nat) :
    Except FLError Shop → FLTabBarController
  | .ok shop =>
      match app.tabOf number with
      | some tab => app.push tab (.shopInfoVC shop)
      | none => app
  | .error _ => app

/-- The completion of `searchController.dismiss` in `popView()`. -/
def searchDismissed (app : FLTabBarController) (number : Nat) : FLTabBarController :=
  match app.tabOf number with
  | some tab => app.pop tab
  | none => app

/-- One step; `none` when what is tapped is not on the screen. -/
def step (app : FLTabBarController) : Event → Option FLTabBarController
  | .selectTab tab =>
      if app.isTabBarHidden then none
      else if tab = app.selected then some app.popToRoot
      else some (app.select tab)
  | .tapCategory item =>
      match app.top, HomeVC.options[item]? with
      | some .homeVC, some category => some (app.push app.selected (.shopVC (some category)))
      | _, _ => none
  | .tapSearchBar =>
      match app.top with
      | some .homeVC | some (.shopVC _) => some app.pushSearchVC
      | _ => none
  | .tapShop shop =>
      match app.top with
      | some (.shopVC _) => some (app.push app.selected (.shopInfoVC shop))
      | _ => none
  | .tapResult =>
      match app.top with
      | some (.searchVC number) => some { app with shopRequests := number :: app.shopRequests }
      | _ => none
  | .shopAnswer number result =>
      if number ∈ app.shopRequests then
        some ({ app with shopRequests := app.shopRequests.erase number }.shopAnswered number result)
      else none
  | .tapRecommendation shop =>
      match app.top with
      | some (.shopInfoVC _) => some (app.push app.selected (.shopInfoVC shop))
      | _ => none
  | .tapProducts =>
      match app.top with
      | some (.shopInfoVC shop) => some (app.push app.selected (.productVC shop))
      | _ => none
  | .tapEvents =>
      match app.top with
      | some (.shopInfoVC shop) => some (app.push app.selected (.eventVC shop))
      | _ => none
  | .back =>
      match app.top with
      | some screen =>
          if hasBackButton screen ∧ app.bars.isNavigationBarHidden = false then
            some (app.pop app.selected)
          else none
      | none => none
  | .cancel =>
      match app.top with
      | some (.searchVC number) =>
          if app.bars.isNavigationBarHidden = false then
            some { app with dismissals := number :: app.dismissals }
          else none
      | _ => none
  | .dismissed number =>
      if number ∈ app.dismissals then
        some ({ app with dismissals := app.dismissals.erase number }.searchDismissed number)
      else none
  | .tapSignUp =>
      match app.top with
      | some .accountVC => some app.pushSignUpVC
      | _ => none
  | .createAccount =>
      match app.top with
      | some .signUpVC => some (app.push app.selected .homeVC)
      | _ => none

/-- `FLTabBarController.viewDidLoad()`, with the home screen appearing. -/
def launched : FLTabBarController :=
  { selected := .home
    controllers := fun tab => ⟨[tab.root], false⟩
    isTabBarHidden := false
    nextSearch := 0
    shopRequests := []
    dismissals := [] : FLTabBarController }.enter

def machine : EventMachine FLTabBarController Event where
  init := (· = launched)
  step := step

/-! ## The screens on a stack -/

/-- `Follows screen below`: the app puts `screen` on top of `below`. -/
inductive Follows : Screen → Screen → Prop where
  | category (category : String) (hcategory : category ∈ HomeVC.options) :
      Follows (.shopVC (some category)) .homeVC
  | searchHome (number : Nat) : Follows (.searchVC number) .homeVC
  | searchShops (number : Nat) (category : Option String) :
      Follows (.searchVC number) (.shopVC category)
  | shop (shop : Shop) (category : Option String) : Follows (.shopInfoVC shop) (.shopVC category)
  | result (shop : Shop) (number : Nat) : Follows (.shopInfoVC shop) (.searchVC number)
  | recommended (shop shop' : Shop) : Follows (.shopInfoVC shop) (.shopInfoVC shop')
  | lateProducts (shop shop' : Shop) : Follows (.shopInfoVC shop) (.productVC shop')
  | lateEvents (shop shop' : Shop) : Follows (.shopInfoVC shop) (.eventVC shop')
  | products (shop : Shop) : Follows (.productVC shop) (.shopInfoVC shop)
  | events (shop : Shop) : Follows (.eventVC shop) (.shopInfoVC shop)
  | signUp : Follows .signUpVC .accountVC
  | home : Follows .homeVC .signUpVC

/-- The stacks of a tab. -/
inductive Opened (tab : Tab) : List Screen → Prop where
  | root : Opened tab [tab.root]
  | push (screen below : Screen) (rest : List Screen) (hfollows : Follows screen below)
      (hbelow : Opened tab (below :: rest)) : Opened tab (screen :: below :: rest)

/-- A screen that leaves the bars as they are, opened from a shop or a search. -/
def isDetail : Screen → Bool
  | .shopInfoVC _ | .productVC _ | .eventVC _ => true
  | _ => false

/-- The tab bar as the topmost screen sets it that does set it. -/
def tabBarHiddenBy : List Screen → Bool
  | [] => false
  | .homeVC :: _ => false
  | .shopVC category :: _ => category.isSome
  | .searchVC _ :: _ => true
  | _ :: rest => tabBarHiddenBy rest

/-- Whether a screen has the navigation bar hidden. The sign-up form has it shown for it
once, and hides it when it disappears: see `turnedAway`. -/
def navigationBarHiddenBy : Screen → Option Bool
  | .homeVC | .accountVC => some true
  | .signUpVC => none
  | _ => some false

variable {tab : Tab} {screen below : Screen} {rest screens : List Screen}

theorem Opened.ne_nil (h : Opened tab screens) : screens ≠ [] := by
  cases h with
  | root => exact List.cons_ne_nil _ _
  | push => exact List.cons_ne_nil _ _

theorem Opened.getLast (h : Opened tab screens) : screens.getLast h.ne_nil = tab.root := by
  induction h with
  | root => rfl
  | push screen below rest hfollows hbelow ih =>
      rw [List.getLast_cons (List.cons_ne_nil below rest)]
      exact ih

/-- Only detail screens lie on a search or on one another. -/
theorem Follows.detail (h : Follows screen below)
    (hbelow : (∃ number, below = .searchVC number) ∨ isDetail below = true) :
    isDetail screen = true := by
  rcases hbelow with ⟨number, rfl⟩ | hdetail
  · cases h with
    | result => rfl
  · cases h with
    | result | recommended | lateProducts | lateEvents | products | events => rfl
    | category | searchHome | searchShops | shop | signUp | home => cases hdetail

theorem tabBarHiddenBy_detail (rest : List Screen) (h : isDetail screen = true) :
    tabBarHiddenBy (screen :: rest) = tabBarHiddenBy rest := by
  cases screen with
  | shopInfoVC | productVC | eventVC => rfl
  | _ => cases h

/-- What is above a search on the stack are detail screens. -/
theorem Opened.above_search {number : Nat} (h : Opened tab screens)
    (hmem : .searchVC number ∈ screens) :
    tabBarHiddenBy screens = true ∧ ∃ top rest, screens = top :: rest ∧
      ((∃ n, top = .searchVC n) ∨ isDetail top = true) := by
  induction h with
  | root =>
      rw [List.mem_singleton] at hmem
      cases tab <;> cases hmem
  | push screen below rest hfollows hbelow ih =>
      rcases List.mem_cons.1 hmem with heq | hmem
      · subst heq
        exact ⟨rfl, _, _, rfl, Or.inl ⟨number, rfl⟩⟩
      · rcases ih hmem with ⟨hhidden, top, rest', heq, htop⟩
        rcases List.cons.inj heq with ⟨rfl, rfl⟩
        have hdetail := hfollows.detail htop
        refine ⟨?_, _, _, rfl, Or.inr hdetail⟩
        rw [tabBarHiddenBy_detail _ hdetail]
        exact hhidden

/-! ## The bars fit the screens -/

/-- The bars around the top of a stack that is shown. -/
structure Fits (screens : List Screen) (bars : Bars) : Prop where
  tabBar : bars.isTabBarHidden = tabBarHiddenBy screens
  navigationBar : ∀ screen ∈ screens.head?, ∀ hidden ∈ navigationBarHiddenBy screen,
    bars.isNavigationBarHidden = hidden

/-- A stack in the background: its screens do without a hidden tab bar, or the user
could not have left the tab. -/
structure Waits (screens : List Screen) (isNavigationBarHidden : Bool) : Prop where
  tabBar : tabBarHiddenBy screens = false
  navigationBar : ∀ screen ∈ screens.head?, navigationBarHiddenBy screen = some false →
    isNavigationBarHidden = false

/-- A screen is pushed: details find the navigation bar shown. -/
theorem Fits.push {bars : Bars} (hfollows : Follows screen below)
    (htabBar : bars.isTabBarHidden = tabBarHiddenBy (below :: rest))
    (hdetail : isDetail screen = true → bars.isNavigationBarHidden = false) :
    Fits (screen :: below :: rest) (screen.appear (below.disappear bars)) := by
  cases hfollows with
  | category | searchHome | searchShops =>
      exact ⟨rfl, fun s hs hidden hhidden => by cases hs; cases hhidden; rfl⟩
  | home => exact ⟨rfl, fun s hs hidden hhidden => by cases hs; cases hhidden; rfl⟩
  | signUp => exact ⟨htabBar, fun s hs hidden hhidden => by cases hs; cases hhidden⟩
  | shop | result | recommended | lateProducts | lateEvents | products | events =>
      refine ⟨htabBar, fun s hs hidden hhidden => ?_⟩
      cases hs
      cases hhidden
      exact hdetail rfl

/-- The top is popped; the home screen over the sign-up form never is. -/
theorem Fits.pop {bars : Bars} (hfollows : Follows screen below) (hhome : screen ≠ .homeVC)
    (h : Fits (screen :: below :: rest) bars) :
    Fits (below :: rest) (below.appear (screen.disappear bars)) := by
  have hdetail : ∀ hidden ∈ navigationBarHiddenBy screen, bars.isNavigationBarHidden = hidden :=
    h.navigationBar screen rfl
  cases hfollows with
  | category | searchHome | searchShops | shop | result =>
      exact ⟨rfl, fun s hs hidden hhidden => by cases hs; cases hhidden; rfl⟩
  | recommended | lateProducts | lateEvents | products | events =>
      refine ⟨h.tabBar, fun s hs hidden hhidden => ?_⟩
      cases hs
      cases hhidden
      exact hdetail false rfl
  | signUp => exact ⟨h.tabBar, fun s hs hidden hhidden => by cases hs; cases hhidden; rfl⟩
  | home => exact absurd rfl hhome

/-- A stack in the background comes to the front. -/
theorem Waits.enter {hidden : Bool} (h : Waits (screen :: rest) hidden) :
    Fits (screen :: rest) (screen.appear ⟨hidden, false⟩) := by
  have hshown : navigationBarHiddenBy screen = some false → hidden = false :=
    h.navigationBar screen rfl
  cases screen with
  | homeVC | shopVC | searchVC =>
      exact ⟨rfl, fun s hs hidden hhidden => by cases hs; cases hhidden; rfl⟩
  | accountVC => exact ⟨h.tabBar.symm, fun s hs hidden hhidden => by cases hs; cases hhidden; rfl⟩
  | signUpVC => exact ⟨h.tabBar.symm, fun s hs hidden hhidden => by cases hs; cases hhidden⟩
  | shopInfoVC | productVC | eventVC | walletVC =>
      refine ⟨h.tabBar.symm, fun s hs b hb => ?_⟩
      cases hs
      cases hb
      exact hshown rfl

/-- The stack on the screen goes to the background. -/
theorem Fits.leave {bars : Bars} (h : Fits (screen :: rest) bars)
    (htabBar : bars.isTabBarHidden = false) :
    Waits (screen :: rest) (screen.disappear bars).isNavigationBarHidden := by
  refine ⟨h.tabBar.symm.trans htabBar, fun s hs hshown => ?_⟩
  cases hs
  have hbar := h.navigationBar screen rfl false hshown
  cases screen with
  | signUpVC => cases hshown
  | _ => exact hbar

/-- The stacks are possible ones, the bars fit the screen that is shown, and the
other tabs wait. -/
structure Consistent (app : FLTabBarController) : Prop where
  opened : ∀ tab, Opened tab (app.stack tab)
  visible : Fits (app.stack app.selected) app.bars
  background : ∀ tab, tab ≠ app.selected →
    Waits (app.stack tab) (app.controllers tab).isNavigationBarHidden

section Changes

variable {app app' : FLTabBarController} {top : Screen}

@[simp] theorem stack_setBars (bars : Bars) (tab : Tab) :
    (app.setBars bars).stack tab = app.stack tab := by
  by_cases htab : tab = app.selected
  · subst htab
    simp only [stack, setBars, Function.update_self]
  · simp only [stack, setBars, Function.update_of_ne htab]

@[simp] theorem bars_setBars (bars : Bars) : (app.setBars bars).bars = bars := by
  unfold FLTabBarController.bars setBars
  simp only [Function.update_self]

theorem controllers_setBars (bars : Bars) (htab : tab ≠ app.selected) :
    (app.setBars bars).controllers tab = app.controllers tab := Function.update_of_ne htab _ _

theorem top_of_stack (h : app.stack app.selected = top :: rest) : app.top = some top := by
  unfold FLTabBarController.top
  rw [h]
  rfl

theorem leave_eq (h : app.stack app.selected = top :: rest) :
    app.leave = app.setBars (top.disappear app.bars) := by
  unfold leave
  rw [top_of_stack h]

theorem enter_eq (h : app.stack app.selected = top :: rest) :
    app.enter = app.setBars (top.appear app.bars) := by
  unfold enter
  rw [top_of_stack h]

@[simp] theorem stack_leave (tab : Tab) : app.leave.stack tab = app.stack tab := by
  unfold leave
  split
  · exact stack_setBars _ tab
  · rfl

@[simp] theorem stack_enter (tab : Tab) : app.enter.stack tab = app.stack tab := by
  unfold enter
  split
  · exact stack_setBars _ tab
  · rfl

@[simp] theorem selected_enter : app.enter.selected = app.selected := by
  unfold enter
  split <;> rfl

/-- The same app but for the stack and the bars that are shown. -/
structure Shows (app app' : FLTabBarController) (screens : List Screen) (bars : Bars) : Prop where
  selected : app'.selected = app.selected
  stack : app'.stack app.selected = screens
  bars : app'.bars = bars
  others : ∀ tab, tab ≠ app.selected → app'.controllers tab = app.controllers tab

/-- What a change of the visible stack shows. -/
theorem change_shows (h : app.stack app.selected = top :: rest) (screen : Screen)
    (screens : List Screen) :
    Shows app (app.change app.selected (screen :: screens)) (screen :: screens)
      (screen.appear (top.disappear app.bars)) := by
  have hset : ((app.setBars (top.disappear app.bars)).setStack app.selected
      (screen :: screens)).stack app.selected = screen :: screens := by
    simp only [FLTabBarController.stack, setStack, Function.update_self]
  have hbars : ((app.setBars (top.disappear app.bars)).setStack app.selected
      (screen :: screens)).bars = top.disappear app.bars := by
    simp only [FLTabBarController.bars, setStack, setBars, Function.update_self]
  unfold change
  rw [if_pos rfl, leave_eq h]
  rw [enter_eq hset, hbars]
  refine ⟨rfl, ?_, bars_setBars _, ?_⟩
  · rw [stack_setBars]
    exact hset
  · intro tab htab
    have hbelow : (app.setBars (top.disappear app.bars)).controllers tab = app.controllers tab :=
      controllers_setBars _ htab
    have hchanged : ((app.setBars (top.disappear app.bars)).setStack app.selected
        (screen :: screens)).controllers tab = app.controllers tab :=
      (Function.update_of_ne htab _ _).trans hbelow
    exact (Function.update_of_ne htab _ _).trans hchanged

theorem Consistent.shows {bars : Bars} (h : Consistent app) (hshows : Shows app app' screens bars)
    (hopened : Opened app.selected screens) (hfits : Fits screens bars) : Consistent app' := by
  have hothers : ∀ tab, tab ≠ app.selected → app'.stack tab = app.stack tab := by
    intro tab htab
    unfold FLTabBarController.stack
    rw [hshows.others tab htab]
  refine ⟨?_, ?_, ?_⟩
  · intro tab
    by_cases htab : tab = app.selected
    · rw [htab, hshows.stack]
      exact hopened
    · rw [hothers tab htab]
      exact h.opened tab
  · rw [hshows.selected, hshows.stack, hshows.bars]
    exact hfits
  · intro tab htab
    rw [hshows.selected] at htab
    rw [hothers tab htab, hshows.others tab htab]
    exact h.background tab htab

/-- A visible stack has a top. -/
theorem Consistent.exists_top (h : Consistent app) (tab : Tab) :
    ∃ top rest, app.stack tab = top :: rest :=
  List.exists_cons_of_ne_nil (h.opened tab).ne_nil

/-- A detail screen is pushed onto a screen with a navigation bar. -/
theorem Follows.shown (hfollows : Follows screen below) (hdetail : isDetail screen = true) :
    navigationBarHiddenBy below = some false := by
  cases hfollows with
  | shop | result | recommended | lateProducts | lateEvents | products | events => rfl
  | category | searchHome | searchShops | signUp | home => cases hdetail

theorem Consistent.push (h : Consistent app) (hstack : app.stack app.selected = top :: rest)
    (hfollows : Follows screen top) : Consistent (app.push app.selected screen) := by
  have hopened := h.opened app.selected
  have hvisible := h.visible
  rw [hstack] at hopened hvisible
  unfold FLTabBarController.push
  rw [hstack]
  refine h.shows (change_shows hstack screen (top :: rest)) (.push _ _ _ hfollows hopened) ?_
  refine Fits.push hfollows hvisible.tabBar ?_
  intro hdetail
  exact hvisible.navigationBar top rfl false (hfollows.shown hdetail)

/-- The sign-up form finds a navigation bar that was shown for it. -/
theorem pushSignUpVC_shows (hstack : app.stack app.selected = .accountVC :: rest) :
    Shows app app.pushSignUpVC (.signUpVC :: .accountVC :: rest)
      { app.bars with isNavigationBarHidden := false } := by
  unfold FLTabBarController.pushSignUpVC FLTabBarController.push
  generalize hbars : ({ app.bars with isNavigationBarHidden := false } : Bars) = bars
  have hstack' : (app.setBars bars).stack app.selected = .accountVC :: rest := by
    rw [stack_setBars]
    exact hstack
  have hshows := change_shows hstack' .signUpVC (.accountVC :: rest)
  rw [bars_setBars] at hshows
  rw [hstack']
  refine ⟨hshows.selected, hshows.stack, hshows.bars, ?_⟩
  intro tab htab
  exact (hshows.others tab htab).trans (controllers_setBars _ htab)

theorem Consistent.pushSignUpVC (h : Consistent app)
    (hstack : app.stack app.selected = .accountVC :: rest) : Consistent app.pushSignUpVC := by
  have hopened := h.opened app.selected
  have htabBar := h.visible.tabBar
  rw [hstack] at hopened htabBar
  refine h.shows (pushSignUpVC_shows hstack) (.push _ _ _ .signUp hopened) ⟨htabBar, ?_⟩
  intro screen hscreen hidden hhidden
  cases hscreen
  cases hhidden

theorem Consistent.pop (h : Consistent app) (hstack : app.stack app.selected = top :: rest)
    (hhome : top ≠ .homeVC) : Consistent (app.pop app.selected) := by
  unfold FLTabBarController.pop
  have hopened := h.opened app.selected
  have hvisible := h.visible
  rw [hstack] at hopened hvisible ⊢
  cases hopened with
  | root => exact h
  | push _ below rest' hfollows hbelow =>
      exact h.shows (change_shows hstack below rest') hbelow (hvisible.pop hfollows hhome)

@[simp] theorem isTabBarHidden_disappear (screen : Screen) (bars : Bars) :
    (screen.disappear bars).isTabBarHidden = bars.isTabBarHidden := by
  cases screen <;> rfl

@[simp] theorem stack_select (tab t : Tab) : (app.select tab).stack t = app.stack t := by
  unfold FLTabBarController.select
  rw [stack_enter]
  exact stack_leave t

@[simp] theorem selected_select (tab : Tab) : (app.select tab).selected = tab := by
  unfold FLTabBarController.select
  rw [selected_enter]

@[simp] theorem bars_leave (h : app.stack app.selected = top :: rest) :
    app.leave.bars = top.disappear app.bars := by
  rw [leave_eq h]
  exact bars_setBars _

@[simp] theorem isTabBarHidden_leave : app.leave.isTabBarHidden = app.isTabBarHidden := by
  unfold leave
  split
  · exact isTabBarHidden_disappear _ _
  · rfl

theorem controllers_leave (htab : tab ≠ app.selected) :
    app.leave.controllers tab = app.controllers tab := by
  unfold leave
  split
  · exact controllers_setBars _ htab
  · rfl

theorem controllers_enter (htab : tab ≠ app.selected) :
    app.enter.controllers tab = app.controllers tab := by
  unfold enter
  split
  · exact controllers_setBars _ htab
  · rfl

/-- The tab that is left keeps its bar as its screen leaves it. -/
theorem controllers_select_old (hstack : app.stack app.selected = top :: rest)
    (htab : tab ≠ app.selected) :
    ((app.select tab).controllers app.selected).isNavigationBarHidden =
      (top.disappear app.bars).isNavigationBarHidden := by
  have hselect : (app.select tab).controllers app.selected =
      app.leave.controllers app.selected :=
    @controllers_enter _ { app.leave with selected := tab } htab.symm
  have hselected : app.leave.selected = app.selected := by
    rw [leave_eq hstack]
    rfl
  rw [hselect, ← bars_leave hstack]
  unfold FLTabBarController.bars
  rw [hselected]

/-- The other tabs keep theirs. -/
theorem controllers_select_other {t : Tab} (ht : t ≠ tab) (hfront : t ≠ app.selected) :
    (app.select tab).controllers t = app.controllers t :=
  (@controllers_enter _ { app.leave with selected := tab } ht).trans (controllers_leave hfront)

/-- The tab that comes to the front shows its top the bar that it had. -/
theorem bars_select (hstack : app.stack tab = top :: rest) (htabBar : app.isTabBarHidden = false)
    (htab : tab ≠ app.selected) :
    (app.select tab).bars = top.appear ⟨(app.controllers tab).isNavigationBarHidden, false⟩ := by
  have hstack' : ({ app.leave with selected := tab } : FLTabBarController).stack tab =
      top :: rest := (stack_leave tab).trans hstack
  have hbars : ({ app.leave with selected := tab } : FLTabBarController).bars =
      ⟨(app.controllers tab).isNavigationBarHidden, false⟩ := by
    unfold FLTabBarController.bars
    rw [controllers_leave htab]
    exact congrArg _ (isTabBarHidden_leave.trans htabBar)
  unfold FLTabBarController.select
  rw [enter_eq hstack', hbars]
  exact bars_setBars _

/-- Another tab comes to the front. -/
theorem Consistent.select (h : Consistent app) (htabBar : app.isTabBarHidden = false)
    (htab : tab ≠ app.selected) : Consistent (app.select tab) := by
  rcases h.exists_top app.selected with ⟨old, oldRest, hold⟩
  rcases h.exists_top tab with ⟨new, newRest, hnew⟩
  refine ⟨?_, ?_, ?_⟩
  · intro t
    rw [stack_select]
    exact h.opened t
  · have hwaits := h.background tab htab
    rw [hnew] at hwaits
    rw [selected_select, stack_select, hnew, bars_select hnew htabBar htab]
    exact hwaits.enter
  · intro t ht
    rw [selected_select] at ht
    rw [stack_select]
    by_cases hfront : t = app.selected
    · -- the tab that was on the screen
      have hvisible := h.visible
      rw [hold] at hvisible
      rw [hfront, hold, controllers_select_old hold htab]
      exact hvisible.leave htabBar
    · rw [controllers_select_other ht hfront]
      exact h.background t hfront

/-- The root of a tab, when the bars have room for it. -/
theorem Fits.root {bars : Bars} (htabBar : bars.isTabBarHidden = false)
    (hwallet : tab = .wallet → bars.isNavigationBarHidden = false) :
    Fits [tab.root] (tab.root.appear bars) := by
  cases tab with
  | home | shop => exact ⟨rfl, fun s hs hidden hhidden => by cases hs; cases hhidden; rfl⟩
  | account => exact ⟨htabBar, fun s hs hidden hhidden => by cases hs; cases hhidden; rfl⟩
  | wallet =>
      refine ⟨htabBar, fun s hs hidden hhidden => ?_⟩
      cases hs
      cases hhidden
      exact hwallet rfl

/-- Nothing is pushed onto the wallet. -/
theorem Opened.wallet (h : Opened .wallet screens) : screens = [.walletVC] := by
  induction h with
  | root => rfl
  | push screen below rest hfollows hbelow ih =>
      rcases List.cons.inj ih with ⟨rfl, rfl⟩
      cases hfollows

/-- Only the root is left. -/
theorem popToRoot_cases (h : Consistent app) :
    (app.popToRoot = app ∧ app.stack app.selected = [app.selected.root]) ∨
      ∃ top below rest, app.stack app.selected = top :: below :: rest ∧
        Shows app app.popToRoot [app.selected.root]
          (app.selected.root.appear (top.disappear app.bars)) := by
  rcases h.exists_top app.selected with ⟨top, rest, hstack⟩
  have hopened := h.opened app.selected
  unfold FLTabBarController.popToRoot
  rw [hstack] at hopened ⊢
  have hlast := hopened.getLast
  cases hopened with
  | root => exact Or.inl ⟨rfl, rfl⟩
  | push _ below rest' hfollows hbelow =>
      rw [List.getLast_cons (List.cons_ne_nil below rest')] at hlast
      simp only [hlast]
      exact Or.inr ⟨top, below, rest', rfl, change_shows hstack app.selected.root []⟩

theorem Consistent.popToRoot (h : Consistent app) (htabBar : app.isTabBarHidden = false) :
    Consistent app.popToRoot ∧ app.popToRoot.selected = app.selected ∧
      app.popToRoot.stack app.selected = [app.selected.root] := by
  rcases popToRoot_cases h with ⟨heq, hstack⟩ | ⟨top, below, rest, hstack, hshows⟩
  · rw [heq]
    exact ⟨h, rfl, hstack⟩
  · refine ⟨h.shows hshows .root (Fits.root ?_ ?_), hshows.selected, hshows.stack⟩
    · rw [isTabBarHidden_disappear]
      exact htabBar
    · intro hwallet
      have hopened := h.opened app.selected
      rw [hstack, hwallet] at hopened
      cases (List.cons.inj hopened.wallet).2

/-- A search that is still on a stack is on the one that is shown. -/
theorem Consistent.tabOf (h : Consistent app) {number : Nat}
    (htabOf : app.tabOf number = some tab) :
    tab = app.selected ∧ ∃ top rest, app.stack app.selected = top :: rest ∧
      ((∃ n, top = .searchVC n) ∨ isDetail top = true) := by
  have hmem : .searchVC number ∈ app.stack tab := by
    simpa using List.find?_some htabOf
  rcases (h.opened tab).above_search hmem with ⟨hhidden, htop⟩
  have hselected : tab = app.selected := by
    by_contra hne
    have hshown := (h.background tab hne).tabBar
    rw [hhidden] at hshown
    cases hshown
  rw [← hselected]
  exact ⟨rfl, htop⟩

end Changes

end FLTabBarController

end FancyLife
