import FancyLife.Models
import FancyLife.Lib.MainLoop
import FancyLife.Lib.Snapshot
import Mathlib.Data.Nat.ModEq

/-! # FLAdvertVC

The advertisements on the home page. A timer fires every two seconds and scrolls
to the next image; behind the last one it starts over. The firing that starts
over shows image 0 without counting it, so the next one shows it again.
-/

namespace FancyLife

/-- The screen; `scrolled` is the item it last scrolled to, and `firing` says
that the timer has been scheduled. -/
structure FLAdvertVC where
  images : List AdImage
  currentIndex : Nat
  numberOfPages : Nat
  currentPage : Nat
  scrolled : Option Nat
  dataSource : Option (Snapshot Nat AdImage)
  requested : Bool
  firing : Bool

namespace FLAdvertVC

inductive Event where
  | answer (result : Except FLError (List AdImage))
  | timerFires

inductive Block where
  | scheduleTimer
  | apply (snapshot : Snapshot Nat AdImage)
  | present (alert : FLAlert)

/-- `pageControl.currentPage = page`; the page control keeps it in range. -/
def setCurrentPage (vc : FLAdvertVC) (page : Nat) : FLAdvertVC :=
  { vc with currentPage := min page (vc.numberOfPages - 1) }

/-- `sliderCollectionView.scrollToItem(at: IndexPath(item: item, section: 0), ...)`;
`none` is the exception for an item that is not displayed. -/
def scrollToItem (vc : FLAdvertVC) (item : Nat) : Option FLAdvertVC :=
  (vc.dataSource.bind (·.item 0 item)).map fun _ => { vc with scrolled := some item }

/-- `changeImage()`. -/
def changeImage (vc : FLAdvertVC) : Option FLAdvertVC :=
  if vc.currentIndex < vc.images.length then do
    let vc ← vc.scrollToItem vc.currentIndex
    let vc := vc.setCurrentPage vc.currentIndex
    return { vc with currentIndex := vc.currentIndex + 1 }
  else do
    let vc := { vc with currentIndex := 0 }
    let vc ← vc.scrollToItem vc.currentIndex
    return vc.setCurrentPage vc.currentIndex

/-- The snapshot of `updateData()`. -/
def snapshot (images : List AdImage) : Snapshot Nat AdImage := Snapshot.empty.append 0 images

/-- The closure of `getImages()`, with `activateScrollImages()` and `updateData()`. -/
def answered (vc : FLAdvertVC) : Except FLError (List AdImage) → FLAdvertVC × List Block
  | .ok imageList =>
      ({ vc with images := imageList, numberOfPages := imageList.length, currentPage := 0 },
        [.scheduleTimer, .apply (snapshot imageList)])
  | .error error =>
      (vc, [.present { title := "错误！", message := error.rawValue, buttonTitle := "确认" }])

/-- The handlers of the screen. The timer does not fire before it is scheduled. -/
def handlers : Handlers FLAdvertVC Event Block where
  handle vc
    | .answer result =>
        if vc.requested then
          let (vc, deferred) := answered { vc with requested := false } result
          some (.ok vc deferred)
        else none
    | .timerFires =>
        if vc.firing then
          match vc.changeImage with
          | some vc => some (.ok vc [])
          | none => some .trap
        else none
  block vc
    | .scheduleTimer => .ok { vc with firing := true } []
    | .apply snapshot => .ok { vc with dataSource := some snapshot } []
    | .present _ => .ok vc []

/-- `viewDidLoad()`: the images are requested. -/
def viewDidLoad : MainLoop FLAdvertVC Block :=
  .start
    { images := [], currentIndex := 0, numberOfPages := 0, currentPage := 0, scrolled := none
      dataSource := none, requested := true, firing := false } []

def machine : EventMachine (MainLoop FLAdvertVC Block) (LoopStep Event) :=
  MainLoop.machine handlers (· = viewDidLoad)

/-- The images arrive, and the two blocks of their closure run. -/
def load (images : List AdImage) : List (LoopStep Event) :=
  [.event (.answer (.ok images)), .block, .block]

/-- `t` firings of the timer. -/
def firings (t : Nat) : List (LoopStep Event) := List.replicate t (.event .timerFires)

/-! ## Firings -/

/-- The item that firing number `t` (from 0) shows: one cycle is `n + 1` firings
long, and its last firing shows image 0. -/
def shown (n t : Nat) : Nat := if t % (n + 1) < n then t % (n + 1) else 0

/-- The screen shows `imageList`, and the timer has fired `t` times. -/
structure Fired (imageList : List AdImage) (t : Nat) (l : MainLoop FLAdvertVC Block) :
    Prop where
  images : l.state.images = imageList
  numberOfPages : l.state.numberOfPages = imageList.length
  dataSource : l.state.dataSource = some (snapshot imageList)
  firing : l.state.firing = true
  queue : l.queue = []
  trapped : l.trapped = false
  currentIndex : l.state.currentIndex = t % (imageList.length + 1)

theorem item_snapshot (images : List AdImage) (i : Nat) :
    (snapshot images).item 0 i = images[i]? := rfl

/-- Scrolling to an image that is displayed. -/
theorem scrollToItem_of_lt {vc : FLAdvertVC} {images : List AdImage} {i : Nat}
    (hsource : vc.dataSource = some (snapshot images)) (hi : i < images.length) :
    vc.scrollToItem i = some { vc with scrolled := some i } := by
  unfold scrollToItem
  rw [hsource, Option.bind_some, item_snapshot, List.getElem?_eq_getElem hi]
  rfl

/-- The counter behind the last image of a cycle. -/
theorem succ_mod_of_eq {n t : Nat} (h : t % (n + 1) = n) : (t + 1) % (n + 1) = 0 := by
  rw [Nat.add_mod, h]
  rcases Nat.eq_zero_or_pos n with rfl | hn
  · rfl
  · rw [Nat.mod_eq_of_lt (by omega : 1 < n + 1), Nat.mod_self]

theorem succ_mod_of_lt {n t : Nat} (h : t % (n + 1) < n) :
    (t + 1) % (n + 1) = t % (n + 1) + 1 := by
  rw [Nat.add_mod, Nat.mod_eq_of_lt (by omega : 1 < n + 1),
    Nat.mod_eq_of_lt (by omega : t % (n + 1) + 1 < n + 1)]

/-- Step lemma: a firing shows the next item of the cycle and counts on. -/
theorem Fired.step {images : List AdImage} (himages : images ≠ []) {t : Nat}
    {l : MainLoop FLAdvertVC Block} (hl : Fired images t l) :
    ∃ l', machine.step l (.event .timerFires) = some l' ∧ Fired images (t + 1) l' ∧
      l'.state.scrolled = some (shown images.length t) ∧
      l'.state.currentPage = shown images.length t := by
  have hpos : 0 < images.length := List.length_pos_iff.2 himages
  rcases l with ⟨vc, queue, trapped⟩
  obtain rfl : queue = [] := hl.queue
  obtain rfl : trapped = false := hl.trapped
  have hindex : vc.currentIndex = t % (images.length + 1) := hl.currentIndex
  obtain rfl : vc.images = images := hl.images
  have hpages : vc.numberOfPages = vc.images.length := hl.numberOfPages
  have hfiring : vc.firing = true := hl.firing
  -- it is enough to run `changeImage`
  suffices hchange : ∃ vc', vc.changeImage = some vc' ∧ Fired vc.images (t + 1) ⟨vc', [], false⟩ ∧
      vc'.scrolled = some (shown vc.images.length t) ∧
      vc'.currentPage = shown vc.images.length t by
    rcases hchange with ⟨vc', hrun, hfired, hshown⟩
    refine ⟨⟨vc', [], false⟩, ?_, hfired, hshown⟩
    simp [machine, MainLoop.machine, MainLoop.step, handlers, hfiring, hrun]
  unfold changeImage shown
  rw [hindex]
  by_cases hlt : t % (vc.images.length + 1) < vc.images.length
  · rw [if_pos hlt, if_pos hlt, scrollToItem_of_lt hl.dataSource hlt]
    refine ⟨_, rfl, ⟨rfl, hpages, hl.dataSource, hfiring, rfl, rfl, ?_⟩, rfl, ?_⟩
    · have hnext := succ_mod_of_lt hlt
      simp only [setCurrentPage, hindex, hnext]
    · simp only [setCurrentPage, hpages, hindex]
      omega
  · have hmod : t % (vc.images.length + 1) < vc.images.length + 1 := Nat.mod_lt t (Nat.succ_pos _)
    have hlast : t % (vc.images.length + 1) = vc.images.length := by omega
    have hscroll : scrollToItem { vc with currentIndex := 0 } 0 =
        some { vc with currentIndex := 0, scrolled := some 0 } :=
      scrollToItem_of_lt hl.dataSource hpos
    rw [if_neg hlt, if_neg hlt]
    simp only [hscroll]
    refine ⟨_, rfl, ⟨rfl, hpages, hl.dataSource, hfiring, rfl, rfl, ?_⟩, rfl, ?_⟩
    · exact (succ_mod_of_eq hlast).symm
    · simp only [setCurrentPage]
      omega

/-- The images are loaded, and the timer has not fired yet. -/
theorem load_run (images : List AdImage) :
    ∃ l, machine.run viewDidLoad (load images) = some l ∧ Fired images 0 l :=
  ⟨_, rfl, rfl, rfl, rfl, rfl, rfl, rfl, (Nat.zero_mod _).symm⟩

/-- Run lemma: the timer can fire any number of times. -/
theorem Fired.run {images : List AdImage} (himages : images ≠ []) (k : Nat) {t : Nat}
    {l : MainLoop FLAdvertVC Block} (hl : Fired images t l) :
    ∃ l', machine.run l (firings k) = some l' ∧ Fired images (t + k) l' := by
  induction k generalizing t l with
  | zero => exact ⟨l, rfl, hl⟩
  | succ k ih =>
      rcases hl.step himages with ⟨l₁, hstep, hfired, -⟩
      rcases ih hfired with ⟨l', hrun, hfired'⟩
      refine ⟨l', (machine.run_cons_eq_some).2 ⟨l₁, hstep, hrun⟩, ?_⟩
      rwa [Nat.add_assoc, Nat.add_comm 1 k] at hfired'

/-! ## When the cycle has the right length -/

/-- Each of the `t / (n + 1)` cycles before has put the show one image behind. -/
theorem mod_eq_add_mod (n t : Nat) : t % n = (t / (n + 1) + t % (n + 1)) % n := by
  have ht := Nat.div_add_mod t (n + 1)
  have hsplit : t = t / (n + 1) + t % (n + 1) + n * (t / (n + 1)) := by
    rw [Nat.succ_mul] at ht
    omega
  calc t % n = (t / (n + 1) + t % (n + 1) + n * (t / (n + 1))) % n := by rw [← hsplit]
    _ = (t / (n + 1) + t % (n + 1)) % n := Nat.add_mul_mod_self_left _ _ _

theorem shown_eq_mod (n t : Nat) : shown n t = t % (n + 1) % n := by
  have hmod : t % (n + 1) < n + 1 := Nat.mod_lt t (Nat.succ_pos n)
  unfold shown
  split
  · rename_i hlt
    exact (Nat.mod_eq_of_lt hlt).symm
  · have hlast : t % (n + 1) = n := by omega
    rw [hlast, Nat.mod_self]

theorem shown_eq_iff (n t : Nat) : shown n t = t % n ↔ n ∣ t / (n + 1) := by
  rw [shown_eq_mod n t, mod_eq_add_mod n t]
  constructor
  · intro h
    have hdvd := (Nat.modEq_iff_dvd' (Nat.le_add_left (t % (n + 1)) (t / (n + 1)))).1 h
    rwa [Nat.add_sub_cancel] at hdvd
  · intro h
    rw [Nat.add_mod, Nat.mod_eq_zero_of_dvd h, Nat.zero_add, Nat.mod_mod]

/-- After the images have been loaded, firing number `t` (from 0) of the timer
scrolls to item `t % n` and selects that page exactly when `n` divides the number
of times that the show has started over before. -/
theorem firing_shows_iff (images : List AdImage) (himages : images ≠ []) (t : Nat) :
    ∃ l, machine.run viewDidLoad (load images ++ firings (t + 1)) = some l ∧
      l.trapped = false ∧
      ((l.state.scrolled = some (t % images.length) ∧
          l.state.currentPage = t % images.length) ↔
        images.length ∣ t / (images.length + 1)) := by
  rcases load_run images with ⟨l₀, hload, hfired₀⟩
  rcases hfired₀.run himages t with ⟨l₁, hrun, hfired⟩
  rw [Nat.zero_add] at hfired
  rcases hfired.step himages with ⟨l, hstep, hfired', hscrolled, hpage⟩
  have hfirings : machine.run l₀ (firings (t + 1)) = some l := by
    rw [firings, List.replicate_succ', EventMachine.run_append]
    have hrun' : machine.run l₀ (List.replicate t (.event .timerFires)) = some l₁ := hrun
    rw [hrun', Option.bind_some, EventMachine.run_cons, hstep]
    rfl
  refine ⟨l, ?_, hfired'.trapped, ?_⟩
  · rw [EventMachine.run_append, hload]
    exact hfirings
  · rw [← shown_eq_iff, hscrolled, hpage,
      Option.some.injEq, and_self]

/-- Two advertisements. -/
def twoImages : List AdImage := [⟨"a", "https://img/a"⟩, ⟨"b", "https://img/b"⟩]

theorem firing_shows_twoImages :
    ∃ l, machine.run viewDidLoad (load twoImages ++ firings 2) = some l ∧
      l.state.scrolled = some 1 ∧ l.state.currentPage = 1 := by
  rcases firing_shows_iff twoImages (by simp [twoImages]) 1 with ⟨l, hrun, -, hiff⟩
  exact ⟨l, hrun, hiff.2 (by decide)⟩

/-- The fourth firing shows the first image a second time, where the other one
is due. -/
theorem fourth_firing_shows_first :
    ∃ l, machine.run viewDidLoad (load twoImages ++ firings 4) = some l ∧
      l.state.scrolled = some 0 ∧ l.state.currentPage = 0 ∧
      ¬ (l.state.scrolled = some (3 % twoImages.length) ∧
        l.state.currentPage = 3 % twoImages.length) :=
  ⟨_, rfl, rfl, rfl, by decide⟩

end FLAdvertVC

end FancyLife
