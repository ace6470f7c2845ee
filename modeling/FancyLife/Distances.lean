import FancyLife.ShopFilter
import FancyLife.SearchVC

/-! # Distances in the rows

A row shows the distance from the location that is known when its cell is
configured. ShopVC hears of every location but configures no row again;
SearchVC never starts its location manager and hears of none.
-/

namespace FancyLife

open ShopVC (distanceFrom shopLocation)
open Swift (Unicode)

variable (distance : CLLocation → CLLocation → Swift.Double)

/-- What a row shows for a shop is the distance from the most recent location. -/
def RightDistance (recent : Option CLLocation) (location : List Swift.Double)
    (shown : Swift.Double) : Prop :=
  ∀ here ∈ recent, ∀ place ∈ shopLocation location, shown = distance here place

/-- A shop is as far from what was known as from the most recent location. -/
def SameDistance (known recent : Option CLLocation) (location : List Swift.Double) : Prop :=
  ∀ here ∈ recent, ∀ place ∈ shopLocation location,
    distanceFrom distance known place = distance here place

namespace ShopVC

variable (sort : SortedBy Shop)

/-- Every row on the screen shows the distance from the most recent location. -/
def RowsRight (recent : Option CLLocation) (vc : ShopVC) : Prop :=
  ∀ row ∈ vc.rows, RightDistance distance recent row.shop.location row.distance

/-- The location that a step reports: the last one of its array. -/
def located : LoopStep Event → Option CLLocation
  | .event (.didUpdateLocations locations) => locations.getLast?
  | _ => none

/-- The most recent location of a run. -/
def recentLocation (es : List (LoopStep Event)) : Option CLLocation :=
  (es.filterMap located).getLast?

/-- The row that a step configures. -/
def configuredRow : LoopStep Event → Option Nat
  | .event (.provideCell item) => some item
  | _ => none

/-- Each time a row is configured: the row, and the most recent location then. -/
def configurations : Option CLLocation → List (LoopStep Event) → List (Nat × Option CLLocation)
  | _, [] => []
  | recent, x :: es =>
      ((configuredRow x).map fun item => (item, recent)).toList ++
        configurations ((located x).or recent) es

/-- The configurations of a run, by the location that the screen knows. -/
def configured (l : MainLoop ShopVC Block) (x : LoopStep Event) :
    List (Nat × Option CLLocation) :=
  ((configuredRow x).map fun item => (item, l.state.userLocation)).toList

/-- The location that was known when a row was last configured. -/
def lastKnown (log : List (Nat × Option CLLocation)) (item : Nat) : Option (Option CLLocation) :=
  log.reverse.lookup item

theorem lastKnown_append (log : List (Nat × Option CLLocation)) (item j : Nat)
    (known : Option CLLocation) :
    lastKnown (log ++ [(item, known)]) j = if j = item then some known else lastKnown log j := by
  unfold lastKnown
  rw [List.reverse_append, List.reverse_singleton, List.singleton_append, List.lookup_cons]
  by_cases h : j = item
  · simp [h]
  · rw [if_neg h, beq_false_of_ne h]

/-! ### Handlers -/

/-- A handler that configures no row and hears of no location. -/
structure KeepsRows (vc vc' : ShopVC) : Prop where
  rows : ∀ row ∈ vc'.rows, row ∈ vc.rows
  userLocation : vc'.userLocation = vc.userLocation

variable {distance sort}

theorem answered_rows [Unicode] (vc : ShopVC) (result : Except FLError (List Shop)) :
    KeepsRows vc (vc.answered sort result).1 := by
  cases result with
  | error error => exact ⟨fun _ h => h, rfl⟩
  | ok shopList =>
      cases hcategory : vc.category with
      | none =>
          simp only [answered, hcategory]
          exact ⟨fun _ h => h, rfl⟩
      | some category =>
          simp only [answered, hcategory]
          exact ⟨fun _ h => h, rfl⟩

theorem Provided.rows [Unicode] {vc vc' : ShopVC} {sectionNumber : Nat} {dequeued : Option Nat}
    {deferred : List Block} (h : Provided vc sectionNumber dequeued vc' deferred) :
    KeepsRows vc vc' := by
  cases h with
  | image _ _ _ _ hdequeued => cases hdequeued <;> exact ⟨fun _ h => h, rfl⟩
  | filterBar _ _ _ _ _ hdequeued _ => cases hdequeued <;> exact ⟨fun _ h => h, rfl⟩

/-- What an event does to the rows: it configures one, it reports a location, or
neither. -/
theorem handle_rows [Unicode] {vc vc' : ShopVC} {e : Event} {deferred : List Block}
    (h : (handlers sort distance).handle vc e = some (.ok vc' deferred)) :
    (∃ item shop place, e = .provideCell item ∧ shopLocation shop.location = some place ∧
      vc' = { vc with rows := vc.rows.filter (·.item ≠ item) ++
        [⟨item, shop, distanceFrom distance vc.userLocation place⟩] }) ∨
    (∃ locations here, e = .didUpdateLocations locations ∧ locations.getLast? = some here ∧
      vc' = { vc with userLocation := some here }) ∨
    (configuredRow (.event e) = none ∧ located (.event e) = none ∧ KeepsRows vc vc') := by
  cases handle_spec h with
  | answer result hrequested =>
      have hkeeps := @answered_rows sort _ { vc with requested := false } result
      exact Or.inr (Or.inr ⟨rfl, rfl, hkeeps.rows, hkeeps.userLocation⟩)
  | didUpdateLocations locations here hlast =>
      exact Or.inr (Or.inl ⟨locations, here, rfl, hlast, rfl⟩)
  | provideHeader sectionNumber dequeued _ _ _ hprovided =>
      exact Or.inr (Or.inr ⟨rfl, rfl, hprovided.rows⟩)
  | provideCell item shop place hplace _ =>
      exact Or.inl ⟨item, shop, place, rfl, hplace, rfl⟩
  | endDisplayingCell item =>
      exact Or.inr (Or.inr ⟨rfl, rfl, fun _ hrow => (List.mem_filter.1 hrow).1, rfl⟩)
  | tapOption | endDisplayingImage | endDisplayingBar =>
      exact Or.inr (Or.inr ⟨rfl, rfl, fun _ hrow => hrow, rfl⟩)

theorem block_rows [Unicode] {vc vc' : ShopVC} {b : Block} {deferred : List Block}
    (h : (handlers sort distance).block vc b = .ok vc' deferred) : KeepsRows vc vc' := by
  cases (block_spec h).1 with
  | apply snapshot => exact ⟨fun _ hrow => (by cases hrow), rfl⟩
  | filterBar | dismiss | present => exact ⟨fun _ hrow => hrow, rfl⟩

/-! ### Runs -/

/-- Step lemma: the screen knows the location that it has heard of last. -/
theorem userLocation_step [Unicode] {category : Option String} {l l' : MainLoop ShopVC Block}
    {x : LoopStep Event} (h : (machine sort distance category).step l x = some l') :
    l'.state.userLocation = (located x).or l.state.userLocation := by
  rcases MainLoop.step_cases h with ⟨-, ⟨e, o, rfl, ho, rfl⟩ | ⟨b, rest, rfl, hq, rfl⟩⟩
  · cases o with
    | ok vc' deferred =>
        rcases handle_rows ho with ⟨item, shop, place, rfl, -, rfl⟩ |
          ⟨locations, here, rfl, hhere, rfl⟩ | ⟨-, hnone, hkeeps⟩
        · rfl
        · rw [located, hhere]
          rfl
        · rw [hnone]
          exact hkeeps.userLocation
    | trap =>
        -- hearing of a location does not trap
        cases e with
        | didUpdateLocations locations =>
            simp only [handlers] at ho
            split at ho
            · cases Option.some.inj ho
            · cases ho
        | _ => rfl
  · cases hb : (handlers sort distance).block l.state b with
    | ok vc' deferred => exact (block_rows hb).userLocation
    | trap => rfl

/-- Run lemma: the location that the screen knows is the most recent one, in
every configuration. -/
theorem trace_configured [Unicode] {category : Option String} {l l' : MainLoop ShopVC Block}
    {es : List (LoopStep Event)}
    (hrun : (machine sort distance category).run l es = some l') :
    (machine sort distance category).trace configured l es =
      configurations l.state.userLocation es := by
  induction es generalizing l with
  | nil => rfl
  | cons x es ih =>
      rcases ((machine sort distance category).run_cons_eq_some).1 hrun with ⟨t, ht, hrest⟩
      rw [EventMachine.trace, ht, Option.elim_some, ih hrest, userLocation_step ht]
      rfl

/-- Every row on the screen shows the distance from the location that was known
when it was last configured. -/
def RowsTracked (distance : CLLocation → CLLocation → Swift.Double) (l : MainLoop ShopVC Block)
    (log : List (Nat × Option CLLocation)) : Prop :=
  ∀ row ∈ l.state.rows, ∃ known place, lastKnown log row.item = some known ∧
    shopLocation row.shop.location = some place ∧
    row.distance = distanceFrom distance known place

/-- Step lemma: a row is tracked from its configuration on. -/
theorem RowsTracked.step [Unicode] {category : Option String} {l l' : MainLoop ShopVC Block}
    {x : LoopStep Event} {log : List (Nat × Option CLLocation)}
    (h : (machine sort distance category).step l x = some l')
    (hl : l.trapped = false → RowsTracked distance l log) (htrapped' : l'.trapped = false) :
    RowsTracked distance l' (log ++ configured l x) := by
  rcases MainLoop.step_cases h with ⟨htrapped, ⟨e, o, rfl, ho, rfl⟩ | ⟨b, rest, rfl, hq, rfl⟩⟩
  · have hrows := hl htrapped
    cases o with
    | trap => cases htrapped'
    | ok vc' deferred =>
        rcases handle_rows ho with ⟨item, shop, place, rfl, hplace, rfl⟩ |
          ⟨locations, here, rfl, -, rfl⟩ | ⟨hne, -, hkeeps⟩
        · intro row hrow
          simp only [MainLoop.absorb_ok] at hrow
          have hlast := lastKnown_append log item row.item l.state.userLocation
          rcases List.mem_append.1 hrow with hold | hnew
          · -- another row
            rcases List.mem_filter.1 hold with ⟨hmem, hitem⟩
            rw [if_neg (of_decide_eq_true hitem)] at hlast
            rcases hrows row hmem with ⟨known, place', hknown, hrest⟩
            exact ⟨known, place', hlast.trans hknown, hrest⟩
          · obtain rfl := List.mem_singleton.1 hnew
            rw [if_pos rfl] at hlast
            exact ⟨_, place, hlast, hplace, rfl⟩
        · have hnone : configured l (.event (.didUpdateLocations locations)) = [] := rfl
          rw [hnone, List.append_nil]
          exact hrows
        · rw [configured, hne, Option.map_none, Option.toList_none, List.append_nil]
          exact fun row hrow => hrows row (hkeeps.rows row hrow)
  · have hnone : configured l .block = [] := rfl
    rw [hnone, List.append_nil]
    cases hb : (handlers sort distance).block l.state b with
    | trap =>
        rw [hb] at htrapped'
        cases htrapped'
    | ok vc' deferred =>
        intro row hrow
        exact hl htrapped row ((block_rows hb).rows row hrow)

/-- The rows are right exactly where the location that was known at the last
configuration is as far away as the most recent one. -/
theorem rowsRight_iff [Unicode] {category : Option String} {l : MainLoop ShopVC Block}
    {es : List (LoopStep Event)}
    (hrun : (machine sort distance category).run (viewDidLoad category) es = some l)
    (htrapped : l.trapped = false) :
    RowsRight distance (recentLocation es) l.state ↔
      ∀ row ∈ l.state.rows, ∀ known ∈ lastKnown (configurations none es) row.item,
        SameDistance distance known (recentLocation es) row.shop.location := by
  have hstart : (viewDidLoad category).trapped = false →
      RowsTracked distance (viewDidLoad category) [] := by
    intro _ row hrow
    cases hrow
  have hstep : ∀ s x s' log, (machine sort distance category).step s x = some s' → True →
      (s.trapped = false → RowsTracked distance s log) →
      s'.trapped = false → RowsTracked distance s' (log ++ configured s x) :=
    fun _ _ _ _ h _ hs htrapped' => RowsTracked.step h hs htrapped'
  have halong : (machine sort distance category).Along (fun _ _ _ => True)
      (viewDidLoad category) es := EventMachine.along_of_forall fun _ _ => trivial
  have htracked := EventMachine.trace_invariant hstep hrun halong hstart htrapped
  rw [List.nil_append, trace_configured hrun] at htracked
  constructor
  · intro hright row hrow known hknown here hhere place hplace
    rcases htracked row hrow with ⟨known', place', hknown', hplace', hdistance⟩
    obtain rfl : known' = known := Option.some.inj (hknown'.symm.trans hknown)
    obtain rfl : place' = place := Option.some.inj (hplace'.symm.trans hplace)
    rw [← hdistance]
    exact hright row hrow here hhere place' hplace
  · intro hsame row hrow here hhere place hplace
    rcases htracked row hrow with ⟨known, place', hknown, hplace', hdistance⟩
    obtain rfl : place' = place := Option.some.inj (hplace'.symm.trans hplace)
    rw [hdistance]
    exact hsame row hrow known hknown here hhere place' hplace

end ShopVC

/-! ## SearchVC -/

/-- A row of the search results that shows a shop, as its cell was last set. -/
structure ResultRow where
  item : Nat
  searchResult : SearchResult
  distance : Swift.Double
deriving DecidableEq

/-- The search screen with its location manager and the rows of its results.
`updating` says that the manager reports to the screen. -/
structure SearchScreen (Data : Type) where
  loop : MainLoop (SearchVC Data) SearchVC.Block
  userLocation : Option CLLocation
  updating : Bool
  rows : List ResultRow

namespace SearchScreen

/-- A step of the screen, a report of the device's location, or a row that comes
onto the screen or leaves it. -/
inductive Event where
  | screen (x : LoopStep SearchVC.Event)
  | locationFix (locations : List CLLocation)
  | provideCell (item : Nat)
  | endDisplayingCell (item : Nat)

variable {Data : Type} (coder : HistoryCoder Data)
  (distance : CLLocation → CLLocation → Swift.Double)

/-- What the results collection view shows. -/
def results (s : SearchScreen Data) : Option UIView × Option (Snapshot Nat SearchResult) :=
  (s.loop.state.resultCollectionView, s.loop.state.resultDataSource)

/-- The cell provider of `configureResultDataSource()`. A shop needs a location
with two coordinates, a score and a distance that has a label; an event shows no
distance. -/
def provide [Unicode] (s : SearchScreen Data) (item : Nat) (searchResult : SearchResult) :
    SearchScreen Data :=
  let rows := s.rows.filter (·.item ≠ item)
  if Swift.stringEq searchResult.kind "shop" then
    match searchResult.location.bind shopLocation, searchResult.score with
    | some place, some _ =>
        let row : ResultRow := ⟨item, searchResult, distanceFrom distance s.userLocation place⟩
        match ShopListCell.distanceText row.distance with
        | some _ => { s with rows := rows ++ [row] }
        | none => { s with loop := s.loop.absorb [] .trap }
    | _, _ => { s with loop := s.loop.absorb [] .trap }
  else { s with rows }

/-- One event. New results come without rows. -/
def step [Unicode] (s : SearchScreen Data) : Event → Option (SearchScreen Data)
  | .screen x =>
      (MainLoop.step (SearchVC.handlers coder) s.loop x).map fun loop =>
        let s' := { s with loop }
        if s'.results = s.results then s' else { s' with rows := [] }
  | .locationFix locations =>
      match locations.getLast? with
      | some here => some (if s.updating then { s with userLocation := some here } else s)
      | none => none
  | .provideCell item =>
      match s.loop.trapped, s.loop.state.resultDataSource.bind (·.item 0 item) with
      | false, some searchResult => some (s.provide distance item searchResult)
      | _, _ => none
  | .endDisplayingCell item => some { s with rows := s.rows.filter (·.item ≠ item) }

/-- `viewDidLoad()`. It does not call `setUpLocationManager()`, and neither does
any other method of the screen. -/
def viewDidLoad (defaults : Option Data) : SearchScreen Data :=
  ⟨SearchVC.viewDidLoad coder defaults, none, false, []⟩

def machine [Unicode] : EventMachine (SearchScreen Data) Event where
  init s := ∃ defaults, s = viewDidLoad coder defaults
  step := step coder distance

/-- The location that an event reports. -/
def located : Event → Option CLLocation
  | .locationFix locations => locations.getLast?
  | _ => none

/-- The most recent location of a run. -/
def recentLocation (es : List Event) : Option CLLocation := (es.filterMap located).getLast?

/-- Every row on the screen shows the distance from the most recent location. -/
def RowsRight (recent : Option CLLocation) (s : SearchScreen Data) : Prop :=
  ∀ row ∈ s.rows, ∀ location ∈ row.searchResult.location,
    RightDistance distance recent location row.distance

/-- The screen hears of no location, and every row shows no distance. -/
structure Deaf (s : SearchScreen Data) : Prop where
  userLocation : s.userLocation = none
  updating : s.updating = false
  rows : ∀ row ∈ s.rows, row.distance = .finite 0

variable {coder distance}

/-- Step lemma: nothing makes the screen hear of a location. -/
theorem Deaf.step [Unicode] {s s' : SearchScreen Data} {e : Event}
    (h : (machine coder distance).step s e = some s') (hs : s.Deaf) : s'.Deaf := by
  cases e with
  | screen x =>
      rcases Option.map_eq_some_iff.1 h with ⟨loop, -, rfl⟩
      simp only
      split
      · exact ⟨hs.userLocation, hs.updating, hs.rows⟩
      · exact ⟨hs.userLocation, hs.updating, fun _ hrow => (by cases hrow)⟩
  | locationFix locations =>
      simp only [machine, SearchScreen.step] at h
      split at h
      · rw [hs.updating] at h
        exact Option.some.inj h ▸ hs
      · cases h
  | provideCell item =>
      simp only [machine, SearchScreen.step] at h
      split at h
      swap
      · cases h
      rename_i searchResult _ _
      rw [← Option.some.inj h]
      have hkept : ∀ row ∈ s.rows.filter (·.item ≠ item), row.distance = .finite 0 :=
        fun row hrow => hs.rows row (List.mem_filter.1 hrow).1
      unfold provide
      split
      · split
        · simp only
          split
          · refine ⟨hs.userLocation, hs.updating, fun row hrow => ?_⟩
            rcases List.mem_append.1 hrow with hold | hnew
            · exact hkept row hold
            · -- without a location the distance is the fallback
              rw [List.mem_singleton.1 hnew, hs.userLocation]
              rfl
          · exact ⟨hs.userLocation, hs.updating, hs.rows⟩
        · exact ⟨hs.userLocation, hs.updating, hs.rows⟩
      · exact ⟨hs.userLocation, hs.updating, hkept⟩
  | endDisplayingCell item =>
      rw [← Option.some.inj h]
      exact ⟨hs.userLocation, hs.updating,
        fun row hrow => hs.rows row (List.mem_filter.1 hrow).1⟩

/-- The rows are right exactly where the most recent location is at no distance. -/
theorem rowsRight_iff [Unicode] {defaults : Option Data} {s : SearchScreen Data} {es : List Event}
    (hrun : (machine coder distance).run (viewDidLoad coder defaults) es = some s) :
    RowsRight distance (recentLocation es) s ↔
      ∀ row ∈ s.rows, ∀ location ∈ row.searchResult.location,
        SameDistance distance none (recentLocation es) location := by
  have hstart : (viewDidLoad coder defaults).Deaf :=
    ⟨rfl, rfl, fun _ hrow => (by cases hrow)⟩
  have hdeaf : s.Deaf := EventMachine.run_invariant (fun _ _ _ h hs => hs.step h) hrun hstart
  constructor
  · intro hright row hrow location hlocation here hhere place hplace
    exact (hdeaf.rows row hrow).symm.trans
      (hright row hrow location hlocation here hhere place hplace)
  · intro hsame row hrow location hlocation here hhere place hplace
    exact (hdeaf.rows row hrow).trans (hsame row hrow location hlocation here hhere place hplace)

end SearchScreen

/-! ## Both screens -/

/-- In every run of ShopVC the rows are right if and only if, for each of them,
the location known at its last configuration (0 when there was none) is as far
from its shop as the most recent one; in every run of SearchVC, if and only if
the most recent location is at distance 0 from every shop on the screen. -/
theorem distances_right_iff [Unicode] {Data : Type} (sort : SortedBy Shop)
    (distance : CLLocation → CLLocation → Swift.Double) (coder : HistoryCoder Data) :
    (∀ category es l,
      (ShopVC.machine sort distance category).run (ShopVC.viewDidLoad category) es = some l →
      l.trapped = false →
      (ShopVC.RowsRight distance (ShopVC.recentLocation es) l.state ↔
        ∀ row ∈ l.state.rows,
          ∀ known ∈ ShopVC.lastKnown (ShopVC.configurations none es) row.item,
          SameDistance distance known (ShopVC.recentLocation es) row.shop.location)) ∧
    ∀ defaults es s,
      (SearchScreen.machine coder distance).run (SearchScreen.viewDidLoad coder defaults) es =
        some s →
      (SearchScreen.RowsRight distance (SearchScreen.recentLocation es) s ↔
        ∀ row ∈ s.rows, ∀ location ∈ row.searchResult.location,
          SameDistance distance none (SearchScreen.recentLocation es) location) := by
  constructor
  · intro category es l hrun htrapped
    exact ShopVC.rowsRight_iff hrun htrapped
  · intro defaults es s hrun
    exact SearchScreen.rowsRight_iff hrun

/-- Two places that are apart are a kilometre apart. -/
def kilometre (here place : CLLocation) : Swift.Double :=
  if here = place then .finite 0 else .finite 1000

/-- A shop among the search results. -/
def plainResult : SearchResult where
  id := 0
  shopID := "a"
  imageURL := ""
  title := ""
  description := ""
  distance := none
  score := some (.finite 4)
  location := some [.finite 0, .finite 0]
  price := none
  originalPrice := none
  eventStartDate := none
  eventEndDate := none
  kind := "shop"

section CodePoints

attribute [local instance] Unicode.codePoints

/-- The location is found after the row has been configured, on both screens. -/
theorem late_location_leaves_rows :
    (∃ l, (ShopVC.machine .insertion kilometre none).run (ShopVC.viewDidLoad none)
        [.event (.answer (.ok [ShopVC.plainShop "a" "餐饮"])), .block, .block,
          .event (.provideCell 0), .event (.didUpdateLocations [⟨.finite 1, .finite 0⟩])] =
        some l ∧
      l.Drained ∧ ¬ ShopVC.RowsRight kilometre (some ⟨.finite 1, .finite 0⟩) l.state) ∧
    ∃ s, (SearchScreen.machine SearchVC.plainCoder kilometre).run
        (SearchScreen.viewDidLoad SearchVC.plainCoder none)
        [.locationFix [⟨.finite 1, .finite 0⟩], .screen (.event (.textDidChange "火锅")),
          .screen (.event .searchButtonClicked),
          .screen (.event (.searchAnswer 0 (.ok [plainResult]))), .screen .block, .screen .block,
          .screen .block, .provideCell 0] = some s ∧
      s.loop.Drained ∧
      ¬ SearchScreen.RowsRight kilometre (some ⟨.finite 1, .finite 0⟩) s := by
  constructor
  · refine ⟨_, rfl, rfl, ?_⟩
    intro hright
    have hzero := hright _ (List.mem_singleton.2 rfl) _ rfl _ rfl
    revert hzero
    decide
  · refine ⟨_, rfl, rfl, ?_⟩
    intro hright
    have hzero := hright _ (List.mem_singleton.2 rfl) _ rfl _ rfl _ rfl
    revert hzero
    decide

end CodePoints

end FancyLife
