import FancyLife.DataLoading
import FancyLife.ListScreens
import FancyLife.ShopHeaderSV
import FancyLife.Lib.SortedBy

/-! # ShopVC

The shop list: one request, a filter bar in a recycled header, and rows that
show the distance from the user. The collection view asks for headers and rows
by events of its own; `reloadData` takes all of them off the screen first.

A row is set up by `ShopListCell.setData`, whose distance label is the text of an `Int`:
a distance that is no number, or too far, traps there. The picture of the first header,
the navigation bar and the layout are left out.
-/

namespace FancyLife

open Swift (Double Unicode)

/-- A `CLLocation(latitude:longitude:)`. -/
structure CLLocation where
  latitude : Double
  longitude : Double
deriving DecidableEq

/-- The distance label of `ShopListCell.setData`; `none` is the trap of `Int(...)`. -/
def ShopListCell.distanceText (distance : Double) : Option String :=
  if Double.lt (.finite 1000) distance then
    (distance.div 1000).toInt.map fun dist => s!"距离{dist}千米"
  else distance.toInt.map fun dist => s!"距离{dist}米"

/-- The distances that have a label: the numbers up to `1000 * (2 ^ 63 - 2 ^ 9)`. -/
theorem ShopListCell.isSome_distanceText {distance : Double} :
    (distanceText distance).isSome ↔
      ∃ q, distance = .finite q ∧ -2 ^ 63 - 1 < q ∧ q < 1000 * (2 ^ 63 - 2 ^ 9) := by
  unfold distanceText
  cases distance with
  | finite q =>
      by_cases hfar : 1000 < q
      · have hlt : Double.lt (.finite 1000) (.finite q) = true := by simpa [Double.lt] using hfar
        have hdiv := Double.isSome_toInt_div (show 0 < q by linarith) (show 0 < 1000 by decide)
        norm_num at hdiv
        rw [if_pos hlt, Option.isSome_map, hdiv]
        norm_num
        intro _
        linarith
      · have hlt : ¬ Double.lt (.finite 1000) (.finite q) = true := by
          simpa [Double.lt] using hfar
        rw [if_neg hlt, Option.isSome_map, Double.isSome_toInt_finite]
        norm_num
        intro _
        constructor <;> intro _ <;> linarith
  | posInf => simp [Double.lt, Double.div, Double.toInt]
  | negInf => simp [Double.lt, Double.toInt]
  | nan => simp [Double.lt, Double.toInt]

/-- A row on the screen: the arguments that its cell was last set to. -/
structure ShopRow where
  item : Nat
  shop : Shop
  distance : Double
deriving DecidableEq

/-- The state of the screen. `dataSource` is the snapshot that the data source
has applied; `requested` says that the request is not answered yet. `headers`
are all headers made so far, `imageHeader` and `barHeader` the ones on the screen
in section 0 and 1, and `rows` the rows on the screen. `raised` records that
`scrollToItem` was called with an index path out of range, for which UIKit raises. -/
structure ShopVC extends FLDataLoadingVC where
  category : Option String
  shopList : List Shop
  filterShopList : List Shop
  dataList : DataList Shop
  isLoading : Bool
  userLocation : Option CLLocation
  dataSource : Snapshot Nat Shop
  requested : Bool
  headers : List ShopHeaderSV
  imageHeader : Option Nat
  barHeader : Option Nat
  rows : List ShopRow
  raised : Bool

namespace ShopVC

/-- Firestore answers, the location manager reports, the user taps an option of
the filter bar on the screen, or the collection view asks for a header or a row
and takes it off the screen again. A header is a new one or one that is recycled. -/
inductive Event where
  | answer (result : Except FLError (List Shop))
  | didUpdateLocations (locations : List CLLocation)
  | tapOption (item : Nat)
  | provideHeader (sectionNumber : Nat) (dequeued : Option Nat)
  | endDisplayingHeader (sectionNumber : Nat)
  | provideCell (item : Nat)
  | endDisplayingCell (item : Nat)

inductive Block where
  | apply (snapshot : Snapshot Nat Shop)
  | filterBar (header : Nat) (block : ShopFilterView.Block)
  | dismiss
  | present (alert : FLAlert)
deriving DecidableEq

section Handlers

variable [Unicode] (sort : SortedBy Shop) (distance : CLLocation → CLLocation → Double)

/-- `filterShop(category:)`. The cases of the switch are compared by `==`, and their
characters are their own decomposition. -/
def filterShop (vc : ShopVC) (category : String) : ShopVC :=
  let filterShopList :=
    match Unicode.nfd category with
    | "推荐" => vc.shopList
    | "餐饮" | "生鲜" | "娱乐" | "旅行" =>
        vc.shopList.filter fun shop => Swift.stringEq shop.category category
    | "榜单" => sort.sorted (fun shop1 shop2 => shop2.score.lt shop1.score) vc.shopList
    | _ => vc.filterShopList
  { vc with filterShopList, dataList := { vc.dataList with section1 := filterShopList } }

/-- `updateData(on: self.dataList)`. -/
def updateData (vc : ShopVC) : List Block := [.apply vc.dataList.snapshot]

/-- `collectionView.scrollToItem(at: IndexPath(item: 0, section: 1))`. -/
def scrollToTop (vc : ShopVC) : ShopVC :=
  { vc with raised := vc.raised || (vc.dataSource.item 1 0).isNone }

/-- `didRequestToUpdateShops(for:)`. -/
def didRequestToUpdateShops (vc : ShopVC) (category : String) : ShopVC × List Block :=
  let vc := vc.filterShop sort category
  (vc.scrollToTop, vc.updateData)

/-- The closure of `getShopItems()`. -/
def answered (vc : ShopVC) : Except FLError (List Shop) → ShopVC × List Block
  | .ok shopList =>
      let vc := { vc with shopList }
      let vc :=
        match vc.category with
        | none => { vc with dataList := { vc.dataList with section1 := shopList } }
        | some category => vc.filterShop sort category
      ({ vc with isLoading := false }, vc.updateData ++ [.dismiss])
  | .error error =>
      ({ vc with isLoading := false },
        [.present { title := "错误！", message := error.rawValue, buttonTitle := "确认" },
          .dismiss])

/-- `self.userLocation?.distance(from: shopLocation) ?? 0`. -/
def distanceFrom (userLocation : Option CLLocation) (shopLocation : CLLocation) : Double :=
  match userLocation with
  | some location => distance location shopLocation
  | none => .finite 0

/-- `CLLocation(latitude: location[0], longitude: location[1])`; `none` is an
index out of range. -/
def shopLocation : List Double → Option CLLocation
  | latitude :: longitude :: _ => some ⟨latitude, longitude⟩
  | _ => none

/-- The cell provider, for the row `item` of section 1. -/
def provideCell (vc : ShopVC) (item : Nat) (shop : Shop) : Outcome ShopVC Block :=
  match shopLocation shop.location with
  | some location =>
      let row : ShopRow := ⟨item, shop, distanceFrom distance vc.userLocation location⟩
      match ShopListCell.distanceText row.distance with
      | some _ => .ok { vc with rows := vc.rows.filter (·.item ≠ item) ++ [row] } []
      | none => .trap
  | none => .trap

/-- The header that is on the screen in a section. -/
def headerOf (vc : ShopVC) (sectionNumber : Nat) : Option Nat :=
  if sectionNumber = 0 then vc.imageHeader else vc.barHeader

/-- `dequeueReusableSupplementaryView`: a header that is not on the screen, or a
new one with the blocks of its bar. -/
def dequeue (vc : ShopVC) : Option Nat → Option (ShopVC × Nat × List Block)
  | none =>
      let h := vc.headers.length
      some ({ vc with headers := vc.headers ++ [.fresh] }, h,
        ShopFilterView.initBlocks.map (.filterBar h))
  | some h =>
      if h < vc.headers.length ∧ vc.imageHeader ≠ some h ∧ vc.barHeader ≠ some h then
        some (vc, h, [])
      else none

/-- The `supplementaryViewProvider`. -/
def provideHeader (vc : ShopVC) (sectionNumber : Nat) (dequeued : Option Nat) :
    Option (Outcome ShopVC Block) :=
  match vc.dequeue dequeued with
  | some (vc, h, blocks) =>
      let vc :=
        if sectionNumber = 0 then
          { vc with headers := vc.headers.modify h .setImage, imageHeader := some h }
        else { vc with headers := vc.headers.modify h .setFilterBar, barHeader := some h }
      let changeOption :=
        match vc.category with
        | some category => (ShopFilterView.changeOption category).map (.filterBar h)
        | none => []
      some (.ok vc (blocks ++ changeOption))
  | none => none

/-- A tap on the bar of a header: `sendCategory` asks the screen for the shops. -/
def tapOption (vc : ShopVC) (h item : Nat) : Option (Outcome ShopVC Block) :=
  match vc.headers[h]? with
  | some header =>
      if header.showsFilterBar then
        match header.filterBar.tap item with
        | some (filterBar, category) =>
            let vc := { vc with headers := vc.headers.modify h ({ · with filterBar }) }
            let (vc, blocks) := vc.didRequestToUpdateShops sort category
            some (.ok vc blocks)
        | none => none
      else none
  | none => none

/-- The block of `updateData(on:)`: `reloadData()`, then the snapshot is applied. -/
def apply (vc : ShopVC) (snapshot : Snapshot Nat Shop) : ShopVC :=
  { vc with imageHeader := none, barHeader := none, rows := [], dataSource := snapshot }

/-- The handlers of the screen. -/
def handlers : Handlers ShopVC Event Block where
  handle vc
    | .answer result =>
        if vc.requested then
          let (vc, blocks) := { vc with requested := false }.answered sort result
          some (.ok vc blocks)
        else none
    | .didUpdateLocations locations =>
        match locations.getLast? with
        | some location => some (.ok { vc with userLocation := some location } [])
        | none => none
    | .tapOption item =>
        match vc.barHeader with
        | some h => vc.tapOption sort h item
        | none => none
    | .provideHeader sectionNumber dequeued =>
        if sectionNumber < vc.dataSource.sections.length ∧ vc.headerOf sectionNumber = none then
          vc.provideHeader sectionNumber dequeued
        else none
    | .endDisplayingHeader sectionNumber =>
        if sectionNumber = 0 then some (.ok { vc with imageHeader := none } [])
        else some (.ok { vc with barHeader := none } [])
    | .provideCell item =>
        match vc.dataSource.item 1 item with
        | some shop => some (vc.provideCell distance item shop)
        | none => none
    | .endDisplayingCell item =>
        some (.ok { vc with rows := vc.rows.filter (·.item ≠ item) } [])
  block vc
    | .apply snapshot => .ok (vc.apply snapshot) []
    | .filterBar h block =>
        .ok { vc with headers := vc.headers.modify h fun header =>
          { header with filterBar := header.filterBar.run block } } []
    | .dismiss =>
        match vc.dismissBlock with
        | some base => .ok { vc with toFLDataLoadingVC := base } []
        | none => .trap
    | .present _ => .ok vc []

/-- `viewDidLoad()`: the collection view, then the loading view and the request. -/
def viewDidLoad (category : Option String) : MainLoop ShopVC Block :=
  let base : FLDataLoadingVC :=
    { subviews := [⟨.content, 0⟩], containerview := none, nextView := 1 }
  .start
    { base.showLoadingView with
      category := category, shopList := [], filterShopList := []
      dataList := ⟨[], []⟩, isLoading := true, userLocation := none, dataSource := .empty
      requested := true, headers := [], imageHeader := none, barHeader := none, rows := []
      raised := false } []

/-- The screen, opened with `category` or none. -/
def machine (category : Option String) : EventMachine (MainLoop ShopVC Block) (LoopStep Event) :=
  MainLoop.machine (handlers sort distance) (· = viewDidLoad category)

end Handlers

/-! ## What a handler does -/

section Inversion

/-- What `dequeue` hands out: a new header at the end of the list, or an old one
that is not on the screen. -/
inductive Dequeued (vc : ShopVC) : Option Nat → ShopVC → Nat → List Block → Prop where
  | new : Dequeued vc none { vc with headers := vc.headers ++ [.fresh] } vc.headers.length
      (ShopFilterView.initBlocks.map (.filterBar vc.headers.length))
  | recycled (h : Nat) (hlt : h < vc.headers.length) (himage : vc.imageHeader ≠ some h)
      (hbar : vc.barHeader ≠ some h) : Dequeued vc (some h) vc h []

theorem dequeue_spec {vc vc₁ : ShopVC} {dequeued : Option Nat} {h : Nat} {blocks : List Block}
    (hdequeue : vc.dequeue dequeued = some (vc₁, h, blocks)) :
    Dequeued vc dequeued vc₁ h blocks := by
  cases dequeued with
  | none =>
      simp only [dequeue, Option.some.injEq, Prod.mk.injEq] at hdequeue
      rcases hdequeue with ⟨rfl, rfl, rfl⟩
      exact .new
  | some old =>
      simp only [dequeue] at hdequeue
      split at hdequeue
      · rename_i hold
        simp only [Option.some.injEq, Prod.mk.injEq] at hdequeue
        rcases hdequeue with ⟨rfl, rfl, rfl⟩
        exact .recycled old hold.1 hold.2.1 hold.2.2
      · cases hdequeue

variable [Unicode] (sort : SortedBy Shop) (distance : CLLocation → CLLocation → Double)

/-- The blocks that the category of the screen adds to a header. -/
def categoryBlocks (vc : ShopVC) : List ShopFilterView.Block :=
  match vc.category with
  | some category => ShopFilterView.changeOption category
  | none => []

/-- What the `supplementaryViewProvider` does with the header it got. -/
inductive Provided (vc : ShopVC) : Nat → Option Nat → ShopVC → List Block → Prop where
  | image (dequeued : Option Nat) (vc₁ : ShopVC) (h : Nat) (blocks : List Block)
      (hdequeued : Dequeued vc dequeued vc₁ h blocks) :
      Provided vc 0 dequeued
        { vc₁ with headers := vc₁.headers.modify h .setImage, imageHeader := some h }
        (blocks ++ (categoryBlocks vc₁).map (.filterBar h))
  | filterBar (sectionNumber : Nat) (dequeued : Option Nat) (vc₁ : ShopVC) (h : Nat)
      (blocks : List Block) (hdequeued : Dequeued vc dequeued vc₁ h blocks)
      (hsection : sectionNumber ≠ 0) :
      Provided vc sectionNumber dequeued
        { vc₁ with headers := vc₁.headers.modify h .setFilterBar, barHeader := some h }
        (blocks ++ (categoryBlocks vc₁).map (.filterBar h))

/-- What the handler of an event does, when it does not trap. -/
inductive Handled (vc : ShopVC) : Event → ShopVC → List Block → Prop where
  | answer (result : Except FLError (List Shop)) (hrequested : vc.requested = true) :
      Handled vc (.answer result) ({ vc with requested := false }.answered sort result).1
        ({ vc with requested := false }.answered sort result).2
  | didUpdateLocations (locations : List CLLocation) (here : CLLocation)
      (hlast : locations.getLast? = some here) :
      Handled vc (.didUpdateLocations locations) { vc with userLocation := some here } []
  | tapOption (item h : Nat) (header : ShopHeaderSV) (filterBar : ShopFilterView)
      (option : String) (hbar : vc.barHeader = some h) (hheader : vc.headers[h]? = some header)
      (htap : header.filterBar.tap item = some (filterBar, option)) :
      Handled vc (.tapOption item)
        ({ vc with headers := vc.headers.modify h ({ · with filterBar })
          }.didRequestToUpdateShops sort option).1
        ({ vc with headers := vc.headers.modify h ({ · with filterBar })
          }.didRequestToUpdateShops sort option).2
  | provideHeader (sectionNumber : Nat) (dequeued : Option Nat) (vc' : ShopVC)
      (deferred : List Block) (hsection : sectionNumber < vc.dataSource.sections.length)
      (hprovided : Provided vc sectionNumber dequeued vc' deferred) :
      Handled vc (.provideHeader sectionNumber dequeued) vc' deferred
  | endDisplayingImage : Handled vc (.endDisplayingHeader 0) { vc with imageHeader := none } []
  | endDisplayingBar (sectionNumber : Nat) (hsection : sectionNumber ≠ 0) :
      Handled vc (.endDisplayingHeader sectionNumber) { vc with barHeader := none } []
  | provideCell (item : Nat) (shop : Shop) (place : CLLocation)
      (hplace : shopLocation shop.location = some place)
      (hlabel : (ShopListCell.distanceText
        (distanceFrom distance vc.userLocation place)).isSome = true) :
      Handled vc (.provideCell item)
        { vc with rows := vc.rows.filter (·.item ≠ item) ++
          [⟨item, shop, distanceFrom distance vc.userLocation place⟩] } []
  | endDisplayingCell (item : Nat) :
      Handled vc (.endDisplayingCell item)
        { vc with rows := vc.rows.filter (·.item ≠ item) } []

/-- What a block does, when it does not trap: it schedules nothing. -/
inductive Ran (vc : ShopVC) : Block → ShopVC → Prop where
  | apply (snapshot : Snapshot Nat Shop) : Ran vc (.apply snapshot) (vc.apply snapshot)
  | filterBar (h : Nat) (block : ShopFilterView.Block) : Ran vc (.filterBar h block)
      { vc with headers := vc.headers.modify h fun header =>
        { header with filterBar := header.filterBar.run block } }
  | dismiss (base : FLDataLoadingVC) (hbase : vc.dismissBlock = some base) :
      Ran vc .dismiss { vc with toFLDataLoadingVC := base }
  | present (alert : FLAlert) : Ran vc (.present alert) vc

variable {sort distance}

theorem provideHeader_cases {vc vc' : ShopVC} {sectionNumber : Nat} {dequeued : Option Nat}
    {deferred : List Block}
    (h : vc.provideHeader sectionNumber dequeued = some (.ok vc' deferred)) :
    Provided vc sectionNumber dequeued vc' deferred := by
  unfold provideHeader at h
  split at h
  swap
  · cases h
  rename_i vc₁ k blocks hdequeue
  have hdequeued := dequeue_spec hdequeue
  have h' := Option.some.inj h
  have hchange : (match vc₁.category with
      | some category => (ShopFilterView.changeOption category).map (Block.filterBar k)
      | none => []) = (categoryBlocks vc₁).map (.filterBar k) := by
    unfold categoryBlocks
    cases vc₁.category <;> rfl
  by_cases hzero : sectionNumber = 0
  · subst hzero
    rcases Outcome.ok.inj h' with ⟨rfl, rfl⟩
    have himage := Provided.image dequeued vc₁ k blocks hdequeued
    rw [← hchange] at himage
    exact himage
  · simp only [if_neg hzero] at h'
    rcases Outcome.ok.inj h' with ⟨rfl, rfl⟩
    have hbar := Provided.filterBar sectionNumber dequeued vc₁ k blocks hdequeued hzero
    rw [← hchange] at hbar
    exact hbar

/-- The tap of an option hits the bar on the screen, and does not trap. -/
theorem tapOption_spec {vc : ShopVC} {item : Nat} {o : Outcome ShopVC Block}
    (h : (handlers sort distance).handle vc (.tapOption item) = some o) :
    ∃ vc' deferred, o = .ok vc' deferred ∧
      Handled sort distance vc (.tapOption item) vc' deferred := by
  simp only [handlers] at h
  split at h
  swap
  · cases h
  rename_i k hbar
  unfold tapOption at h
  split at h
  swap
  · cases h
  rename_i header hheader
  split at h
  swap
  · cases h
  split at h
  swap
  · cases h
  rename_i filterBar option htap
  exact ⟨_, _, (Option.some.inj h).symm,
    .tapOption item k header filterBar option hbar hheader htap⟩

/-- Inversion of a handler. -/
theorem handle_spec {vc vc' : ShopVC} {e : Event} {deferred : List Block}
    (h : (handlers sort distance).handle vc e = some (.ok vc' deferred)) :
    Handled sort distance vc e vc' deferred := by
  cases e with
  | answer result =>
      simp only [handlers] at h
      split at h
      · rename_i hrequested
        rcases Outcome.ok.inj (Option.some.inj h) with ⟨rfl, rfl⟩
        exact .answer result hrequested
      · cases h
  | didUpdateLocations locations =>
      simp only [handlers] at h
      split at h
      · rename_i here hlast
        rcases Outcome.ok.inj (Option.some.inj h) with ⟨rfl, rfl⟩
        exact .didUpdateLocations locations here hlast
      · cases h
  | tapOption item =>
      rcases tapOption_spec h with ⟨vc₁, blocks, ho, hhandled⟩
      rcases Outcome.ok.inj ho with ⟨rfl, rfl⟩
      exact hhandled
  | provideHeader sectionNumber dequeued =>
      simp only [handlers] at h
      split at h
      · rename_i hsection
        exact .provideHeader sectionNumber dequeued vc' deferred hsection.1 (provideHeader_cases h)
      · cases h
  | endDisplayingHeader sectionNumber =>
      simp only [handlers] at h
      split at h <;> rename_i hzero <;> rcases Outcome.ok.inj (Option.some.inj h) with ⟨rfl, rfl⟩
      · exact hzero ▸ .endDisplayingImage
      · exact .endDisplayingBar sectionNumber hzero
  | provideCell item =>
      simp only [handlers] at h
      split at h
      swap
      · cases h
      rename_i shop _
      have h' := Option.some.inj h
      unfold provideCell at h'
      split at h'
      swap
      · cases h'
      rename_i place hplace
      simp only at h'
      split at h'
      · rename_i label hlabel
        rcases Outcome.ok.inj h' with ⟨rfl, rfl⟩
        exact .provideCell item shop place hplace (by rw [hlabel]; rfl)
      · cases h'
  | endDisplayingCell item =>
      rcases Outcome.ok.inj (Option.some.inj h) with ⟨rfl, rfl⟩
      exact .endDisplayingCell item

/-- Inversion of a block. -/
theorem block_spec {vc vc' : ShopVC} {b : Block} {deferred : List Block}
    (h : (handlers sort distance).block vc b = .ok vc' deferred) :
    Ran vc b vc' ∧ deferred = [] := by
  cases b with
  | dismiss =>
      simp only [handlers] at h
      split at h
      · rename_i base hbase
        rcases Outcome.ok.inj h with ⟨rfl, rfl⟩
        exact ⟨.dismiss base hbase, rfl⟩
      · cases h
  | apply | filterBar | present =>
      rcases Outcome.ok.inj h with ⟨rfl, rfl⟩
      exact ⟨by constructor, rfl⟩

end Inversion

end ShopVC

end FancyLife
