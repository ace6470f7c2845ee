import FancyLife.DataLoading
import FancyLife.Models
import FancyLife.Lib.Snapshot
import Mathlib.Data.List.Induction

/-! # ShopInfoVC

Every appearance starts a chain of four requests. When it has succeeded,
`recommendationShops` is replaced, but the five new sections are appended to
`dataList`, whose first five are the ones that are shown.
-/

namespace FancyLife

/-- `ShopInfoVC.SectionKind`. -/
inductive SectionKind where
  | shop | event | product | review | recommendation
deriving DecidableEq

def SectionKind.allCases : List SectionKind := [.shop, .event, .product, .review, .recommendation]

/-- `SectionKind(rawValue: n)`. -/
def SectionKind.ofRawValue (n : Nat) : Option SectionKind := allCases[n]?

/-- What a recommendation cell shows. -/
structure RecommendationCell where
  imageURL : String
  title : String
  score : String
deriving DecidableEq

/-- `RecommendationCell.set(shopInfo:item:)`; `none` is an index out of range. -/
def RecommendationCell.set (shopInfo : ShopInfo) (item : Nat) : Option RecommendationCell := do
  let imageURL ← shopInfo.recommendShopImages[item]?
  let title ← shopInfo.recommendShopTitles[item]?
  let score ← shopInfo.recommendShopScores[item]?
  return { imageURL, title, score := score.format1 }

/-! ## Building the sections -/

/-- The value `shopInfo` in the innermost closure of `getShopInfoItems`. -/
def makeShopInfo (id : UUID) (shop : Shop) (firstEvent : Event) (productImages : List String)
    (totalReviews : Int) (firstReview : Option Review) (shops : List Shop) : ShopInfo where
  id := id
  shopID := shop.id
  shopImageURL := shop.imageURL
  shopTitle := shop.title
  shopAddress := shop.address
  shopOpeningTime := shop.openingTime
  eventID := firstEvent.id
  eventTitle := firstEvent.title
  eventDescription := firstEvent.description
  eventStartDate := firstEvent.startDate
  eventEndDate := firstEvent.endDate
  eventPrice := firstEvent.price
  eventOriginalPirce := firstEvent.originalPrice
  eventImageURL := firstEvent.imageURL
  productImageURLs := productImages
  reviewUsername := firstReview.map Review.username
  reviewAvatarImageURL := firstReview.map Review.avatarImageURL
  reviewContent := firstReview.map Review.content
  reviewImageURLs := firstReview.map Review.imageURLs
  reviewAmount := totalReviews
  reviewLikeAmount := firstReview.map Review.likeAmount
  recommendShopIDs := shops.map Shop.id
  recommendShopTitles := shops.map Shop.title
  recommendShopImages := shops.map Shop.imageURL
  recommendShopScores := shops.map Shop.score

/-- `index` copies, each with a new `UUID()`. -/
def copies (shopInfo : ShopInfo) (nextUUID : UUID) (index : Nat) : List ShopInfo :=
  (List.range index).map fun i => { shopInfo with id := nextUUID + i }

/-- How many items section `i` gets. -/
def sectionCount (shopCount i : Nat) : Nat :=
  if i = 2 then 3 else if i = 4 then shopCount else 1

/-- `for i in Array(0..<5) { ... self.dataList.append(...) }`. -/
def appendSections (shopInfo : ShopInfo) (shopCount : Nat) :
    List Nat → List (List ShopInfo) × UUID → List (List ShopInfo) × UUID
  | [], s => s
  | i :: rest, (dataList, nextUUID) =>
      appendSections shopInfo shopCount rest
        (dataList ++ [copies shopInfo nextUUID (sectionCount shopCount i)],
          nextUUID + sectionCount shopCount i)

/-- The loop of `updateData(on:)`; `none` is an index out of range. -/
def fillSnapshot (shopInfo : List (List ShopInfo)) :
    List SectionKind → Nat → Snapshot SectionKind ShopInfo →
      Option (Snapshot SectionKind ShopInfo)
  | [], _, snapshot => some snapshot
  | kind :: kinds, i, snapshot => do
      let items ← shopInfo[i]?
      fillSnapshot shopInfo kinds (i + 1) (snapshot.append kind items)

/-! ## The screen -/

/-- The requests of a chain, with what their closures have captured. -/
inductive ShopInfoRequest where
  | events
  | products (firstEvent : Event)
  | reviews (firstEvent : Event) (productImages : List String)
  | shopList (firstEvent : Event) (productImages : List String) (firstReview : Option Review)

/-- Their answers. `getReviews` is a stub that answers with no review at once; here
it may answer anything. -/
inductive ShopInfoAnswer where
  | events (result : Except FLError (List Event))
  | products (result : Except FLError (List Product))
  | reviews (result : Except FLError (List Review))
  | shopList (result : Except FLError (List Shop))

/-- The state of the screen; `pushed` are the shops that taps have opened. -/
structure ShopInfoVC extends FLDataLoadingVC where
  shop : Shop
  totalReviews : Int
  recommendationShops : List Shop
  dataList : List (List ShopInfo)
  dataSource : Option (Snapshot SectionKind ShopInfo)
  pushed : List Shop
  pending : List ShopInfoRequest
  nextUUID : UUID

namespace ShopInfoVC

inductive Event where
  | viewWillAppear
  | answer (i : Nat) (answer : ShopInfoAnswer)
  | didSelectItemAt (sectionNumber item : Nat)

inductive Block where
  | dismiss
  | apply (snapshot : Snapshot SectionKind ShopInfo)
  | present (alert : FLAlert)

/-- `presentFLAlertOnMainThread` for a failed request. -/
def failed (error : FLError) : Block :=
  .present { title := "错误！", message := error.rawValue, buttonTitle := "确认" }

/-- The closures of `getShopInfoItems`; `vc` no longer has the request pending. -/
def answered (vc : ShopInfoVC) :
    ShopInfoRequest → ShopInfoAnswer → Option (Outcome ShopInfoVC Block)
  | .events, .events (.ok events) =>
      match events with
      | [] =>
          some (.ok { vc with toFLDataLoadingVC := vc.showEmptyStateView "此商家页面正在建设中..." }
            [.dismiss])
      | firstEvent :: _ =>
          some (.ok { vc with pending := vc.pending ++ [.products firstEvent] } [])
  | .events, .events (.error error) => some (.ok vc [failed error])
  | .products firstEvent, .products (.ok products) =>
      let productImages := products.map Product.imageURL
      some (.ok { vc with pending := vc.pending ++ [.reviews firstEvent productImages] } [])
  | .products _, .products (.error error) => some (.ok vc [failed error])
  | .reviews firstEvent productImages, .reviews (.ok reviews) =>
      some (.ok { vc with
        totalReviews := reviews.length
        pending := vc.pending ++ [.shopList firstEvent productImages reviews.head?] } [])
  | .reviews _ _, .reviews (.error error) => some (.ok vc [failed error])
  | .shopList firstEvent productImages firstReview, .shopList (.ok shops) =>
      let shopInfo := makeShopInfo vc.nextUUID vc.shop firstEvent productImages vc.totalReviews
        firstReview shops
      let (dataList, nextUUID) :=
        appendSections shopInfo shops.length (List.range 5) (vc.dataList, vc.nextUUID + 1)
      match fillSnapshot dataList SectionKind.allCases 0 .empty with
      | some snapshot =>
          some (.ok { vc with recommendationShops := shops, dataList, nextUUID }
            [.dismiss, .apply snapshot])
      | none => some .trap
  | .shopList _ _ _, .shopList (.error error) => some (.ok vc [.dismiss, failed error])
  | _, _ => none

/-- The handlers of the screen. A tap hits an item that is displayed. -/
def handlers : Handlers ShopInfoVC Event Block where
  handle vc
    | .viewWillAppear =>
        some (.ok { vc with
          toFLDataLoadingVC := vc.showLoadingView
          pending := vc.pending ++ [.events] } [])
    | .answer i answer =>
        match vc.pending[i]? with
        | some request => answered { vc with pending := vc.pending.eraseIdx i } request answer
        | none => none
    | .didSelectItemAt sectionNumber item =>
        match vc.dataSource.bind (·.item sectionNumber item) with
        | some _ =>
            if SectionKind.ofRawValue sectionNumber = some .recommendation then
              match vc.recommendationShops[item]? with
              | some shop => some (.ok { vc with pushed := vc.pushed ++ [shop] } [])
              | none => some .trap
            else some (.ok vc [])
        | none => none
  block vc
    | .dismiss =>
        match vc.dismissBlock with
        | some base => .ok { vc with toFLDataLoadingVC := base } []
        | none => .trap
    | .apply snapshot => .ok { vc with dataSource := some snapshot } []
    | .present _ => .ok vc []

/-- A screen for `shop` that has not appeared yet. -/
def fresh (shop : Shop) : MainLoop ShopInfoVC Block :=
  .start
    { subviews := [⟨.content, 0⟩], containerview := none, nextView := 1, shop
      totalReviews := 0, recommendationShops := [], dataList := [], dataSource := none
      pushed := [], pending := [], nextUUID := 0 } []

def machine (shop : Shop) : EventMachine (MainLoop ShopInfoVC Block) (LoopStep Event) :=
  MainLoop.machine handlers (· = fresh shop)

/-! ## Chains -/

/-- The responses of a chain that succeeds. -/
structure Chain where
  firstEvent : FancyLife.Event
  moreEvents : List FancyLife.Event
  products : List Product
  reviews : List Review
  shops : List Shop

/-- An appearance, the answers of its chain, and the two blocks. -/
def Chain.steps (chain : Chain) : List (LoopStep Event) :=
  [.event .viewWillAppear,
    .event (.answer 0 (.events (.ok (chain.firstEvent :: chain.moreEvents)))),
    .event (.answer 0 (.products (.ok chain.products))),
    .event (.answer 0 (.reviews (.ok chain.reviews))),
    .event (.answer 0 (.shopList (.ok chain.shops))),
    .block, .block]

/-- The `shopInfo` of a chain. -/
def Chain.shopInfo (chain : Chain) (shop : Shop) (id : UUID) : ShopInfo :=
  makeShopInfo id shop chain.firstEvent (chain.products.map Product.imageURL)
    chain.reviews.length chain.reviews.head? chain.shops

/-- What an item shows: all but its `UUID()`. -/
def content (shopInfo : ShopInfo) : ShopInfo := { shopInfo with id := 0 }

/-- The five sections that a chain builds. -/
def Chain.sections (chain : Chain) (shop : Shop) : List (List ShopInfo) :=
  (List.range 5).map fun i =>
    List.replicate (sectionCount chain.shops.length i) (chain.shopInfo shop 0)

/-! ## The loops -/

theorem copies_content (shopInfo : ShopInfo) (nextUUID : UUID) (index : Nat) :
    (copies shopInfo nextUUID index).map content = List.replicate index (content shopInfo) := by
  unfold copies
  rw [List.map_map]
  show (List.range index).map (fun _ => content shopInfo) = _
  rw [List.map_const', List.length_range]

/-- The loop appends one section for each turn. -/
theorem appendSections_spec (shopInfo : ShopInfo) (shopCount : Nat) (is : List Nat)
    (dataList : List (List ShopInfo)) (nextUUID : UUID) :
    ∃ new nextUUID', appendSections shopInfo shopCount is (dataList, nextUUID) =
        (dataList ++ new, nextUUID') ∧
      new.map (List.map content) =
        is.map fun i => List.replicate (sectionCount shopCount i) (content shopInfo) := by
  induction is generalizing dataList nextUUID with
  | nil => exact ⟨[], nextUUID, by simp [appendSections], rfl⟩
  | cons i is ih =>
      rcases ih (dataList ++ [copies shopInfo nextUUID (sectionCount shopCount i)])
        (nextUUID + sectionCount shopCount i) with ⟨new, nextUUID', hloop, hnew⟩
      refine ⟨copies shopInfo nextUUID (sectionCount shopCount i) :: new, nextUUID', ?_, ?_⟩
      · rw [appendSections, hloop, List.append_assoc]
        rfl
      · rw [List.map_cons, List.map_cons, hnew, copies_content]

/-- The snapshot takes the first five lists, whatever follows them. -/
theorem fillSnapshot_spec {five : List (List ShopInfo)} (hfive : five.length = 5)
    (more : List (List ShopInfo)) :
    fillSnapshot (five ++ more) SectionKind.allCases 0 .empty =
      some ⟨SectionKind.allCases.zip five⟩ := by
  rcases five with _ | ⟨a, _ | ⟨b, _ | ⟨c, _ | ⟨d, _ | ⟨e, _ | ⟨f, five⟩⟩⟩⟩⟩⟩ <;>
    first | rfl | simp at hfive

theorem Chain.sections_length (chain : Chain) (shop : Shop) :
    (chain.sections shop).length = 5 := by
  simp [Chain.sections]

theorem length_of_sections {new : List (List ShopInfo)} {chain : Chain} {shop : Shop}
    (hnew : new.map (List.map content) = chain.sections shop) : new.length = 5 := by
  rw [← chain.sections_length shop, ← hnew, List.length_map]

/-! ## Runs of chains -/

/-- Nothing is pending, and no block is left. -/
structure Settled (l : MainLoop ShopInfoVC Block) : Prop where
  pending : l.state.pending = []
  queue : l.queue = []
  trapped : l.trapped = false

/-- Before the first chain, or with the sections of the first chain in front. -/
def Loaded (dataList : List (List ShopInfo)) : Prop := dataList = [] ∨ 5 ≤ dataList.length

theorem Loaded.split {dataList new : List (List ShopInfo)} (h : Loaded dataList)
    (hnew : new.length = 5) :
    ∃ five more, dataList ++ new = five ++ more ∧ five.length = 5 := by
  rcases h with rfl | h
  · exact ⟨new, [], by simp, hnew⟩
  · refine ⟨dataList.take 5, dataList.drop 5 ++ new, ?_, ?_⟩
    · rw [← List.append_assoc, List.take_append_drop]
    · rw [List.length_take]
      omega

/-- One chain: its sections go to the end of `dataList`, and the first five are
applied. -/
theorem chain_run {l : MainLoop ShopInfoVC Block} (hl : Settled l)
    (hdata : Loaded l.state.dataList) (shop : Shop) (hshop : l.state.shop = shop)
    (chain : Chain) :
    ∃ l' new five more, (machine shop).run l chain.steps = some l' ∧ Settled l' ∧
      l'.state.shop = shop ∧ l'.state.recommendationShops = chain.shops ∧
      new.map (List.map content) = chain.sections shop ∧
      l'.state.dataList = l.state.dataList ++ new ∧
      l.state.dataList ++ new = five ++ more ∧ five.length = 5 ∧
      l'.state.dataSource = some ⟨SectionKind.allCases.zip five⟩ := by
  rcases l with ⟨vc, queue, trapped⟩
  obtain rfl : queue = [] := hl.queue
  obtain rfl : trapped = false := hl.trapped
  have hpending : vc.pending = [] := hl.pending
  -- the last answer finds the other three in its closure
  have hfour : (machine shop).run ⟨vc, [], false⟩ (chain.steps.take 4) =
      some ⟨{ vc with
        toFLDataLoadingVC := vc.showLoadingView
        totalReviews := chain.reviews.length
        pending := [.shopList chain.firstEvent (chain.products.map Product.imageURL)
          chain.reviews.head?] }, [], false⟩ := by
    rcases vc with ⟨base, vcShop, totalReviews, shops, dataList, dataSource, pushed, pending, n⟩
    obtain rfl : pending = [] := hpending
    rfl
  rcases appendSections_spec (chain.shopInfo vc.shop vc.nextUUID) chain.shops.length
    (List.range 5) vc.dataList (vc.nextUUID + 1) with ⟨new, nextUUID, hloop, hnew⟩
  have hsections : new.map (List.map content) = chain.sections shop := by
    rw [hnew, show vc.shop = shop from hshop]
    rfl
  have hlength : new.length = 5 := length_of_sections hsections
  rcases Loaded.split hdata hlength with ⟨five, more, hsplit, hfive⟩
  have hfill : fillSnapshot (vc.dataList ++ new) SectionKind.allCases 0 .empty =
      some ⟨SectionKind.allCases.zip five⟩ := by
    rw [hsplit]
    exact fillSnapshot_spec hfive more
  have hfifth : handlers.handle
      { vc with
        toFLDataLoadingVC := vc.showLoadingView
        totalReviews := chain.reviews.length
        pending := [.shopList chain.firstEvent (chain.products.map Product.imageURL)
          chain.reviews.head?] } (.answer 0 (.shopList (.ok chain.shops))) =
      some (.ok { vc with
        toFLDataLoadingVC := vc.showLoadingView
        totalReviews := chain.reviews.length
        pending := []
        recommendationShops := chain.shops
        dataList := vc.dataList ++ new
        nextUUID } [.dismiss, .apply ⟨SectionKind.allCases.zip five⟩]) := by
    unfold Chain.shopInfo at hloop
    simp only [handlers, List.getElem?_cons_zero, answered, hloop, hfill]
    rfl
  have hrun : (machine shop).run ⟨vc, [], false⟩ chain.steps = some ⟨{ vc with
      toFLDataLoadingVC :=
        { vc.showLoadingView.remove ⟨.loading, vc.nextView⟩ with containerview := none }
      totalReviews := chain.reviews.length
      pending := []
      recommendationShops := chain.shops
      dataList := vc.dataList ++ new
      nextUUID
      dataSource := some ⟨SectionKind.allCases.zip five⟩ }, [], false⟩ := by
    rw [← List.take_append_drop 4 chain.steps, EventMachine.run_append, hfour, Option.bind_some]
    show (machine shop).run _ [_, _, _] = _
    simp only [EventMachine.run_cons, EventMachine.run_nil, machine, MainLoop.machine,
      MainLoop.step, hfifth]
    rfl
  exact ⟨_, new, five, more, hrun, ⟨rfl, rfl, rfl⟩, hshop, rfl, hsections, rfl, hsplit, hfive,
    rfl⟩

/-- Any number of chains: the first one stays on the screen, and the last one
stays behind the taps. -/
theorem chains_run (shop : Shop) (first : Chain) (rest : List Chain) :
    ∃ l five more,
      (machine shop).run (fresh shop) ((first :: rest).flatMap Chain.steps) = some l ∧
      Settled l ∧ l.state.shop = shop ∧
      l.state.recommendationShops = ((first :: rest).getLast (List.cons_ne_nil _ _)).shops ∧
      l.state.dataList = five ++ more ∧ five.map (List.map content) = first.sections shop ∧
      l.state.dataSource = some ⟨SectionKind.allCases.zip five⟩ := by
  induction rest using List.reverseRecOn with
  | nil =>
      have hsettled : Settled (fresh shop) := ⟨rfl, rfl, rfl⟩
      rcases chain_run hsettled (Or.inl rfl) shop rfl first with
        ⟨l, new, five, more, hrun, hl, hshop, hshops, hnew, hdata, hsplit, hfive, hsource⟩
      have hsame : new = five := by
        have hlength := congrArg List.length hsplit
        have hnil : (fresh shop).state.dataList ++ new = new := List.nil_append new
        rw [hnil] at hsplit hlength
        rw [List.length_append, hfive, length_of_sections hnew] at hlength
        rw [hsplit, List.eq_nil_of_length_eq_zero (by omega : more.length = 0), List.append_nil]
      refine ⟨l, five, more, ?_, hl, hshop, hshops, hdata.trans hsplit, hsame ▸ hnew, hsource⟩
      rw [List.flatMap_singleton]
      exact hrun
  | append_singleton rest chain ih =>
      -- the run of the earlier chains, followed by one more
      rcases ih with ⟨l, five, more, hrun, hl, hshop, -, hdata, hfirst, -⟩
      have hfive : five.length = 5 := length_of_sections hfirst
      have hloaded : Loaded l.state.dataList := by
        right
        rw [hdata, List.length_append]
        omega
      rcases chain_run hl hloaded shop hshop chain with
        ⟨l', new, five', more', hrun', hl', hshop', hshops', -, hdata', hsplit', hfive', hsource'⟩
      -- the first five lists are still those of the first chain
      have hsame : five' = five := by
        rw [hdata, List.append_assoc] at hsplit'
        exact (List.append_inj_left hsplit' (hfive.trans hfive'.symm)).symm
      refine ⟨l', five, more ++ new, ?_, hl', hshop', ?_, ?_, hfirst, hsame ▸ hsource'⟩
      · rw [← List.cons_append, List.flatMap_append, List.flatMap_singleton,
          EventMachine.run_append, hrun]
        exact hrun'
      · rw [hshops']
        simp
      · rw [hdata', hdata, List.append_assoc]

/-! ## When the screen is faithful -/

/-- What the screen shows of an event, a review and a recommended shop. -/
def eventData (e : FancyLife.Event) :=
  (e.id, e.title, e.description, e.startDate, e.endDate, e.price, e.originalPrice, e.imageURL)

def reviewData (r : Review) :=
  (r.username, r.avatarImageURL, r.content, r.imageURLs, r.likeAmount)

def shopData (s : Shop) := (s.id, s.title, s.imageURL, s.score)

/-- Two chains whose responses agree in what is shown. -/
structure Chain.Agrees (c d : Chain) : Prop where
  event : eventData c.firstEvent = eventData d.firstEvent
  products : c.products.map Product.imageURL = d.products.map Product.imageURL
  reviewAmount : c.reviews.length = d.reviews.length
  review : c.reviews.head?.map reviewData = d.reviews.head?.map reviewData
  shops : c.shops.map shopData = d.shops.map shopData

theorem map_shopData {l l' : List Shop} :
    l.map shopData = l'.map shopData ↔
      l.map Shop.id = l'.map Shop.id ∧ l.map Shop.title = l'.map Shop.title ∧
        l.map Shop.imageURL = l'.map Shop.imageURL ∧ l.map Shop.score = l'.map Shop.score := by
  induction l generalizing l' with
  | nil => cases l' <;> simp
  | cons s l ih =>
      cases l' with
      | nil => simp
      | cons s' l' =>
          simp only [List.map_cons, List.cons.injEq, ih, shopData, Prod.mk.injEq]
          tauto

theorem map_reviewData {r r' : Option Review} :
    r.map reviewData = r'.map reviewData ↔
      r.map Review.username = r'.map Review.username ∧
        r.map Review.avatarImageURL = r'.map Review.avatarImageURL ∧
        r.map Review.content = r'.map Review.content ∧
        r.map Review.imageURLs = r'.map Review.imageURLs ∧
        r.map Review.likeAmount = r'.map Review.likeAmount := by
  cases r <;> cases r' <;> simp [reviewData]

theorem agrees_iff_shopInfo {c d : Chain} (shop : Shop) :
    c.Agrees d ↔ c.shopInfo shop 0 = d.shopInfo shop 0 := by
  constructor
  · rintro ⟨hevent, hproducts, hamount, hreview, hshops⟩
    simp only [eventData, Prod.mk.injEq] at hevent
    rw [map_reviewData] at hreview
    rw [map_shopData] at hshops
    simp [Chain.shopInfo, makeShopInfo, hevent, hproducts, hamount, hreview, hshops]
  · intro h
    simp only [Chain.shopInfo, makeShopInfo, ShopInfo.mk.injEq] at h
    refine ⟨?_, ?_, ?_, map_reviewData.2 ?_, map_shopData.2 ?_⟩
    · simp [eventData, h]
    · simp [h]
    · exact_mod_cast (by tauto : (c.reviews.length : Int) = d.reviews.length)
    · tauto
    · tauto

theorem sections_eq_iff {c d : Chain} (shop : Shop) :
    c.sections shop = d.sections shop ↔ c.shopInfo shop 0 = d.shopInfo shop 0 := by
  constructor
  · intro h
    have hhead := congrArg List.head? h
    simpa [Chain.sections, sectionCount, List.range_succ] using hhead
  · intro h
    have hcount : c.shops.length = d.shops.length := by
      have := congrArg (fun i => i.recommendShopIDs.length) h
      simpa [Chain.shopInfo, makeShopInfo] using this
    unfold Chain.sections
    rw [h, hcount]

/-- After a chain: the applied snapshot shows the five sections of its responses,
and a tap on a recommended shop opens the shop that its cell shows. -/
structure Faithful (shop : Shop) (chain : Chain) (l : MainLoop ShopInfoVC Block) : Prop where
  sections : ∃ snapshot, l.state.dataSource = some snapshot ∧
    snapshot.sections.map Prod.fst = SectionKind.allCases ∧
    snapshot.sections.map (fun s => s.2.map content) = chain.sections shop
  taps : ∀ i info, l.state.dataSource.bind (·.item 4 i) = some info →
    ∃ tapped l', l.state.recommendationShops[i]? = some tapped ∧
      RecommendationCell.set info i =
        some ⟨tapped.imageURL, tapped.title, tapped.score.format1⟩ ∧
      (machine shop).step l (.event (.didSelectItemAt 4 i)) = some l' ∧ l'.trapped = false ∧
      l'.state.pushed = l.state.pushed ++ [tapped]

/-- The snapshot of a chain numbers its sections as `dataList` does. -/
theorem item_zip {five : List (List ShopInfo)} (hfive : five.length = 5) (n i : Nat) :
    (⟨SectionKind.allCases.zip five⟩ : Snapshot SectionKind ShopInfo).item n i =
      five[n]?.bind (·[i]?) := by
  have hsnd : (SectionKind.allCases.zip five).map Prod.snd = five :=
    List.map_snd_zip hfive.le
  unfold Snapshot.item Snapshot.items
  rw [← List.getElem?_map, hsnd]

/-- Section `n` of a chain: its items, all with the content of the chain. -/
theorem section_of_chain {five : List (List ShopInfo)} {chain : Chain} {shop : Shop}
    (hfive : five.map (List.map content) = chain.sections shop) {n : Nat}
    {items : List ShopInfo} (hitems : five[n]? = some items) :
    items.map content =
      List.replicate (sectionCount chain.shops.length n) (chain.shopInfo shop 0) := by
  have hn := congrArg (·[n]?) hfive
  simp only [List.getElem?_map, hitems, Chain.sections, Option.map_some] at hn
  rcases List.getElem?_eq_some_iff.1 hitems with ⟨hlt, -⟩
  rw [length_of_sections hfive] at hlt
  rw [List.getElem?_range hlt] at hn
  exact Option.some.inj hn

/-- An item as the snapshot of a chain has it. -/
theorem item_of_chain {five : List (List ShopInfo)} {chain : Chain} {shop : Shop}
    (hfive : five.map (List.map content) = chain.sections shop) {n i : Nat} {info : ShopInfo}
    (hitem : (⟨SectionKind.allCases.zip five⟩ : Snapshot SectionKind ShopInfo).item n i =
      some info) :
    content info = chain.shopInfo shop 0 ∧ i < sectionCount chain.shops.length n := by
  rw [item_zip (length_of_sections hfive)] at hitem
  rcases Option.bind_eq_some_iff.1 hitem with ⟨items, hitems, hinfo⟩
  have hget : (List.replicate (sectionCount chain.shops.length n) (chain.shopInfo shop 0))[i]? =
      some (content info) := by
    rw [← section_of_chain hfive hitems, List.getElem?_map, hinfo]
    rfl
  rcases List.getElem?_eq_some_iff.1 hget with ⟨hlt, heq⟩
  rw [List.length_replicate] at hlt
  rw [List.getElem_replicate] at heq
  exact ⟨heq.symm, hlt⟩

/-- The cell of an item reads the shop at the same position. -/
theorem cell_of_content {info : ShopInfo} {chain : Chain} {shop tapped : Shop} {i : Nat}
    (hinfo : content info = chain.shopInfo shop 0) (htapped : chain.shops[i]? = some tapped) :
    RecommendationCell.set info i =
      some ⟨tapped.imageURL, tapped.title, tapped.score.format1⟩ := by
  show RecommendationCell.set (content info) i = _
  rw [hinfo]
  simp [RecommendationCell.set, Chain.shopInfo, makeShopInfo, List.getElem?_map, htapped]

/-- A tap on a displayed recommendation opens the shop at its position. -/
theorem tap_recommendation {l : MainLoop ShopInfoVC Block} (hl : Settled l) (shop : Shop)
    {i : Nat} {info : ShopInfo} (hitem : l.state.dataSource.bind (·.item 4 i) = some info)
    {tapped : Shop} (htapped : l.state.recommendationShops[i]? = some tapped) :
    ∃ l', (machine shop).step l (.event (.didSelectItemAt 4 i)) = some l' ∧ l'.trapped = false ∧
      l'.state.pushed = l.state.pushed ++ [tapped] := by
  have hhandle : handlers.handle l.state (.didSelectItemAt 4 i) =
      some (.ok { l.state with pushed := l.state.pushed ++ [tapped] } []) := by
    have hkind : SectionKind.ofRawValue 4 = some .recommendation := rfl
    simp only [handlers, hitem, hkind, if_true, htapped]
  refine ⟨l.absorb l.queue (.ok { l.state with pushed := l.state.pushed ++ [tapped] } []),
    ?_, rfl, rfl⟩
  simp only [machine, MainLoop.machine, MainLoop.step, hl.trapped, hhandle]
  rfl

/-- The screen is faithful to the last chain exactly when it agrees with the
first. -/
theorem faithful_iff_agrees {shop : Shop} {first chain : Chain} {l : MainLoop ShopInfoVC Block}
    (hl : Settled l) (hshops : l.state.recommendationShops = chain.shops)
    {five : List (List ShopInfo)} (hfive : five.map (List.map content) = first.sections shop)
    (hsource : l.state.dataSource = some ⟨SectionKind.allCases.zip five⟩) :
    Faithful shop chain l ↔ chain.Agrees first := by
  have hlength : SectionKind.allCases.length = five.length := (length_of_sections hfive).symm
  have hitems : (SectionKind.allCases.zip five).map (fun s => s.2.map content) =
      first.sections shop := by
    have hzip : (SectionKind.allCases.zip five).map Prod.snd = five :=
      List.map_snd_zip hlength.ge
    calc (SectionKind.allCases.zip five).map (fun s => s.2.map content)
        = ((SectionKind.allCases.zip five).map Prod.snd).map (List.map content) := by
          rw [List.map_map]
          rfl
      _ = first.sections shop := by rw [hzip, hfive]
  constructor
  · intro h
    rcases h.sections with ⟨snapshot, hsnapshot, -, hsections⟩
    obtain rfl := Option.some.inj (hsource.symm.trans hsnapshot)
    rw [agrees_iff_shopInfo shop, ← sections_eq_iff, ← hsections]
    exact hitems
  · intro h
    have hinfo : chain.shopInfo shop 0 = first.shopInfo shop 0 := (agrees_iff_shopInfo shop).1 h
    refine ⟨⟨_, hsource, ?_, ?_⟩, ?_⟩
    · exact List.map_fst_zip hlength.le
    · rw [(sections_eq_iff shop).2 hinfo]
      exact hitems
    · intro i info hitem
      have hitem' := hitem
      rw [hsource] at hitem'
      rcases item_of_chain hfive hitem' with ⟨hcontent, hlt⟩
      have hlt' : i < first.shops.length := hlt
      -- the lists of shops are equally long
      have hcount := congrArg List.length h.shops
      rw [List.length_map, List.length_map] at hcount
      have hexists : ∃ tapped, chain.shops[i]? = some tapped :=
        ⟨_, List.getElem?_eq_getElem (by omega)⟩
      rcases hexists with ⟨tapped, htapped⟩
      have htapped' : l.state.recommendationShops[i]? = some tapped := by rw [hshops, htapped]
      rw [← hinfo] at hcontent
      rcases tap_recommendation hl shop hitem htapped' with ⟨l', hstep, htrapped, hpushed⟩
      exact ⟨tapped, l', htapped', cell_of_content hcontent htapped, hstep, htrapped, hpushed⟩

/-- In a run of successful chains the screen shows every chain's data, and its taps
open what it shows, exactly when all chains agree with the first one. -/
theorem shows_every_chain_iff (shop : Shop) (chains : List Chain) :
    (∀ n chain, chains[n]? = some chain → ∃ l,
      (machine shop).run (fresh shop) ((chains.take (n + 1)).flatMap Chain.steps) = some l ∧
        Faithful shop chain l) ↔
      ∀ first, chains.head? = some first → ∀ chain ∈ chains, chain.Agrees first := by
  -- the state after the chains up to number `n`
  have hstate : ∀ n chain first, chains[n]? = some chain → chains.head? = some first →
      ∃ l, (machine shop).run (fresh shop) ((chains.take (n + 1)).flatMap Chain.steps) = some l ∧
        (Faithful shop chain l ↔ chain.Agrees first) := by
    intro n chain first hn hfirst
    cases chains with
    | nil => cases hfirst
    | cons c rest =>
        obtain rfl := Option.some.inj hfirst
        rcases chains_run shop c (rest.take n) with
          ⟨l, five, more, hrun, hl, -, hshops, -, hfive, hsource⟩
        refine ⟨l, hrun, ?_⟩
        have hlast : (c :: rest.take n).getLast (List.cons_ne_nil _ _) = chain := by
          rcases List.getElem?_eq_some_iff.1 hn with ⟨hlt, hget⟩
          rw [List.length_cons] at hlt
          have hlength : (c :: rest.take n).length - 1 = n := by
            rw [List.length_cons, List.length_take]
            omega
          rw [List.getLast_eq_getElem, ← hget]
          have htake : (c :: rest.take n)[n]? = (c :: rest)[n]? := by
            rw [← List.take_succ_cons, List.getElem?_take_of_lt (Nat.lt_succ_self n)]
          simp only [hlength]
          rw [← Option.some_inj, ← List.getElem?_eq_getElem, ← List.getElem?_eq_getElem, htake]
        rw [hlast] at hshops
        exact faithful_iff_agrees hl hshops hfive hsource
  constructor
  · intro h first hfirst chain hchain
    rcases List.mem_iff_getElem?.1 hchain with ⟨n, hn⟩
    rcases hstate n chain first hn hfirst with ⟨l, hrun, hiff⟩
    rcases h n chain hn with ⟨l', hrun', hfaithful⟩
    obtain rfl := Option.some.inj (hrun.symm.trans hrun')
    exact hiff.1 hfaithful
  · intro h n chain hn
    rcases List.getElem?_eq_some_iff.1 hn with ⟨hlt, -⟩
    have hfirst : ∃ first, chains.head? = some first := by
      cases chains with
      | nil => cases hlt
      | cons c rest => exact ⟨c, rfl⟩
    rcases hfirst with ⟨first, hfirst⟩
    rcases hstate n chain first hn hfirst with ⟨l, hrun, hiff⟩
    exact ⟨l, hrun, hiff.2 (h first hfirst chain (List.mem_of_getElem? hn))⟩

/-- A shop, and a chain that recommends some shops for it. -/
def bakery (id : String) : Shop where
  id := id
  imageURL := "https://img/" ++ id
  title := id
  secondaryTitle := ""
  distance := .finite 0
  score := .finite 4
  location := [.finite 1, .finite 2]
  openingTime := "9-21"
  category := "food"
  address := ""
  sameCategoryShops := some 0
  kind := "bakery"

def recommends (shops : List Shop) : Chain where
  firstEvent := ⟨"e", "s", "sale", ⟨0, 0⟩, ⟨86400, 0⟩, "", "https://img/e", .finite 5, .finite 10⟩
  moreEvents := []
  products := []
  reviews := []
  shops := shops

/-- Two shops are recommended, then one: the second cell is still there, and a tap
on it reads beyond `recommendationShops`. -/
theorem shorter_recommendations_crash :
    (∃ l, (machine (bakery "s")).run (fresh (bakery "s"))
          ([recommends [bakery "a", bakery "b"], recommends [bakery "c"]].flatMap Chain.steps) =
        some l ∧
      (∃ l', (machine (bakery "s")).step l (.event (.didSelectItemAt 4 1)) = some l' ∧
        l'.trapped = true) ∧
      ¬ Faithful (bakery "s") (recommends [bakery "c"]) l) := by
  refine ⟨_, rfl, ⟨_, rfl, rfl⟩, ?_⟩
  intro h
  rcases h.taps 1 _ rfl with ⟨tapped, -, htapped, -⟩
  cases htapped

end ShopInfoVC

end FancyLife
