import FancyLife.SearchVC
import FancyLife.SearchedShops
import FancyLife.ShopFilter

/-! # Taps on rows

A tap on a row reads a list of the screen at the position of the row. The list
changes at once, while the rows change in a block on the main queue: the two are
kept apart, and what a tap opens is a matter of their order.
-/

namespace FancyLife

open Swift (Unicode)

/-! ## The results of a search -/

namespace SearchVC

variable {Data : Type} {coder : HistoryCoder Data}

/-- A block that is still to bring rows to the screen. -/
def Block.bringsRows : Block → Bool
  | .searchCallback _ => true
  | .applyResults _ => true
  | _ => false

/-- The row at a position of the result collection view. -/
def resultAt (vc : SearchVC Data) (item : Nat) : Option SearchResult :=
  vc.resultDataSource.bind fun snapshot => snapshot.item 0 item

/-- The step submits a search. -/
def Submits (l l' : MainLoop (SearchVC Data) Block) : Prop :=
  l'.state.nextSearch ≠ l.state.nextSearch

instance (l l' : MainLoop (SearchVC Data) Block) : Decidable (Submits l l') :=
  inferInstanceAs (Decidable (_ ≠ _))

/-- Nothing is left of earlier searches but the removal of a loading view. -/
def NoSearch (l : MainLoop (SearchVC Data) Block) : Prop :=
  l.state.searches = [] ∧ ∀ b ∈ l.queue, b.bringsRows = false

instance (l : MainLoop (SearchVC Data) Block) : Decidable (NoSearch l) :=
  inferInstanceAs (Decidable (_ ∧ _))

/-- The searches that are on their way, from the query to the snapshot. -/
def underway (l : MainLoop (SearchVC Data) Block) : Nat :=
  l.state.searches.length + l.queue.countP Block.bringsRows

/-- A result collection view without rows. -/
def Bare (vc : SearchVC Data) : Prop :=
  ∀ snapshot, vc.resultDataSource = some snapshot → snapshot = .empty

/-- At most one search is on its way; until its rows are there, none are, and then
they are those of `resultList`. -/
structure RowsFollow (l : MainLoop (SearchVC Data) Block) : Prop where
  single : underway l ≤ 1
  bare : underway l ≠ 0 → Bare l.state
  rows : ∀ snapshot, l.state.resultDataSource = some snapshot →
    snapshot = .empty ∨ snapshot = resultSnapshot l.state.resultList
  due : ∀ snapshot, .applyResults snapshot ∈ l.queue →
    snapshot = resultSnapshot l.state.resultList

/-- A handler that leaves the results alone. -/
structure SameResults (vc vc' : SearchVC Data) (deferred : List Block) : Prop where
  searches : vc'.searches = vc.searches
  nextSearch : vc'.nextSearch = vc.nextSearch
  resultDataSource : vc'.resultDataSource = vc.resultDataSource
  resultList : vc'.resultList = vc.resultList
  deferred : ∀ b ∈ deferred, b.bringsRows = false

theorem countP_bringsRows {queue : List Block} (h : ∀ b ∈ queue, b.bringsRows = false) :
    queue.countP Block.bringsRows = 0 := by
  rw [List.countP_eq_zero]
  intro b hb
  rw [h b hb]
  exact Bool.false_ne_true

/-- Step lemma for a handler that leaves the results alone. -/
theorem RowsFollow.same {vc vc' : SearchVC Data} {queue deferred : List Block}
    (h : RowsFollow ⟨vc, queue, false⟩) (hsame : SameResults vc vc' deferred) :
    RowsFollow ⟨vc', queue ++ deferred, false⟩ := by
  have hunderway : underway ⟨vc', queue ++ deferred, false⟩ = underway ⟨vc, queue, false⟩ := by
    have hdeferred := countP_bringsRows hsame.deferred
    simp only [underway, hsame.searches, List.countP_append, hdeferred, Nat.add_zero]
  refine ⟨hunderway ▸ h.single, ?_, ?_, ?_⟩
  · intro hne snapshot hsnapshot
    rw [hunderway] at hne
    exact h.bare hne snapshot (hsame.resultDataSource ▸ hsnapshot)
  · intro snapshot hsnapshot
    rw [hsame.resultList]
    exact h.rows snapshot (hsame.resultDataSource ▸ hsnapshot)
  · intro snapshot hmem
    rw [hsame.resultList]
    rcases List.mem_append.1 hmem with hmem | hmem
    · exact h.due snapshot hmem
    · have hfalse := hsame.deferred _ hmem
      cases hfalse

/-- Step lemma for a submission: the new collection view has no rows yet. `vc` is
the screen with the text to search for. -/
theorem RowsFollow.activated [Unicode] {vc vc' : SearchVC Data} {queue deferred : List Block}
    (h : RowsFollow ⟨vc, queue, false⟩)
    (hnone : vc'.nextSearch ≠ vc.nextSearch → NoSearch ⟨vc, queue, false⟩)
    (hactivated : Activated coder vc vc' deferred) :
    RowsFollow ⟨vc', queue ++ deferred, false⟩ := by
  cases hactivated with
  | empty htext =>
      rw [List.append_nil]
      exact h
  | search update htext hupdate =>
      rw [List.append_nil]
      rcases hnone (Nat.succ_ne_self _) with ⟨hsearches, hblocks⟩
      have hempty : vc.searches = [] := hsearches
      have hqueue := countP_bringsRows hblocks
      constructor
      · show (vc.searches ++ [_]).length + queue.countP Block.bringsRows ≤ 1
        rw [hempty, hqueue]
        exact Nat.le_refl 1
      · intro _ snapshot hsnapshot
        exact (Option.some.inj hsnapshot).symm
      · intro snapshot hsnapshot
        exact Or.inl (Option.some.inj hsnapshot).symm
      · intro snapshot hmem
        exact h.due snapshot hmem

/-- The texts of the screen change without its results. -/
theorem getTexts_same (vc : SearchVC Data) (onlyHistory : Bool) :
    SameResults vc (getTexts coder vc onlyHistory).1 (getTexts coder vc onlyHistory).2 := by
  unfold getTexts
  cases PersistenceManager.retrieveHistories coder vc.defaults with
  | error error =>
      refine ⟨rfl, rfl, rfl, rfl, ?_⟩
      intro b hb
      cases hb
  | ok histories =>
      cases onlyHistory with
      | false =>
          refine ⟨rfl, rfl, rfl, rfl, ?_⟩
          intro b hb
          cases hb
      | true =>
          refine ⟨rfl, rfl, rfl, rfl, ?_⟩
          intro b hb
          rw [List.mem_singleton.1 hb]
          rfl

theorem rebuild_same (vc : SearchVC Data) :
    SameResults vc (SearchVC.rebuild coder vc).1 (SearchVC.rebuild coder vc).2 := by
  have hsame := @getTexts_same _ coder vc.configureCollectionView true
  exact ⟨hsame.searches, hsame.nextSearch, hsame.resultDataSource, hsame.resultList,
    hsame.deferred⟩

theorem hotCallback_same (vc : SearchVC Data) (result : Except FLError (List String)) :
    SameResults vc (vc.hotCallback result).1 (vc.hotCallback result).2 := by
  cases result with
  | error error =>
      refine ⟨rfl, rfl, rfl, rfl, ?_⟩
      intro b hb
      cases hb
  | ok names =>
      refine ⟨rfl, rfl, rfl, rfl, ?_⟩
      intro b hb
      rw [List.mem_singleton.1 hb]
      rfl

/-- Step lemma for an answer: its callback takes the place of the search. -/
theorem RowsFollow.answer {vc : SearchVC Data} {queue : List Block} {id : Nat}
    (h : RowsFollow ⟨vc, queue, false⟩) (hid : id ∈ vc.searches.map Prod.fst)
    (result : Except FLError (List SearchResult)) :
    RowsFollow ⟨{ vc with searches := vc.searches.filter (·.1 ≠ id) },
      queue ++ [.searchCallback result], false⟩ := by
  rcases List.mem_map.1 hid with ⟨search, hmem, hfst⟩
  -- the search that was answered is gone
  have hlt : (vc.searches.filter (·.1 ≠ id)).length < vc.searches.length := by
    refine List.length_filter_lt_length_iff_exists.2 ⟨search, hmem, ?_⟩
    simp [hfst]
  have hsingle : vc.searches.length + queue.countP Block.bringsRows ≤ 1 := h.single
  have hbare : Bare vc := by
    refine h.bare ?_
    show vc.searches.length + queue.countP Block.bringsRows ≠ 0
    omega
  constructor
  · show (vc.searches.filter (·.1 ≠ id)).length +
      (queue ++ [Block.searchCallback result]).countP Block.bringsRows ≤ 1
    rw [List.countP_append]
    show _ + (queue.countP Block.bringsRows + 1) ≤ 1
    omega
  · intro _
    exact hbare
  · intro snapshot hsnapshot
    exact Or.inl (hbare snapshot hsnapshot)
  · intro snapshot hdue
    rcases List.mem_append.1 hdue with hdue | hdue
    · exact h.due snapshot hdue
    · have hne := List.mem_singleton.1 hdue
      cases hne

/-- Step lemma for an event. -/
theorem RowsFollow.event [Unicode] {vc vc' : SearchVC Data} {queue deferred : List Block}
    {e : Event} (ho : (handlers coder).handle vc e = some (.ok vc' deferred))
    (hnone : vc'.nextSearch ≠ vc.nextSearch → NoSearch ⟨vc, queue, false⟩)
    (h : RowsFollow ⟨vc, queue, false⟩) : RowsFollow ⟨vc', queue ++ deferred, false⟩ := by
  have hsame : SameResults vc vc' deferred → RowsFollow ⟨vc', queue ++ deferred, false⟩ := h.same
  have hspec := handle_spec ho
  cases hspec with
  | clear hremoved =>
      refine hsame ⟨rfl, rfl, rfl, rfl, ?_⟩
      intro b hb
      rw [List.mem_singleton.1 hb]
      rfl
  | edit searchText =>
      refine hsame ⟨rfl, rfl, rfl, rfl, ?_⟩
      intro b hb
      cases hb
  | search _ _ hactivated => exact h.activated hnone hactivated
  | tapTag sectionNumber item tag _ _ hactivated =>
      have htext : RowsFollow ⟨{ vc with searchText := tag.name }, queue, false⟩ :=
        ⟨h.single, h.bare, h.rows, h.due⟩
      exact htext.activated hnone hactivated
  | clearHistory update hupdate hcompleted =>
      refine hsame ⟨rfl, rfl, rfl, rfl, ?_⟩
      intro b hb
      rw [List.mem_singleton.1 hb]
      rfl
  | clearFailed update hupdate hcompleted =>
      refine hsame ⟨rfl, rfl, rfl, rfl, ?_⟩
      intro b hb
      cases hb
  | hotAnswer result n =>
      refine hsame ⟨rfl, rfl, rfl, rfl, ?_⟩
      intro b hb
      rw [List.mem_singleton.1 hb]
      rfl
  | searchAnswer id result =>
      refine h.answer ?_ result
      by_contra hid
      have hnot : (handlers coder).handle vc (.searchAnswer id result) = none := if_neg hid
      rw [hnot] at ho
      cases ho

/-- Step lemma for the callback of a search: the list and its snapshot agree. -/
theorem RowsFollow.callback {vc : SearchVC Data} {queue : List Block}
    {result : Except FLError (List SearchResult)}
    (h : RowsFollow ⟨vc, .searchCallback result :: queue, false⟩) :
    RowsFollow ⟨(vc.searchCallback result).1, queue ++ (vc.searchCallback result).2, false⟩ := by
  have hsingle : vc.searches.length + (queue.countP Block.bringsRows + 1) ≤ 1 := by
    have hcount : (Block.searchCallback result :: queue).countP Block.bringsRows =
        queue.countP Block.bringsRows + 1 := List.countP_cons_of_pos rfl
    rw [← hcount]
    exact h.single
  have hsearches : vc.searches = [] := List.eq_nil_of_length_eq_zero (by omega)
  have hqueue : queue.countP Block.bringsRows = 0 := by omega
  have hbare : Bare vc := by
    refine h.bare ?_
    show vc.searches.length + (Block.searchCallback result :: queue).countP Block.bringsRows ≠ 0
    rw [List.countP_cons_of_pos rfl]
    omega
  -- no snapshot was due before
  have hnone : ∀ snapshot, .applyResults snapshot ∉ queue := by
    intro snapshot hmem
    have hfalse := List.countP_eq_zero.1 hqueue _ hmem
    exact hfalse rfl
  have hrows : ∀ (vc' : SearchVC Data) (deferred : List Block), vc'.searches = vc.searches →
      vc'.resultDataSource = vc.resultDataSource → deferred.countP Block.bringsRows ≤ 1 →
      (∀ snapshot, .applyResults snapshot ∈ deferred →
        snapshot = resultSnapshot vc'.resultList) →
      RowsFollow ⟨vc', queue ++ deferred, false⟩ := by
    intro vc' deferred hsearches' hdataSource hdeferred hdue
    constructor
    · simp only [underway, hsearches', hsearches, List.countP_append, hqueue, List.length_nil]
      omega
    · intro _ snapshot hsnapshot
      exact hbare snapshot (hdataSource ▸ hsnapshot)
    · intro snapshot hsnapshot
      exact Or.inl (hbare snapshot (hdataSource ▸ hsnapshot))
    · intro snapshot hmem
      rcases List.mem_append.1 hmem with hmem | hmem
      · exact absurd hmem (hnone snapshot)
      · exact hdue snapshot hmem
  cases result with
  | error error =>
      refine hrows _ _ rfl rfl (Nat.zero_le 1) ?_
      intro snapshot hmem
      simp [searchCallback] at hmem
  | ok results =>
      cases results with
      | nil =>
          refine hrows _ _ rfl rfl (Nat.zero_le 1) ?_
          intro snapshot hmem
          simp [searchCallback] at hmem
      | cons r rest =>
          refine hrows _ _ rfl rfl (Nat.le_refl 1) ?_
          intro snapshot hmem
          simpa [searchCallback] using hmem

/-- Step lemma for a block. -/
theorem RowsFollow.block [Unicode] {vc vc' : SearchVC Data} {queue deferred : List Block}
    {b : Block} (ho : (handlers coder).block vc b = .ok vc' deferred)
    (h : RowsFollow ⟨vc, b :: queue, false⟩) : RowsFollow ⟨vc', queue ++ deferred, false⟩ := by
  have hpop : b.bringsRows = false → RowsFollow ⟨vc, queue, false⟩ := by
    intro hb
    have hunderway : underway ⟨vc, b :: queue, false⟩ = underway ⟨vc, queue, false⟩ := by
      simp only [underway, List.countP_cons, hb, Bool.false_eq_true, if_false, Nat.add_zero]
    exact ⟨hunderway ▸ h.single, fun hne => h.bare (hunderway ▸ hne), h.rows,
      fun snapshot hmem => h.due snapshot (List.mem_cons_of_mem _ hmem)⟩
  have hran := block_spec ho
  cases hran with
  | dismiss base hbase =>
      refine (hpop rfl).same ⟨rfl, rfl, rfl, rfl, ?_⟩
      intro b hb
      cases hb
  | applyTags snapshot =>
      refine (hpop rfl).same ⟨rfl, rfl, rfl, rfl, ?_⟩
      intro b hb
      cases hb
  | applyResults snapshot =>
      rw [List.append_nil]
      have hsnapshot : snapshot = resultSnapshot vc.resultList := h.due snapshot List.mem_cons_self
      have hcount : (Block.applyResults snapshot :: queue).countP Block.bringsRows =
          queue.countP Block.bringsRows + 1 := List.countP_cons_of_pos rfl
      have hsingle : vc.searches.length + (queue.countP Block.bringsRows + 1) ≤ 1 := by
        rw [← hcount]
        exact h.single
      constructor
      · show vc.searches.length + queue.countP Block.bringsRows ≤ 1
        omega
      · intro hne
        have hzero : vc.searches.length + queue.countP Block.bringsRows = 0 := by omega
        exact absurd hzero hne
      · intro shown hshown
        right
        rw [← Option.some.inj hshown]
        exact hsnapshot
      · intro due hmem
        exact h.due due (List.mem_cons_of_mem _ hmem)
  | rebuild => exact (hpop rfl).same (rebuild_same vc)
  | hotCallback result => exact (hpop rfl).same (hotCallback_same vc result)
  | searchCallback result => exact h.callback
  | present alert =>
      refine (hpop rfl).same ⟨rfl, rfl, rfl, rfl, ?_⟩
      intro b hb
      cases hb

/-- Step lemma. -/
theorem RowsFollow.step [Unicode] {l l' : MainLoop (SearchVC Data) Block} {x : LoopStep Event}
    (hstep : (machine coder).step l x = some l') (hnone : Submits l l' → NoSearch l)
    (h : RowsFollow l) : RowsFollow l' := by
  rcases l with ⟨vc, queue, trapped⟩
  rcases MainLoop.step_cases hstep with ⟨htrapped, -⟩
  obtain rfl : trapped = false := htrapped
  rcases MainLoop.step_deferred hstep with ⟨e, vc', -, ho, rfl⟩ |
    ⟨b, rest, vc', -, hqueue, ho, rfl⟩ | ⟨-, hstate, hqueue, -⟩
  · exact RowsFollow.event ho hnone h
  · obtain rfl : queue = b :: rest := hqueue
    exact RowsFollow.block ho h
  · -- a trap leaves the state alone and nothing on the queue
    have hle : underway l' ≤ underway ⟨vc, queue, false⟩ := by
      simp only [underway, hstate, hqueue, List.countP_nil, Nat.add_zero]
      exact Nat.le_add_right _ _
    have hsingle := h.single
    constructor
    · omega
    · intro hne
      rw [hstate]
      exact h.bare (by omega)
    · rw [hstate]
      exact h.rows
    · intro snapshot hmem
      rw [hqueue] at hmem
      cases hmem

theorem RowsFollow.viewDidLoad (defaults : Option Data) :
    RowsFollow (viewDidLoad coder defaults) := by
  have hsame := @getTexts_same _ coder (initial defaults).configureCollectionView false
  have hempty : RowsFollow ⟨(initial defaults).configureCollectionView, [], false⟩ := by
    refine ⟨Nat.zero_le 1, ?_, ?_, ?_⟩
    · intro hne
      exact absurd rfl hne
    · intro snapshot hsnapshot
      cases hsnapshot
    · intro snapshot hmem
      cases hmem
  have hloaded := hempty.same hsame
  exact ⟨hloaded.single, hloaded.bare, hloaded.rows, hloaded.due⟩

/-- As long as no search is submitted while another one is on its way, a tap on a
result row asks for the shop that the row on the screen names, at every moment: it
never reads past the list, and never reads a row of another search. -/
theorem displayed_result_opens [Unicode] {defaults : Option Data} {xs : List (LoopStep Event)}
    {l : MainLoop (SearchVC Data) Block}
    (hrun : (machine coder).run (viewDidLoad coder defaults) xs = some l)
    (halone : (machine coder).Along (fun l _ l' => Submits l l' → NoSearch l)
      (viewDidLoad coder defaults) xs) {item : Nat} {r : SearchResult}
    (hrow : resultAt l.state item = some r) :
    didSelectResult l.state.resultList item =
      FirestoreManager.getShop r.shopID (.report · .done) := by
  have hfollow : RowsFollow l := EventMachine.run_invariant_along
    (fun _ _ _ hstep hnone hinv => hinv.step hstep hnone) hrun halone (.viewDidLoad defaults)
  rcases Option.bind_eq_some_iff.1 hrow with ⟨snapshot, hsnapshot, hitem⟩
  have hget : l.state.resultList[item]? = some r := by
    rcases hfollow.rows snapshot hsnapshot with rfl | rfl
    · cases hitem
    · exact hitem
  unfold didSelectResult
  rw [hget]

/-- The row of a bakery. -/
def bakeryRow : SearchResult :=
  { id := 7, shopID := "s1", title := "面包房", imageURL := "s1.png", description := "",
    distance := none, score := some (.finite 4), location := some [], price := none,
    originalPrice := none, eventStartDate := none, eventEndDate := none, kind := "shop" }

section CodePoints

attribute [local instance] Unicode.codePoints

/-- A search that brings one row. -/
def searchBread : List (LoopStep Event) :=
  [.event (.textDidChange "面包"), .event .searchButtonClicked,
    .event (.searchAnswer 0 (.ok [bakeryRow])), .block, .block, .block]

theorem bakery_row_opens_bakery :
    ∃ l, (machine plainCoder).run (viewDidLoad plainCoder none) searchBread = some l ∧
      resultAt l.state 0 = some bakeryRow ∧
      didSelectResult l.state.resultList 0 =
        FirestoreManager.getShop "s1" (.report · .done) := by
  have hrun : ∃ l, (machine plainCoder).run (viewDidLoad plainCoder none) searchBread = some l ∧
      resultAt l.state 0 = some bakeryRow := ⟨_, rfl, rfl⟩
  rcases hrun with ⟨l, hrun, hrow⟩
  exact ⟨l, hrun, hrow, displayed_result_opens hrun (by decide) hrow⟩

/-- Two searches overlap, and the rows of the first are shown over the empty list of
the second: a tap reads past the list. -/
example :
    ∃ l, (machine plainCoder).run (viewDidLoad plainCoder none)
        [.event (.textDidChange "面包"), .event .searchButtonClicked, .event .searchButtonClicked,
          .event (.searchAnswer 0 (.ok [bakeryRow])), .event (.searchAnswer 1 (.ok [])),
          .block, .block, .block, .block] = some l ∧
      resultAt l.state 0 = some bakeryRow ∧ didSelectResult l.state.resultList 0 = .trap :=
  ⟨_, rfl, rfl, rfl⟩

end CodePoints

end SearchVC

/-! ## The rows of the shop list -/

namespace ShopVC

variable {sort : SortedBy Shop} {distance : CLLocation → CLLocation → Swift.Double}

/-- `collectionView(_:didSelectItemAt:)`: the shop that is opened; `none` is an index
out of range. -/
def didSelectItemAt (vc : ShopVC) (item : Nat) : Option Shop := vc.dataList.section1[item]?

/-- The rows on the screen are those of the snapshot that is applied. -/
def RowsShown (vc : ShopVC) : Prop :=
  ∀ row ∈ vc.rows, vc.dataSource.item 1 row.item = some row.shop

/-- The snapshot that is applied last is that of the list. -/
def ListFollows (l : MainLoop ShopVC Block) : Prop :=
  ∀ item, (latest l).item 1 item = l.state.dataList.section1[item]?

/-- Neither rows nor snapshot change before the blocks run. -/
theorem answered_screen [Unicode] (vc : ShopVC) (result : Except FLError (List Shop)) :
    (vc.answered sort result).1.rows = vc.rows ∧
      (vc.answered sort result).1.dataSource = vc.dataSource := by
  cases result with
  | error error => exact ⟨rfl, rfl⟩
  | ok shopList =>
      cases hcategory : vc.category with
      | none => simp [answered, hcategory]
      | some category => simp [answered, hcategory, filterShop]

/-- A cell is set to the shop that the snapshot has at its position. -/
theorem provideCell_shop [Unicode] {vc vc' : ShopVC} {item : Nat} {deferred : List Block}
    (ho : (handlers sort distance).handle vc (.provideCell item) = some (.ok vc' deferred)) :
    ∃ row : ShopRow, vc'.rows = vc.rows.filter (·.item ≠ item) ++ [row] ∧
      vc'.dataSource = vc.dataSource ∧ vc.dataSource.item 1 row.item = some row.shop := by
  cases hshop : vc.dataSource.item 1 item with
  | none =>
      have hnot : (handlers sort distance).handle vc (.provideCell item) = none := by
        simp only [handlers, hshop]
      rw [hnot] at ho
      cases ho
  | some shop =>
      have hsome : (handlers sort distance).handle vc (.provideCell item) =
          some (vc.provideCell distance item shop) := by
        simp only [handlers, hshop]
      rw [hsome] at ho
      have ho' := Option.some.inj ho
      cases hplace : shopLocation shop.location with
      | none =>
          simp only [provideCell, hplace] at ho'
          cases ho'
      | some place =>
          simp only [provideCell, hplace] at ho'
          split at ho'
          · rcases Outcome.ok.inj ho' with ⟨rfl, -⟩
            exact ⟨⟨item, shop, _⟩, rfl, rfl, hshop⟩
          · cases ho'

/-- Rows go off the screen, the others stay. -/
theorem RowsShown.filter {vc vc' : ShopVC} {p : ShopRow → Bool} (h : RowsShown vc)
    (hrows : vc'.rows = vc.rows.filter p) (hdataSource : vc'.dataSource = vc.dataSource) :
    RowsShown vc' := by
  intro row hrow
  rw [hrows] at hrow
  rw [hdataSource]
  exact h row (List.mem_filter.1 hrow).1

/-- The same rows over the same snapshot. -/
theorem RowsShown.same {vc vc' : ShopVC} (h : RowsShown vc) (hrows : vc'.rows = vc.rows)
    (hdataSource : vc'.dataSource = vc.dataSource) : RowsShown vc' := by
  intro row hrow
  rw [hdataSource]
  exact h row (hrows ▸ hrow)

/-- Step lemma for an event. -/
theorem RowsShown.event [Unicode] {vc vc' : ShopVC} {e : Event} {deferred : List Block}
    (ho : (handlers sort distance).handle vc e = some (.ok vc' deferred)) (h : RowsShown vc) :
    RowsShown vc' := by
  have hspec := handle_spec ho
  cases hspec with
  | answer result hrequested =>
      rcases @answered_screen sort _ { vc with requested := false } result with ⟨hrows, hdataSource⟩
      exact h.same hrows hdataSource
  | didUpdateLocations locations here hlast => exact h
  | tapOption item header _ filterBar option hbar hheader htap => exact h.same rfl rfl
  | provideHeader sectionNumber dequeued _ _ hsection hprovided =>
      cases hprovided with
      | image _ vc₁ header blocks hdequeued =>
          cases hdequeued with
          | new => exact h.same rfl rfl
          | recycled _ hlt himage hbar => exact h.same rfl rfl
      | filterBar _ _ vc₁ header blocks hdequeued hne =>
          cases hdequeued with
          | new => exact h.same rfl rfl
          | recycled _ hlt himage hbar => exact h.same rfl rfl
  | endDisplayingImage => exact h.same rfl rfl
  | endDisplayingBar sectionNumber hne => exact h.same rfl rfl
  | provideCell item shop place hplace hlabel =>
      rcases provideCell_shop ho with ⟨row, hrows, hdataSource, hshop⟩
      intro other hother
      rw [hrows] at hother
      rcases List.mem_append.1 hother with hother | hother
      · exact h other (List.mem_filter.1 hother).1
      · rw [List.mem_singleton.1 hother]
        exact hshop
  | endDisplayingCell item => exact h.filter rfl rfl

/-- Step lemma for a block: the one that applies a snapshot takes all rows away. -/
theorem RowsShown.block [Unicode] {vc vc' : ShopVC} {b : Block} {deferred : List Block}
    (ho : (handlers sort distance).block vc b = .ok vc' deferred) (h : RowsShown vc) :
    RowsShown vc' := by
  rcases block_spec ho with ⟨hran, -⟩
  cases hran with
  | apply snapshot =>
      intro row hrow
      cases hrow
  | filterBar header block => exact h.same rfl rfl
  | dismiss base hbase => exact h.same rfl rfl
  | present alert => exact h

/-- `updateData` submits the snapshot of the list. -/
theorem ListFollows.update (vc : ShopVC) (queue : List Block) {blocks : List Block}
    (h : ∀ snapshot, .apply snapshot ∉ blocks) :
    ListFollows ⟨vc, queue ++ (vc.updateData ++ blocks), false⟩ := by
  intro item
  rw [latest_updateData vc queue h]
  rfl

/-- A quiet handler changes neither the list nor the snapshot that is applied last. -/
theorem ListFollows.quiet {vc vc' : ShopVC} {queue deferred : List Block}
    (h : ListFollows ⟨vc, queue, false⟩) (hquiet : Quiet vc vc' deferred) :
    ListFollows ⟨vc', queue ++ deferred, false⟩ := by
  intro item
  rw [hquiet.latest queue, h item]
  show vc.dataList.section1[item]? = vc'.dataList.section1[item]?
  rw [hquiet.dataList]

/-- The answer submits the list that it loads, or leaves everything alone. -/
theorem ListFollows.answer [Unicode] {vc : ShopVC} {queue : List Block}
    (h : ListFollows ⟨vc, queue, false⟩) (result : Except FLError (List Shop)) :
    ListFollows ⟨(vc.answered sort result).1, queue ++ (vc.answered sort result).2, false⟩ := by
  cases result with
  | error error =>
      have hblocks : ∀ snapshot, .apply snapshot ∉ (vc.answered sort (.error error)).2 := by
        intro snapshot hmem
        simp [answered] at hmem
      intro item
      show (List.foldl shown vc.dataSource _).item 1 item = _
      rw [List.foldl_append, foldl_shown_of_quiet hblocks]
      exact h item
  | ok shopList =>
      have hblocks : (vc.answered sort (.ok shopList)).2 =
          (vc.answered sort (.ok shopList)).1.updateData ++ [.dismiss] := by
        cases hcategory : vc.category with
        | none => simp [answered, hcategory, updateData]
        | some category => simp [answered, hcategory, updateData]
      rw [hblocks]
      exact ListFollows.update _ queue (by simp)

/-- Step lemma for an event. -/
theorem ListFollows.event [Unicode] {vc vc' : ShopVC} {queue deferred : List Block} {e : Event}
    (ho : (handlers sort distance).handle vc e = some (.ok vc' deferred))
    (h : ListFollows ⟨vc, queue, false⟩) : ListFollows ⟨vc', queue ++ deferred, false⟩ := by
  rcases handle_cases ho with ⟨result, -, -, rfl, rfl⟩ |
    ⟨item, option, headers, -, -, -, rfl, rfl⟩ | ⟨-, hquiet⟩
  · have hasked : ListFollows ⟨{ vc with requested := false }, queue, false⟩ := h
    exact hasked.answer result
  · have hupdate := @ListFollows.update
      ({ vc with headers }.didRequestToUpdateShops sort option).1 queue [] (by simp)
    rw [List.append_nil] at hupdate
    exact hupdate
  · exact h.quiet hquiet

/-- Step lemma for a block. -/
theorem ListFollows.block [Unicode] {vc vc' : ShopVC} {b : Block} {queue deferred : List Block}
    (ho : (handlers sort distance).block vc b = .ok vc' deferred)
    (h : ListFollows ⟨vc, b :: queue, false⟩) : ListFollows ⟨vc', queue ++ deferred, false⟩ := by
  rcases block_cases ho with ⟨snapshot, rfl, rfl, rfl⟩ | ⟨hne, hquiet⟩
  · rw [List.append_nil]
    exact h
  · have hrest : ListFollows ⟨vc, queue, false⟩ := by
      intro item
      have hitem := h item
      unfold latest at hitem
      rw [List.foldl_cons, shown_of_ne hne] at hitem
      exact hitem
    exact hrest.quiet hquiet

/-- What holds of the rows in every reachable state. -/
theorem reachable_rows [Unicode] {category : Option String} {l : MainLoop ShopVC Block}
    (hl : (machine sort distance category).Reachable l) :
    RowsShown l.state ∧ (l.trapped = false → ListFollows l) := by
  have hinit : ∀ l, (machine sort distance category).init l →
      RowsShown l.state ∧ (l.trapped = false → ListFollows l) := by
    rintro l rfl
    constructor
    · intro row hrow
      cases hrow
    · intro _ item
      rfl
  refine EventMachine.reachable_invariant hinit ?_ hl
  rintro ⟨vc, queue, trapped⟩ x l' hstep ⟨hrows, hlist⟩
  rcases MainLoop.step_cases hstep with ⟨htrapped, -⟩
  obtain rfl : trapped = false := htrapped
  rcases MainLoop.step_deferred hstep with ⟨e, vc', -, ho, rfl⟩ |
    ⟨b, rest, vc', -, hqueue, ho, rfl⟩ | ⟨htrap, hstate, -, -⟩
  · exact ⟨hrows.event ho, fun _ => (hlist rfl).event ho⟩
  · obtain rfl : queue = b :: rest := hqueue
    exact ⟨hrows.block ho, fun _ => (hlist rfl).block ho⟩
  · rw [hstate, htrap]
    exact ⟨hrows, fun h => by cases h⟩

/-- In every reachable state of a shop list that has not crashed, a tap opens the
shop that its position has once the pending blocks have run, and reads past the list
if there is none; when no snapshot is pending it opens the shop on the row. -/
theorem row_opens_shop [Unicode] {category : Option String} {l : MainLoop ShopVC Block}
    (hl : (machine sort distance category).Reachable l) (htrapped : l.trapped = false) :
    (∀ item, l.state.didSelectItemAt item = (latest l).item 1 item) ∧
      ((∀ snapshot, .apply snapshot ∉ l.queue) →
        ∀ row ∈ l.state.rows, l.state.didSelectItemAt row.item = some row.shop) := by
  rcases reachable_rows hl with ⟨hrows, hlist⟩
  constructor
  · intro item
    exact (hlist htrapped item).symm
  · intro hnone row hrow
    have hlatest : latest l = l.state.dataSource := foldl_shown_of_quiet hnone _
    have hitem := hlist htrapped row.item
    rw [hlatest, hrows row hrow] at hitem
    exact hitem.symm

section CodePoints

attribute [local instance] Unicode.codePoints

/-- A restaurant and a travel agency are on the screen. -/
def twoRows : List (LoopStep Event) :=
  openBar [plainShop "a" "餐饮", plainShop "b" "旅行"] ++
    [.event (.provideCell 0), .event (.provideCell 1)]

/-- A tap on the second row opens the agency. -/
theorem agency_row_opens_agency :
    ∃ l, (machine .insertion noDistance none).run (viewDidLoad none) twoRows = some l ∧
      ⟨1, plainShop "b" "旅行", .finite 0⟩ ∈ l.state.rows ∧
      l.state.didSelectItemAt 1 = some (plainShop "b" "旅行") := by
  have hrun : ∃ l, (machine .insertion noDistance none).run (viewDidLoad none) twoRows = some l ∧
      l.trapped = false ∧ l.queue = [] ∧
      ⟨1, plainShop "b" "旅行", .finite 0⟩ ∈ l.state.rows := ⟨_, rfl, rfl, rfl, by decide⟩
  rcases hrun with ⟨l, hrun, htrapped, hqueue, hrow⟩
  have hnone : ∀ snapshot, Block.apply snapshot ∉ l.queue := by
    intro snapshot hmem
    rw [hqueue] at hmem
    cases hmem
  exact ⟨l, hrun, hrow, (row_opens_shop ⟨_, _, rfl, hrun⟩ htrapped).2 hnone _ hrow⟩

/-- The user taps the option of the agency, and a row before its block has run: the
row of the restaurant opens the agency, and the row of the agency opens nothing. -/
example :
    ∃ l, (machine .insertion noDistance none).run (viewDidLoad none)
        (twoRows ++ [.event (.tapOption 4)]) = some l ∧
      l.state.rows.map ShopRow.shop = [plainShop "a" "餐饮", plainShop "b" "旅行"] ∧
      l.state.didSelectItemAt 0 = some (plainShop "b" "旅行") ∧
      l.state.didSelectItemAt 1 = none :=
  ⟨_, rfl, rfl, rfl, rfl⟩

end CodePoints

end ShopVC

end FancyLife
