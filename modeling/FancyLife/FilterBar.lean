import FancyLife.ShopFilter

/-! # The highlighted option

The highlight of a filter bar is compared with the shops that are shown. A bar
keeps its highlight while its header is off the screen, and blocks on the main
queue may still move it: `eventualBar` is the bar once they have run. Every tap
takes the bar off the screen, so that the bar on the screen is as the
collection view last asked for it.
-/

namespace FancyLife.ShopVC

open ShopFilterView (optionList itemOf initBlocks)
open Swift (Unicode)

variable (sort : SortedBy Shop) {distance : CLLocation → CLLocation → Swift.Double}

/-! ## Bars -/

/-- The bar of a header. -/
def barOf (vc : ShopVC) (h : Nat) : Option ShopFilterView :=
  (vc.headers[h]?).map ShopHeaderSV.filterBar

/-- The bar on the screen. -/
def visibleBar (vc : ShopVC) : Option ShopFilterView := vc.barHeader.bind vc.barOf

/-- The block, if it is one for the bar of header `h`. -/
def blockFor (h : Nat) : Block → Option ShopFilterView.Block
  | .filterBar h' block => if h' = h then some block else none
  | _ => none

/-- The blocks for the bar of a header, in order. -/
def barBlocks (h : Nat) (queue : List Block) : List ShopFilterView.Block :=
  queue.filterMap (blockFor h)

/-- The bar of a header once the blocks on the main queue have run. -/
def eventualBar (l : MainLoop ShopVC Block) (h : Nat) : Option ShopFilterView :=
  (l.state.barOf h).map fun bar => (barBlocks h l.queue).foldl .run bar

/-- The shops that are shown are those of the highlighted option. -/
def Shows [Unicode] (vc : ShopVC) (highlighted : Option String) : Prop :=
  ∃ option ∈ highlighted, vc.dataList.section1 = optionShops sort vc.shopList option

instance [Unicode] (vc : ShopVC) (highlighted : Option String) :
    Decidable (Shows sort vc highlighted) :=
  match highlighted with
  | none => isFalse fun ⟨_, h, _⟩ => by cases h
  | some option =>
      decidable_of_iff (vc.dataList.section1 = optionShops sort vc.shopList option)
        ⟨fun h => ⟨option, rfl, h⟩, fun ⟨_, hmem, h⟩ => by
          obtain rfl := Option.some.inj hmem
          exact h⟩

/-- What the bar of a header that is handed out for section 1 will highlight: the
category of the screen, or else its own last highlight; a new bar starts with
the first option. -/
def nextHighlight [Unicode] (l : MainLoop ShopVC Block) (dequeued : Option Nat) : Option String :=
  match l.state.category.bind itemOf, dequeued with
  | some item, _ => optionList[item]?
  | none, none => optionList[0]?
  | none, some h => (eventualBar l h).bind ShopFilterView.highlighted

/-- Each time the collection view asks for the filter bar: does the header that
it gets highlight the option that is shown? -/
def handedOut [Unicode] (l : MainLoop ShopVC Block) : LoopStep Event → List Bool
  | .event (.provideHeader sectionNumber dequeued) =>
      if sectionNumber = 0 then [] else [decide (Shows sort l.state (nextHighlight l dequeued))]
  | _ => []

theorem barBlocks_append (h : Nat) (queue blocks : List Block) :
    barBlocks h (queue ++ blocks) = barBlocks h queue ++ barBlocks h blocks :=
  List.filterMap_append

theorem barBlocks_map (h : Nat) (blocks : List ShopFilterView.Block) :
    barBlocks h (blocks.map (.filterBar h)) = blocks := by
  unfold barBlocks
  rw [List.filterMap_map]
  have hsome : blockFor h ∘ Block.filterBar h = some := by
    funext b
    simp [blockFor]
  rw [hsome, List.filterMap_some]

theorem barBlocks_map_ne {h j : Nat} (hne : j ≠ h) (blocks : List ShopFilterView.Block) :
    barBlocks j (blocks.map (.filterBar h)) = [] := by
  unfold barBlocks
  rw [List.filterMap_map, List.filterMap_eq_nil_iff]
  intro b _
  exact if_neg (Ne.symm hne)

/-- The category moves the highlight, if it has an option of its own. -/
theorem foldl_categoryBlocks [Unicode] (vc : ShopVC) (bar : ShopFilterView) :
    (categoryBlocks vc).foldl .run bar =
      { bar with selected := (vc.category.bind itemOf).orElse fun _ => bar.selected } := by
  unfold categoryBlocks
  cases vc.category with
  | none => rfl
  | some category => exact ShopFilterView.foldl_changeOption bar category

/-- Where the options of a bar come from does not depend on its highlight. -/
theorem foldl_run_options {bar bar' : ShopFilterView} (h : bar'.options = bar.options)
    (blocks : List ShopFilterView.Block) :
    (blocks.foldl .run bar').options = (blocks.foldl .run bar).options := by
  induction blocks generalizing bar bar' with
  | nil => exact h
  | cons b blocks ih =>
      rw [List.foldl_cons, List.foldl_cons]
      apply ih
      cases b with
      | apply options => rfl
      | selectItem item => exact h

/-- Changes of a header that keep its bar. -/
theorem barOf_modify (headers : List ShopHeaderSV) {f : ShopHeaderSV → ShopHeaderSV}
    (hf : ∀ header, (f header).filterBar = header.filterBar) (i h : Nat) :
    ((headers.modify i f)[h]?).map ShopHeaderSV.filterBar =
      (headers[h]?).map ShopHeaderSV.filterBar := by
  rw [List.getElem?_modify]
  cases headers[h]? with
  | none => rfl
  | some header =>
      by_cases hi : i = h
      · simp [hi, hf]
      · simp [hi]

/-! ## Handlers -/

/-- What a handler that hands out no header does to the bars: it keeps them and
the lists, or it submits new lists and keeps the options of the bars. -/
inductive BarEffect (vc vc' : ShopVC) (deferred : List Block) : Prop where
  | same (bars : ∀ h, vc'.barOf h = vc.barOf h)
      (barHeader : vc'.barHeader = vc.barHeader ∨ vc'.barHeader = none)
      (shopList : vc'.shopList = vc.shopList) (dataList : vc'.dataList = vc.dataList)
      (blocks : ∀ h, barBlocks h deferred = [])
  | update (options : ∀ h, (vc'.barOf h).map ShopFilterView.options =
        (vc.barOf h).map ShopFilterView.options)
      (barHeader : vc'.barHeader = vc.barHeader) (blocks : ∀ h, barBlocks h deferred = [])
      (apply : ∃ snapshot, .apply snapshot ∈ deferred)

variable {sort}

/-- A loaded list is submitted, filtered or not, and touches no bar. -/
theorem answered_bars [Unicode] (sort : SortedBy Shop) (vc : ShopVC) (loaded : List Shop) :
    (vc.answered sort (.ok loaded)).1.headers = vc.headers ∧
      (vc.answered sort (.ok loaded)).1.barHeader = vc.barHeader ∧
      (vc.answered sort (.ok loaded)).2 =
        .apply (vc.answered sort (.ok loaded)).1.dataList.snapshot :: [.dismiss] := by
  cases hcategory : vc.category with
  | none => simp [answered, hcategory, updateData]
  | some category => simp [answered, hcategory, updateData, filterShop]

theorem handle_bars [Unicode] {vc vc' : ShopVC} {e : Event} {deferred : List Block}
    (he : ∀ sectionNumber dequeued, e ≠ .provideHeader sectionNumber dequeued)
    (h : (handlers sort distance).handle vc e = some (.ok vc' deferred)) :
    BarEffect vc vc' deferred := by
  cases handle_spec h with
  | answer result hrequested =>
      cases result with
      | error error => exact .same (fun _ => rfl) (Or.inl rfl) rfl rfl fun _ => rfl
      | ok shopList =>
          rcases answered_bars sort { vc with requested := false } shopList with
            ⟨hheaders, hbar, hblocks⟩
          refine .update (fun h => ?_) hbar (fun h => ?_) ⟨_, hblocks ▸ List.mem_cons_self⟩
          · rw [barOf, hheaders]
            rfl
          · rw [hblocks]
            rfl
  | tapOption item i header filterBar option _ hheader htap =>
      refine .update (fun j => ?_) rfl (fun _ => rfl) ⟨_, List.mem_cons_self⟩
      -- the tap moves the highlight of the bar that it hits
      have hbar := (ShopFilterView.tap_mem htap).2.2
      show (((vc.headers.modify i ({ · with filterBar }))[j]?).map _).map _ =
        ((vc.headers[j]?).map _).map _
      rw [List.getElem?_modify]
      by_cases hij : i = j
      · subst hij
        simp [hheader, hbar]
      · simp [hij]
  | provideHeader sectionNumber dequeued => exact absurd rfl (he sectionNumber dequeued)
  | endDisplayingBar => exact .same (fun _ => rfl) (Or.inr rfl) rfl rfl fun _ => rfl
  | didUpdateLocations | endDisplayingImage | provideCell | endDisplayingCell =>
      exact .same (fun _ => rfl) (Or.inl rfl) rfl rfl fun _ => rfl

/-- The header `k` that is handed out is a new one with the blocks of its bar, or
an old one that is not on the screen. -/
theorem Dequeued.bars [Unicode] {vc vc₁ : ShopVC} {dequeued : Option Nat} {k : Nat}
    {blocks : List Block} (h : Dequeued vc dequeued vc₁ k blocks) :
    ∃ bar, vc₁.barOf k = some bar ∧
      (∀ j, j ≠ k → vc₁.barOf j = vc.barOf j ∧ barBlocks j blocks = []) ∧
      ((dequeued = none ∧ vc.barOf k = none ∧ barBlocks k blocks = initBlocks) ∨
        (dequeued = some k ∧ vc.barOf k = some bar ∧ vc.barHeader ≠ some k ∧
          barBlocks k blocks = [])) ∧
      categoryBlocks vc₁ = categoryBlocks vc ∧ vc₁.barHeader = vc.barHeader ∧
      vc₁.shopList = vc.shopList ∧ vc₁.dataList = vc.dataList := by
  cases h with
  | new =>
      refine ⟨ShopFilterView.fresh, by simp [barOf, ShopHeaderSV.fresh], ?_,
        Or.inl ⟨rfl, by simp [barOf], barBlocks_map _ _⟩, rfl, rfl, rfl, rfl⟩
      intro j hj
      refine ⟨?_, barBlocks_map_ne hj _⟩
      unfold barOf
      rcases lt_or_gt_of_ne hj with hlt | hgt
      · rw [List.getElem?_append_left hlt]
      · have hlen : (vc.headers ++ [ShopHeaderSV.fresh]).length ≤ j := by
          rw [List.length_append]
          exact hgt
        rw [List.getElem?_eq_none hlen, List.getElem?_eq_none (Nat.le_of_lt hgt)]
  | recycled _ hlt _ hbarHeader =>
      have hsome : (vc.barOf k).isSome := by simpa [barOf] using hlt
      rcases Option.isSome_iff_exists.1 hsome with ⟨bar, hbar⟩
      exact ⟨bar, hbar, fun _ _ => ⟨rfl, rfl⟩, Or.inr ⟨rfl, hbar, hbarHeader, rfl⟩, rfl, rfl, rfl,
        rfl⟩

/-- What handing out a header does: the header `k` is an old one that is not on
the screen, or a new one, and gets its blocks. -/
theorem Provided.bars [Unicode] {vc vc' : ShopVC} {sectionNumber : Nat} {dequeued : Option Nat}
    {deferred : List Block} (h : Provided vc sectionNumber dequeued vc' deferred) :
    ∃ k bar, vc'.barOf k = some bar ∧
      (∀ j, j ≠ k → vc'.barOf j = vc.barOf j ∧ barBlocks j deferred = []) ∧
      ((dequeued = none ∧ vc.barOf k = none ∧
          barBlocks k deferred = initBlocks ++ categoryBlocks vc) ∨
        (dequeued = some k ∧ vc.barOf k = some bar ∧ vc.barHeader ≠ some k ∧
          barBlocks k deferred = categoryBlocks vc)) ∧
      vc'.barHeader = (if sectionNumber = 0 then vc.barHeader else some k) ∧
      vc'.shopList = vc.shopList ∧ vc'.dataList = vc.dataList := by
  -- showing the bar or the picture keeps the bars
  have hshown : ∃ vc₁ k blocks, Dequeued vc dequeued vc₁ k blocks ∧
      (∀ j, vc'.barOf j = vc₁.barOf j) ∧
      deferred = blocks ++ (categoryBlocks vc₁).map (.filterBar k) ∧
      vc'.barHeader = (if sectionNumber = 0 then vc₁.barHeader else some k) ∧
      vc'.shopList = vc₁.shopList ∧ vc'.dataList = vc₁.dataList := by
    cases h with
    | image _ vc₁ k blocks hdequeued =>
        exact ⟨vc₁, k, blocks, hdequeued, @barOf_modify vc₁.headers .setImage (fun _ => rfl) k,
          rfl, rfl, rfl, rfl⟩
    | filterBar _ _ vc₁ k blocks hdequeued hsection =>
        exact ⟨vc₁, k, blocks, hdequeued, @barOf_modify vc₁.headers .setFilterBar (fun _ => rfl) k,
          rfl, (if_neg hsection).symm, rfl, rfl⟩
  rcases hshown with ⟨vc₁, k, blocks, hdequeued, hbars, hdeferred, hbarHeader, hshopList, hdataList⟩
  rcases hdequeued.bars with
    ⟨bar, hbar, hothers, hk, hcategory, hbarHeader₁, hshopList₁, hdataList₁⟩
  rw [hcategory] at hdeferred
  have hown : barBlocks k deferred = barBlocks k blocks ++ categoryBlocks vc := by
    rw [hdeferred, barBlocks_append, barBlocks_map]
  refine ⟨k, bar, (hbars k).trans hbar, ?_, ?_, hbarHeader₁ ▸ hbarHeader,
    hshopList.trans hshopList₁, hdataList.trans hdataList₁⟩
  · intro j hj
    rcases hothers j hj with ⟨hsame, hnil⟩
    refine ⟨(hbars j).trans hsame, ?_⟩
    rw [hdeferred, barBlocks_append, barBlocks_map_ne hj, hnil]
    rfl
  · rcases hk with ⟨hnew, hnone, hinit⟩ | ⟨hold, hsome, hscreen, hnil⟩
    · exact Or.inl ⟨hnew, hnone, by rw [hown, hinit]⟩
    · exact Or.inr ⟨hold, hsome, hscreen, by rw [hown, hnil, List.nil_append]⟩

/-- A block runs ahead to what `eventualBar` already says; only a snapshot takes
the bar off the screen. -/
theorem block_bars [Unicode] {vc vc' : ShopVC} {b : Block} {deferred : List Block}
    (h : (handlers sort distance).block vc b = .ok vc' deferred) (rest : List Block) :
    deferred = [] ∧
      (∀ j, eventualBar ⟨vc', rest, false⟩ j = eventualBar ⟨vc, b :: rest, false⟩ j) ∧
      (∀ j, (vc'.barOf j).isSome = (vc.barOf j).isSome) ∧
      (vc'.barHeader = none ∨ ((∀ snapshot, b ≠ .apply snapshot) ∧ vc'.barHeader = vc.barHeader ∧
        vc'.shopList = vc.shopList ∧ vc'.dataList = vc.dataList)) := by
  rcases block_spec h with ⟨hran, rfl⟩
  cases hran with
  | apply snapshot =>
      exact ⟨rfl, fun _ => rfl, fun _ => rfl, Or.inl rfl⟩
  | filterBar k block =>
      -- the bar of `k` takes the block, the others have none to take
      have hbar : ∀ j, barOf { vc with headers := vc.headers.modify k fun header =>
          { header with filterBar := header.filterBar.run block } } j =
          (vc.barOf j).map fun bar => if k = j then bar.run block else bar := by
        intro j
        unfold barOf
        rw [List.getElem?_modify]
        cases vc.headers[j]? with
        | none => rfl
        | some header =>
            by_cases hkj : k = j
            · simp [hkj]
            · simp [hkj]
      refine ⟨rfl, ?_, ?_, Or.inr ⟨fun _ hne => (by cases hne), rfl, rfl, rfl⟩⟩
      · intro j
        simp only [eventualBar, hbar, barBlocks, List.filterMap_cons, blockFor, Option.map_map]
        by_cases hkj : k = j
        · simp [hkj, Function.comp_def]
        · simp [hkj, Function.comp_def]
      · intro j
        rw [hbar, Option.isSome_map]
  | dismiss | present =>
      exact ⟨rfl, fun _ => rfl, fun _ => rfl,
        Or.inr ⟨fun _ hne => (by cases hne), rfl, rfl, rfl⟩⟩

/-! ## The bar on the screen -/

/-- The bars have all their options, and the one on the screen is as it was
handed out last, unless a snapshot is about to take it off the screen. -/
structure BarTracked [Unicode] (sort : SortedBy Shop) (l : MainLoop ShopVC Block)
    (log : List Bool) : Prop where
  options : ∀ h bar, eventualBar l h = some bar → bar.options = optionList
  visible : ∀ h, l.state.barHeader = some h → (l.state.barOf h).isSome
  matched : (∃ snapshot, .apply snapshot ∈ l.queue) ∨
    ∀ h bar, l.state.barHeader = some h → eventualBar l h = some bar →
      log.getLast? = some (decide (Shows sort l.state bar.highlighted))

theorem decide_shows_congr [Unicode] {vc vc' : ShopVC} (hshopList : vc'.shopList = vc.shopList)
    (hdataList : vc'.dataList = vc.dataList) (highlighted : Option String) :
    decide (Shows sort vc' highlighted) = decide (Shows sort vc highlighted) := by
  apply decide_eq_decide.2
  simp only [Shows, hshopList, hdataList]

/-- Handlers that hand out no header. -/
theorem BarTracked.effect [Unicode] {vc vc' : ShopVC} {queue deferred : List Block}
    {log : List Bool} (hl : BarTracked sort ⟨vc, queue, false⟩ log)
    (h : BarEffect vc vc' deferred) :
    BarTracked sort ⟨vc', queue ++ deferred, false⟩ log := by
  cases h with
  | same bars barHeader shopList dataList blocks =>
      have heventual : ∀ j, eventualBar ⟨vc', queue ++ deferred, false⟩ j =
          eventualBar ⟨vc, queue, false⟩ j := by
        intro j
        simp only [eventualBar, bars, barBlocks_append, blocks, List.append_nil]
      refine ⟨fun j bar hbar => hl.options j bar (heventual j ▸ hbar), ?_, ?_⟩
      · intro j hj
        rcases barHeader with hsame | hnone
        · rw [bars]
          exact hl.visible j (hsame ▸ hj)
        · rw [hnone] at hj
          cases hj
      · rcases hl.matched with ⟨snapshot, hmem⟩ | hmatched
        · exact Or.inl ⟨snapshot, List.mem_append_left _ hmem⟩
        · refine Or.inr fun j bar hj hbar => ?_
          rcases barHeader with hsame | hnone
          · rw [decide_shows_congr shopList dataList]
            exact hmatched j bar (hsame ▸ hj) (heventual j ▸ hbar)
          · rw [hnone] at hj
            cases hj
  | update options barHeader blocks apply =>
      rcases apply with ⟨snapshot, hmem⟩
      refine ⟨?_, ?_, Or.inl ⟨snapshot, List.mem_append_right _ hmem⟩⟩
      · intro j bar' hbar'
        simp only [eventualBar, barBlocks_append, blocks, List.append_nil] at hbar'
        rcases Option.map_eq_some_iff.1 hbar' with ⟨new, hnew, rfl⟩
        have hoptions := options j
        rw [hnew] at hoptions
        rcases Option.map_eq_some_iff.1 hoptions.symm with ⟨old, hold, heq⟩
        rw [foldl_run_options heq.symm]
        apply hl.options j
        simp only [eventualBar, hold]
        rfl
      · intro j hj
        have hoptions := congrArg Option.isSome (options j)
        rw [Option.isSome_map, Option.isSome_map] at hoptions
        rw [hoptions]
        exact hl.visible j (barHeader ▸ hj)

/-- A block of the main queue. -/
theorem BarTracked.block [Unicode] {vc vc' : ShopVC} {b : Block} {rest deferred : List Block}
    {log : List Bool} (hl : BarTracked sort ⟨vc, b :: rest, false⟩ log)
    (h : (handlers sort distance).block vc b = .ok vc' deferred) :
    BarTracked sort ⟨vc', rest ++ deferred, false⟩ log := by
  rcases block_bars h rest with ⟨rfl, heventual, hsome, hscreen⟩
  rw [List.append_nil]
  refine ⟨fun j bar hbar => hl.options j bar (heventual j ▸ hbar), ?_, ?_⟩
  · intro j hj
    rcases hscreen with hnone | ⟨-, hsame, -, -⟩
    · rw [hnone] at hj
      cases hj
    · rw [hsome]
      exact hl.visible j (hsame ▸ hj)
  · rcases hscreen with hnone | ⟨hne, hsame, hshopList, hdataList⟩
    · refine Or.inr fun j bar hj _ => ?_
      rw [hnone] at hj
      cases hj
    · rcases hl.matched with ⟨snapshot, hmem⟩ | hmatched
      · rcases List.mem_cons.1 hmem with heq | hmem
        · exact absurd heq.symm (hne snapshot)
        · exact Or.inl ⟨snapshot, hmem⟩
      · refine Or.inr fun j bar hj hbar => ?_
        rw [decide_shows_congr hshopList hdataList]
        exact hmatched j bar (hsame ▸ hj) (heventual j ▸ hbar)

/-- The bar of a header that is handed out, and what it will highlight. -/
theorem BarTracked.eventual [Unicode] {vc vc' : ShopVC} {queue deferred : List Block}
    {log : List Bool} (hl : BarTracked sort ⟨vc, queue, false⟩ log) {k : Nat} {bar : ShopFilterView}
    {dequeued : Option Nat} (hbar : vc'.barOf k = some bar)
    (hk : (dequeued = none ∧ vc.barOf k = none ∧
        barBlocks k deferred = initBlocks ++ categoryBlocks vc) ∨
      (dequeued = some k ∧ vc.barOf k = some bar ∧ vc.barHeader ≠ some k ∧
        barBlocks k deferred = categoryBlocks vc)) :
    ∃ bar', eventualBar ⟨vc', queue ++ deferred, false⟩ k = some bar' ∧
      bar'.options = optionList ∧
      bar'.highlighted = nextHighlight ⟨vc, queue, false⟩ dequeued := by
  rcases hk with ⟨rfl, -, hblocks⟩ | ⟨rfl, hold, -, hblocks⟩
  · -- a new bar starts with the first option
    refine ⟨⟨optionList, (vc.category.bind itemOf).orElse fun _ => some 0⟩, ?_, rfl, ?_⟩
    · simp only [eventualBar, hbar, barBlocks_append, hblocks, List.foldl_append, Option.map_some,
        ShopFilterView.foldl_initBlocks, foldl_categoryBlocks]
    · unfold nextHighlight
      cases vc.category.bind itemOf <;> rfl
  · have hprevious : eventualBar ⟨vc, queue, false⟩ k =
        some ((barBlocks k queue).foldl .run bar) := by
      simp only [eventualBar, hold, Option.map_some]
    have hoptions := hl.options k _ hprevious
    refine ⟨{ (barBlocks k queue).foldl .run bar with
      selected := (vc.category.bind itemOf).orElse fun _ =>
        ((barBlocks k queue).foldl .run bar).selected }, ?_, hoptions, ?_⟩
    · simp only [eventualBar, hbar, barBlocks_append, hblocks, List.foldl_append, Option.map_some,
        foldl_categoryBlocks]
    · unfold nextHighlight
      cases vc.category.bind itemOf with
      | none =>
          simp only [hprevious, Option.bind_some]
          rfl
      | some item => simp [ShopFilterView.highlighted, hoptions]

/-- Handing out a header. -/
theorem BarTracked.provide [Unicode] {vc vc' : ShopVC} {queue deferred : List Block}
    {log : List Bool} {sectionNumber : Nat} {dequeued : Option Nat}
    (hl : BarTracked sort ⟨vc, queue, false⟩ log)
    (h : Provided vc sectionNumber dequeued vc' deferred) :
    BarTracked sort ⟨vc', queue ++ deferred, false⟩
      (log ++ handedOut sort ⟨vc, queue, false⟩
        (.event (.provideHeader sectionNumber dequeued))) := by
  rcases h.bars with
    ⟨k, bar, hbar, hothers, hk, hbarHeader, hshopList, hdataList⟩
  rcases hl.eventual hbar hk with ⟨bar', hbar', hoptions, hhighlight⟩
  have hsame : ∀ j, j ≠ k → eventualBar ⟨vc', queue ++ deferred, false⟩ j =
      eventualBar ⟨vc, queue, false⟩ j := by
    intro j hj
    rcases hothers j hj with ⟨hj₁, hj₂⟩
    simp only [eventualBar, hj₁, barBlocks_append, hj₂, List.append_nil]
  -- the header on the screen is not the one that is handed out
  have hscreen : ∀ j, vc.barHeader = some j → j ≠ k := by
    rintro j hj rfl
    rcases hk with ⟨-, hnone, -⟩ | ⟨-, -, hne, -⟩
    · have hsome := hl.visible j hj
      rw [hnone] at hsome
      cases hsome
    · exact hne hj
  refine ⟨?_, ?_, ?_⟩
  · intro j new hnew
    by_cases hj : j = k
    · rw [hj, hbar', Option.some.injEq] at hnew
      exact hnew ▸ hoptions
    · exact hl.options j new (hsame j hj ▸ hnew)
  · intro j hj
    by_cases hjk : j = k
    · rw [hjk, hbar]
      rfl
    · rw [(hothers j hjk).1]
      by_cases hzero : sectionNumber = 0
      · rw [hbarHeader, if_pos hzero] at hj
        exact hl.visible j hj
      · rw [hbarHeader, if_neg hzero, Option.some.injEq] at hj
        exact absurd hj.symm hjk
  · by_cases hzero : sectionNumber = 0
    · -- the picture: the bar on the screen stays
      rw [handedOut, if_pos hzero, List.append_nil]
      rcases hl.matched with ⟨snapshot, hmem⟩ | hmatched
      · exact Or.inl ⟨snapshot, List.mem_append_left _ hmem⟩
      · refine Or.inr fun j new hj hnew => ?_
        rw [hbarHeader, if_pos hzero] at hj
        rw [decide_shows_congr hshopList hdataList]
        exact hmatched j new hj (hsame j (hscreen j hj) ▸ hnew)
    · rw [handedOut, if_neg hzero, List.getLast?_append]
      refine Or.inr fun j new hj hnew => ?_
      rw [hbarHeader, if_neg hzero, Option.some.injEq] at hj
      rw [← hj, hbar', Option.some.injEq] at hnew
      rw [← hnew, hhighlight, decide_shows_congr hshopList hdataList]
      rfl

/-- Step lemma: the bar on the screen is as it was handed out last. -/
theorem BarTracked.step [Unicode] {category : Option String} {l l' : MainLoop ShopVC Block}
    {x : LoopStep Event} {log : List Bool}
    (h : (machine sort distance category).step l x = some l')
    (hl : l.trapped = false → BarTracked sort l log) (htrapped' : l'.trapped = false) :
    BarTracked sort l' (log ++ handedOut sort l x) := by
  rcases MainLoop.step_cases h with ⟨htrapped, ⟨e, o, rfl, ho, rfl⟩ | ⟨b, rest, rfl, hq, rfl⟩⟩
  · rcases hl htrapped with ⟨hoptions, hvisible, hmatched⟩
    cases o with
    | trap => cases htrapped'
    | ok vc' deferred =>
        by_cases he : ∃ sectionNumber dequeued, e = .provideHeader sectionNumber dequeued
        · rcases he with ⟨sectionNumber, dequeued, rfl⟩
          cases handle_spec ho with
          | provideHeader _ _ _ _ _ hprovided =>
              exact BarTracked.provide ⟨hoptions, hvisible, hmatched⟩ hprovided
        · have hnone : handedOut sort l (.event e) = [] := by
            cases e with
            | provideHeader sectionNumber dequeued =>
                exact absurd ⟨sectionNumber, dequeued, rfl⟩ he
            | _ => rfl
          rw [hnone, List.append_nil]
          refine BarTracked.effect ⟨hoptions, hvisible, hmatched⟩ (handle_bars ?_ ho)
          intro sectionNumber dequeued heq
          exact he ⟨sectionNumber, dequeued, heq⟩
  · have hnone : handedOut sort l .block = [] := rfl
    rw [hnone, List.append_nil]
    cases hb : (handlers sort distance).block l.state b with
    | trap =>
        rw [hb] at htrapped'
        cases htrapped'
    | ok vc' deferred =>
        rcases hl htrapped with ⟨hoptions, hvisible, hmatched⟩
        have hl' : BarTracked sort ⟨l.state, b :: rest, false⟩ log := by
          rw [← hq]
          exact ⟨hoptions, hvisible, hmatched⟩
        exact hl'.block hb

/-- Run lemma: the bar on the screen is as it was handed out last. -/
theorem barTracked_run [Unicode] {category : Option String} {l : MainLoop ShopVC Block}
    {es : List (LoopStep Event)}
    (hrun : (machine sort distance category).run (viewDidLoad category) es = some l)
    (htrapped : l.trapped = false) :
    BarTracked sort l ((machine sort distance category).trace (handedOut sort)
      (viewDidLoad category) es) := by
  have hstart : (viewDidLoad category).trapped = false →
      BarTracked sort (viewDidLoad category) [] := by
    intro _
    refine ⟨?_, ?_, Or.inr ?_⟩
    · intro j bar hbar
      simp [eventualBar, barOf, viewDidLoad, MainLoop.start] at hbar
    · intro j hj
      cases hj
    · intro j bar hj
      cases hj
  have hstep : ∀ s x s' log, (machine sort distance category).step s x = some s' → True →
      (s.trapped = false → BarTracked sort s log) →
      s'.trapped = false → BarTracked sort s' (log ++ handedOut sort s x) :=
    fun _ _ _ _ h _ hs htrapped' => BarTracked.step h hs htrapped'
  have halong : (machine sort distance category).Along (fun _ _ _ => True)
      (viewDidLoad category) es := EventMachine.along_of_forall fun _ _ => trivial
  exact EventMachine.trace_invariant hstep hrun halong hstart htrapped

/-- When the main queue is drained, the bar on the screen highlights the option
that is shown if and only if the header handed out last was to do so. -/
theorem shows_highlighted_iff [Unicode] {category : Option String} {l : MainLoop ShopVC Block}
    {es : List (LoopStep Event)}
    (hrun : (machine sort distance category).run (viewDidLoad category) es = some l)
    (htrapped : l.trapped = false) (hdrained : l.Drained) {bar : ShopFilterView}
    (hbar : l.state.visibleBar = some bar) :
    Shows sort l.state bar.highlighted ↔
      ((machine sort distance category).trace (handedOut sort)
        (viewDidLoad category) es).getLast? = some true := by
  rcases barTracked_run hrun htrapped with ⟨-, -, hmatched⟩
  have hqueue : l.queue = [] := hdrained
  rcases Option.bind_eq_some_iff.1 hbar with ⟨h, hh, hbarOf⟩
  have heventual : eventualBar l h = some bar := by
    rw [eventualBar, hqueue, hbarOf]
    rfl
  rcases hmatched with ⟨snapshot, hmem⟩ | hmatched
  · rw [hqueue] at hmem
    cases hmem
  · rw [hmatched h bar hh heventual, Option.some.injEq, decide_eq_true_eq]

section CodePoints

attribute [local instance] Unicode.codePoints

/-- Opened for restaurants, the bar goes back to them after a tap on all shops. -/
theorem highlight_returns_to_category :
    ∃ l bar, (machine .insertion noDistance (some "餐饮")).run (viewDidLoad (some "餐饮"))
        (openBar [plainShop "a" "餐饮", plainShop "b" "旅行"] ++ [.block] ++ tapBar 0 ++ [.block]) =
        some l ∧
      l.trapped = false ∧ l.Drained ∧ l.state.visibleBar = some bar ∧
      bar.highlighted = some "餐饮" ∧ ¬ Shows .insertion l.state bar.highlighted :=
  ⟨_, _, rfl, rfl, rfl, rfl, by decide, by decide⟩

/-- Opened from the tab bar, the recycled bar keeps the tapped option. -/
theorem shows_highlighted_iff_restaurant :
    ∃ l bar, (machine .insertion noDistance none).run (viewDidLoad none)
        (openBar [plainShop "a" "餐饮", plainShop "b" "旅行"] ++ tapBar 1) = some l ∧
      l.state.visibleBar = some bar ∧ Shows .insertion l.state bar.highlighted := by
  refine ⟨_, _, rfl, rfl, ?_⟩
  exact (@shows_highlighted_iff .insertion noDistance _ none _
    (openBar [plainShop "a" "餐饮", plainShop "b" "旅行"] ++ tapBar 1) rfl rfl rfl _ rfl).2 (by decide)

end CodePoints

end FancyLife.ShopVC
