import FancyLife.ShopVC

/-! # Filtering the shop list

`dataList` follows the last option alone, and the snapshot of the last
`updateData` follows `dataList`: either it is applied, or it is the last one on
the main queue. What a handler does to them is said once, in `handle_cases` and
`block_cases`.
-/

namespace FancyLife.ShopVC

open ShopFilterView (optionList)
open Swift (Unicode)

variable (sort : SortedBy Shop) {distance : CLLocation → CLLocation → Swift.Double}

/-! ## The shops of an option -/

/-- The categories that have an option of their own; HomeVC opens the screen with one of them. -/
def categories : List String := ["餐饮", "生鲜", "娱乐", "旅行"]

/-- The shops that an option is for. -/
def optionShops [Unicode] (shopList : List Shop) (option : String) : List Shop :=
  if option = "推荐" then shopList
  else if option = "榜单" then
    sort.sorted (fun shop1 shop2 => shop2.score.lt shop1.score) shopList
  else shopList.filter fun shop => Swift.stringEq shop.category option

/-- The option that the screen opens with. -/
def initialOption (category : Option String) : String := category.getD "推荐"

/-- The option that a step taps. -/
def tappedBy : LoopStep Event → Option String
  | .event (.tapOption item) => optionList[item]?
  | _ => none

/-- The options tapped in a run, in order. -/
def tapped (es : List (LoopStep Event)) : List String := es.filterMap tappedBy

/-- The last option of a run that began with `option`. -/
def lastOption (option : String) (es : List (LoopStep Event)) : String :=
  (tapped es).getLastD option

theorem mem_optionList {option : String} :
    option ∈ optionList ↔ option = "推荐" ∨ option ∈ categories ∨ option = "榜单" := by
  simp only [optionList, categories, List.mem_cons, List.not_mem_nil, or_false]
  tauto

/-- The scores of the list can be ordered. -/
theorem strictWeakOn_score {shopList : List Shop} (h : ∀ shop ∈ shopList, shop.score ≠ .nan) :
    StrictWeakOn (fun shop1 shop2 : Shop => shop2.score.lt shop1.score) shopList where
  asymm _ _ _ _ hlt := Swift.Double.lt_asymm hlt
  trans _ _ b hb _ _ hab hbc := Swift.Double.not_lt_trans (h b hb) hbc hab

section Options

variable [Unicode]

/-- For each of its options the filter leaves the shops of that option. -/
theorem filterShop_section1 (vc : ShopVC) {option : String} (h : option ∈ optionList) :
    (vc.filterShop sort option).dataList.section1 = optionShops sort vc.shopList option := by
  have hplain := ShopFilterView.nfd_option h
  unfold filterShop
  rw [hplain]
  simp only [optionList, List.mem_cons, List.not_mem_nil, or_false] at h
  rcases h with rfl | rfl | rfl | rfl | rfl | rfl <;> rfl

theorem optionShops_category (shopList : List Shop) {option : String} (h : option ∈ categories) :
    optionShops sort shopList option =
      shopList.filter fun shop => Swift.stringEq shop.category option := by
  simp only [categories, List.mem_cons, List.not_mem_nil, or_false] at h
  rcases h with rfl | rfl | rfl | rfl <;> rfl

/-- No option shows a shop twice, however shops are told apart. -/
theorem nodup_optionShops {shopList : List Shop} {key : Shop → String}
    (h : (shopList.map key).Nodup) (option : String) :
    ((optionShops sort shopList option).map key).Nodup := by
  unfold optionShops
  split
  · exact h
  · split
    · exact ((sort.perm _ shopList).map key).nodup_iff.2 h
    · exact h.sublist (List.filter_sublist.map key)

end Options

/-! ## Handlers -/

/-- A handler that leaves lists and snapshot alone. -/
structure Quiet (vc vc' : ShopVC) (deferred : List Block) : Prop where
  category : vc'.category = vc.category
  shopList : vc'.shopList = vc.shopList
  dataList : vc'.dataList = vc.dataList
  requested : vc'.requested = vc.requested
  raised : vc'.raised = vc.raised
  dataSource : vc'.dataSource = vc.dataSource
  barHeader : vc.dataSource.sections = [] → vc'.barHeader = vc.barHeader ∨ vc'.barHeader = none
  deferred : ∀ snapshot, .apply snapshot ∉ deferred

variable {sort}

theorem Dequeued.quiet {vc vc₁ : ShopVC} {dequeued : Option Nat} {header : Nat}
    {blocks : List Block} (h : Dequeued vc dequeued vc₁ header blocks) :
    Quiet vc vc₁ blocks := by
  cases h with
  | new => exact ⟨rfl, rfl, rfl, rfl, rfl, rfl, fun _ => Or.inl rfl, by simp⟩
  | recycled _ _ _ _ => exact ⟨rfl, rfl, rfl, rfl, rfl, rfl, fun _ => Or.inl rfl, by simp⟩

theorem Provided.quiet [Unicode] {vc vc' : ShopVC} {sectionNumber : Nat} {dequeued : Option Nat}
    {deferred : List Block} (hsections : vc.dataSource.sections ≠ [])
    (h : Provided vc sectionNumber dequeued vc' deferred) : Quiet vc vc' deferred := by
  -- the blocks of a header are for its bar
  have hdeferred : ∀ (blocks : List Block) (barBlocks : List ShopFilterView.Block) (header : Nat),
      (∀ snapshot, .apply snapshot ∉ blocks) →
      ∀ snapshot, .apply snapshot ∉ blocks ++ barBlocks.map (.filterBar header) := by
    intro blocks barBlocks header hblocks snapshot hmem
    rcases List.mem_append.1 hmem with hmem | hmem
    · exact hblocks snapshot hmem
    · simp at hmem
  cases h with
  | image _ vc₁ header blocks hdequeued =>
      have hquiet := hdequeued.quiet
      exact ⟨hquiet.category, hquiet.shopList, hquiet.dataList, hquiet.requested, hquiet.raised,
        hquiet.dataSource, hquiet.barHeader, hdeferred _ _ _ hquiet.deferred⟩
  | filterBar _ _ vc₁ header blocks hdequeued hsection =>
      have hquiet := hdequeued.quiet
      exact ⟨hquiet.category, hquiet.shopList, hquiet.dataList, hquiet.requested, hquiet.raised,
        hquiet.dataSource, fun hnil => absurd hnil hsections, hdeferred _ _ _ hquiet.deferred⟩

/-- What an event does: it answers the request, it taps an option, or it is quiet. -/
theorem handle_cases [Unicode] {vc vc' : ShopVC} {e : Event} {deferred : List Block}
    (h : (handlers sort distance).handle vc e = some (.ok vc' deferred)) :
    (∃ result, e = .answer result ∧ vc.requested = true ∧
      vc' = ({ vc with requested := false }.answered sort result).1 ∧
      deferred = ({ vc with requested := false }.answered sort result).2) ∨
    (∃ item option headers, e = .tapOption item ∧ optionList[item]? = some option ∧
      vc.barHeader ≠ none ∧
      vc' = ({ vc with headers }.didRequestToUpdateShops sort option).1 ∧
      deferred = ({ vc with headers }.didRequestToUpdateShops sort option).2) ∨
    (tappedBy (.event e) = none ∧ Quiet vc vc' deferred) := by
  cases handle_spec h with
  | answer result hrequested => exact Or.inl ⟨result, rfl, hrequested, rfl, rfl⟩
  | tapOption item k header filterBar option hbar hheader htap =>
      have hoption := (ShopFilterView.tap_mem htap).2.1
      exact Or.inr (Or.inl ⟨item, option, _, rfl, hoption, by simp [hbar], rfl, rfl⟩)
  | provideHeader sectionNumber dequeued _ _ hsection hprovided =>
      have hsections : vc.dataSource.sections ≠ [] := by
        intro hnil
        rw [hnil] at hsection
        exact absurd hsection (Nat.not_lt_zero _)
      exact Or.inr (Or.inr ⟨rfl, hprovided.quiet hsections⟩)
  | endDisplayingBar sectionNumber hsection =>
      refine Or.inr (Or.inr ⟨rfl, ?_⟩)
      exact ⟨rfl, rfl, rfl, rfl, rfl, rfl, fun _ => Or.inr rfl, by simp⟩
  | didUpdateLocations | endDisplayingImage | provideCell | endDisplayingCell =>
      refine Or.inr (Or.inr ⟨rfl, ?_⟩)
      exact ⟨rfl, rfl, rfl, rfl, rfl, rfl, fun _ => Or.inl rfl, by simp⟩

/-- A tap does not trap. -/
theorem handle_trap [Unicode] {vc : ShopVC} {e : Event}
    (h : (handlers sort distance).handle vc e = some .trap) : tappedBy (.event e) = none := by
  cases e with
  | tapOption item =>
      rcases tapOption_spec h with ⟨vc', deferred, htrap, -⟩
      cases htrap
  | _ => rfl

/-- What a block does: it applies a snapshot, or it is quiet. -/
theorem block_cases [Unicode] {vc vc' : ShopVC} {b : Block} {deferred : List Block}
    (h : (handlers sort distance).block vc b = .ok vc' deferred) :
    (∃ snapshot, b = .apply snapshot ∧ vc' = vc.apply snapshot ∧ deferred = []) ∨
      ((∀ snapshot, b ≠ .apply snapshot) ∧ Quiet vc vc' deferred) := by
  rcases block_spec h with ⟨hran, rfl⟩
  cases hran with
  | apply snapshot => exact Or.inl ⟨snapshot, rfl, rfl, rfl⟩
  | filterBar | dismiss | present =>
      refine Or.inr ⟨fun _ hne => (by cases hne), ?_⟩
      exact ⟨rfl, rfl, rfl, rfl, rfl, rfl, fun _ => Or.inl rfl, by simp⟩

/-! ## The snapshot that is applied last -/

/-- The snapshot after a block. -/
def shown (snapshot : Snapshot Nat Shop) : Block → Snapshot Nat Shop
  | .apply snapshot => snapshot
  | _ => snapshot

/-- The snapshot that is applied once the blocks on the main queue have run. -/
def latest (l : MainLoop ShopVC Block) : Snapshot Nat Shop :=
  l.queue.foldl shown l.state.dataSource

theorem shown_of_ne {b : Block} (h : ∀ snapshot, b ≠ .apply snapshot)
    (snapshot : Snapshot Nat Shop) : shown snapshot b = snapshot := by
  cases b with
  | apply s => exact absurd rfl (h s)
  | _ => rfl

theorem foldl_shown_of_quiet {blocks : List Block} (h : ∀ snapshot, .apply snapshot ∉ blocks)
    (snapshot : Snapshot Nat Shop) : blocks.foldl shown snapshot = snapshot := by
  induction blocks generalizing snapshot with
  | nil => rfl
  | cons b blocks ih =>
      have hb : ∀ s, b ≠ .apply s := fun s hs => h s (hs ▸ List.mem_cons_self)
      rw [List.foldl_cons, shown_of_ne hb]
      exact ih (fun s hs => h s (List.mem_cons_of_mem _ hs)) snapshot

/-- A quiet handler keeps the snapshot that is applied last. -/
theorem Quiet.latest {vc vc' : ShopVC} {deferred : List Block} (h : Quiet vc vc' deferred)
    (queue : List Block) :
    latest ⟨vc', queue ++ deferred, false⟩ = latest ⟨vc, queue, false⟩ := by
  unfold ShopVC.latest
  rw [List.foldl_append, foldl_shown_of_quiet h.deferred, h.dataSource]

/-- `updateData` decides which snapshot is applied last. -/
theorem latest_updateData (vc : ShopVC) (queue : List Block) {blocks : List Block}
    (h : ∀ snapshot, .apply snapshot ∉ blocks) :
    latest ⟨vc, queue ++ (vc.updateData ++ blocks), false⟩ = vc.dataList.snapshot := by
  unfold latest updateData
  rw [List.foldl_append, List.foldl_append]
  exact foldl_shown_of_quiet h _

/-! ## Before the list is loaded -/

/-- As long as the request is not answered, nothing is on the screen. -/
structure Waiting (category : Option String) (l : MainLoop ShopVC Block) : Prop where
  category : l.state.category = category
  section0 : l.state.dataList.section0 = []
  unseen : l.state.requested = true → l.state.dataSource.sections = [] ∧
    l.state.barHeader = none ∧ l.state.raised = false ∧ ∀ snapshot, .apply snapshot ∉ l.queue

theorem waiting_viewDidLoad (category : Option String) :
    Waiting category (viewDidLoad category) :=
  ⟨rfl, rfl, fun _ => ⟨rfl, rfl, rfl, by simp [viewDidLoad, MainLoop.start]⟩⟩

/-- A quiet step keeps waiting. -/
theorem Waiting.quiet {category : Option String} {vc vc' : ShopVC} {queue deferred : List Block}
    (hw : Waiting category ⟨vc, queue, false⟩) (h : Quiet vc vc' deferred) :
    Waiting category ⟨vc', queue ++ deferred, false⟩ := by
  refine ⟨h.category.trans hw.category, by rw [← hw.section0, h.dataList], ?_⟩
  intro hrequested
  rcases hw.unseen (h.requested ▸ hrequested) with ⟨hsections, hbar, hraised, hqueue⟩
  refine ⟨by rw [h.dataSource]; exact hsections, ?_, h.raised.trans hraised, ?_⟩
  · rcases h.barHeader hsections with hsame | hnone
    · exact hsame.trans hbar
    · exact hnone
  · intro snapshot hmem
    rcases List.mem_append.1 hmem with hmem | hmem
    · exact hqueue snapshot hmem
    · exact h.deferred snapshot hmem

/-- The answer of the request changes the lists only. -/
theorem answered_frame [Unicode] (sort : SortedBy Shop) (vc : ShopVC)
    (result : Except FLError (List Shop)) :
    (vc.answered sort result).1.category = vc.category ∧
      (vc.answered sort result).1.dataList.section0 = vc.dataList.section0 ∧
      (vc.answered sort result).1.requested = vc.requested ∧
      (vc.answered sort result).1.raised = vc.raised := by
  cases result with
  | error error => exact ⟨rfl, rfl, rfl, rfl⟩
  | ok shopList =>
      cases hcategory : vc.category with
      | none => simp [answered, hcategory]
      | some category => simp [answered, hcategory, filterShop]

/-- Step lemma: before and after its answer, the request leaves section 0 empty. -/
theorem Waiting.step [Unicode] {category : Option String} {l l' : MainLoop ShopVC Block}
    {x : LoopStep Event} (h : (machine sort distance category).step l x = some l')
    (hw : Waiting category l) : Waiting category l' := by
  rcases MainLoop.step_deferred h with ⟨e, vc', rfl, he, hl'⟩ | ⟨b, rest, vc', rfl, hq, hb, hl'⟩ |
    ⟨-, hstate, hqueue, -⟩
  · rcases handle_cases he with
      ⟨result, -, -, hvc, -⟩ | ⟨item, option, headers, -, -, hbar, hvc, -⟩ | ⟨-, hquiet⟩
    · -- the request is answered
      rcases answered_frame sort { l.state with requested := false } result with
        ⟨hcategory, hsection0, hrequested, -⟩
      rw [← hvc] at hcategory hsection0 hrequested
      rw [hl']
      refine ⟨hcategory.trans hw.category, hsection0.trans hw.section0, ?_⟩
      intro htrue
      exact absurd (hrequested.symm.trans htrue) Bool.false_ne_true
    · -- a tap hits a bar, so the request has been answered
      rw [hl', hvc]
      refine ⟨hw.category, hw.section0, ?_⟩
      intro hrequested
      exact absurd (hw.unseen hrequested).2.1 hbar
    · rw [hl']
      exact Waiting.quiet ⟨hw.category, hw.section0, hw.unseen⟩ hquiet
  · rcases block_cases hb with ⟨snapshot, rfl, rfl, -⟩ | ⟨-, hquiet⟩
    · -- a snapshot is applied, so the request has been answered
      rw [hl']
      refine ⟨hw.category, hw.section0, ?_⟩
      intro hrequested
      exact absurd (hq ▸ List.mem_cons_self) ((hw.unseen hrequested).2.2.2 snapshot)
    · rw [hl']
      refine Waiting.quiet ⟨hw.category, hw.section0, ?_⟩ hquiet
      intro hrequested
      rcases hw.unseen hrequested with ⟨hsections, hbar, hraised, hqueue⟩
      refine ⟨hsections, hbar, hraised, fun s hs => hqueue s ?_⟩
      rw [hq]
      exact List.mem_cons_of_mem _ hs
  · refine ⟨hstate ▸ hw.category, hstate ▸ hw.section0, ?_⟩
    intro hrequested
    rw [hstate] at hrequested ⊢
    rcases hw.unseen hrequested with ⟨hsections, hbar, hraised, -⟩
    exact ⟨hsections, hbar, hraised, by simp [hqueue]⟩

/-! ## After the list is loaded -/

/-- The list is loaded, and `option` was asked for last. -/
structure Loaded [Unicode] (sort : SortedBy Shop) (loaded : List Shop) (option : String)
    (l : MainLoop ShopVC Block) : Prop where
  requested : l.state.requested = false
  shopList : l.state.shopList = loaded
  section0 : l.state.dataList.section0 = []
  section1 : l.state.dataList.section1 = optionShops sort loaded option
  latest : l.trapped = false → latest l = l.state.dataList.snapshot

theorem mem_optionList_of_mem_categories {option : String} (h : option ∈ categories) :
    option ∈ optionList := mem_optionList.2 (Or.inr (Or.inl h))

/-- A loaded list is shown by the option that the screen opens with. -/
theorem answered_ok [Unicode] (sort : SortedBy Shop) (vc : ShopVC) (loaded : List Shop)
    (hcategory : ∀ c, vc.category = some c → c ∈ categories) :
    (vc.answered sort (.ok loaded)).1.shopList = loaded ∧
      (vc.answered sort (.ok loaded)).1.dataList.section1 =
        optionShops sort loaded (initialOption vc.category) ∧
      (vc.answered sort (.ok loaded)).2 =
        (vc.answered sort (.ok loaded)).1.updateData ++ [.dismiss] := by
  cases hvc : vc.category with
  | none => simp [answered, hvc, initialOption, optionShops, updateData]
  | some category =>
      have hmem := mem_optionList_of_mem_categories (hcategory category hvc)
      have hshops := filterShop_section1 sort { vc with shopList := loaded } hmem
      simp only [answered, hvc]
      exact ⟨rfl, hshops, rfl⟩

/-- The answer of the request loads the list for the category of the screen. -/
theorem loaded_answer [Unicode] {category : Option String}
    (hcategory : ∀ c, category = some c → c ∈ categories) {loaded : List Shop}
    {l l' : MainLoop ShopVC Block} (hw : Waiting category l)
    (h : (machine sort distance category).step l (.event (.answer (.ok loaded))) = some l') :
    Loaded sort loaded (initialOption category) l' ∧ l'.state.raised = false := by
  have hstep : MainLoop.step (handlers sort distance) l (.event (.answer (.ok loaded))) = some l' :=
    h
  rcases MainLoop.step_cases hstep with ⟨-, ⟨e, o, he, ho, rfl⟩ | ⟨b, rest, hblock, -⟩⟩
  swap
  · cases hblock
  cases he
  simp only [handlers] at ho
  split at ho
  swap
  · cases ho
  rename_i hrequested
  rw [← Option.some.inj ho, MainLoop.absorb_ok]
  have hvc : ∀ c, l.state.category = some c → c ∈ categories := hw.category ▸ hcategory
  rcases answered_ok sort { l.state with requested := false } loaded hvc with
    ⟨hlist, hsection1, hblocks⟩
  rcases answered_frame sort { l.state with requested := false } (.ok loaded) with
    ⟨-, hsection0, hanswered, hraised⟩
  refine ⟨⟨hanswered, hlist, hsection0.trans hw.section0, ?_, ?_⟩, ?_⟩
  · rw [← hw.category]
    exact hsection1
  · intro _
    rw [hblocks]
    exact latest_updateData _ _ (by simp)
  · exact hraised.trans (hw.unseen hrequested).2.2.1

/-- A quiet handler keeps the loaded list. -/
theorem Loaded.quiet [Unicode] {loaded : List Shop} {option : String} {vc vc' : ShopVC}
    {queue deferred : List Block} (hl : Loaded sort loaded option ⟨vc, queue, false⟩)
    (h : Quiet vc vc' deferred) : Loaded sort loaded option ⟨vc', queue ++ deferred, false⟩ := by
  refine ⟨h.requested.trans hl.requested, h.shopList.trans hl.shopList, ?_, ?_, ?_⟩
  · exact (congrArg DataList.section0 h.dataList).trans hl.section0
  · exact (congrArg DataList.section1 h.dataList).trans hl.section1
  · intro _
    rw [h.latest queue, hl.latest rfl]
    exact congrArg DataList.snapshot h.dataList.symm

/-- A tap shows the shops of its option, and submits them. -/
theorem Loaded.tap [Unicode] {loaded : List Shop} {option tap : String} {l : MainLoop ShopVC Block}
    (hl : Loaded sort loaded option l) (htap : tap ∈ optionList) (headers : List ShopHeaderSV) :
    Loaded sort loaded tap
      ⟨({ l.state with headers }.didRequestToUpdateShops sort tap).1,
        l.queue ++ ({ l.state with headers }.didRequestToUpdateShops sort tap).2, false⟩ := by
  have hshops := filterShop_section1 sort { l.state with headers } htap
  refine ⟨hl.requested, hl.shopList, hl.section0, ?_, ?_⟩
  · rw [← hl.shopList]
    exact hshops
  · intro _
    have hupdate := @latest_updateData
      ({ l.state with headers }.didRequestToUpdateShops sort tap).1 l.queue [] (by simp)
    rw [List.append_nil] at hupdate
    exact hupdate

/-- Step lemma: what is shown follows the option that was asked for last. -/
theorem Loaded.step [Unicode] {category : Option String} {loaded : List Shop} {option : String}
    {l l' : MainLoop ShopVC Block} {x : LoopStep Event}
    (h : (machine sort distance category).step l x = some l')
    (hl : Loaded sort loaded option l) :
    Loaded sort loaded ((tappedBy x).getD option) l' := by
  rcases MainLoop.step_cases h with ⟨htrapped, ⟨e, o, rfl, ho, rfl⟩ | ⟨b, rest, rfl, hq, rfl⟩⟩
  · cases o with
    | ok vc' deferred =>
        rcases handle_cases ho with ⟨result, -, hrequested, -⟩ |
          ⟨item, tap, headers, rfl, htap, -, hvc, hdeferred⟩ | ⟨hnone, hquiet⟩
        · -- there is no second answer
          rw [hl.requested] at hrequested
          cases hrequested
        · have htapped : tappedBy (.event (.tapOption item)) = some tap := htap
          rw [htapped, Option.getD_some, MainLoop.absorb_ok, hvc, hdeferred]
          exact hl.tap (List.mem_of_getElem? htap) headers
        · rw [hnone, Option.getD_none, MainLoop.absorb_ok]
          exact Loaded.quiet ⟨hl.requested, hl.shopList, hl.section0, hl.section1,
            fun _ => hl.latest htrapped⟩ hquiet
    | trap =>
        rw [handle_trap ho]
        exact ⟨hl.requested, hl.shopList, hl.section0, hl.section1, fun htrap => by cases htrap⟩
  · show Loaded sort loaded option _
    have hlatest := hl.latest htrapped
    rw [ShopVC.latest, hq, List.foldl_cons] at hlatest
    cases hb : (handlers sort distance).block l.state b with
    | ok vc' deferred =>
        rw [MainLoop.absorb_ok]
        rcases block_cases hb with ⟨snapshot, rfl, rfl, rfl⟩ | ⟨hne, hquiet⟩
        · rw [List.append_nil]
          exact ⟨hl.requested, hl.shopList, hl.section0, hl.section1, fun _ => hlatest⟩
        · rw [shown_of_ne hne] at hlatest
          exact Loaded.quiet ⟨hl.requested, hl.shopList, hl.section0, hl.section1,
            fun _ => hlatest⟩ hquiet
    | trap =>
        exact ⟨hl.requested, hl.shopList, hl.section0, hl.section1, fun htrap => by cases htrap⟩

/-! ## Runs -/

theorem lastOption_cons (option : String) (x : LoopStep Event) (es : List (LoopStep Event)) :
    lastOption option (x :: es) = lastOption ((tappedBy x).getD option) es := by
  unfold lastOption tapped
  rw [List.filterMap_cons]
  cases tappedBy x with
  | none => rfl
  | some tap =>
      rw [List.getLastD_cons]
      rfl

/-- Run lemma: after the load, what is shown follows the last option. -/
theorem Loaded.run [Unicode] {category : Option String} {loaded : List Shop} {option : String}
    {l l' : MainLoop ShopVC Block} {es : List (LoopStep Event)}
    (hrun : (machine sort distance category).run l es = some l')
    (hl : Loaded sort loaded option l) : Loaded sort loaded (lastOption option es) l' := by
  induction es generalizing l option with
  | nil =>
      rw [EventMachine.run_nil, Option.some.injEq] at hrun
      exact hrun ▸ hl
  | cons x es ih =>
      rcases ((machine sort distance category).run_cons_eq_some).1 hrun with ⟨t, ht, hrest⟩
      rw [lastOption_cons]
      exact ih hrest (hl.step ht)

/-- The answer that loads the list, in a run from the start. -/
theorem run_answer [Unicode] {category : Option String}
    (hcategory : ∀ c, category = some c → c ∈ categories) {loaded : List Shop}
    {before after : List (LoopStep Event)} {l : MainLoop ShopVC Block}
    (hrun : (machine sort distance category).run (viewDidLoad category)
      (before ++ .event (.answer (.ok loaded)) :: after) = some l) :
    ∃ t, Loaded sort loaded (initialOption category) t ∧ t.state.raised = false ∧
      (machine sort distance category).run (viewDidLoad category)
        (before ++ [.event (.answer (.ok loaded))]) = some t ∧
      (machine sort distance category).run t after = some l := by
  rw [EventMachine.run_append] at hrun
  rcases Option.bind_eq_some_iff.1 hrun with ⟨s, hbefore, hrest⟩
  rcases ((machine sort distance category).run_cons_eq_some).1 hrest with ⟨t, ht, hafter⟩
  have hw : Waiting category s :=
    EventMachine.run_invariant (fun _ _ _ hstep hw => hw.step hstep) hbefore
      (waiting_viewDidLoad category)
  rcases loaded_answer hcategory hw ht with ⟨hl, hraised⟩
  refine ⟨t, hl, hraised, ?_, hafter⟩
  rw [EventMachine.run_append, hbefore, Option.bind_some, EventMachine.run_cons, ht]
  rfl

/-- The option asked for last is one of the options. -/
theorem lastOption_mem {option : String} (h : option ∈ optionList)
    (es : List (LoopStep Event)) : lastOption option es ∈ optionList := by
  induction es generalizing option with
  | nil => exact h
  | cons x es ih =>
      rw [lastOption_cons]
      apply ih
      cases hx : tappedBy x with
      | none => exact h
      | some tap =>
          -- only a tap has an option
          unfold tappedBy at hx
          split at hx
          · exact List.mem_of_getElem? hx
          · cases hx

theorem initialOption_mem {category : Option String}
    (hcategory : ∀ c, category = some c → c ∈ categories) :
    initialOption category ∈ optionList := by
  cases category with
  | none => exact mem_optionList.2 (Or.inl rfl)
  | some c => exact mem_optionList_of_mem_categories (hcategory c rfl)

/-- After the load and any taps, the lists are those of the last option, and a drained
queue has applied them. Shops that differ in some key, such as their ids or what `==`
compares of the ids, are not repeated. -/
theorem dataList_run [Unicode] {category : Option String}
    (hcategory : ∀ c, category = some c → c ∈ categories) {loaded : List Shop}
    (hscores : ∀ shop ∈ loaded, shop.score ≠ .nan)
    {before after : List (LoopStep Event)} {l : MainLoop ShopVC Block}
    (hrun : (machine sort distance category).run (viewDidLoad category)
      (before ++ .event (.answer (.ok loaded)) :: after) = some l) :
    let option := lastOption (initialOption category) after
    l.state.shopList = loaded ∧ l.state.dataList.section0 = [] ∧
      l.state.dataList.section1 = optionShops sort loaded option ∧
      option ∈ optionList ∧
      (option = "推荐" → l.state.dataList.section1 = loaded) ∧
      (option ∈ categories →
        l.state.dataList.section1 =
          loaded.filter fun shop => Swift.stringEq shop.category option) ∧
      (option = "榜单" → l.state.dataList.section1.Perm loaded ∧
        l.state.dataList.section1.Pairwise fun shop1 shop2 =>
          shop1.score.lt shop2.score = false) ∧
      (∀ key : Shop → String, (loaded.map key).Nodup →
        (l.state.dataList.section1.map key).Nodup) ∧
      (l.trapped = false → l.Drained → l.state.dataSource = l.state.dataList.snapshot) := by
  rcases run_answer hcategory hrun with ⟨t, ht, -, -, hafter⟩
  have hl := ht.run hafter
  refine ⟨hl.shopList, hl.section0, hl.section1,
    lastOption_mem (initialOption_mem hcategory) after, ?_, ?_, ?_, ?_, ?_⟩
  · intro hoption
    rw [hl.section1, hoption]
    rfl
  · intro hoption
    rw [hl.section1]
    exact optionShops_category sort loaded hoption
  · intro hoption
    have hsorted : l.state.dataList.section1 =
        sort.sorted (fun shop1 shop2 => shop2.score.lt shop1.score) loaded := by
      rw [hl.section1, hoption]
      rfl
    rw [hsorted]
    exact ⟨sort.perm _ loaded, sort.ordered _ loaded (strictWeakOn_score hscores)⟩
  · intro key hkeys
    rw [hl.section1]
    exact nodup_optionShops sort hkeys _
  · intro htrapped hdrained
    have hlatest := hl.latest htrapped
    have hqueue : l.queue = [] := hdrained
    rw [latest, hqueue] at hlatest
    exact hlatest

/-! ## Scrolling to the top -/

/-- The first row of a snapshot is missing exactly when its second section is empty. -/
theorem item_snapshot (dataList : DataList Shop) :
    (dataList.snapshot.item 1 0).isNone = dataList.section1.isEmpty := by
  unfold Snapshot.item Snapshot.items DataList.snapshot
  cases dataList.section1 <;> rfl

/-- Taps are made when the main queue is drained. -/
def TapsDrained (l : MainLoop ShopVC Block) (x : LoopStep Event) : Prop :=
  (tappedBy x).isSome → l.Drained

instance (l : MainLoop ShopVC Block) (x : LoopStep Event) : Decidable (TapsDrained l x) :=
  inferInstanceAs (Decidable (_ → l.queue = []))

/-- Step lemma: a tap scrolls in the rows of the option before it. -/
theorem raised_step [Unicode] {category : Option String} {loaded : List Shop} {option : String}
    {l l' : MainLoop ShopVC Block} {x : LoopStep Event}
    (h : (machine sort distance category).step l x = some l')
    (hl : Loaded sort loaded option l) (hdrained : TapsDrained l x) :
    l'.state.raised =
      (l.state.raised || ((tappedBy x).isSome && (optionShops sort loaded option).isEmpty)) := by
  rcases MainLoop.step_cases h with ⟨htrapped, ⟨e, o, rfl, ho, rfl⟩ | ⟨b, rest, rfl, hq, rfl⟩⟩
  · cases o with
    | ok vc' deferred =>
        rcases handle_cases ho with ⟨result, -, hrequested, -⟩ |
          ⟨item, tap, headers, rfl, htap, -, hvc, -⟩ | ⟨hnone, hquiet⟩
        · rw [hl.requested] at hrequested
          cases hrequested
        · have htapped : tappedBy (.event (.tapOption item)) = some tap := htap
          have hqueue : l.queue = [] := hdrained (by rw [htapped]; rfl)
          -- with nothing on the queue, the applied snapshot is that of `dataList`
          have hsource : l.state.dataSource = l.state.dataList.snapshot := by
            have hlatest := hl.latest htrapped
            rw [latest, hqueue] at hlatest
            exact hlatest
          have hempty := item_snapshot l.state.dataList
          rw [← hsource, hl.section1] at hempty
          rw [htapped, hvc, MainLoop.absorb_ok, Option.isSome_some, Bool.true_and, ← hempty]
          rfl
        · rw [hnone, MainLoop.absorb_ok, hquiet.raised, Option.isSome_none, Bool.false_and,
            Bool.or_false]
    | trap =>
        rw [handle_trap ho, Option.isSome_none, Bool.false_and, Bool.or_false]
        rfl
  · have hnone : tappedBy (.block : LoopStep Event) = none := rfl
    rw [hnone, Option.isSome_none, Bool.false_and, Bool.or_false]
    cases hb : (handlers sort distance).block l.state b with
    | ok vc' deferred =>
        rcases block_cases hb with ⟨snapshot, -, rfl, -⟩ | ⟨-, hquiet⟩
        · rfl
        · exact hquiet.raised
    | trap => rfl

/-- Run lemma: the options that a tap has left behind are those that had to have shops. -/
theorem raised_run [Unicode] {category : Option String} {loaded : List Shop} {option : String}
    {l l' : MainLoop ShopVC Block} {es : List (LoopStep Event)}
    (hrun : (machine sort distance category).run l es = some l')
    (hdrained : (machine sort distance category).Along (fun l x _ => TapsDrained l x) l es)
    (hl : Loaded sort loaded option l) :
    l'.state.raised = (l.state.raised ||
      (option :: tapped es).dropLast.any fun o => (optionShops sort loaded o).isEmpty) := by
  induction es generalizing l option with
  | nil =>
      rw [EventMachine.run_nil, Option.some.injEq] at hrun
      rw [hrun]
      exact (Bool.or_false _).symm
  | cons x es ih =>
      rcases ((machine sort distance category).run_cons_eq_some).1 hrun with ⟨t, ht, hrest⟩
      rcases hdrained t ht with ⟨hx, htail⟩
      rw [ih hrest htail (hl.step ht), raised_step ht hl hx]
      unfold tapped
      rw [List.filterMap_cons]
      cases tappedBy x with
      | none => simp
      | some tap => simp [Bool.or_assoc]

/-- When every tap finds the main queue drained, no tap scrolls out of range if
and only if every option that was left by a tap had shops. -/
theorem raised_eq_false_iff [Unicode] {category : Option String}
    (hcategory : ∀ c, category = some c → c ∈ categories) {loaded : List Shop}
    {before after : List (LoopStep Event)} {l : MainLoop ShopVC Block}
    (hrun : (machine sort distance category).run (viewDidLoad category)
      (before ++ .event (.answer (.ok loaded)) :: after) = some l)
    (hdrained : (machine sort distance category).Along (fun l x _ => TapsDrained l x)
      (viewDidLoad category) (before ++ .event (.answer (.ok loaded)) :: after)) :
    l.state.raised = false ↔
      ∀ option ∈ (initialOption category :: tapped after).dropLast,
        optionShops sort loaded option ≠ [] := by
  rcases run_answer hcategory hrun with ⟨t, ht, hraised, hbefore, hafter⟩
  have htail : (machine sort distance category).Along (fun l x _ => TapsDrained l x) t after := by
    rw [List.append_cons] at hdrained
    exact hdrained.of_append hbefore
  rw [raised_run hafter htail ht, hraised, Bool.false_or, List.any_eq_false]
  simp only [List.isEmpty_iff, ne_eq]

/-! ## One restaurant -/

/-- A shop with nothing but an id, a category and a place. -/
def plainShop (id category : String) : Shop where
  id := id
  imageURL := ""
  title := ""
  secondaryTitle := ""
  distance := .finite 0
  score := .finite 4
  location := [.finite 0, .finite 0]
  openingTime := ""
  category := category
  address := ""
  sameCategoryShops := none
  kind := ""

/-- The list is loaded and shown with its filter bar. -/
def openBar (loaded : List Shop) : List (LoopStep Event) :=
  [.event (.answer (.ok loaded)), .block, .block, .event (.provideHeader 1 none), .block, .block]

/-- A tap, its block, and the bar again. -/
def tapBar (item : Nat) : List (LoopStep Event) :=
  [.event (.tapOption item), .block, .event (.provideHeader 1 (some 0))]

/-- Everything is close to the user. -/
def noDistance : CLLocation → CLLocation → Swift.Double := fun _ _ => .finite 0

section CodePoints

attribute [local instance] Unicode.codePoints

/-- No shop sells fresh food, so that the tap that leaves that option scrolls in
an empty list. -/
theorem raised_after_empty_option :
    ∃ l, (machine .insertion noDistance none).run (viewDidLoad none)
        (openBar [plainShop "a" "餐饮"] ++ tapBar 2 ++ tapBar 0) = some l ∧
      (machine .insertion noDistance none).Along (fun l x _ => TapsDrained l x) (viewDidLoad none)
        (openBar [plainShop "a" "餐饮"] ++ tapBar 2 ++ tapBar 0) ∧
      l.state.raised = true :=
  ⟨_, rfl, by decide, rfl⟩

/-- Leaving an option that has shops is in range. -/
theorem raised_eq_false_iff_restaurant :
    ∃ l, (machine .insertion noDistance none).run (viewDidLoad none)
        (openBar [plainShop "a" "餐饮"] ++ tapBar 1) = some l ∧ l.state.raised = false := by
  refine ⟨_, rfl, ?_⟩
  have hdrained : (machine .insertion noDistance none).Along (fun l x _ => TapsDrained l x)
      (viewDidLoad none) (openBar [plainShop "a" "餐饮"] ++ tapBar 1) := by decide
  exact (@raised_eq_false_iff .insertion noDistance _ none (fun _ h => by cases h)
    [plainShop "a" "餐饮"] [] _ _ rfl hdrained).2 (by decide)

/-- The filter shows the one restaurant, and the snapshot follows. -/
theorem dataList_run_restaurant :
    ∃ l, (machine .insertion noDistance none).run (viewDidLoad none)
        (openBar [plainShop "a" "餐饮", plainShop "b" "旅行"] ++ tapBar 1) = some l ∧
      l.state.dataList.section1 = [plainShop "a" "餐饮"] ∧
      l.state.dataSource = l.state.dataList.snapshot := by
  refine ⟨_, rfl, ?_⟩
  have hspec := @dataList_run .insertion noDistance _ none (fun _ h => by cases h)
    [plainShop "a" "餐饮", plainShop "b" "旅行"] (by decide) []
    ([.block, .block, .event (.provideHeader 1 none), .block, .block] ++ tapBar 1) _ rfl
  rcases hspec with ⟨-, -, hsection1, -, -, -, -, -, happlied⟩
  exact ⟨hsection1, happlied rfl rfl⟩

end CodePoints

end FancyLife.ShopVC
