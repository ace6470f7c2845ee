import FancyLife.ShopInfoScreen

/-! # The loading view of ShopInfoVC

A chain of requests puts up one loading view and has to take it down once. The
closures do so where the events are empty and where the shop list arrives; where
the events, the products or the reviews fail they only present an alert.
-/

namespace FancyLife.ShopInfoVC

/-! ## Chains with any results -/

/-- What the four requests of a chain are answered with, if they are made. -/
structure Results where
  events : Except FLError (List FancyLife.Event)
  products : Except FLError (List Product)
  reviews : Except FLError (List Review)
  shops : Except FLError (List Shop)

def Results.Gives (o : Results) (answer : ShopInfoAnswer) : Prop :=
  answer = .events o.events ∨ answer = .products o.products ∨ answer = .reviews o.reviews ∨
    answer = .shopList o.shops

/-- A step while the chain is under way: an answer with its results, a tap or a
block, but no other appearance. -/
def Results.Follows (o : Results) : LoopStep Event → Prop
  | .event .viewWillAppear => False
  | .event (.answer _ answer) => o.Gives answer
  | .event (.didSelectItemAt _ _) => True
  | .block => True

/-- The chain ends with empty events, or gets as far as the shop list. -/
def Results.Releases (o : Results) : Prop :=
  ∃ events, o.events = .ok events ∧
    (events = [] ∨ ((∃ products, o.products = .ok products) ∧ ∃ reviews, o.reviews = .ok reviews))

def Block.isDismiss : Block → Bool
  | .dismiss => true
  | _ => false

/-- How often `dismissLoadingView` has been called. -/
def dismissals (blocks : List Block) : Nat := blocks.countP Block.isDismiss

@[simp] theorem dismissals_append (bs cs : List Block) :
    dismissals (bs ++ cs) = dismissals bs + dismissals cs := List.countP_append

/-- The request that is outstanding, and the number of dismissals so far. -/
inductive Phase (o : Results) : List ShopInfoRequest → Nat → Prop
  | events : Phase o [.events] 0
  | products {firstEvent : FancyLife.Event} {more : List FancyLife.Event}
      (hevents : o.events = .ok (firstEvent :: more)) (e : FancyLife.Event) :
      Phase o [.products e] 0
  | reviews {firstEvent : FancyLife.Event} {more : List FancyLife.Event}
      {products : List Product} (hevents : o.events = .ok (firstEvent :: more))
      (hproducts : o.products = .ok products) (e : FancyLife.Event) (images : List String) :
      Phase o [.reviews e images] 0
  | shopList {events : List FancyLife.Event} {products : List Product} {reviews : List Review}
      (hevents : o.events = .ok events) (hproducts : o.products = .ok products)
      (hreviews : o.reviews = .ok reviews) (e : FancyLife.Event) (images : List String)
      (r : Option Review) : Phase o [.shopList e images r] 0
  | released (h : o.Releases) : Phase o [] 1
  | stuck (h : ¬ o.Releases) : Phase o [] 0

theorem Phase.le_one {o : Results} {pending : List ShopInfoRequest} {n : Nat}
    (h : Phase o pending n) : n ≤ 1 := by
  cases h <;> omega

/-- At the end of a chain it is decided whether the view has been taken down. -/
theorem Phase.dismissed_iff {o : Results} {n : Nat} (h : Phase o [] n) :
    n = 1 ↔ o.Releases := by
  cases h with
  | released h => exact iff_of_true rfl h
  | stuck h => exact iff_of_false (by omega) h

/-- A request under way is the only one, and nothing has been dismissed. -/
theorem Phase.pending_spec {o : Results} {pending : List ShopInfoRequest} {n i : Nat}
    {request : ShopInfoRequest} (h : Phase o pending n) (hi : pending[i]? = some request) :
    pending = [request] ∧ pending.eraseIdx i = [] ∧ n = 0 := by
  have hone : ∀ r, pending = [r] → n = 0 →
      pending = [request] ∧ pending.eraseIdx i = [] ∧ n = 0 := by
    rintro r rfl hn
    cases i with
    | zero => exact ⟨congrArg (fun r => [r]) (Option.some.inj hi), rfl, hn⟩
    | succ i => cases hi
  cases h with
  | events => exact hone _ rfl rfl
  | products _ e => exact hone _ rfl rfl
  | reviews _ _ e images => exact hone _ rfl rfl
  | shopList _ _ _ e images r => exact hone _ rfl rfl
  | released => cases hi
  | stuck => cases hi

/-! ## Handlers -/

/-- Five lists are enough for the snapshot. -/
theorem fillSnapshot_isSome {dataList : List (List ShopInfo)} (h : 5 ≤ dataList.length) :
    ∃ snapshot, fillSnapshot dataList SectionKind.allCases 0 .empty = some snapshot := by
  have htake : (dataList.take 5).length = 5 := by
    rw [List.length_take]
    omega
  have hfill := fillSnapshot_spec htake (dataList.drop 5)
  rw [List.take_append_drop] at hfill
  exact ⟨_, hfill⟩

/-- What a closure leaves of the views. -/
def KeepsViews (base base' : FLDataLoadingVC) : Prop :=
  base' = base ∨ ∃ message, base' = base.showEmptyStateView message

/-- The closure does not trap, and moves the chain from its request to the next
phase. -/
def MovesOn (o : Results) (vc : ShopInfoVC) (out : Outcome ShopInfoVC Block) : Prop :=
  ∃ vc' deferred, out = .ok vc' deferred ∧ Phase o vc'.pending (dismissals deferred) ∧
    KeepsViews vc.toFLDataLoadingVC vc'.toFLDataLoadingVC

section Closures

variable {o : Results} {vc : ShopInfoVC} {out : Outcome ShopInfoVC Block}
  (hpending : vc.pending = [])

include hpending

/-- A failure that only presents an alert. -/
theorem movesOn_failed {error : FLError} (hstuck : ¬ o.Releases)
    (h : some (Outcome.ok vc [failed error]) = some out) : MovesOn o vc out := by
  obtain rfl := Option.some.inj h
  refine ⟨vc, _, rfl, ?_, Or.inl rfl⟩
  rw [hpending]
  exact .stuck hstuck

theorem answered_events (h : answered vc .events (.events o.events) = some out) :
    MovesOn o vc out := by
  cases hevents : o.events with
  | error error =>
      rw [hevents] at h
      refine movesOn_failed hpending ?_ h
      rintro ⟨events, hok, -⟩
      rw [hevents] at hok
      cases hok
  | ok events =>
      rw [hevents] at h
      cases events with
      | nil =>
          obtain rfl := Option.some.inj h
          refine ⟨_, _, rfl, ?_, Or.inr ⟨_, rfl⟩⟩
          show Phase o vc.pending 1
          rw [hpending]
          exact .released ⟨[], hevents, Or.inl rfl⟩
      | cons firstEvent more =>
          obtain rfl := Option.some.inj h
          refine ⟨_, _, rfl, ?_, Or.inl rfl⟩
          show Phase o (vc.pending ++ [_]) 0
          rw [hpending]
          exact .products hevents firstEvent

theorem answered_products {firstEvent : FancyLife.Event} {more : List FancyLife.Event}
    (hevents : o.events = .ok (firstEvent :: more)) (e : FancyLife.Event)
    (h : answered vc (.products e) (.products o.products) = some out) : MovesOn o vc out := by
  cases hproducts : o.products with
  | error error =>
      rw [hproducts] at h
      refine movesOn_failed hpending ?_ h
      rintro ⟨events, hok, hnil | ⟨⟨products, hok'⟩, -⟩⟩
      · rw [hevents, hnil] at hok
        cases hok
      · rw [hproducts] at hok'
        cases hok'
  | ok products =>
      rw [hproducts] at h
      obtain rfl := Option.some.inj h
      refine ⟨_, _, rfl, ?_, Or.inl rfl⟩
      show Phase o (vc.pending ++ [_]) 0
      rw [hpending]
      exact .reviews hevents hproducts e _

theorem answered_reviews {firstEvent : FancyLife.Event} {more : List FancyLife.Event}
    {products : List Product} (hevents : o.events = .ok (firstEvent :: more))
    (hproducts : o.products = .ok products) (e : FancyLife.Event) (images : List String)
    (h : answered vc (.reviews e images) (.reviews o.reviews) = some out) : MovesOn o vc out := by
  cases hreviews : o.reviews with
  | error error =>
      rw [hreviews] at h
      refine movesOn_failed hpending ?_ h
      rintro ⟨events, hok, hnil | ⟨-, reviews, hok'⟩⟩
      · rw [hevents, hnil] at hok
        cases hok
      · rw [hreviews] at hok'
        cases hok'
  | ok reviews =>
      rw [hreviews] at h
      obtain rfl := Option.some.inj h
      refine ⟨_, _, rfl, ?_, Or.inl rfl⟩
      show Phase o (vc.pending ++ [_]) 0
      rw [hpending]
      exact .shopList hevents hproducts hreviews e images _

/-- The last closure dismisses first, whatever the shop list is. -/
theorem answered_shopList (hreleases : o.Releases) (e : FancyLife.Event) (images : List String)
    (r : Option Review)
    (h : answered vc (.shopList e images r) (.shopList o.shops) = some out) :
    MovesOn o vc out := by
  have hreleased : Phase o vc.pending 1 := by
    rw [hpending]
    exact .released hreleases
  cases hshops : o.shops with
  | error error =>
      rw [hshops] at h
      obtain rfl := Option.some.inj h
      exact ⟨_, _, rfl, hreleased, Or.inl rfl⟩
  | ok shops =>
      rw [hshops] at h
      rcases appendSections_spec
        (makeShopInfo vc.nextUUID vc.shop e images vc.totalReviews r shops) shops.length
        (List.range 5) vc.dataList (vc.nextUUID + 1) with ⟨new, nextUUID, hloop, hnew⟩
      have hlength : 5 ≤ (vc.dataList ++ new).length := by
        have hnew' := congrArg List.length hnew
        rw [List.length_map, List.length_map, List.length_range] at hnew'
        rw [List.length_append]
        omega
      rcases fillSnapshot_isSome hlength with ⟨snapshot, hfill⟩
      simp only [answered, hloop, hfill] at h
      obtain rfl := Option.some.inj h
      exact ⟨_, _, rfl, hreleased, Or.inl rfl⟩

/-- The closure of the only request, whichever it is. -/
theorem Phase.answered {request : ShopInfoRequest} {answer : ShopInfoAnswer}
    (hphase : Phase o [request] 0) (hgives : o.Gives answer)
    (h : answered vc request answer = some out) : MovesOn o vc out := by
  -- an answer of another kind is not taken
  cases hphase with
  | events =>
      rcases hgives with rfl | rfl | rfl | rfl
      · exact answered_events hpending h
      all_goals cases h
  | products hevents e =>
      rcases hgives with rfl | rfl | rfl | rfl
      · cases h
      · exact answered_products hpending hevents e h
      all_goals cases h
  | reviews hevents hproducts e images =>
      rcases hgives with rfl | rfl | rfl | rfl
      · cases h
      · cases h
      · exact answered_reviews hpending hevents hproducts e images h
      · cases h
  | shopList hevents hproducts hreviews e images r =>
      rcases hgives with rfl | rfl | rfl | rfl
      · cases h
      · cases h
      · cases h
      · exact answered_shopList hpending ⟨_, hevents, Or.inr ⟨⟨_, hproducts⟩, _, hreviews⟩⟩ e
          images r h

end Closures

/-- An answer runs the closure of its request. -/
theorem handle_answer {vc : ShopInfoVC} {i : Nat} {answer : ShopInfoAnswer}
    {out : Outcome ShopInfoVC Block} (h : handlers.handle vc (.answer i answer) = some out) :
    ∃ request, vc.pending[i]? = some request ∧
      answered { vc with pending := vc.pending.eraseIdx i } request answer = some out := by
  simp only [handlers] at h
  split at h
  · rename_i request hrequest
    exact ⟨request, hrequest, h⟩
  · cases h

/-- A tap leaves the chain and the views alone. -/
theorem handle_tap {vc vc' : ShopInfoVC} {sectionNumber item : Nat} {deferred : List Block}
    (h : handlers.handle vc (.didSelectItemAt sectionNumber item) = some (.ok vc' deferred)) :
    deferred = [] ∧ vc'.pending = vc.pending ∧
      vc'.toFLDataLoadingVC = vc.toFLDataLoadingVC := by
  simp only [handlers] at h
  split at h
  · split at h
    · split at h
      · cases Option.some.inj h
        exact ⟨rfl, rfl, rfl⟩
      · cases Option.some.inj h
    · cases Option.some.inj h
      exact ⟨rfl, rfl, rfl⟩
  · cases h

/-- A block leaves the chain alone, and takes down a view if it is that of a
dismissal. -/
theorem block_frame {vc vc' : ShopInfoVC} {b : Block} {deferred : List Block}
    (h : handlers.block vc b = .ok vc' deferred) :
    deferred = [] ∧ vc'.pending = vc.pending ∧
      ((b.isDismiss = true ∧ vc.dismissBlock = some vc'.toFLDataLoadingVC) ∨
        (b.isDismiss = false ∧ vc'.toFLDataLoadingVC = vc.toFLDataLoadingVC)) := by
  cases b with
  | dismiss =>
      simp only [handlers] at h
      split at h
      · rename_i base hbase
        cases h
        exact ⟨rfl, rfl, Or.inl ⟨rfl, hbase⟩⟩
      · cases h
  | apply snapshot =>
      cases h
      exact ⟨rfl, rfl, Or.inr ⟨rfl, rfl⟩⟩
  | present alert =>
      cases h
      exact ⟨rfl, rfl, Or.inr ⟨rfl, rfl⟩⟩

/-! ## The view of a chain -/

/-- The view that a chain puts up over `before`. -/
def overlay (before : FLDataLoadingVC) : UIView := ⟨.loading, before.nextView⟩

/-- After `n` dismissals the view of the chain is up until the block of the first
one has run; no other loading view has been added. -/
structure Covering (before base : FLDataLoadingVC) (queue : List Block) (n : Nat) : Prop where
  overlays : ∀ v ∈ base.subviews, v.kind = .loading → v = overlay before ∨ v ∈ before.subviews
  slot : (n = dismissals queue ∧ base.containerview = some (overlay before) ∧
      overlay before ∈ base.subviews) ∨
    (n = 1 ∧ dismissals queue = 0 ∧ overlay before ∉ base.subviews)

theorem Covering.start (before : FLDataLoadingVC) :
    Covering before before.showLoadingView [] 0 := by
  refine ⟨?_, Or.inl ⟨rfl, rfl, List.mem_append_right _ (List.mem_singleton_self _)⟩⟩
  intro v hv _
  rcases List.mem_append.1 hv with hv | hv
  · exact Or.inr hv
  · exact Or.inl (List.mem_singleton.1 hv)

/-- A closure may dismiss the view, once. -/
theorem Covering.answered {before base base' : FLDataLoadingVC} {queue deferred : List Block}
    (h : Covering before base queue 0) (hviews : KeepsViews base base') :
    Covering before base' (queue ++ deferred) (dismissals deferred) := by
  rcases h.slot with ⟨hn, hslot, hmem⟩ | ⟨hn, -⟩
  swap
  · cases hn
  have hcount : dismissals deferred = dismissals (queue ++ deferred) := by
    rw [dismissals_append]
    omega
  rcases hviews with rfl | ⟨message, rfl⟩
  · exact ⟨h.overlays, Or.inl ⟨hcount, hslot, hmem⟩⟩
  · refine ⟨?_, Or.inl ⟨hcount, hslot, List.mem_append_left _ hmem⟩⟩
    intro v hv hloading
    rcases List.mem_append.1 hv with hv | hv
    · exact h.overlays v hv hloading
    · rw [List.mem_singleton.1 hv] at hloading
      cases hloading

/-- The block of the dismissal takes the view down. -/
theorem Covering.dismiss {before base base' : FLDataLoadingVC} {b : Block} {rest : List Block}
    {n : Nat} (h : Covering before base (b :: rest) n) (hn : n ≤ 1) (hb : b.isDismiss = true)
    (hblock : base.dismissBlock = some base') : Covering before base' rest n := by
  have hcount : dismissals (b :: rest) = dismissals rest + 1 := List.countP_cons_of_pos hb
  rcases h.slot with ⟨hqueue, hslot, hmem⟩ | ⟨-, hqueue, -⟩
  · rw [FLDataLoadingVC.dismissBlock, hslot] at hblock
    obtain rfl := Option.some.inj hblock
    refine ⟨?_, Or.inr ⟨by omega, by omega, ?_⟩⟩
    · intro v hv hloading
      exact h.overlays v (FLDataLoadingVC.mem_remove.1 hv).1 hloading
    · intro hup
      exact (FLDataLoadingVC.mem_remove.1 hup).2 rfl
  · omega

/-- Any other block leaves it. -/
theorem Covering.skip {before base : FLDataLoadingVC} {b : Block} {rest : List Block} {n : Nat}
    (h : Covering before base (b :: rest) n) (hb : b.isDismiss = false) :
    Covering before base rest n := by
  have hcount : dismissals (b :: rest) = dismissals rest :=
    List.countP_cons_of_neg (by simp [hb])
  have hslot := h.slot
  rw [hcount] at hslot
  exact ⟨h.overlays, hslot⟩

/-! ## Runs -/

/-- A chain over `before` that has called `log` so far. -/
structure Chained (o : Results) (before : FLDataLoadingVC) (l : MainLoop ShopInfoVC Block)
    (log : List Block) : Prop where
  phase : Phase o l.state.pending (dismissals log)
  covering : l.trapped = false →
    Covering before l.state.toFLDataLoadingVC l.queue (dismissals log)

/-- Step lemma: a chain goes on by its answers and blocks. -/
theorem Chained.step {o : Results} {before : FLDataLoadingVC} {shop : Shop}
    {l l' : MainLoop ShopInfoVC Block} {x : LoopStep Event} {log : List Block}
    (hstep : (machine shop).step l x = some l') (hx : o.Follows x)
    (h : Chained o before l log) :
    Chained o before l' (log ++ MainLoop.deferredBy handlers l x) := by
  have htrapped : l.trapped = false := (MainLoop.step_cases hstep).1
  have hcovering := h.covering htrapped
  rcases MainLoop.step_deferred hstep with ⟨e, vc', rfl, hhandle, rfl⟩ |
    ⟨b, rest, vc', rfl, hqueue, hblock, rfl⟩ | ⟨htrapped', hstate, -, hnone⟩
  · cases e with
    | viewWillAppear => exact hx.elim
    | answer i answer =>
        rcases handle_answer hhandle with ⟨request, hrequest, hanswered⟩
        rcases h.phase.pending_spec hrequest with ⟨hpending, herase, hzero⟩
        have hphase := h.phase
        rw [hpending, hzero] at hphase
        rw [hzero] at hcovering
        rcases hphase.answered herase hx hanswered with ⟨vc'', deferred, hout, hphase', hviews⟩
        obtain ⟨rfl, hdeferred⟩ := Outcome.ok.inj hout
        rw [hdeferred]
        have hcount : dismissals (log ++ deferred) = dismissals deferred := by
          rw [dismissals_append]
          omega
        refine ⟨?_, fun _ => ?_⟩
        · rw [hcount]
          exact hphase'
        · rw [hcount]
          exact hcovering.answered hviews
    | didSelectItemAt sectionNumber item =>
        rcases handle_tap hhandle with ⟨hdeferred, hpending, hbase⟩
        rw [hdeferred, List.append_nil, List.append_nil]
        refine ⟨?_, fun _ => ?_⟩
        · show Phase o vc'.pending _
          rw [hpending]
          exact h.phase
        · show Covering before vc'.toFLDataLoadingVC _ _
          rw [hbase]
          exact hcovering
  · rcases block_frame hblock with ⟨hdeferred, hpending, hviews⟩
    rw [hdeferred, List.append_nil, List.append_nil]
    refine ⟨?_, fun _ => ?_⟩
    · show Phase o vc'.pending _
      rw [hpending]
      exact h.phase
    · rw [hqueue] at hcovering
      rcases hviews with ⟨hb, hdismiss⟩ | ⟨hb, hbase⟩
      · exact hcovering.dismiss h.phase.le_one hb hdismiss
      · show Covering before vc'.toFLDataLoadingVC _ _
        rw [hbase]
        exact hcovering.skip hb
  · rw [hnone, List.append_nil]
    refine ⟨?_, fun hfalse => ?_⟩
    · rw [hstate]
      exact h.phase
    · rw [htrapped'] at hfalse
      cases hfalse

/-- No closure takes down a view. -/
theorem answered_keepsViews {vc vc' : ShopInfoVC} {request : ShopInfoRequest}
    {answer : ShopInfoAnswer} {deferred : List Block}
    (h : answered vc request answer = some (.ok vc' deferred)) :
    KeepsViews vc.toFLDataLoadingVC vc'.toFLDataLoadingVC := by
  unfold answered at h
  split at h
  · split at h
    · cases Option.some.inj h
      exact Or.inr ⟨_, rfl⟩
    · cases Option.some.inj h
      exact Or.inl rfl
  · cases Option.some.inj h
    exact Or.inl rfl
  · cases Option.some.inj h
    exact Or.inl rfl
  · cases Option.some.inj h
    exact Or.inl rfl
  · cases Option.some.inj h
    exact Or.inl rfl
  · cases Option.some.inj h
    exact Or.inl rfl
  · simp only at h
    split at h
    · cases Option.some.inj h
      exact Or.inl rfl
    · cases Option.some.inj h
  · cases Option.some.inj h
    exact Or.inl rfl
  · cases h

/-- In every reachable state the views are numbered below the next one. -/
theorem fresh_of_reachable {shop : Shop} {l : MainLoop ShopInfoVC Block}
    (hl : (machine shop).Reachable l) : l.state.Fresh := by
  have hinit : ∀ l₀, (machine shop).init l₀ → l₀.state.Fresh := by
    intro l₀ hl₀
    rw [show l₀ = fresh shop from hl₀]
    intro v hv
    rw [List.mem_singleton.1 hv]
    exact Nat.zero_lt_one
  have hstep : ∀ s x s', (machine shop).step s x = some s' → s.state.Fresh →
      s'.state.Fresh := by
    intro s x s' hstep hs
    rcases MainLoop.step_deferred hstep with ⟨e, vc', rfl, hhandle, rfl⟩ |
      ⟨b, rest, vc', rfl, -, hblock, rfl⟩ | ⟨-, hstate, -, -⟩
    · cases e with
      | viewWillAppear =>
          obtain ⟨rfl, -⟩ := Outcome.ok.inj (Option.some.inj hhandle)
          exact hs.addNew .loading
      | answer i answer =>
          rcases handle_answer hhandle with ⟨request, -, hanswered⟩
          rcases answered_keepsViews hanswered with hbase | ⟨message, hbase⟩
          · show vc'.toFLDataLoadingVC.Fresh
            rw [hbase]
            exact hs
          · show vc'.toFLDataLoadingVC.Fresh
            rw [hbase]
            exact hs.addNew _
      | didSelectItemAt sectionNumber item =>
          show vc'.toFLDataLoadingVC.Fresh
          rw [(handle_tap hhandle).2.2]
          exact hs
    · rcases (block_frame hblock).2.2 with ⟨-, hdismiss⟩ | ⟨-, hbase⟩
      · unfold FLDataLoadingVC.dismissBlock at hdismiss
        split at hdismiss
        · show vc'.toFLDataLoadingVC.Fresh
          rw [← Option.some.inj hdismiss]
          exact hs.remove _
        · cases hdismiss
      · show vc'.toFLDataLoadingVC.Fresh
        rw [hbase]
        exact hs
    · rw [hstate]
      exact hs
  exact EventMachine.reachable_invariant hinit hstep hl

/-- The calls that a run makes of the main queue. -/
def scheduled (shop : Shop) (l : MainLoop ShopInfoVC Block) (es : List (LoopStep Event)) :
    List Block :=
  (machine shop).trace (MainLoop.deferredBy handlers) l es

/-- When a chain has ended, in whatever order of answers, blocks and taps, the
loading view has been dismissed once exactly when the events were empty or the
events, the products and the reviews arrived; otherwise it was not dismissed, and
stays up when the main queue is drained. -/
theorem chain_releases_iff (shop : Shop) (o : Results) {l l' : MainLoop ShopInfoVC Block}
    {es : List (LoopStep Event)} (hreachable : (machine shop).Reachable l) (hl : Settled l)
    (hfollows : ∀ x ∈ es, o.Follows x)
    (hrun : (machine shop).run l (.event .viewWillAppear :: es) = some l')
    (hend : l'.state.pending = []) :
    (dismissals (scheduled shop l (.event .viewWillAppear :: es)) = 1 ↔ o.Releases) ∧
      (l'.Drained → l'.trapped = false →
        ((∀ v ∈ l'.state.subviews, v.kind = .loading → v ∈ l.state.subviews) ↔ o.Releases)) := by
  rcases l with ⟨vc, queue, trapped⟩
  obtain rfl : queue = [] := hl.queue
  obtain rfl : trapped = false := hl.trapped
  have hpending : vc.pending = [] := hl.pending
  rcases ((machine shop).run_cons_eq_some).1 hrun with ⟨l₁, hstep, hrest⟩
  obtain rfl := Option.some.inj hstep
  -- the appearance starts the chain
  have hstart : Chained o vc.toFLDataLoadingVC
      ⟨{ vc with
        toFLDataLoadingVC := vc.showLoadingView
        pending := vc.pending ++ [.events] }, [], false⟩ [] := by
    refine ⟨?_, fun _ => Covering.start _⟩
    show Phase o (vc.pending ++ [.events]) 0
    rw [hpending]
    exact .events
  have hchained := EventMachine.trace_invariant
    (fun s x s' log hstep hx h => Chained.step hstep hx h) hrest
    (EventMachine.along_of_forall hfollows) hstart
  rw [List.nil_append] at hchained
  have hphase := hchained.phase
  rw [hend] at hphase
  have hscheduled : scheduled shop ⟨vc, [], false⟩ (.event .viewWillAppear :: es) =
      (machine shop).trace (MainLoop.deferredBy handlers) ⟨{ vc with
        toFLDataLoadingVC := vc.showLoadingView
        pending := vc.pending ++ [.events] }, [], false⟩ es := rfl
  rw [hscheduled]
  refine ⟨hphase.dismissed_iff, fun hdrained htrapped => ?_⟩
  have hcovering := hchained.covering htrapped
  have hqueue : dismissals l'.queue = 0 := by
    rw [show l'.queue = [] from hdrained]
    rfl
  have hnew : overlay vc.toFLDataLoadingVC ∉ vc.subviews := by
    intro hold
    exact Nat.lt_irrefl _ (fresh_of_reachable hreachable _ hold)
  rw [← hphase.dismissed_iff]
  rcases hcovering.slot with ⟨hn, -, hup⟩ | ⟨hn, -, hdown⟩
  · refine iff_of_false (fun hall => hnew (hall _ hup rfl)) (by omega)
  · refine iff_of_true ?_ hn
    intro v hv hloading
    rcases hcovering.overlays v hv hloading with rfl | hold
    · exact absurd hv hdown
    · exact hold

/-- The events fail: the alert is presented over a loading view that stays. -/
theorem failed_events_cover :
    ∃ l', (machine (bakery "s")).run (fresh (bakery "s"))
        [.event .viewWillAppear, .event (.answer 0 (.events (.error .invalidData))), .block] =
        some l' ∧
      l'.state.pending = [] ∧ l'.Drained ∧ l'.trapped = false ∧
      dismissals (scheduled (bakery "s") (fresh (bakery "s"))
        [.event .viewWillAppear, .event (.answer 0 (.events (.error .invalidData))), .block]) =
        0 ∧
      ¬ l'.state.NoOverlay :=
  ⟨_, rfl, rfl, rfl, rfl, rfl, by decide⟩

/-- A shop without events is uncovered. -/
theorem chain_releases_without_events :
    ∃ l', (machine (bakery "s")).run (fresh (bakery "s"))
        [.event .viewWillAppear, .event (.answer 0 (.events (.ok []))), .block] = some l' ∧
      ∀ v ∈ l'.state.subviews, v.kind = .loading → v ∈ (fresh (bakery "s")).state.subviews := by
  refine ⟨_, rfl, ?_⟩
  have hfollows : ∀ x ∈ [LoopStep.event (Event.answer 0 (.events (.ok []))), .block],
      (Results.mk (.ok []) (.ok []) (.ok []) (.ok [])).Follows x := by
    intro x hx
    rcases List.mem_cons.1 hx with rfl | hx
    · exact Or.inl rfl
    · rw [List.mem_singleton.1 hx]
      trivial
  have hreleases := chain_releases_iff (bakery "s") _ ⟨_, [], rfl, rfl⟩ ⟨rfl, rfl, rfl⟩ hfollows
    rfl rfl
  exact (hreleases.2 rfl rfl).2 ⟨[], rfl, Or.inl rfl⟩

end FancyLife.ShopInfoVC
