import FancyLife.SearchVC

/-! # What the search screen is for

`Goal` is the purpose of the screen: the last action of the user decides what it
shows. `Views` is the part of the screen that decides it in the code, with the
blocks on the main queue that touch it; `InOrder` says how far the two are apart
while blocks are still to run. Each operation on the views has one lemma.
-/

namespace FancyLife.SearchVC

/-! ## The goal -/

/-- What the user and the service do, as far as the goal is concerned. -/
inductive Action where
  | submitted (id : Nat)
  | answered (id : Nat) (result : Except FLError (List SearchResult))
  | cleared

/-- What the screen is to show: the tags as they were loaded, the tags after the
text was cleared, nothing yet for a search, or its answer. -/
inductive Goal where
  | start
  | tags
  | awaiting (id : Nat)
  | answered (result : Except FLError (List SearchResult))

/-- Only the answer to the last search counts. -/
def Goal.next : Goal → Action → Goal
  | _, .submitted id => .awaiting id
  | .awaiting id, .answered id' result => if id' = id then .answered result else .awaiting id
  | goal, .answered _ _ => goal
  | .start, .cleared => .start
  | _, .cleared => .tags

/-- The goal after some actions. -/
def Goal.after (actions : List Action) : Goal := actions.foldl Goal.next .start

theorem Goal.after_append (actions actions' : List Action) :
    Goal.after (actions ++ actions') = actions'.foldl Goal.next (Goal.after actions) :=
  List.foldl_append

/-! ## What is shown -/

/-- The view below the labels. -/
inductive Body where
  | tags (snapshot : Snapshot Nat SearchTag)
  | rows (snapshot : Snapshot Nat SearchResult)
  | other
  | blank
deriving DecidableEq

/-- The labels on top, and the collection view below them. -/
structure Content where
  labels : List String
  body : Body
deriving DecidableEq

/-- The message of a label. -/
def label (v : UIView) : Option String :=
  match v.kind with
  | .emptyState message => some message
  | _ => none

/-- The views of the hierarchy other than loading views, from back to front. -/
def shown (base : FLDataLoadingVC) : List UIView := base.subviews.filter (·.kind ≠ .loading)

variable {Data : Type}

/-- The content of the screen. A label is transparent, a collection view is not. -/
def content (vc : SearchVC Data) : Content :=
  let front := (shown vc.toFLDataLoadingVC).reverse
  { labels := (front.takeWhile fun v => (label v).isSome).filterMap label
    body :=
      match front.dropWhile fun v => (label v).isSome with
      | [] => .blank
      | v :: _ =>
          if v = vc.collectionView then .tags vc.dataSource
          else if some v = vc.resultCollectionView then .rows (vc.resultDataSource.getD .empty)
          else .other }

/-- The screen shows what the goal asks for. A search that has failed asks for
nothing. -/
def Goal.Shown (vc : SearchVC Data) : Goal → Prop
  | .start => content vc = ⟨[], .tags vc.dataSource⟩
  | .tags => content vc = ⟨[], .tags (tagSnapshot vc.hotSearch vc.histories)⟩
  | .awaiting _ => False
  | .answered (.ok []) => content vc = ⟨["暂无搜索结果"], .rows .empty⟩
  | .answered (.ok results) => content vc = ⟨[], .rows (resultSnapshot results)⟩
  | .answered (.error _) => True

/-! ## The views and their blocks -/

/-- The part of the state that the goal is about. -/
structure Views where
  base : FLDataLoadingVC
  collectionView : UIView
  resultCollectionView : Option UIView
  resultDataSource : Option (Snapshot Nat SearchResult)
  searches : List Nat

def views (vc : SearchVC Data) : Views where
  base := vc.toFLDataLoadingVC
  collectionView := vc.collectionView
  resultCollectionView := vc.resultCollectionView
  resultDataSource := vc.resultDataSource
  searches := vc.searches.map Prod.fst

/-- The blocks that add and remove collection views. -/
def viewBlocks (queue : List Block) : List Block :=
  queue.filter fun
    | .rebuild => true
    | .searchCallback _ => true
    | _ => false

/-- How many blocks will dismiss, or schedule one that does. -/
def dismissals (queue : List Block) : Nat :=
  queue.countP fun
    | .dismiss => true
    | .searchCallback _ => true
    | _ => false

/-- The result snapshot that the queue applies last. -/
def lastResults (queue : List Block) : Option (Snapshot Nat SearchResult) :=
  (queue.filterMap fun | .applyResults snapshot => some snapshot | _ => none).getLast?

/-- Blocks that leave the views alone. -/
def Plain (b : Block) : Prop :=
  (∃ snapshot, b = .applyTags snapshot) ∨ (∃ result, b = .hotCallback result) ∨
    ∃ alert, b = .present alert

section Queue

variable (queue deferred : List Block)

@[simp] theorem viewBlocks_append :
    viewBlocks (queue ++ deferred) = viewBlocks queue ++ viewBlocks deferred := by
  simp [viewBlocks]

@[simp] theorem dismissals_append :
    dismissals (queue ++ deferred) = dismissals queue + dismissals deferred := by
  simp [dismissals]

/-- A block that dismisses counts for one. -/
theorem dismissals_cons (b : Block) (hb : dismissals [b] = 1) :
    dismissals (b :: queue) = dismissals queue + 1 := by
  have hcons : b :: queue = [b] ++ queue := rfl
  rw [hcons, dismissals_append, hb, Nat.add_comm]

theorem lastResults_append :
    lastResults (queue ++ deferred) = (lastResults deferred).or (lastResults queue) := by
  simp [lastResults]

variable {queue deferred}

theorem lastResults_eq_none (h : ∀ snapshot, .applyResults snapshot ∉ queue) :
    lastResults queue = none := by
  unfold lastResults
  rw [List.getLast?_eq_none_iff, List.filterMap_eq_nil_iff]
  intro b hb
  cases b with
  | applyResults snapshot => exact absurd hb (h snapshot)
  | _ => rfl

theorem plain_blocks (h : ∀ b ∈ deferred, Plain b) :
    viewBlocks deferred = [] ∧ dismissals deferred = 0 ∧ lastResults deferred = none := by
  refine ⟨?_, ?_, ?_⟩
  · rw [viewBlocks, List.filter_eq_nil_iff]
    intro b hb
    rcases h b hb with ⟨_, rfl⟩ | ⟨_, rfl⟩ | ⟨_, rfl⟩ <;> simp
  · rw [dismissals, List.countP_eq_zero]
    intro b hb
    rcases h b hb with ⟨_, rfl⟩ | ⟨_, rfl⟩ | ⟨_, rfl⟩ <;> simp
  · refine lastResults_eq_none fun snapshot hmem => ?_
    rcases h _ hmem with ⟨_, hb⟩ | ⟨_, hb⟩ | ⟨_, hb⟩ <;> cases hb

end Queue

/-! ## In order -/

/-- Where the screen is, by its shown views from back to front, its two collection
views, the rows to come, the blocks on their way and the searches not answered.
While a search is under way, the tag view is somewhere or nowhere: its answer
removes it. A text that is cleared meanwhile takes the result view away; if the search
fails, it has nothing to put there. -/
inductive Phase (shown : List UIView) (tags : UIView) (resultView : Option UIView)
    (rows : Option (Snapshot Nat SearchResult)) : List Block → List Nat → Goal → Prop where
  | tags (n : Nat) (goal : Goal) (hgoal : goal = .start ∨ goal = .tags)
      (top : n = 0 → shown.getLast? = some tags) :
      Phase shown tags resultView rows (List.replicate n .rebuild) [] goal
  | awaiting (id : Nat) (v : UIView) (hview : resultView = some v) (hrows : rows = some .empty)
      (top : (shown.filter (· ≠ tags)).getLast? = some v) :
      Phase shown tags resultView rows [] [id] (.awaiting id)
  | awaitingRebuild (id : Nat) (v : UIView) (hview : resultView = some v)
      (hrows : rows = some .empty) (top : shown.getLast? = some v) :
      Phase shown tags resultView rows [.rebuild] [id] (.awaiting id)
  | arrived (result : Except FLError (List SearchResult)) (v : UIView)
      (hview : resultView = some v) (hrows : rows = some .empty)
      (top : (shown.filter (· ≠ tags)).getLast? = some v) :
      Phase shown tags resultView rows [.searchCallback result] [] (.answered result)
  | arrivedRebuild (result : Except FLError (List SearchResult)) (v : UIView)
      (hview : resultView = some v) (hrows : rows = some .empty)
      (top : shown.getLast? = some v) :
      Phase shown tags resultView rows [.rebuild, .searchCallback result] [] (.answered result)
  | abandoned (id n : Nat) (v : UIView) (hview : resultView = some v) (hgone : v ∉ shown)
      (top : n = 0 → shown.getLast? = some tags) :
      Phase shown tags resultView rows (List.replicate n .rebuild) [id] .tags
  | refused (error : FLError) (n : Nat) (top : n = 0 → shown.getLast? = some tags) :
      Phase shown tags resultView rows
        (List.replicate n .rebuild ++ [.searchCallback (.error error)]) [] .tags
  | failed (error : FLError) :
      Phase shown tags resultView rows [] [] (.answered (.error error))
  | noResults (v : UIView) (n : Nat) (below : List UIView) (hview : resultView = some v)
      (hrows : rows = some .empty)
      (hshown : shown = below ++ [⟨.emptyState "暂无搜索结果", n⟩])
      (top : below.getLast? = some v) (hremoved : tags ∉ shown) :
      Phase shown tags resultView rows [] [] (.answered (.ok []))
  | results (list : List SearchResult) (hlist : list ≠ []) (v : UIView)
      (hview : resultView = some v) (hrows : rows = some (resultSnapshot list))
      (top : shown.getLast? = some v) (hremoved : tags ∉ shown) :
      Phase shown tags resultView rows [] [] (.answered (.ok list))

/-- The views, the blocks on the queue and the goal fit together. -/
structure InOrder (w : Views) (queue : List Block) (goal : Goal) : Prop where
  fresh : w.base.Fresh
  tags : w.collectionView.kind = .content ∧ w.collectionView.id < w.base.nextView
  result : ∀ v, w.resultCollectionView = some v →
    v.kind = .content ∧ v.id < w.base.nextView
  slot : ∀ v, w.base.containerview = some v → v.kind = .loading
  overlay : ∀ v ∈ w.base.subviews, v.kind = .loading → w.base.containerview = some v
  owed : w.searches.length + dismissals queue = if w.base.containerview.isSome then 1 else 0
  source : (lastResults queue).isSome → w.resultDataSource.isSome
  phase : Phase (shown w.base) w.collectionView w.resultCollectionView
    ((lastResults queue).or w.resultDataSource) (viewBlocks queue) w.searches goal

theorem mem_shown {base : FLDataLoadingVC} {v : UIView} :
    v ∈ shown base ↔ v ∈ base.subviews ∧ v.kind ≠ .loading := by
  simp [shown]

theorem shown_addNew (base : FLDataLoadingVC) (kind : ViewKind) :
    shown (base.addNew kind) =
      if kind = .loading then shown base else shown base ++ [⟨kind, base.nextView⟩] := by
  unfold shown FLDataLoadingVC.addNew
  rw [List.filter_append]
  by_cases h : kind = .loading <;> simp [h]

theorem shown_remove (base : FLDataLoadingVC) (v : UIView) :
    shown (base.remove v) = (shown base).filter (· ≠ v) := by
  unfold shown FLDataLoadingVC.remove
  simp only [List.filter_filter, Bool.and_comm]

variable {w : Views} {queue deferred : List Block} {goal : Goal}

/-- Blocks that leave the views alone may be added. -/
theorem InOrder.plain (h : InOrder w queue goal) (hplain : ∀ b ∈ deferred, Plain b) :
    InOrder w (queue ++ deferred) goal := by
  rcases plain_blocks hplain with ⟨hviews, hdismissals, hresults⟩
  have hlast : lastResults (queue ++ deferred) = lastResults queue := by
    rw [lastResults_append, hresults]
    rfl
  refine ⟨h.fresh, h.tags, h.result, h.slot, h.overlay, ?_, ?_, ?_⟩
  · rw [dismissals_append, hdismissals]
    exact h.owed
  · rw [hlast]
    exact h.source
  · rw [hlast, viewBlocks_append, hviews, List.append_nil]
    exact h.phase

/-- A block that leaves the views alone may run. -/
theorem InOrder.ran {b : Block} (h : InOrder w (b :: queue) goal) (hplain : Plain b) :
    InOrder w queue goal := by
  have hb : ∀ c ∈ [b], Plain c := by
    intro c hc
    rw [List.mem_singleton.1 hc]
    exact hplain
  rcases plain_blocks hb with ⟨hviews, hdismissals, hresults⟩
  have hqueue : b :: queue = [b] ++ queue := rfl
  have hlast : lastResults (b :: queue) = lastResults queue := by
    rw [hqueue, lastResults_append, hresults, Option.or_none]
  refine ⟨h.fresh, h.tags, h.result, h.slot, h.overlay, ?_, ?_, ?_⟩
  · have howed := h.owed
    rw [hqueue, dismissals_append, hdismissals, Nat.zero_add] at howed
    exact howed
  · rw [← hlast]
    exact h.source
  · have hphase := h.phase
    rw [hlast, hqueue, viewBlocks_append, hviews, List.nil_append] at hphase
    exact hphase

/-! ## Searching -/

/-- The result view and the loading view of a search are added. -/
def Views.submit (w : Views) (id : Nat) : Views where
  base := (w.base.addNew .content).showLoadingView
  collectionView := w.collectionView
  resultCollectionView := some ⟨.content, w.base.nextView⟩
  resultDataSource := some .empty
  searches := w.searches ++ [id]

theorem shown_submit (w : Views) (id : Nat) :
    shown (w.submit id).base = shown w.base ++ [⟨.content, w.base.nextView⟩] := by
  unfold shown Views.submit FLDataLoadingVC.showLoadingView FLDataLoadingVC.addNew
  simp [List.filter_append]

/-- When no dismissal is owed, the slot is free. -/
theorem InOrder.slot_free (h : InOrder w queue goal) (hsearches : w.searches = [])
    (hdismissals : dismissals queue = 0) : w.base.containerview = none := by
  have howed := h.owed
  rw [hsearches, hdismissals] at howed
  cases hslot : w.base.containerview with
  | none => rfl
  | some v =>
      rw [hslot] at howed
      cases howed

/-- A search is submitted while nothing is left of earlier ones, except for one
rebuild of the tag view. -/
theorem InOrder.submit (h : InOrder w queue goal) (id : Nat) (hsearches : w.searches = [])
    (hdismissals : dismissals queue = 0) (hresults : lastResults queue = none)
    (hblocks : viewBlocks queue = [] ∨ viewBlocks queue = [.rebuild]) :
    InOrder (w.submit id) queue (.awaiting id) := by
  have hslot : w.base.containerview = none := h.slot_free hsearches hdismissals
  have hne : (⟨.content, w.base.nextView⟩ : UIView) ≠ w.collectionView := by
    intro heq
    have hlt := h.tags.2
    rw [← heq] at hlt
    exact Nat.lt_irrefl _ hlt
  refine ⟨(h.fresh.addNew .content).addNew .loading, ⟨h.tags.1, ?_⟩, ?_, ?_, ?_, ?_, ?_, ?_⟩
  · exact Nat.lt_of_lt_of_le h.tags.2 (Nat.le_add_right _ 2)
  · intro v hv
    rw [← Option.some.inj hv]
    exact ⟨rfl, Nat.lt_of_lt_of_le (Nat.lt_succ_self _) (Nat.le_succ _)⟩
  · intro v hv
    rw [← Option.some.inj hv]
  · -- no other loading view is there
    intro v hv hloading
    rcases List.mem_append.1 hv with hv | hv
    · rcases List.mem_append.1 hv with hv | hv
      · have hcontra := h.overlay v hv hloading
        rw [hslot] at hcontra
        cases hcontra
      · rw [List.mem_singleton.1 hv] at hloading
        cases hloading
    · rw [List.mem_singleton.1 hv]
      rfl
  · show (w.searches ++ [id]).length + dismissals queue = 1
    rw [hsearches, hdismissals]
    rfl
  · rw [hresults]
    intro hnone
    cases hnone
  · rw [shown_submit, hresults]
    show Phase _ w.collectionView _ _ (viewBlocks queue) (w.searches ++ [id]) _
    rw [hsearches, List.nil_append]
    -- a waiting rebuild will put the tag view over the result view
    rcases hblocks with hblocks | hblocks
    · rw [hblocks]
      refine .awaiting id _ rfl rfl ?_
      rw [List.filter_append, List.filter_singleton, decide_eq_true hne, cond_true]
      exact List.getLast?_concat
    · rw [hblocks]
      exact .awaitingRebuild id _ rfl rfl List.getLast?_concat

/-- The answer to a search is scheduled. Results need the view of their search. -/
theorem InOrder.answer (h : InOrder w queue goal) {id : Nat} (hid : id ∈ w.searches)
    {result : Except FLError (List SearchResult)}
    (hresult : ∀ results, result = .ok results →
      ∀ v, w.resultCollectionView = some v → v ∈ w.base.subviews) :
    InOrder { w with searches := w.searches.filter (· ≠ id) }
      (queue ++ [.searchCallback result]) (goal.next (.answered id result)) := by
  have hlast : lastResults (queue ++ [.searchCallback result]) = lastResults queue := by
    rw [lastResults_append]
    rfl
  have hphase := h.phase
  have howed := h.owed
  have hshown : ∀ v, w.resultCollectionView = some v → v ∈ w.base.subviews →
      v ∈ shown w.base := by
    intro v hv hmem
    refine mem_shown.2 ⟨hmem, ?_⟩
    rw [(h.result v hv).1]
    exact fun hkind => ViewKind.noConfusion hkind
  -- a search is outstanding in three phases, and it is the only one
  have hone : w.searches = [id] ∧ Phase (shown w.base) w.collectionView w.resultCollectionView
      ((lastResults queue).or w.resultDataSource) (viewBlocks queue ++ [.searchCallback result])
      [] (goal.next (.answered id result)) := by
    generalize viewBlocks queue = blocks at hphase ⊢
    generalize w.searches = searches at hphase hid ⊢
    cases hphase with
    | awaiting id' v hview hrows top =>
        obtain rfl := List.mem_singleton.1 hid
        refine ⟨rfl, ?_⟩
        rw [Goal.next, if_pos rfl]
        exact .arrived result v hview hrows top
    | awaitingRebuild id' v hview hrows top =>
        obtain rfl := List.mem_singleton.1 hid
        refine ⟨rfl, ?_⟩
        rw [Goal.next, if_pos rfl]
        exact .arrivedRebuild result v hview hrows top
    | abandoned id' n v hview hgone top =>
        obtain rfl := List.mem_singleton.1 hid
        refine ⟨rfl, ?_⟩
        cases result with
        | error error => exact .refused error n top
        | ok results => exact absurd (hshown v hview (hresult results rfl v hview)) hgone
    | _ => cases hid
  have hnone : w.searches.filter (· ≠ id) = [] := by
    rw [hone.1]
    simp
  refine ⟨h.fresh, h.tags, h.result, h.slot, h.overlay, ?_, ?_, ?_⟩
  · show (w.searches.filter (· ≠ id)).length + _ = _
    rw [hone.1] at howed
    rw [hnone, dismissals_append, ← howed]
    show 0 + (dismissals queue + 1) = 1 + dismissals queue
    omega
  · rw [hlast]
    exact h.source
  · show Phase _ _ _ _ _ (w.searches.filter (· ≠ id)) _
    rw [hlast, viewBlocks_append, hnone]
    exact hone.2

/-! ## The blocks of a search -/

/-- The dismiss block finds the loading view in its slot. -/
theorem InOrder.dismiss (h : InOrder w (.dismiss :: queue) goal) :
    ∃ base, w.base.dismissBlock = some base ∧ shown base = shown w.base ∧
      InOrder { w with base } queue goal := by
  have howed : w.searches.length + (dismissals queue + 1) =
      if w.base.containerview.isSome then 1 else 0 := by
    rw [← dismissals_cons queue .dismiss rfl]
    exact h.owed
  cases hslot : w.base.containerview with
  | none =>
      rw [hslot] at howed
      cases howed
  | some v =>
      have hshown : shown (w.base.remove v) = shown w.base := by
        rw [shown_remove, List.filter_eq_self]
        -- the view in the slot is a loading view
        intro u hu
        refine decide_eq_true ?_
        intro huv
        exact (mem_shown.1 hu).2 (huv ▸ h.slot v hslot)
      refine ⟨{ w.base.remove v with containerview := none }, ?_, hshown, ?_⟩
      · rw [FLDataLoadingVC.dismissBlock, hslot]
      refine ⟨h.fresh.remove v, h.tags, h.result, (fun u hu => by cases hu), ?_, ?_, h.source, ?_⟩
      · intro u hu hloading
        rcases FLDataLoadingVC.mem_remove.1 hu with ⟨hmem, hne⟩
        have hcontra := h.overlay u hmem hloading
        rw [hslot] at hcontra
        exact absurd (Option.some.inj hcontra).symm hne
      · rw [hslot] at howed
        show w.searches.length + dismissals queue = 0
        simp only [Option.isSome_some, if_true] at howed
        omega
      · show Phase (shown (w.base.remove v)) _ _ _ _ _ _
        rw [hshown]
        exact h.phase

/-- The rows of the results reach the data source. -/
theorem InOrder.applyResults {snapshot : Snapshot Nat SearchResult}
    (h : InOrder w (.applyResults snapshot :: queue) goal) :
    w.resultDataSource.isSome ∧
      InOrder { w with resultDataSource := some snapshot } queue goal := by
  have hlast : lastResults (.applyResults snapshot :: queue) =
      some ((lastResults queue).getD snapshot) := by
    simp [lastResults, List.getLast?_cons]
  refine ⟨h.source (by rw [hlast]; rfl), h.fresh, h.tags, h.result, h.slot, h.overlay, h.owed,
    fun _ => rfl, ?_⟩
  have hphase := h.phase
  rw [hlast] at hphase
  show Phase _ _ _ ((lastResults queue).or (some snapshot)) _ _ _
  cases hqueue : lastResults queue with
  | none =>
      rw [hqueue] at hphase
      exact hphase
  | some s =>
      rw [hqueue] at hphase
      exact hphase

/-- `searchCallback` on the views. -/
def Views.callback (w : Views) : Except FLError (List SearchResult) → Views
  | .ok results =>
      if results.isEmpty then
        { w with base := (w.base.remove w.collectionView).showEmptyStateView "暂无搜索结果" }
      else { w with base := w.base.remove w.collectionView }
  | .error _ => w

/-- What a callback defers. -/
def callbackBlocks : Except FLError (List SearchResult) → List Block
  | .ok results =>
      if results.isEmpty then [.dismiss] else [.dismiss, .applyResults (resultSnapshot results)]
  | .error error =>
      [.dismiss, .present { title := "错误！", message := error.rawValue, buttonTitle := "确认" }]

/-- Where the screen is when the callback of a search runs: its result view is
shown, or the text was cleared and the search has failed. -/
theorem InOrder.arrived {result : Except FLError (List SearchResult)}
    (h : InOrder w (.searchCallback result :: queue) goal) :
    viewBlocks queue = [] ∧ w.searches = [] ∧
      (goal = .answered result ∧ (lastResults queue).or w.resultDataSource = some .empty ∧
          (∃ v, w.resultCollectionView = some v ∧
            ((shown w.base).filter (· ≠ w.collectionView)).getLast? = some v) ∨
        (∃ error, result = .error error) ∧ goal = .tags ∧
          (shown w.base).getLast? = some w.collectionView) := by
  have hphase := h.phase
  have hblocks : viewBlocks (.searchCallback result :: queue) =
      .searchCallback result :: viewBlocks queue := rfl
  have hlast : lastResults (.searchCallback result :: queue) = lastResults queue := rfl
  rw [hblocks, hlast] at hphase
  generalize hall : .searchCallback result :: viewBlocks queue = blocks at hphase
  generalize w.searches = searches at hphase
  -- two phases can begin with a callback
  cases hphase with
  | tags n goal hgoal top =>
      cases n with
      | zero => cases hall
      | succ n => cases hall
  | abandoned id n v hview hgone top =>
      cases n with
      | zero => cases hall
      | succ n => cases hall
  | refused error n top =>
      cases n with
      | zero =>
          rcases List.cons.inj hall with ⟨hresult, hnone⟩
          exact ⟨hnone, rfl, Or.inr ⟨⟨error, Block.searchCallback.inj hresult⟩, rfl, top rfl⟩⟩
      | succ n => cases hall
  | arrived result' v hview hrows top =>
      rcases List.cons.inj hall with ⟨hresult, hnone⟩
      obtain rfl := Block.searchCallback.inj hresult
      exact ⟨hnone, rfl, Or.inl ⟨rfl, hrows, v, hview, top⟩⟩
  | _ => cases hall

/-- When results arrive, the view of their search is shown. -/
theorem InOrder.arrived_ok {results : List SearchResult}
    (h : InOrder w (.searchCallback (.ok results) :: queue) goal) :
    viewBlocks queue = [] ∧ w.searches = [] ∧ goal = .answered (.ok results) ∧
      (lastResults queue).or w.resultDataSource = some .empty ∧
      ∃ v, w.resultCollectionView = some v ∧
        ((shown w.base).filter (· ≠ w.collectionView)).getLast? = some v := by
  rcases h.arrived with ⟨hblocks, hsearches, harrived | ⟨⟨error, herror⟩, -⟩⟩
  · exact ⟨hblocks, hsearches, harrived⟩
  · cases herror

/-- A callback owes a dismissal, which it schedules. -/
theorem InOrder.owed_callback {result : Except FLError (List SearchResult)}
    (h : InOrder w (.searchCallback result :: queue) goal) :
    w.searches.length + (dismissals queue + 1) =
      if w.base.containerview.isSome then 1 else 0 := by
  rw [← dismissals_cons queue (.searchCallback result) rfl]
  exact h.owed

/-- The failure of the only search is reported. -/
theorem InOrder.callback_error {error : FLError}
    (h : InOrder w (.searchCallback (.error error) :: queue) goal) :
    InOrder w (queue ++ callbackBlocks (.error error)) goal := by
  rcases h.arrived with ⟨hblocks, hsearches, hgoal⟩
  refine ⟨h.fresh, h.tags, h.result, h.slot, h.overlay, ?_, ?_, ?_⟩
  · rw [dismissals_append]
    exact h.owed_callback
  · rw [lastResults_append]
    exact h.source
  · rw [viewBlocks_append, hblocks, hsearches]
    rcases hgoal with ⟨rfl, -⟩ | ⟨-, rfl, htop⟩
    · exact .failed error
    · exact .tags 0 _ (Or.inr rfl) fun _ => htop

theorem not_mem_filter_ne (views : List UIView) (v : UIView) : v ∉ views.filter (· ≠ v) :=
  fun hmem => of_decide_eq_true (List.mem_filter.1 hmem).2 rfl

/-- The only search has found nothing: the label covers the result view. -/
theorem InOrder.callback_empty (h : InOrder w (.searchCallback (.ok []) :: queue) goal) :
    InOrder (w.callback (.ok [])) (queue ++ callbackBlocks (.ok [])) goal := by
  rcases h.arrived_ok with ⟨hblocks, hsearches, rfl, hrows, v, hview, top⟩
  have hshown : shown (w.callback (.ok [])).base =
      (shown w.base).filter (· ≠ w.collectionView) ++
        [⟨.emptyState "暂无搜索结果", w.base.nextView⟩] := by
    show shown ((w.base.remove w.collectionView).addNew _) = _
    rw [shown_addNew, if_neg (by decide), shown_remove]
    rfl
  refine ⟨(h.fresh.remove _).addNew _, ⟨h.tags.1, Nat.lt_succ_of_lt h.tags.2⟩,
    (fun u hu => ⟨(h.result u hu).1, Nat.lt_succ_of_lt (h.result u hu).2⟩), h.slot, ?_, ?_, ?_, ?_⟩
  · intro u hu hloading
    rcases List.mem_append.1 hu with hu | hu
    · exact h.overlay u (FLDataLoadingVC.mem_remove.1 hu).1 hloading
    · rw [List.mem_singleton.1 hu] at hloading
      cases hloading
  · rw [dismissals_append]
    exact h.owed_callback
  · rw [lastResults_append]
    exact h.source
  · rw [viewBlocks_append, hblocks, lastResults_append]
    show Phase _ w.collectionView w.resultCollectionView _ [] w.searches _
    rw [hsearches]
    refine .noResults v _ _ hview hrows hshown top ?_
    -- the tag view was removed, and it is not the label
    rw [hshown]
    intro hmem
    rcases List.mem_append.1 hmem with hmem | hmem
    · exact not_mem_filter_ne _ _ hmem
    · have hkind := h.tags.1
      rw [List.mem_singleton.1 hmem] at hkind
      cases hkind

/-- The results of the only search are scheduled for the result view. -/
theorem InOrder.callback_results {results : List SearchResult} (hresults : results ≠ [])
    (h : InOrder w (.searchCallback (.ok results) :: queue) goal) :
    InOrder (w.callback (.ok results)) (queue ++ callbackBlocks (.ok results)) goal := by
  rcases h.arrived_ok with ⟨hblocks, hsearches, rfl, hrows, v, hview, top⟩
  have hempty : ¬ results.isEmpty = true := fun hnil => hresults (List.isEmpty_iff.1 hnil)
  have hviews : w.callback (.ok results) = { w with base := w.base.remove w.collectionView } :=
    if_neg hempty
  have hdeferred : callbackBlocks (.ok results) =
      [.dismiss, .applyResults (resultSnapshot results)] := if_neg hempty
  rw [hviews, hdeferred]
  refine ⟨h.fresh.remove _, h.tags, h.result, h.slot, ?_, ?_, ?_, ?_⟩
  · intro u hu hloading
    exact h.overlay u (FLDataLoadingVC.mem_remove.1 hu).1 hloading
  · rw [dismissals_append]
    exact h.owed_callback
  · -- the rows so far are the empty ones, of this queue or of the data source
    intro _
    cases hlast : lastResults queue with
    | none =>
        rw [hlast, Option.none_or] at hrows
        show w.resultDataSource.isSome
        rw [hrows]
        rfl
    | some snapshot =>
        refine h.source ?_
        show (lastResults queue).isSome
        rw [hlast]
        rfl
  · rw [viewBlocks_append, hblocks, lastResults_append]
    show Phase (shown (w.base.remove w.collectionView)) w.collectionView _ _ [] w.searches _
    rw [hsearches, shown_remove]
    exact .results results hresults v hview rfl top (not_mem_filter_ne _ _)

/-- The callback of the only search brings its answer to the screen. -/
theorem InOrder.callback {result : Except FLError (List SearchResult)}
    (h : InOrder w (.searchCallback result :: queue) goal) :
    InOrder (w.callback result) (queue ++ callbackBlocks result) goal := by
  cases result with
  | error error => exact h.callback_error
  | ok results =>
      by_cases hresults : results = []
      · subst hresults
        exact h.callback_empty
      · exact h.callback_results hresults

/-- The tag view is not on top. -/
def Views.Covered (w : Views) : Prop := (shown w.base).getLast? ≠ some w.collectionView

theorem Views.Covered.submit {w : Views} (htags : w.collectionView.id < w.base.nextView)
    (id : Nat) : (w.submit id).Covered := by
  unfold Covered
  rw [shown_submit, List.getLast?_concat]
  intro heq
  have hid : w.base.nextView = w.collectionView.id := congrArg UIView.id (Option.some.inj heq)
  exact Nat.lt_irrefl _ (hid ▸ htags)

theorem Views.Covered.callback {w : Views} (h : w.Covered)
    (htags : w.collectionView.kind = .content) (result : Except FLError (List SearchResult)) :
    (w.callback result).Covered := by
  cases result with
  | error error => exact h
  | ok results =>
      unfold Covered Views.callback
      by_cases hempty : results.isEmpty
      · -- the label is on top
        simp only [hempty, if_true]
        intro heq
        have hkind := htags
        rw [FLDataLoadingVC.showEmptyStateView, shown_addNew, if_neg (by decide),
          List.getLast?_concat] at heq
        rw [← Option.some.inj heq] at hkind
        cases hkind
      · simp only [hempty, Bool.false_eq_true, if_false]
        rw [shown_remove]
        intro heq
        exact not_mem_filter_ne _ _ (List.mem_of_getLast? heq)

/-! ## Clearing the text -/

/-- All views are removed. -/
def Views.clear (w : Views) : Views := { w with base := { w.base with subviews := [] } }

/-- The text is cleared, and the tag view is rebuilt. A search that is under way loses
its result view. -/
theorem InOrder.clear (h : InOrder w queue goal)
    (hcallback : ∀ result, .searchCallback result ∉ queue) :
    InOrder w.clear (queue ++ [.rebuild]) (goal.next .cleared) := by
  refine ⟨(fun v hv => by cases hv), h.tags, h.result, h.slot, (fun v hv => by cases hv),
    ?_, ?_, ?_⟩
  · rw [dismissals_append]
    exact h.owed
  · rw [lastResults_append]
    exact h.source
  have hnot : ∀ result, .searchCallback result ∉ viewBlocks queue :=
    fun result hmem => hcallback result (List.mem_filter.1 hmem).1
  have hphase := h.phase
  rw [viewBlocks_append, lastResults_append]
  show Phase [] w.collectionView _ _ (viewBlocks queue ++ [.rebuild]) w.searches _
  generalize viewBlocks queue = blocks at hphase hnot
  generalize w.searches = searches at hphase ⊢
  -- whatever was shown, one more rebuild of the tags is on its way
  cases hphase with
  | tags n goal hgoal top =>
      have hblocks : List.replicate n Block.rebuild ++ [.rebuild] =
          List.replicate (n + 1) .rebuild := List.replicate_succ'.symm
      rw [hblocks]
      refine .tags (n + 1) _ ?_ (fun hzero => by cases hzero)
      rcases hgoal with rfl | rfl
      · exact Or.inl rfl
      · exact Or.inr rfl
  | awaiting id v hview hrows top =>
      exact .abandoned id 1 v hview List.not_mem_nil (fun hzero => by cases hzero)
  | awaitingRebuild id v hview hrows top =>
      exact .abandoned id 2 v hview List.not_mem_nil (fun hzero => by cases hzero)
  | abandoned id n v hview hgone top =>
      have hblocks : List.replicate n Block.rebuild ++ [.rebuild] =
          List.replicate (n + 1) .rebuild := List.replicate_succ'.symm
      rw [hblocks]
      exact .abandoned id (n + 1) v hview List.not_mem_nil (fun hzero => by cases hzero)
  | arrived result v hview hrows top => exact absurd List.mem_cons_self (hnot result)
  | arrivedRebuild result v hview hrows top =>
      exact absurd (List.mem_cons_of_mem _ List.mem_cons_self) (hnot result)
  | refused error n top =>
      exact absurd (List.mem_append_right _ (List.mem_singleton_self _)) (hnot _)
  | failed error => exact .tags 1 _ (Or.inr rfl) (fun hzero => by cases hzero)
  | noResults v n below hview hrows hshown top hremoved =>
      exact .tags 1 _ (Or.inr rfl) (fun hzero => by cases hzero)
  | results list hlist v hview hrows top hremoved =>
      exact .tags 1 _ (Or.inr rfl) (fun hzero => by cases hzero)

/-- The text is cleared while the tag view is on top. -/
theorem InOrder.keep (h : InOrder w queue goal) (hsearches : w.searches = [])
    (hcallback : ∀ result, .searchCallback result ∉ queue)
    (htop : (shown w.base).getLast? = some w.collectionView) :
    InOrder w queue (goal.next .cleared) := by
  refine ⟨h.fresh, h.tags, h.result, h.slot, h.overlay, h.owed, h.source, ?_⟩
  have hnot : ∀ result, .searchCallback result ∉ viewBlocks queue :=
    fun result hmem => hcallback result (List.mem_filter.1 hmem).1
  have hmem : w.collectionView ∈ shown w.base := List.mem_of_getLast? htop
  have hphase := h.phase
  rw [hsearches] at hphase ⊢
  generalize viewBlocks queue = blocks at hphase hnot ⊢
  -- the tag view is on top in the phase of the tags, or after a failure
  cases hphase with
  | tags n goal hgoal top =>
      refine .tags n _ ?_ top
      rcases hgoal with rfl | rfl
      · exact Or.inl rfl
      · exact Or.inr rfl
  | arrived result v hview hrows top => exact absurd List.mem_cons_self (hnot result)
  | arrivedRebuild result v hview hrows top =>
      exact absurd (List.mem_cons_of_mem _ List.mem_cons_self) (hnot result)
  | refused error n top =>
      exact absurd (List.mem_append_right _ (List.mem_singleton_self _)) (hnot _)
  | failed error => exact .tags 0 _ (Or.inr rfl) (fun _ => htop)
  | noResults v n below hview hrows hshown top hremoved => exact absurd hmem hremoved
  | results list hlist v hview hrows top hremoved => exact absurd hmem hremoved

/-- `configureCollectionView` on the views. -/
def Views.rebuild (w : Views) : Views :=
  { w with
    base := w.base.addNew .content
    collectionView := ⟨.content, w.base.nextView⟩ }

/-- A rebuild puts a new tag view on top. -/
theorem InOrder.rebuild (h : InOrder w (.rebuild :: queue) goal) :
    InOrder w.rebuild queue goal := by
  have hblocks : viewBlocks (.rebuild :: queue) = .rebuild :: viewBlocks queue := rfl
  have hlast : lastResults (.rebuild :: queue) = lastResults queue := rfl
  have hshown : shown w.rebuild.base = shown w.base ++ [w.rebuild.collectionView] :=
    (shown_addNew w.base .content).trans (if_neg (by decide))
  have htop : (shown w.rebuild.base).getLast? = some w.rebuild.collectionView := by
    rw [hshown]
    exact List.getLast?_concat
  -- the new view is none of the old ones
  have hold : (shown w.rebuild.base).filter (· ≠ w.rebuild.collectionView) = shown w.base := by
    rw [hshown, List.filter_append, List.filter_singleton, decide_eq_false (by simp), cond_false,
      List.append_nil, List.filter_eq_self]
    intro u hu
    refine decide_eq_true ?_
    rintro rfl
    exact Nat.lt_irrefl _ (h.fresh _ (mem_shown.1 hu).1)
  refine ⟨h.fresh.addNew _, ⟨rfl, Nat.lt_succ_self _⟩,
    (fun v hv => ⟨(h.result v hv).1, Nat.lt_succ_of_lt (h.result v hv).2⟩), h.slot, ?_, h.owed,
    h.source, ?_⟩
  · intro u hu hloading
    rcases List.mem_append.1 hu with hu | hu
    · exact h.overlay u hu hloading
    · rw [List.mem_singleton.1 hu] at hloading
      cases hloading
  have hphase := h.phase
  rw [hblocks, hlast] at hphase
  show Phase _ _ w.resultCollectionView ((lastResults queue).or w.resultDataSource) _ w.searches _
  generalize hall : .rebuild :: viewBlocks queue = blocks at hphase
  generalize w.searches = searches at hphase ⊢
  -- one rebuild fewer is on its way
  cases hphase with
  | tags n goal hgoal top =>
      cases n with
      | zero => cases hall
      | succ n =>
          rw [(List.cons.inj hall).2]
          exact .tags n goal hgoal (fun _ => htop)
  | awaitingRebuild id v hview hrows top =>
      rw [(List.cons.inj hall).2]
      exact .awaiting id v hview hrows (hold.symm ▸ top)
  | arrivedRebuild result v hview hrows top =>
      rw [(List.cons.inj hall).2]
      exact .arrived result v hview hrows (hold.symm ▸ top)
  | abandoned id n v hview hgone top =>
      cases n with
      | zero => cases hall
      | succ n =>
          rw [(List.cons.inj hall).2]
          refine .abandoned id n v hview ?_ (fun _ => htop)
          rw [hshown]
          intro hmem
          rcases List.mem_append.1 hmem with hmem | hmem
          · exact hgone hmem
          · -- the new view has a new number
            have hlt := (h.result v hview).2
            rw [List.mem_singleton.1 hmem] at hlt
            exact Nat.lt_irrefl _ hlt
  | refused error n top =>
      cases n with
      | zero => cases hall
      | succ n =>
          rw [(List.cons.inj hall).2]
          exact .refused error n (fun _ => htop)
  | _ => cases hall

end FancyLife.SearchVC
