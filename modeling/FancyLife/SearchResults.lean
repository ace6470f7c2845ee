import FancyLife.SearchTags
import FancyLife.SearchViews

/-! # Which search is shown

The handlers of the screen do to its views what `SearchViews` describes, as long
as searches do not overlap. The screen then shows what the goal asks for whenever
every search has been answered and the main queue is drained. Nothing is asked of the
store: one that cannot be read stays so, and leaves the tag lists empty (`Unloaded`).
-/

namespace FancyLife.SearchVC

open Swift (Unicode)

variable {Data : Type} {coder : HistoryCoder Data}

/-! ## What the steps mean -/

/-- The tag that a tap reads, if the index path is in range. -/
def tagAt (vc : SearchVC Data) (sectionNumber item : Nat) : Option SearchTag :=
  vc.textList[sectionNumber]?.bind (·[item]?)

/-- A search for `text` is submitted unless it is empty. -/
def submission (vc : SearchVC Data) (text : String) : List Action :=
  if text = "" then [] else [.submitted vc.nextSearch]

/-- What a step means for the goal. -/
def logged (vc : SearchVC Data) : LoopStep Event → List Action
  | .event (.textDidChange searchText) => if searchText = "" then [.cleared] else []
  | .event .searchButtonClicked => submission vc vc.searchText
  | .event (.tapTag sectionNumber item) =>
      match vc.tagAt sectionNumber item with
      | some tag => submission vc tag.name
      | none => []
  | .event (.searchAnswer id result) => [.answered id result]
  | _ => []

/-- Blocks that a search leaves on the main queue. -/
def Block.ofSearch : Block → Bool
  | .dismiss => true
  | .applyResults _ => true
  | .searchCallback _ => true
  | _ => false

/-- The callback of a search. -/
def Block.isCallback : Block → Bool
  | .searchCallback _ => true
  | _ => false

/-- A search is submitted when nothing is left of earlier ones and at most one
rebuild is waiting. Results come while the view of their search is in the hierarchy. The
text is cleared when no callback of a search is waiting; and while the tag view is in the
hierarchy, only when every search has been answered and nothing covers it. -/
def Action.Calm (w : Views) (queue : List Block) : Action → Prop
  | .submitted _ =>
      w.searches = [] ∧ (∀ b ∈ queue, b.ofSearch = false) ∧ queue.count .rebuild ≤ 1
  | .answered _ (.ok _) => ∀ v ∈ w.resultCollectionView, v ∈ w.base.subviews
  | .answered _ (.error _) => True
  | .cleared =>
      (∀ b ∈ queue, b.isCallback = false) ∧
        (w.collectionView ∈ w.base.subviews →
          w.searches = [] ∧ (shown w.base).getLast? = some w.collectionView)

/-- A tap reads a tag that is there. -/
def tapReads (vc : SearchVC Data) : LoopStep Event → Bool
  | .event (.tapTag sectionNumber item) => (vc.tagAt sectionNumber item).isSome
  | _ => true

/-- The condition on a step. -/
def Calm (l : MainLoop (SearchVC Data) Block) (x : LoopStep Event) : Prop :=
  (∀ action ∈ logged l.state x, action.Calm (views l.state) l.queue) ∧ tapReads l.state x = true

/-- Every search has been answered and the main queue is drained. -/
def Quiet (l : MainLoop (SearchVC Data) Block) : Prop := l.state.searches = [] ∧ l.Drained

/-- What is left on the queue when nothing is left of a search. -/
theorem settled_blocks {queue : List Block} (hnone : ∀ b ∈ queue, b.ofSearch = false) :
    viewBlocks queue = List.replicate (queue.count .rebuild) .rebuild ∧
      dismissals queue = 0 ∧ lastResults queue = none := by
  refine ⟨?_, ?_, ?_⟩
  · rw [← List.filter_beq]
    refine List.filter_congr fun b hb => ?_
    have hb' := hnone b hb
    cases b with
    | searchCallback result => cases hb'
    | _ => rfl
  · rw [dismissals, List.countP_eq_zero]
    intro b hb
    have hb' := hnone b hb
    cases b with
    | dismiss => cases hb'
    | searchCallback result => cases hb'
    | _ => exact Bool.false_ne_true
  · exact lastResults_eq_none fun snapshot hmem => by cases hnone _ hmem

/-! ## Events -/

/-- What an event does to the views, with what it means. -/
inductive ViewEffect (w w' : Views) (deferred : List Block) : List Action → Prop where
  | plain (hviews : w' = w) (hdeferred : ∀ b ∈ deferred, Plain b) :
      ViewEffect w w' deferred []
  | submit (id : Nat) (hviews : w' = w.submit id) (hdeferred : deferred = []) :
      ViewEffect w w' deferred [.submitted id]
  | clear (hremoved : w.collectionView ∉ w.base.subviews) (hviews : w' = w.clear)
      (hdeferred : deferred = [.rebuild]) : ViewEffect w w' deferred [.cleared]
  | keep (hmem : w.collectionView ∈ w.base.subviews) (hviews : w' = w)
      (hdeferred : deferred = []) : ViewEffect w w' deferred [.cleared]
  | answer (id : Nat) (result : Except FLError (List SearchResult)) (hid : id ∈ w.searches)
      (hviews : w' = { w with searches := w.searches.filter (· ≠ id) })
      (hdeferred : deferred = [.searchCallback result]) :
      ViewEffect w w' deferred [.answered id result]

/-- An event returns, and the store can be read if it could before. -/
def Returns (coder : HistoryCoder Data) (vc : SearchVC Data) (actions : List Action)
    (o : Outcome (SearchVC Data) Block) : Prop :=
  ∃ vc' deferred, o = .ok vc' deferred ∧
    (PersistenceManager.Readable coder vc'.defaults ↔
      PersistenceManager.Readable coder vc.defaults) ∧
    ViewEffect (views vc) (views vc') deferred actions

section Events

variable [Unicode]

theorem activate_returns (coder : HistoryCoder Data) (vc : SearchVC Data) :
    Returns coder vc (submission vc vc.searchText) (activateSearchFunction coder vc) := by
  unfold activateSearchFunction submission
  by_cases htext : vc.searchText = ""
  · rw [if_pos htext, if_pos htext]
    exact ⟨vc, [], rfl, Iff.rfl, .plain rfl (fun b hb => by cases hb)⟩
  · rw [if_neg htext, if_neg htext]
    rcases PersistenceManager.updateWith_readable coder vc.defaults
      (some ⟨vc.nextUUID, vc.searchText⟩) .add (fun _ => rfl) with ⟨update, hupdate, hread, -⟩
    simp only [configureResults, getSearchResults, hupdate]
    refine ⟨_, _, rfl, hread, .submit _ ?_ rfl⟩
    simp only [views, Views.submit, List.map_append, List.map_cons, List.map_nil]

/-- Step lemma for events: none traps. -/
theorem handle_returns {vc : SearchVC Data} {e : Event} {o : Outcome (SearchVC Data) Block}
    (h : (handlers coder).handle vc e = some o) (htap : tapReads vc (.event e) = true) :
    Returns coder vc (logged vc (.event e)) o := by
  cases e with
  | textDidChange searchText =>
      obtain rfl := Option.some.inj h
      show Returns coder vc (if searchText = "" then [.cleared] else []) _
      unfold textDidChange
      by_cases htext : searchText = ""
      · by_cases hmem : vc.collectionView ∈ vc.subviews
        · rw [if_pos htext, if_neg fun hand => hand.2 hmem]
          exact ⟨_, _, rfl, Iff.rfl, .keep hmem rfl rfl⟩
        · rw [if_pos htext, if_pos ⟨htext, hmem⟩]
          exact ⟨_, _, rfl, Iff.rfl, .clear hmem rfl rfl⟩
      · rw [if_neg htext, if_neg fun hand => htext hand.1]
        exact ⟨_, _, rfl, Iff.rfl, .plain rfl (fun b hb => by cases hb)⟩
  | searchButtonClicked =>
      obtain rfl := Option.some.inj h
      exact activate_returns coder vc
  | tapTag sectionNumber item =>
      simp only [handlers] at h
      split at h
      · obtain rfl := Option.some.inj h
        -- the tap reads a tag, whose name becomes the search text
        rcases Option.isSome_iff_exists.1 htap with ⟨tag, htag⟩
        have htext : vc.textList[sectionNumber]?.bind (·[item]?) = some tag := htag
        unfold didSelectTag
        simp only [logged, htag, htext]
        exact activate_returns coder { vc with searchText := tag.name }
      · cases h
  | clearHistory =>
      obtain rfl := Option.some.inj h
      rcases PersistenceManager.updateWith_readable coder vc.defaults none .remove
        (fun hadd => by cases hadd) with ⟨update, hupdate, hread, -⟩
      unfold clearSearchHistory
      simp only [hupdate]
      by_cases hcompleted : none ∈ update.completed
      · rw [if_pos hcompleted]
        refine ⟨_, _, rfl, hread, .plain rfl ?_⟩
        intro b hb
        exact Or.inl ⟨_, List.mem_singleton.1 hb⟩
      · rw [if_neg hcompleted]
        exact ⟨_, _, rfl, hread, .plain rfl (fun b hb => by cases hb)⟩
  | hotAnswer result =>
      simp only [handlers] at h
      split at h
      · cases h
      · obtain rfl := Option.some.inj h
        refine ⟨_, _, rfl, Iff.rfl, .plain rfl ?_⟩
        intro b hb
        exact Or.inr (Or.inl ⟨_, List.mem_singleton.1 hb⟩)
  | searchAnswer id result =>
      simp only [handlers] at h
      split at h
      · rename_i hid
        obtain rfl := Option.some.inj h
        refine ⟨_, _, rfl, Iff.rfl, .answer id result hid ?_ rfl⟩
        simp only [views, List.filter_map]
        rfl
      · cases h

end Events

/-- Step lemma for the goal: calm events keep the views in order. -/
theorem InOrder.event {w w' : Views} {queue deferred : List Block} {goal : Goal}
    {actions : List Action} (h : InOrder w queue goal)
    (heffect : ViewEffect w w' deferred actions)
    (hcalm : ∀ action ∈ actions, action.Calm w queue) :
    InOrder w' (queue ++ deferred) (actions.foldl Goal.next goal) := by
  cases heffect with
  | plain hviews hdeferred =>
      subst hviews
      exact h.plain hdeferred
  | submit id hviews hdeferred =>
      subst hviews hdeferred
      rcases hcalm _ (List.mem_singleton_self _) with ⟨hsearches, hnone, hcount⟩
      rcases settled_blocks hnone with ⟨hblocks, hdismissals, hresults⟩
      rw [List.append_nil]
      refine h.submit id hsearches hdismissals hresults ?_
      rw [hblocks]
      -- one rebuild at most
      match queue.count Block.rebuild, hcount with
      | 0, _ => exact Or.inl rfl
      | 1, _ => exact Or.inr rfl
  | clear hremoved hviews hdeferred =>
      subst hviews hdeferred
      rcases hcalm _ (List.mem_singleton_self _) with ⟨hcallback, -⟩
      exact h.clear fun result hmem => by cases hcallback _ hmem
  | keep hmem hviews hdeferred =>
      subst hviews hdeferred
      rcases hcalm _ (List.mem_singleton_self _) with ⟨hcallback, htop⟩
      rcases htop hmem with ⟨hsearches, htop⟩
      rw [List.append_nil]
      exact h.keep hsearches (fun result hmem => by cases hcallback _ hmem) htop
  | answer id result hid hviews hdeferred =>
      subst hviews hdeferred
      refine h.answer hid ?_
      rintro results rfl
      exact hcalm _ (List.mem_singleton_self _)

/-! ## Blocks -/

theorem getTexts_views (coder : HistoryCoder Data) (vc : SearchVC Data) (onlyHistory : Bool) :
    views (getTexts coder vc onlyHistory).1 = views vc ∧
      (getTexts coder vc onlyHistory).1.defaults = vc.defaults ∧
      ∀ b ∈ (getTexts coder vc onlyHistory).2, Plain b := by
  unfold getTexts
  cases PersistenceManager.retrieveHistories coder vc.defaults with
  | error error => exact ⟨rfl, rfl, fun b hb => by cases hb⟩
  | ok histories =>
      cases onlyHistory with
      | false => exact ⟨rfl, rfl, fun b hb => by cases hb⟩
      | true => exact ⟨rfl, rfl, fun b hb => Or.inl ⟨_, List.mem_singleton.1 hb⟩⟩

/-- A callback on the views, and the rest of what it does. -/
theorem searchCallback_views (vc : SearchVC Data) (result : Except FLError (List SearchResult)) :
    views (vc.searchCallback result).1 = (views vc).callback result ∧
      (vc.searchCallback result).1.defaults = vc.defaults ∧
      (vc.searchCallback result).2 = callbackBlocks result := by
  cases result with
  | error error => exact ⟨rfl, rfl, rfl⟩
  | ok results =>
      unfold searchCallback Views.callback callbackBlocks
      cases results with
      | nil => exact ⟨rfl, rfl, rfl⟩
      | cons r rs => exact ⟨rfl, rfl, rfl⟩

section Blocks

variable [Unicode]

/-- Step lemma for blocks: none traps, the views stay in order, and only a
rebuild uncovers the tag view. -/
theorem InOrder.block (coder : HistoryCoder Data) {vc : SearchVC Data} {b : Block}
    {queue : List Block} {goal : Goal} (h : InOrder (views vc) (b :: queue) goal) :
    ∃ vc' deferred, (handlers coder).block vc b = .ok vc' deferred ∧
      vc'.defaults = vc.defaults ∧ InOrder (views vc') (queue ++ deferred) goal ∧
      (b ≠ .rebuild → (views vc).Covered → (views vc').Covered) := by
  cases b with
  | dismiss =>
      rcases h.dismiss with ⟨base, hbase, hshown, horder⟩
      have hbase' : vc.dismissBlock = some base := hbase
      refine ⟨{ vc with toFLDataLoadingVC := base }, [], ?_, rfl, ?_, fun _ hcovered => ?_⟩
      · simp only [handlers, hbase']
      · rw [List.append_nil]
        exact horder
      · show (shown base).getLast? ≠ some vc.collectionView
        rw [hshown]
        exact hcovered
  | applyResults snapshot =>
      rcases h.applyResults with ⟨hsource, horder⟩
      rcases Option.isSome_iff_exists.1 hsource with ⟨rows, hrows⟩
      have hrows' : vc.resultDataSource = some rows := hrows
      refine ⟨{ vc with resultDataSource := some snapshot }, [], ?_, rfl, ?_, fun _ hc => hc⟩
      · simp only [handlers, hrows']
      · rw [List.append_nil]
        exact horder
  | rebuild =>
      -- whether the history can be read does not matter for the views
      rcases getTexts_views coder vc.configureCollectionView true with
        ⟨hviews, hdefaults, hplain⟩
      refine ⟨_, _, rfl, hdefaults, ?_, fun hne => absurd rfl hne⟩
      have hviews' : views (SearchVC.rebuild coder vc).1 = (views vc).rebuild := hviews
      rw [hviews']
      exact h.rebuild.plain hplain
  | searchCallback result =>
      rcases searchCallback_views vc result with ⟨hviews, hdefaults, hdeferred⟩
      refine ⟨_, _, rfl, hdefaults, ?_, fun _ hcovered => ?_⟩
      · rw [hviews, hdeferred]
        exact h.callback
      · rw [hviews]
        exact hcovered.callback h.tags.1 result
  | applyTags snapshot =>
      refine ⟨_, _, rfl, rfl, ?_, fun _ hc => hc⟩
      rw [List.append_nil]
      exact h.ran (Or.inl ⟨snapshot, rfl⟩)
  | hotCallback result =>
      have hran := h.ran (Or.inr (Or.inl ⟨result, rfl⟩))
      cases result with
      | error error =>
          refine ⟨_, _, rfl, rfl, ?_, fun _ hc => hc⟩
          exact hran.plain fun b hb => by cases hb
      | ok names =>
          refine ⟨_, _, rfl, rfl, ?_, fun _ hc => hc⟩
          exact hran.plain fun b hb => Or.inl ⟨_, List.mem_singleton.1 hb⟩
  | present alert =>
      refine ⟨_, _, rfl, rfl, ?_, fun _ hc => hc⟩
      rw [List.append_nil]
      exact h.ran (Or.inr (Or.inr ⟨alert, rfl⟩))

end Blocks

/-! ## The tags after the text was cleared -/

/-- A rebuild is to come, or the snapshot to come shows `textList`. -/
def Refreshed (l : MainLoop (SearchVC Data) Block) : Prop :=
  .rebuild ∈ l.queue ∨
    (lastTags l.queue).getD l.state.dataSource = tagSnapshot l.state.hotSearch l.state.histories

theorem TagEffect.refreshed {vc vc' : SearchVC Data} {queue deferred : List Block}
    (heffect : TagEffect coder vc vc' deferred)
    (hstore : PersistenceManager.Readable coder vc.defaults)
    (h : Refreshed ⟨vc, queue, false⟩) : Refreshed ⟨vc', queue ++ deferred, false⟩ := by
  cases heffect with
  | same hot histories source hnone =>
      rcases h with hmem | hlast
      · exact Or.inl (List.mem_append_left _ hmem)
      · right
        show (lastTags (queue ++ deferred)).getD vc'.dataSource = _
        rw [lastTags_append_of_none hnone, source]
        exact hlast.trans (congrArg₂ tagSnapshot hot.symm histories.symm)
  | reset hot histories source hnone unreadable =>
      rcases unreadable with ⟨error, herror⟩
      rcases hstore with ⟨stored, hstored⟩
      rw [hstored] at herror
      cases herror
  | refresh hdeferred =>
      right
      show (lastTags (queue ++ deferred)).getD vc'.dataSource = _
      rw [hdeferred, lastTags_append_updateData]
      rfl

/-- A rebuild on a store that can be read refreshes the tags. -/
theorem rebuild_refreshed {vc : SearchVC Data} (queue : List Block)
    (hstore : PersistenceManager.Readable coder vc.defaults) :
    Refreshed ⟨(rebuild coder vc).1, queue ++ (rebuild coder vc).2, false⟩ := by
  rcases hstore with ⟨histories, hread⟩
  have hread' : PersistenceManager.retrieveHistories coder
      vc.configureCollectionView.defaults = .ok histories := hread
  right
  unfold rebuild getTexts
  rw [hread']
  show (lastTags (queue ++ updateData _)).getD _ = _
  rw [lastTags_append_updateData]
  rfl

/-- Step lemma: blocks keep the tags refreshed. -/
theorem Refreshed.block [Unicode] {vc vc' : SearchVC Data} {b : Block}
    {queue deferred : List Block} (hb : (handlers coder).block vc b = .ok vc' deferred)
    (hstore : PersistenceManager.Readable coder vc.defaults)
    (h : Refreshed ⟨vc, b :: queue, false⟩) : Refreshed ⟨vc', queue ++ deferred, false⟩ := by
  by_cases hrebuild : b = .rebuild
  · subst hrebuild
    rcases Outcome.ok.inj hb with ⟨rfl, rfl⟩
    exact rebuild_refreshed queue hstore
  have hmem : .rebuild ∈ b :: queue → .rebuild ∈ queue := by
    intro hmem
    rcases List.mem_cons.1 hmem with heq | hmem
    · exact absurd heq.symm hrebuild
    · exact hmem
  by_cases happly : ∃ snapshot, b = .applyTags snapshot
  · -- the snapshot to come, or the one applied last, stays the same
    rcases happly with ⟨snapshot, rfl⟩
    rcases Outcome.ok.inj hb with ⟨rfl, rfl⟩
    rw [List.append_nil]
    rcases h with hin | hlast
    · exact Or.inl (hmem hin)
    · right
      rw [show lastTags (.applyTags snapshot :: queue) = _ from lastTags_cons snapshot queue]
        at hlast
      exact hlast
  · rw [not_exists] at happly
    refine (block_tags happly hb).refreshed hstore ?_
    rcases h with hin | hlast
    · exact Or.inl (hmem hin)
    · right
      rw [show lastTags (b :: queue) = _ from lastTags_cons_of_ne happly queue] at hlast
      exact hlast

/-! ## Stores that cannot be read -/

/-- The store cannot be read: no tags have been loaded, and none are on their way. -/
structure Unloaded (coder : HistoryCoder Data) (l : MainLoop (SearchVC Data) Block) : Prop where
  unreadable : ¬ PersistenceManager.Readable coder l.state.defaults
  hot : l.state.hotSearch = []
  histories : l.state.histories = []
  source : l.state.dataSource = .empty
  requests : l.state.hotRequests = 0
  applies : ∀ snapshot, .applyTags snapshot ∉ l.queue
  callbacks : ∀ result, .hotCallback result ∉ l.queue

theorem Unloaded.refreshed {l : MainLoop (SearchVC Data) Block} (h : Unloaded coder l) :
    Refreshed l := by
  right
  have hlast : lastTags l.queue = none := by
    have hnone := @lastTags_append_of_none [] l.queue h.applies
    rwa [List.nil_append] at hnone
  rw [hlast, h.source, h.hot, h.histories]
  rfl

theorem unreadable_error {defaults : Option Data}
    (h : ¬ PersistenceManager.Readable coder defaults) :
    ∃ error, PersistenceManager.retrieveHistories coder defaults = .error error := by
  cases hread : PersistenceManager.retrieveHistories coder defaults with
  | ok histories => exact absurd ⟨histories, hread⟩ h
  | error error => exact ⟨error, rfl⟩

/-- A screen that touches neither the tags nor their requests. -/
theorem Unloaded.keep {vc vc' : SearchVC Data} {queue queue' : List Block}
    (h : Unloaded coder ⟨vc, queue, false⟩)
    (hdefaults : ¬ PersistenceManager.Readable coder vc'.defaults)
    (hhot : vc'.hotSearch = vc.hotSearch) (hhistories : vc'.histories = vc.histories)
    (hsource : vc'.dataSource = vc.dataSource ∨ vc'.dataSource = .empty)
    (hrequests : vc'.hotRequests = vc.hotRequests)
    (hqueue : ∀ b ∈ queue', b ∈ queue ∨
      (∀ snapshot, b ≠ .applyTags snapshot) ∧ ∀ result, b ≠ .hotCallback result) :
    Unloaded coder ⟨vc', queue', false⟩ := by
  refine ⟨hdefaults, hhot.trans h.hot, hhistories.trans h.histories, ?_,
    hrequests.trans h.requests, ?_, ?_⟩
  · rcases hsource with hsource | hsource
    · exact hsource.trans h.source
    · exact hsource
  · intro snapshot hmem
    rcases hqueue _ hmem with hold | ⟨hnew, -⟩
    · exact h.applies snapshot hold
    · exact hnew snapshot rfl
  · intro result hmem
    rcases hqueue _ hmem with hold | ⟨-, hnew⟩
    · exact h.callbacks result hold
    · exact hnew result rfl

section Unreadable

variable [Unicode]

/-- Searching writes the store only when it can be read. -/
theorem Activated.unreadable {vc vc' : SearchVC Data} {deferred : List Block}
    (h : Activated coder vc vc' deferred)
    (hstore : ¬ PersistenceManager.Readable coder vc.defaults) :
    ¬ PersistenceManager.Readable coder vc'.defaults ∧ vc'.hotSearch = vc.hotSearch ∧
      vc'.histories = vc.histories ∧ vc'.dataSource = vc.dataSource ∧
      vc'.hotRequests = vc.hotRequests ∧ deferred = [] := by
  cases h with
  | empty htext => exact ⟨hstore, rfl, rfl, rfl, rfl, rfl⟩
  | search update htext hupdate =>
      rcases PersistenceManager.updateWith_readable coder vc.defaults
        (some ⟨vc.nextUUID, vc.searchText⟩) .add (fun _ => rfl) with ⟨update', hupdate', hread, -⟩
      obtain rfl := Option.some.inj (hupdate.symm.trans hupdate')
      exact ⟨fun h' => hstore (hread.1 h'), rfl, rfl, rfl, rfl, rfl⟩

/-- Step lemma for events. -/
theorem Unloaded.event {vc vc' : SearchVC Data} {e : Event} {queue deferred : List Block}
    (he : (handlers coder).handle vc e = some (.ok vc' deferred))
    (h : Unloaded coder ⟨vc, queue, false⟩) : Unloaded coder ⟨vc', queue ++ deferred, false⟩ := by
  have hold : ∀ b ∈ queue ++ [], b ∈ queue ∨
      (∀ snapshot, b ≠ .applyTags snapshot) ∧ ∀ result, b ≠ .hotCallback result := by
    intro b hb
    rw [List.append_nil] at hb
    exact Or.inl hb
  have hnew : ∀ c : Block, (∀ snapshot, c ≠ .applyTags snapshot) →
      (∀ result, c ≠ .hotCallback result) → ∀ b ∈ queue ++ [c], b ∈ queue ∨
        (∀ snapshot, b ≠ .applyTags snapshot) ∧ ∀ result, b ≠ .hotCallback result := by
    intro c happly hcallback b hb
    rcases List.mem_append.1 hb with hb | hb
    · exact Or.inl hb
    · rw [List.mem_singleton.1 hb]
      exact Or.inr ⟨happly, hcallback⟩
  have hremoved := PersistenceManager.updateWith_readable coder vc.defaults none .remove
    (fun hadd => by cases hadd)
  cases handle_spec he with
  | clear hremoved =>
      exact h.keep h.unreadable rfl rfl (Or.inl rfl) rfl
        (hnew _ (fun _ => by simp) fun _ => by simp)
  | edit searchText => exact h.keep h.unreadable rfl rfl (Or.inl rfl) rfl hold
  | search _ _ hactivated =>
      rcases hactivated.unreadable h.unreadable with
        ⟨hstore, hhot, hhistories, hsource, hrequests, rfl⟩
      exact h.keep hstore hhot hhistories (Or.inl hsource) hrequests hold
  | tapTag sectionNumber item tag _ _ hactivated =>
      rcases hactivated.unreadable h.unreadable with
        ⟨hstore, hhot, hhistories, hsource, hrequests, rfl⟩
      exact h.keep hstore hhot hhistories (Or.inl hsource) hrequests hold
  | clearHistory update hupdate hcompleted =>
      rcases hremoved with ⟨update', hupdate', -, hreported⟩
      obtain rfl := Option.some.inj (hupdate.symm.trans hupdate')
      exact absurd (hreported hcompleted) h.unreadable
  | clearFailed update hupdate hcompleted =>
      rcases hremoved with ⟨update', hupdate', hread, -⟩
      obtain rfl := Option.some.inj (hupdate.symm.trans hupdate')
      exact h.keep (fun h' => h.unreadable (hread.1 h')) rfl rfl (Or.inl rfl) rfl hold
  | hotAnswer result n =>
      -- no request is outstanding
      have hzero : vc.hotRequests = 0 := h.requests
      simp only [handlers, hzero] at he
      cases he
  | searchAnswer id result =>
      exact h.keep h.unreadable rfl rfl (Or.inl rfl) rfl
        (hnew _ (fun _ => by simp) fun _ => by simp)

/-- Step lemma for blocks. -/
theorem Unloaded.block {vc vc' : SearchVC Data} {b : Block} {queue deferred : List Block}
    (hb : (handlers coder).block vc b = .ok vc' deferred)
    (h : Unloaded coder ⟨vc, b :: queue, false⟩) :
    Unloaded coder ⟨vc', queue ++ deferred, false⟩ := by
  have hold : ∀ c ∈ queue ++ [], c ∈ b :: queue ∨
      (∀ snapshot, c ≠ .applyTags snapshot) ∧ ∀ result, c ≠ .hotCallback result := by
    intro c hc
    rw [List.append_nil] at hc
    exact Or.inl (List.mem_cons_of_mem b hc)
  cases block_spec hb with
  | dismiss base hbase => exact h.keep h.unreadable rfl rfl (Or.inl rfl) rfl hold
  | applyTags snapshot => exact absurd List.mem_cons_self (h.applies snapshot)
  | applyResults snapshot => exact h.keep h.unreadable rfl rfl (Or.inl rfl) rfl hold
  | rebuild =>
      rcases unreadable_error h.unreadable with ⟨error, herror⟩
      have herror' : PersistenceManager.retrieveHistories coder
          vc.configureCollectionView.defaults = .error error := herror
      unfold rebuild getTexts
      rw [herror']
      exact h.keep h.unreadable rfl rfl (Or.inr rfl) rfl hold
  | hotCallback result => exact absurd List.mem_cons_self (h.callbacks result)
  | searchCallback result =>
      rcases searchCallback_views vc result with ⟨-, hdefaults, hdeferred⟩
      have hsame : (vc.searchCallback result).1.hotSearch = vc.hotSearch ∧
          (vc.searchCallback result).1.histories = vc.histories ∧
          (vc.searchCallback result).1.dataSource = vc.dataSource ∧
          (vc.searchCallback result).1.hotRequests = vc.hotRequests := by
        cases result with
        | error error => exact ⟨rfl, rfl, rfl, rfl⟩
        | ok results => cases results <;> exact ⟨rfl, rfl, rfl, rfl⟩
      refine h.keep (hdefaults ▸ h.unreadable) hsame.1 hsame.2.1 (Or.inl hsame.2.2.1) hsame.2.2.2 ?_
      intro c hc
      rcases List.mem_append.1 hc with hc | hc
      · exact Or.inl (List.mem_cons_of_mem _ hc)
      · right
        rw [hdeferred] at hc
        -- dismissals, rows and alerts
        cases result with
        | error error => simp [callbackBlocks] at hc; rcases hc with rfl | rfl <;> simp
        | ok results =>
            cases results with
            | nil => simp [callbackBlocks] at hc; subst hc; simp
            | cons r rs => simp [callbackBlocks] at hc; rcases hc with rfl | rfl <;> simp
  | present alert => exact h.keep h.unreadable rfl rfl (Or.inl rfl) rfl hold

end Unreadable

/-! ## Runs -/

/-- The invariant: the app runs, the store can be read or no tags are loaded, the views
are in order with the goal, and after the text was cleared the tags are refreshed or
covered. -/
structure Tracks (coder : HistoryCoder Data) (l : MainLoop (SearchVC Data) Block)
    (log : List Action) : Prop where
  running : l.trapped = false
  store : PersistenceManager.Readable coder l.state.defaults ∨ Unloaded coder l
  order : InOrder (views l.state) l.queue (Goal.after log)
  tags : Goal.after log = .start ∨ Refreshed l ∨ (views l.state).Covered

/-- The goal leaves its start only when a search is submitted, and then the tag
view is covered. -/
theorem ViewEffect.tags {vc vc' : SearchVC Data} {queue deferred : List Block} {goal : Goal}
    {actions : List Action} (heffect : ViewEffect (views vc) (views vc') deferred actions)
    (hid : vc.collectionView.id < vc.nextView)
    (h : goal = .start ∨ (views vc).Covered) :
    actions.foldl Goal.next goal = .start ∨ Refreshed ⟨vc', queue ++ deferred, false⟩ ∨
      (views vc').Covered := by
  cases heffect with
  | plain hviews hdeferred =>
      rw [hviews]
      rcases h with hgoal | hcovered
      · exact Or.inl hgoal
      · exact Or.inr (Or.inr hcovered)
  | submit id hviews hdeferred =>
      rw [hviews]
      exact Or.inr (Or.inr (Views.Covered.submit hid id))
  | clear hremoved hviews hdeferred =>
      right
      left
      left
      rw [hdeferred]
      exact List.mem_append_right _ (List.mem_singleton_self _)
  | keep hmem hviews hdeferred =>
      rw [hviews]
      rcases h with rfl | hcovered
      · exact Or.inl rfl
      · exact Or.inr (Or.inr hcovered)
  | answer id result hid hviews hdeferred =>
      rcases h with rfl | hcovered
      · exact Or.inl rfl
      · right
        right
        rw [hviews]
        exact hcovered

section Steps

variable [Unicode]

/-- Step lemma for the store and the tags of an event. -/
theorem Tracks.event {vc vc' : SearchVC Data} {queue deferred : List Block} {e : Event}
    {log : List Action} (h : Tracks coder ⟨vc, queue, false⟩ log)
    (he : (handlers coder).handle vc e = some (.ok vc' deferred))
    (hread : PersistenceManager.Readable coder vc'.defaults ↔
      PersistenceManager.Readable coder vc.defaults)
    (heffect : ViewEffect (views vc) (views vc') deferred (logged vc (.event e))) :
    (PersistenceManager.Readable coder vc'.defaults ∨
        Unloaded coder ⟨vc', queue ++ deferred, false⟩) ∧
      ((logged vc (.event e)).foldl Goal.next (Goal.after log) = .start ∨
        Refreshed ⟨vc', queue ++ deferred, false⟩ ∨ (views vc').Covered) := by
  rcases h.store with hstore | hunloaded
  · refine ⟨Or.inl (hread.2 hstore), ?_⟩
    -- what is refreshed stays so, whatever the event does to the views
    rcases h.tags with hgoal | hrefreshed | hcovered
    · exact heffect.tags h.order.tags.2 (Or.inl hgoal)
    · exact Or.inr (Or.inl ((handle_tags he).refreshed hstore hrefreshed))
    · exact heffect.tags h.order.tags.2 (Or.inr hcovered)
  · have hunloaded' := hunloaded.event he
    exact ⟨Or.inr hunloaded', Or.inr (Or.inl hunloaded'.refreshed)⟩

/-- Step lemma. -/
theorem Tracks.step {l l' : MainLoop (SearchVC Data) Block} {x : LoopStep Event}
    {log : List Action} (hstep : (machine coder).step l x = some l') (hcalm : Calm l x)
    (h : Tracks coder l log) : Tracks coder l' (log ++ logged l.state x) := by
  rcases l with ⟨vc, queue, trapped⟩
  obtain rfl : trapped = false := h.running
  rcases MainLoop.step_cases hstep with ⟨-, ⟨e, o, rfl, ho, rfl⟩ | ⟨b, rest, rfl, hq, rfl⟩⟩
  · rcases handle_returns ho hcalm.2 with ⟨vc', deferred, rfl, hread, heffect⟩
    have horder := h.order.event heffect hcalm.1
    rcases h.event ho hread heffect with ⟨hstore, htags⟩
    refine ⟨rfl, hstore, ?_, ?_⟩
    · rw [Goal.after_append]
      exact horder
    · rw [Goal.after_append]
      exact htags
  · obtain rfl : queue = b :: rest := hq
    rcases h.order.block coder with ⟨vc', deferred, hb, hdefaults, horder, hcovered⟩
    show Tracks coder (MainLoop.absorb _ rest ((handlers coder).block vc b)) (log ++ [])
    rw [hb, List.append_nil]
    rcases h.store with hstore | hunloaded
    · have hstore' : PersistenceManager.Readable coder vc'.defaults := hdefaults ▸ hstore
      refine ⟨rfl, Or.inl hstore', horder, ?_⟩
      -- only a rebuild uncovers the tag view, and it refreshes the tags
      rcases h.tags with hgoal | hrefreshed | hcovered'
      · exact Or.inl hgoal
      · exact Or.inr (Or.inl (hrefreshed.block hb hstore))
      · right
        by_cases hrebuild : b = .rebuild
        · left
          subst hrebuild
          rcases Outcome.ok.inj hb with ⟨rfl, rfl⟩
          exact rebuild_refreshed rest hstore
        · exact Or.inr (hcovered hrebuild hcovered')
    · have hunloaded' := hunloaded.block hb
      exact ⟨rfl, Or.inr hunloaded', horder, Or.inr (Or.inl hunloaded'.refreshed)⟩

end Steps

/-! ## The end of a run -/

/-- The content below some labels is the frontmost collection view. -/
theorem content_of_shown {vc : SearchVC Data} {below labels : List UIView} {v : UIView}
    (hshown : shown vc.toFLDataLoadingVC = below ++ v :: labels) (hv : v.kind = .content)
    (hlabels : ∀ u ∈ labels, (label u).isSome) :
    content vc = ⟨labels.reverse.filterMap label,
      if v = vc.collectionView then .tags vc.dataSource
      else if some v = vc.resultCollectionView then .rows (vc.resultDataSource.getD .empty)
      else .other⟩ := by
  have hnone : (label v).isSome = false := by
    unfold label
    rw [hv]
    rfl
  have hfront : (shown vc.toFLDataLoadingVC).reverse = labels.reverse ++ v :: below.reverse := by
    rw [hshown]
    simp
  have hlabels' : ∀ u ∈ labels.reverse, (label u).isSome := by
    intro u hu
    exact hlabels u (List.mem_reverse.1 hu)
  unfold content
  simp only [hfront]
  rw [List.takeWhile_append_of_pos hlabels', List.dropWhile_append_of_pos hlabels',
    List.takeWhile_cons_of_neg (by rw [hnone]; decide),
    List.dropWhile_cons_of_neg (by rw [hnone]; decide), List.append_nil]

/-- The frontmost view, when it is a collection view, is the content. -/
theorem content_of_top {vc : SearchVC Data} {v : UIView}
    (htop : (shown vc.toFLDataLoadingVC).getLast? = some v) (hv : v.kind = .content) :
    content vc = ⟨[],
      if v = vc.collectionView then .tags vc.dataSource
      else if some v = vc.resultCollectionView then .rows (vc.resultDataSource.getD .empty)
      else .other⟩ := by
  rcases List.getLast?_eq_some_iff.1 htop with ⟨below, hshown⟩
  exact content_of_shown hshown hv fun u hu => by cases hu

/-- The body below the labels is that of the result view, when the tag view is
gone. -/
theorem body_of_result {vc : SearchVC Data} {v : UIView} {rows : Snapshot Nat SearchResult}
    (hview : vc.resultCollectionView = some v) (hrows : vc.resultDataSource = some rows)
    (hmem : v ∈ shown vc.toFLDataLoadingVC)
    (hremoved : vc.collectionView ∉ shown vc.toFLDataLoadingVC) :
    (if v = vc.collectionView then Body.tags vc.dataSource
      else if some v = vc.resultCollectionView then .rows (vc.resultDataSource.getD .empty)
      else .other) = .rows rows := by
  have hne : v ≠ vc.collectionView := by
    rintro rfl
    exact hremoved hmem
  rw [if_neg hne, if_pos hview.symm, hrows]
  rfl

/-- With nothing on its way, views in order show what the goal asks for. -/
theorem InOrder.goal_shown {vc : SearchVC Data} {goal : Goal}
    (h : InOrder (views vc) [] goal) (hsearches : vc.searches = [])
    (htags : goal = .start ∨
      vc.dataSource = tagSnapshot vc.hotSearch vc.histories ∨ (views vc).Covered) :
    vc.NoOverlay ∧ goal.Shown vc := by
  have hnone : (views vc).searches = [] := congrArg (List.map Prod.fst) hsearches
  have hslot : (views vc).base.containerview = none := h.slot_free hnone rfl
  constructor
  · intro v hv hloading
    have hcontra := h.overlay v hv hloading
    rw [hslot] at hcontra
    cases hcontra
  have hphase := h.phase
  rw [hnone] at hphase
  generalize hblocks : viewBlocks [] = blocks at hphase
  cases hphase with
  | tags n goal hgoal top =>
      have hzero : n = 0 := by
        cases n with
        | zero => rfl
        | succ n => cases hblocks
      have htop := top hzero
      have hcontent : content vc = ⟨[], .tags vc.dataSource⟩ := by
        rw [content_of_top htop h.tags.1]
        exact congrArg (Content.mk []) (if_pos rfl)
      -- the tag view is on top, so the tags are not covered
      rcases hgoal with rfl | rfl
      · exact hcontent
      · rcases htags with hstart | hsource | hcovered
        · cases hstart
        · show content vc = _
          rw [hcontent, hsource]
        · exact absurd htop hcovered
  | failed error => trivial
  | refused error n top => cases n <;> cases hblocks
  | noResults v n below hview hrows hshown top hremoved =>
      -- the label lies over the result view
      rcases List.getLast?_eq_some_iff.1 top with ⟨below', rfl⟩
      rw [List.append_assoc] at hshown
      have hmem : v ∈ shown vc.toFLDataLoadingVC := by
        rw [show shown vc.toFLDataLoadingVC = _ from hshown]
        simp
      have hcontent := content_of_shown hshown (h.result v hview).1 (by simp [label])
      rw [body_of_result hview hrows hmem hremoved] at hcontent
      exact hcontent
  | results list hlist v hview hrows top hremoved =>
      have hmem : v ∈ shown vc.toFLDataLoadingVC := List.mem_of_getLast? top
      have hcontent := content_of_top top (h.result v hview).1
      rw [body_of_result hview hrows hmem hremoved] at hcontent
      cases list with
      | nil => exact absurd rfl hlist
      | cons r rs => exact hcontent
  | _ => cases hblocks

theorem Tracks.viewDidLoad (coder : HistoryCoder Data) (defaults : Option Data) :
    Tracks coder (viewDidLoad coder defaults) [] := by
  rcases getTexts_views coder (initial defaults).configureCollectionView false with
    ⟨hviews, hdefaults, -⟩
  have hqueue : (SearchVC.viewDidLoad coder defaults).queue = [] := by
    unfold SearchVC.viewDidLoad getTexts
    cases PersistenceManager.retrieveHistories coder
      (initial defaults).configureCollectionView.defaults <;> rfl
  have hviews' : views (SearchVC.viewDidLoad coder defaults).state =
      views (initial defaults).configureCollectionView := hviews
  refine ⟨rfl, ?_, ?_, Or.inl rfl⟩
  · show PersistenceManager.Readable coder (getTexts coder _ false).1.defaults ∨ _
    rw [hdefaults]
    by_cases hread : PersistenceManager.Readable coder defaults
    · exact Or.inl hread
    · right
      rcases unreadable_error hread with ⟨error, herror⟩
      have herror' : PersistenceManager.retrieveHistories coder
          (initial defaults).configureCollectionView.defaults = .error error := herror
      unfold SearchVC.viewDidLoad getTexts
      rw [herror']
      refine ⟨hread, rfl, rfl, rfl, rfl, ?_, ?_⟩
      · intro snapshot hmem
        cases hmem
      · intro result hmem
        cases hmem
  · rw [hviews', hqueue]
    refine ⟨?_, ⟨rfl, Nat.zero_lt_one⟩, (fun v hv => by cases hv), (fun v hv => by cases hv),
      ?_, rfl, (fun hnone => by cases hnone), ?_⟩
    · intro v hv
      rw [List.mem_singleton.1 hv]
      exact Nat.zero_lt_one
    · intro v hv hloading
      rw [List.mem_singleton.1 hv] at hloading
      cases hloading
    · exact .tags 0 .start (Or.inl rfl) fun _ => rfl

section Runs

variable [Unicode]

/-- In a run whose steps are calm, whenever every search has been answered and the
main queue is drained, the screen shows the results of the last submission, or the
tags if the text was cleared after it. -/
theorem shows_last_action {defaults : Option Data} {xs : List (LoopStep Event)}
    {l : MainLoop (SearchVC Data) Block}
    (hrun : (machine coder).run (viewDidLoad coder defaults) xs = some l)
    (hcalm : (machine coder).Along (fun l x _ => Calm l x) (viewDidLoad coder defaults) xs)
    (hquiet : Quiet l) :
    l.trapped = false ∧ l.state.NoOverlay ∧
      (Goal.after ((machine coder).trace (fun l x => logged l.state x)
        (viewDidLoad coder defaults) xs)).Shown l.state := by
  have htracks : Tracks coder l ([] ++ (machine coder).trace (fun l x => logged l.state x)
      (viewDidLoad coder defaults) xs) :=
    EventMachine.trace_invariant (fun _ _ _ _ hstep hx hinv => hinv.step hstep hx) hrun hcalm
      (Tracks.viewDidLoad coder defaults)
  rw [List.nil_append] at htracks
  have hqueue : l.queue = [] := hquiet.2
  have horder := htracks.order
  rw [hqueue] at horder
  refine ⟨htracks.running, horder.goal_shown hquiet.1 ?_⟩
  rcases htracks.tags with hgoal | hrefreshed | hcovered
  · exact Or.inl hgoal
  · right
    left
    -- nothing is on its way any more
    rcases hrefreshed with hmem | hlast
    · rw [hqueue] at hmem
      cases hmem
    · rw [hqueue] at hlast
      exact hlast
  · exact Or.inr (Or.inr hcovered)

end Runs

instance (w : Views) (queue : List Block) : (action : Action) → Decidable (action.Calm w queue)
  | .submitted _ => inferInstanceAs (Decidable (_ ∧ _ ∧ _))
  | .answered _ (.ok _) => inferInstanceAs (Decidable (∀ v ∈ _, _))
  | .answered _ (.error _) => inferInstanceAs (Decidable True)
  | .cleared => inferInstanceAs (Decidable (_ ∧ (_ → _ ∧ _)))

instance (l : MainLoop (SearchVC Data) Block) (x : LoopStep Event) : Decidable (Calm l x) :=
  inferInstanceAs (Decidable (_ ∧ _))

/-- A search is submitted, answered, and then the text is cleared. -/
def searchThenClear : List (LoopStep Event) :=
  [.event (.textDidChange "tea"), .event .searchButtonClicked,
    .event (.searchAnswer 0 (.ok [])), .block, .block, .event (.textDidChange ""), .block, .block]

section CodePoints

attribute [local instance] Unicode.codePoints

/-- After the search and the clearing the screen shows the history. -/
theorem search_then_clear_shows_history :
    ∃ l, (machine plainCoder).run (viewDidLoad plainCoder none) searchThenClear = some l ∧
      content l.state = ⟨[], .tags (tagSnapshot [] [⟨0, "tea"⟩])⟩ ∧
      l.trapped = false ∧ l.state.NoOverlay ∧
      (Goal.after ((machine plainCoder).trace (fun l x => logged l.state x)
        (viewDidLoad plainCoder none) searchThenClear)).Shown l.state :=
  ⟨_, rfl, rfl, shows_last_action rfl (by decide) ⟨rfl, rfl⟩⟩

/-- The text is cleared before the answer to the search arrives: the screen shows
the answer, and not the tags. -/
theorem late_answer_replaces_tags :
    ∃ l, (machine plainCoder).run (viewDidLoad plainCoder none)
        [.event (.textDidChange "tea"), .event .searchButtonClicked, .event (.textDidChange ""),
          .event (.searchAnswer 0 (.ok [])), .block, .block] = some l ∧
      Quiet l ∧ l.trapped = false ∧
      content l.state = ⟨["暂无搜索结果"], .rows .empty⟩ ∧
      Goal.after ((machine plainCoder).trace (fun l x => logged l.state x)
        (viewDidLoad plainCoder none)
        [.event (.textDidChange "tea"), .event .searchButtonClicked, .event (.textDidChange ""),
          .event (.searchAnswer 0 (.ok [])), .block, .block]) = .tags ∧
      ¬ Goal.tags.Shown l.state := by
  refine ⟨_, rfl, ⟨rfl, rfl⟩, rfl, rfl, rfl, ?_⟩
  intro hshown
  have hlabels := congrArg Content.labels hshown
  cases hlabels

end CodePoints

end FancyLife.SearchVC
