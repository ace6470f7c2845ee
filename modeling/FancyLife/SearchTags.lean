import FancyLife.SearchVC

/-! # The tag lists of SearchVC

What a step does to `textList`, to the applied snapshot and to the snapshots on
the main queue is said once, in `step_tags`. From it follow when a displayed tag
is the one that a tap reads, and when the submitted items are unique.
-/

namespace FancyLife.SearchVC

open Swift (Unicode)

variable {Data : Type} {coder : HistoryCoder Data}

/-! ## The snapshot -/

theorem tagSnapshot_identifiers (hotSearch histories : List SearchTag) :
    (tagSnapshot hotSearch histories).itemIdentifiers = hotSearch ++ histories := by
  unfold tagSnapshot
  cases hotSearch <;> cases histories <;> simp

/-- With hot searches, section numbers and identifiers agree. -/
theorem tagSnapshot_of_hot {hotSearch : List SearchTag} (h : hotSearch ≠ [])
    (histories : List SearchTag) :
    (tagSnapshot hotSearch histories).sections =
      (0, hotSearch) :: if histories.isEmpty then [] else [(1, histories)] := by
  unfold tagSnapshot
  cases hotSearch with
  | nil => exact absurd rfl h
  | cons tag tags => cases histories <;> rfl

/-- Without hot searches, the history is section number 0. -/
theorem tagSnapshot_of_no_hot (histories : List SearchTag) :
    (tagSnapshot [] histories).sections =
      if histories.isEmpty then [] else [(1, histories)] := by
  unfold tagSnapshot
  cases histories <;> rfl

/-! ## Steps -/

variable (coder)

/-- What a handler that applies no tags does to the tag lists: nothing, or it
submits them, or it sets a new data source but cannot read the history. -/
inductive TagEffect (vc vc' : SearchVC Data) (deferred : List Block) : Prop where
  | same (hot : vc'.hotSearch = vc.hotSearch) (histories : vc'.histories = vc.histories)
      (source : vc'.dataSource = vc.dataSource)
      (deferred : ∀ snapshot, .applyTags snapshot ∉ deferred)
  | reset (hot : vc'.hotSearch = vc.hotSearch) (histories : vc'.histories = vc.histories)
      (source : vc'.dataSource = .empty) (deferred : ∀ snapshot, .applyTags snapshot ∉ deferred)
      (unreadable : ∃ error,
        PersistenceManager.retrieveHistories coder vc.defaults = .error error)
  | refresh (deferred : deferred = vc'.updateData)

variable {coder}

section Steps

variable [Unicode]

theorem Activated.tags {vc vc' : SearchVC Data} {deferred : List Block}
    (h : Activated coder vc vc' deferred) : TagEffect coder vc vc' deferred := by
  cases h with
  | empty htext => exact .same rfl rfl rfl (by simp)
  | search update htext hupdate => exact .same rfl rfl rfl (by simp)

theorem handle_tags {vc vc' : SearchVC Data} {e : Event} {deferred : List Block}
    (h : (handlers coder).handle vc e = some (.ok vc' deferred)) :
    TagEffect coder vc vc' deferred := by
  cases handle_spec h with
  | clear hremoved =>
      -- the tags are reloaded by the block
      exact .same rfl rfl rfl (by simp)
  | edit searchText => exact .same rfl rfl rfl (by simp)
  | search _ _ hactivated => exact hactivated.tags
  | tapTag sectionNumber item tag _ _ hactivated =>
      -- the tap writes the search text and searches
      cases hactivated.tags with
      | same hot histories source deferred => exact .same hot histories source deferred
      | reset hot histories source deferred unreadable =>
          exact .reset hot histories source deferred unreadable
      | refresh deferred => exact .refresh deferred
  | clearHistory update hupdate hcompleted => exact .refresh rfl
  | clearFailed update hupdate hcompleted => exact .same rfl rfl rfl (by simp)
  | hotAnswer result n => exact .same rfl rfl rfl (by simp)
  | searchAnswer id result => exact .same rfl rfl rfl (by simp)

theorem block_tags {vc vc' : SearchVC Data} {b : Block} {deferred : List Block}
    (hb : ∀ snapshot, b ≠ .applyTags snapshot)
    (h : (handlers coder).block vc b = .ok vc' deferred) : TagEffect coder vc vc' deferred := by
  cases block_spec h with
  | dismiss base hbase => exact .same rfl rfl rfl (by simp)
  | applyTags snapshot => exact absurd rfl (hb snapshot)
  | applyResults snapshot => exact .same rfl rfl rfl (by simp)
  | rebuild =>
      unfold rebuild getTexts
      -- the history is read again into the new data source
      cases hread : PersistenceManager.retrieveHistories coder vc.configureCollectionView.defaults
      · exact .reset rfl rfl rfl (by simp) ⟨_, hread⟩
      · exact .refresh rfl
  | hotCallback result =>
      cases result with
      | ok names => exact .refresh rfl
      | error error => exact .same rfl rfl rfl (by simp [hotCallback])
  | searchCallback result =>
      cases result with
      | ok results =>
          unfold searchCallback
          simp only
          split <;> exact .same rfl rfl rfl (by simp)
      | error error => exact .same rfl rfl rfl (by simp [searchCallback])
  | present alert => exact .same rfl rfl rfl (by simp)

end Steps

/-! ## The snapshot to come -/

/-- The tag snapshot that the queue applies last. -/
def lastTags (queue : List Block) : Option (Snapshot Nat SearchTag) :=
  (queue.filterMap fun | .applyTags snapshot => some snapshot | _ => none).getLast?

theorem lastTags_append_of_none {queue deferred : List Block}
    (h : ∀ snapshot, .applyTags snapshot ∉ deferred) :
    lastTags (queue ++ deferred) = lastTags queue := by
  have hnil : (deferred.filterMap fun | .applyTags snapshot => some snapshot | _ => none) = [] := by
    rw [List.filterMap_eq_nil_iff]
    intro b hb
    cases b with
    | applyTags snapshot => exact absurd hb (h snapshot)
    | _ => rfl
  unfold lastTags
  rw [List.filterMap_append, hnil, List.append_nil]

@[simp] theorem lastTags_append_updateData (queue : List Block) (vc : SearchVC Data) :
    lastTags (queue ++ vc.updateData) = some (tagSnapshot vc.hotSearch vc.histories) := by
  simp [lastTags, updateData]

theorem lastTags_cons_of_ne {b : Block} (hb : ∀ snapshot, b ≠ .applyTags snapshot)
    (queue : List Block) : lastTags (b :: queue) = lastTags queue := by
  unfold lastTags
  cases b with
  | applyTags snapshot => exact absurd rfl (hb snapshot)
  | _ => rfl

theorem lastTags_cons (snapshot : Snapshot Nat SearchTag) (queue : List Block) :
    lastTags (.applyTags snapshot :: queue) = some ((lastTags queue).getD snapshot) := by
  simp [lastTags, List.getLast?_cons]

/-- What is submitted last shows `textList`; when nothing is submitted any more,
the applied snapshot shows `textList` or nothing. -/
structure TagsTracked (l : MainLoop (SearchVC Data) Block) : Prop where
  pending : ∀ snapshot, lastTags l.queue = some snapshot →
    snapshot = tagSnapshot l.state.hotSearch l.state.histories
  applied : lastTags l.queue = none →
    l.state.dataSource = tagSnapshot l.state.hotSearch l.state.histories ∨
      l.state.dataSource = .empty

theorem TagsTracked.effect {vc vc' : SearchVC Data} {queue deferred : List Block}
    (h : TagsTracked ⟨vc, queue, false⟩) (heffect : TagEffect coder vc vc' deferred) :
    TagsTracked ⟨vc', queue ++ deferred, false⟩ := by
  cases heffect with
  | same hot histories source hnone =>
      have hlast : lastTags (queue ++ deferred) = lastTags queue := lastTags_append_of_none hnone
      constructor
      · intro snapshot hs
        show snapshot = tagSnapshot vc'.hotSearch vc'.histories
        rw [hot, histories]
        exact h.pending snapshot (hlast ▸ hs)
      · intro hs
        show vc'.dataSource = tagSnapshot vc'.hotSearch vc'.histories ∨ vc'.dataSource = .empty
        rw [source, hot, histories]
        exact h.applied (hlast ▸ hs)
  | reset hot histories source hnone unreadable =>
      have hlast : lastTags (queue ++ deferred) = lastTags queue := lastTags_append_of_none hnone
      constructor
      · intro snapshot hs
        show snapshot = tagSnapshot vc'.hotSearch vc'.histories
        rw [hot, histories]
        exact h.pending snapshot (hlast ▸ hs)
      · intro _
        exact Or.inr source
  | refresh hdeferred =>
      have hlast : lastTags (queue ++ deferred) =
          some (tagSnapshot vc'.hotSearch vc'.histories) := by
        rw [hdeferred, lastTags_append_updateData]
      constructor
      · intro snapshot hs
        exact (Option.some.inj (hlast.symm.trans hs)).symm
      · intro hs
        rw [show lastTags (queue ++ deferred) = none from hs] at hlast
        cases hlast

/-- The oldest block applies a snapshot. -/
theorem TagsTracked.apply {vc : SearchVC Data} {queue : List Block}
    {snapshot : Snapshot Nat SearchTag}
    (h : TagsTracked ⟨vc, .applyTags snapshot :: queue, false⟩) :
    TagsTracked ⟨{ vc with dataSource := snapshot }, queue, false⟩ := by
  have hlast := lastTags_cons snapshot queue
  constructor
  · intro s hs
    apply h.pending
    show lastTags (.applyTags snapshot :: queue) = some s
    rw [hlast, show lastTags queue = some s from hs]
    rfl
  · intro hs
    left
    apply h.pending
    show lastTags (.applyTags snapshot :: queue) = some snapshot
    rw [hlast, show lastTags queue = none from hs]
    rfl

theorem TagsTracked.viewDidLoad (defaults : Option Data) :
    TagsTracked (viewDidLoad coder defaults) := by
  unfold SearchVC.viewDidLoad getTexts
  cases hread : PersistenceManager.retrieveHistories coder
      (initial defaults).configureCollectionView.defaults <;>
    exact ⟨(fun s hs => by cases hs), fun _ => Or.inr rfl⟩

section Runs

variable [Unicode]

/-- Step lemma. -/
theorem TagsTracked.step {l l' : MainLoop (SearchVC Data) Block} {x : LoopStep Event}
    (hstep : (machine coder).step l x = some l') (h : TagsTracked l) :
    l'.trapped = true ∨ TagsTracked l' := by
  rcases l with ⟨vc, queue, trapped⟩
  have htracked : TagsTracked ⟨vc, queue, false⟩ := ⟨h.pending, h.applied⟩
  rcases MainLoop.step_deferred hstep with ⟨e, vc', -, he, rfl⟩ | ⟨b, rest, vc', -, hq, hb, rfl⟩ |
    ⟨htrapped, -⟩
  · exact Or.inr (htracked.effect (handle_tags he))
  · right
    obtain rfl : queue = b :: rest := hq
    by_cases happly : ∃ snapshot, b = .applyTags snapshot
    · rcases happly with ⟨snapshot, rfl⟩
      rcases Outcome.ok.inj hb with ⟨rfl, hds⟩
      rw [← hds, List.append_nil]
      exact htracked.apply
    · rw [not_exists] at happly
      refine TagsTracked.effect ?_ (block_tags happly hb)
      -- the block that runs is not one that applies tags
      have hlast : lastTags (b :: rest) = lastTags rest := lastTags_cons_of_ne happly rest
      exact ⟨fun s hs => htracked.pending s (hlast.trans hs),
        fun hs => htracked.applied (hlast.trans hs)⟩
  · exact Or.inl htrapped

/-- In every reachable state the app has crashed or the tags are tracked. -/
theorem reachable_tracked {l : MainLoop (SearchVC Data) Block}
    (hl : (machine coder).Reachable l) : l.trapped = true ∨ TagsTracked l := by
  have hinit : ∀ s, (machine coder).init s → s.trapped = true ∨ TagsTracked s := by
    rintro s ⟨defaults, rfl⟩
    exact Or.inr (TagsTracked.viewDidLoad defaults)
  have hstep : ∀ s x s', (machine coder).step s x = some s' →
      (s.trapped = true ∨ TagsTracked s) → s'.trapped = true ∨ TagsTracked s' := by
    intro s x s' hs hinv
    rcases hinv with htrapped | htracked
    · -- after a crash nothing happens any more
      have hnone := (MainLoop.step_cases hs).1
      rw [htrapped] at hnone
      cases hnone
    · exact htracked.step hs
  exact EventMachine.reachable_invariant hinit hstep hl

end Runs

/-! ## Taps and headers -/

/-- Every displayed tag is the one that a tap at its index path reads, and its
header is the one for the list it comes from. -/
def TagsConsistent (vc : SearchVC Data) : Prop :=
  ∀ n i tag, vc.dataSource.item n i = some tag →
    vc.textList[n]?.bind (·[i]?) = some tag ∧
      headerOf n =
        some (if vc.dataSource.sectionIdentifier n = some 0 then hotHeader else historyHeader)

/-- With hot searches, index paths of the snapshot are those of `textList`. -/
theorem consistent_of_hot {vc : SearchVC Data} (hhot : vc.hotSearch ≠ [])
    (hsource : vc.dataSource = tagSnapshot vc.hotSearch vc.histories) : TagsConsistent vc := by
  intro n i tag hitem
  have hsections := tagSnapshot_of_hot hhot vc.histories
  unfold Snapshot.item Snapshot.items at hitem
  unfold Snapshot.sectionIdentifier
  rw [hsource, hsections] at hitem ⊢
  match n with
  | 0 => exact ⟨hitem, rfl⟩
  | 1 =>
      by_cases hempty : vc.histories.isEmpty
      · simp [hempty] at hitem
      · rw [if_neg hempty] at hitem ⊢
        exact ⟨hitem, rfl⟩
  | n + 2 =>
      by_cases hempty : vc.histories.isEmpty
      · simp [hempty] at hitem
      · simp [hempty] at hitem

/-- Without hot searches, a displayed history tag has no counterpart. -/
theorem not_consistent_of_no_hot {vc : SearchVC Data} (hhot : vc.hotSearch = [])
    (hsource : vc.dataSource = tagSnapshot vc.hotSearch vc.histories)
    (hshown : vc.dataSource.sections ≠ []) : ¬ TagsConsistent vc := by
  intro h
  rw [hhot] at hsource
  have hsections := tagSnapshot_of_no_hot vc.histories
  cases hhistories : vc.histories with
  | nil =>
      rw [hsource, hsections, hhistories] at hshown
      exact hshown rfl
  | cons tag tags =>
      -- the first history tag is displayed in section 0
      have hitem : vc.dataSource.item 0 0 = some tag := by
        unfold Snapshot.item Snapshot.items
        rw [hsource, hsections, hhistories]
        rfl
      have hread := (h 0 0 tag hitem).1
      simp only [textList, hhot] at hread
      cases hread

section Displayed

variable [Unicode]

/-- When the last snapshot has been applied, displayed tags, taps and headers agree
exactly when there are hot searches or nothing is displayed. -/
theorem tags_consistent_iff {l : MainLoop (SearchVC Data) Block}
    (hl : (machine coder).Reachable l) (hrunning : l.trapped = false)
    (happlied : ∀ snapshot, .applyTags snapshot ∉ l.queue) :
    TagsConsistent l.state ↔
      l.state.hotSearch ≠ [] ∨ l.state.dataSource.sections = [] := by
  have htracked : TagsTracked l := by
    rcases reachable_tracked hl with htrapped | htracked
    · rw [hrunning] at htrapped
      cases htrapped
    · exact htracked
  have hnone : lastTags l.queue = none := @lastTags_append_of_none [] l.queue happlied
  have hempty : l.state.dataSource = .empty → l.state.dataSource.sections = [] := by
    intro h
    rw [h]
    rfl
  constructor
  · intro h
    by_contra hcontra
    rw [not_or, not_not] at hcontra
    rcases htracked.applied hnone with hsource | hsource
    · exact not_consistent_of_no_hot hcontra.1 hsource hcontra.2 h
    · exact hcontra.2 (hempty hsource)
  · -- with hot searches the numbering agrees, and nothing displayed is consistent
    rintro (hhot | hsections)
    · rcases htracked.applied hnone with hsource | hsource
      · exact consistent_of_hot hhot hsource
      · intro n i tag hitem
        simp [hsource, Snapshot.item, Snapshot.items] at hitem
    · intro n i tag hitem
      simp [hsections, Snapshot.item, Snapshot.items] at hitem

end Displayed

/-- The screen with a stored history, after its hot searches have been answered and
the tags have been applied. -/
def answeredTags (hot : List String) : List (LoopStep Event) :=
  [.event (.hotAnswer (.ok hot)), .block, .block]

section CodePoints

attribute [local instance] Unicode.codePoints

/-- There are no hot searches: the history is displayed under the hot-search header,
and a tap on it crashes. -/
theorem history_without_hot_crashes :
    ∃ l, (machine plainCoder).Reachable l ∧ l.trapped = false ∧ l.queue = [] ∧
      l.state.dataSource.item 0 0 = some ⟨7, "noodles"⟩ ∧
      (∃ l', (machine plainCoder).step l (.event (.tapTag 0 0)) = some l' ∧ l'.trapped = true) ∧
      ¬ TagsConsistent l.state := by
  refine ⟨_, ⟨_, answeredTags [], ⟨some [⟨7, "noodles"⟩], rfl⟩, rfl⟩, rfl, rfl, rfl,
    ⟨_, rfl, rfl⟩, ?_⟩
  intro h
  have hread := (h 0 0 ⟨7, "noodles"⟩ rfl).1
  cases hread

/-- With one hot search, taps and headers agree with what is displayed. -/
theorem history_with_hot_consistent :
    ∃ l, (machine plainCoder).run (viewDidLoad plainCoder (some [⟨7, "noodles"⟩]))
        (answeredTags ["tea"]) = some l ∧ TagsConsistent l.state := by
  have hrun : ∃ l, (machine plainCoder).run (viewDidLoad plainCoder (some [⟨7, "noodles"⟩]))
      (answeredTags ["tea"]) = some l ∧ l.trapped = false ∧ l.queue = [] ∧
        l.state.hotSearch = [⟨0, "tea"⟩] := ⟨_, rfl, rfl, rfl, rfl⟩
  rcases hrun with ⟨l, hrun, hrunning, hqueue, hhot⟩
  refine ⟨l, hrun, (tags_consistent_iff ⟨_, _, ⟨_, rfl⟩, hrun⟩ hrunning ?_).2 (Or.inl ?_)⟩
  · intro snapshot hmem
    rw [hqueue] at hmem
    cases hmem
  · rw [hhot]
    exact List.cons_ne_nil _ _

end CodePoints

/-! ## Unique items -/

theorem hotTags_keys [Unicode] (names : List String) (nextUUID : UUID) :
    (hotTags names nextUUID).map SearchTag.key = names.map Unicode.nfd := by
  have hnames : (hotTags names nextUUID).map SearchTag.name = names := by
    unfold hotTags
    rw [List.map_map]
    exact List.zipIdx_map_fst nextUUID names
  have hkeys : (hotTags names nextUUID).map SearchTag.key =
      ((hotTags names nextUUID).map SearchTag.name).map Unicode.nfd := (List.map_map ..).symm
  rw [hkeys, hnames]

section Unique

variable [Unicode]

variable (coder)

/-- The stored history, the shown history and the hot searches are each free of
repetitions. -/
structure NamesDistinct (vc : SearchVC Data) : Prop where
  store : PersistenceManager.Proper coder vc.defaults
  histories : (vc.histories.map SearchTag.key).Nodup
  hot : (vc.hotSearch.map SearchTag.key).Nodup

variable {coder}

/-- Searching adds to the store alone. -/
theorem Activated.distinct {vc vc' : SearchVC Data} {deferred : List Block}
    (h : Activated coder vc vc' deferred) (hvc : NamesDistinct coder vc) :
    NamesDistinct coder vc' ∧ deferred = [] := by
  cases h with
  | empty htext => exact ⟨hvc, rfl⟩
  | search update htext hupdate =>
      have hstore := hvc.store.update (some ⟨vc.nextUUID, vc.searchText⟩) .add fun _ => rfl
      rcases hstore with ⟨update', hupdate', hproper, -⟩
      obtain rfl := Option.some.inj (hupdate.symm.trans hupdate')
      exact ⟨⟨hproper, hvc.histories, hvc.hot⟩, rfl⟩

theorem handle_distinct {vc vc' : SearchVC Data} {e : Event} {deferred : List Block}
    (h : (handlers coder).handle vc e = some (.ok vc' deferred))
    (he : ∀ names, e = .hotAnswer (.ok names) → (names.map Unicode.nfd).Nodup)
    (hvc : NamesDistinct coder vc) :
    NamesDistinct coder vc' ∧
      ∀ names, .hotCallback (.ok names) ∈ deferred → (names.map Unicode.nfd).Nodup := by
  cases handle_spec h with
  | clear hremoved => exact ⟨⟨hvc.store, hvc.histories, hvc.hot⟩, by simp⟩
  | edit searchText => exact ⟨⟨hvc.store, hvc.histories, hvc.hot⟩, by simp⟩
  | search _ _ hactivated =>
      rcases hactivated.distinct hvc with ⟨hvc', rfl⟩
      exact ⟨hvc', by simp⟩
  | tapTag sectionNumber item tag _ _ hactivated =>
      rcases hactivated.distinct ⟨hvc.store, hvc.histories, hvc.hot⟩ with ⟨hvc', rfl⟩
      exact ⟨hvc', by simp⟩
  | clearHistory update hupdate hcompleted =>
      have hsome := hvc.store.completed_remove
      rw [hupdate] at hsome
      obtain rfl := Option.some.inj hsome
      refine ⟨⟨hvc.store.save List.nodup_nil, List.nodup_nil, hvc.hot⟩, ?_⟩
      simp [updateData]
  | clearFailed update hupdate hcompleted =>
      -- a proper store reports the removal
      have hsome := hvc.store.completed_remove
      rw [hupdate] at hsome
      obtain rfl := Option.some.inj hsome
      exact absurd List.mem_cons_self hcompleted
  | hotAnswer result n =>
      refine ⟨⟨hvc.store, hvc.histories, hvc.hot⟩, ?_⟩
      intro names hnames
      apply he names
      rw [Block.hotCallback.inj (List.mem_singleton.1 hnames)]
  | searchAnswer id result => exact ⟨⟨hvc.store, hvc.histories, hvc.hot⟩, by simp⟩

theorem block_distinct {vc vc' : SearchVC Data} {b : Block} {deferred : List Block}
    (h : (handlers coder).block vc b = .ok vc' deferred)
    (hb : ∀ names, b = .hotCallback (.ok names) → (names.map Unicode.nfd).Nodup)
    (hvc : NamesDistinct coder vc) :
    NamesDistinct coder vc' ∧ ∀ names, .hotCallback (.ok names) ∉ deferred := by
  cases block_spec h with
  | dismiss base hbase => exact ⟨⟨hvc.store, hvc.histories, hvc.hot⟩, by simp⟩
  | applyTags snapshot => exact ⟨⟨hvc.store, hvc.histories, hvc.hot⟩, by simp⟩
  | applyResults snapshot => exact ⟨⟨hvc.store, hvc.histories, hvc.hot⟩, by simp⟩
  | rebuild =>
      rcases hvc.store with ⟨histories, hread, hnodup⟩
      have hread' : PersistenceManager.retrieveHistories coder
          vc.configureCollectionView.defaults = .ok histories := hread
      unfold rebuild getTexts
      rw [hread']
      -- the shown history becomes the stored one
      exact ⟨⟨⟨histories, hread, hnodup⟩, hnodup, hvc.hot⟩, by simp [updateData]⟩
  | hotCallback result =>
      cases result with
      | ok names =>
          refine ⟨⟨hvc.store, hvc.histories, ?_⟩, by simp [hotCallback, updateData]⟩
          show ((hotTags names vc.nextUUID).map SearchTag.key).Nodup
          rw [hotTags_keys]
          exact hb names rfl
      | error error => exact ⟨hvc, by simp [hotCallback]⟩
  | searchCallback result =>
      cases result with
      | ok results =>
          unfold searchCallback
          simp only
          split <;> exact ⟨⟨hvc.store, hvc.histories, hvc.hot⟩, by simp⟩
      | error error => exact ⟨hvc, by simp [searchCallback]⟩
  | present alert => exact ⟨hvc, by simp⟩

/-- The three lists stay free of repetitions, and so do the answers on their way. -/
structure NoRepetitions (coder : HistoryCoder Data) (l : MainLoop (SearchVC Data) Block) :
    Prop where
  state : NamesDistinct coder l.state
  callbacks : ∀ names, .hotCallback (.ok names) ∈ l.queue → (names.map Unicode.nfd).Nodup

/-- The hot searches of an answer have distinct names. -/
def HotDistinct (x : LoopStep Event) : Prop :=
  ∀ names, x = .event (.hotAnswer (.ok names)) → (names.map Unicode.nfd).Nodup

/-- Step lemma. -/
theorem NoRepetitions.step {l l' : MainLoop (SearchVC Data) Block} {x : LoopStep Event}
    (hstep : (machine coder).step l x = some l') (hx : HotDistinct x)
    (h : NoRepetitions coder l) : NoRepetitions coder l' := by
  rcases MainLoop.step_deferred hstep with ⟨e, vc', rfl, he, rfl⟩ |
    ⟨b, rest, vc', -, hq, hb, rfl⟩ | ⟨-, hstate, hqueue, -⟩
  · -- an event: a new answer, if any, is free of repetitions by assumption
    rcases handle_distinct he (fun names h => hx names (h ▸ rfl)) h.state with ⟨hstate, hds⟩
    refine ⟨hstate, ?_⟩
    intro names hnames
    rcases List.mem_append.1 hnames with hnames | hnames
    · exact h.callbacks names hnames
    · exact hds names hnames
  · -- a block: it schedules no further answer
    have hmem : b ∈ l.queue := by
      rw [hq]
      exact List.mem_cons_self
    rcases block_distinct hb (fun names hbn => h.callbacks names (hbn ▸ hmem)) h.state
      with ⟨hstate, hds⟩
    refine ⟨hstate, ?_⟩
    intro names hnames
    rcases List.mem_append.1 hnames with hnames | hnames
    · apply h.callbacks names
      rw [hq]
      exact List.mem_cons_of_mem b hnames
    · exact absurd hnames (hds names)
  · refine ⟨hstate ▸ h.state, ?_⟩
    intro names hnames
    rw [hqueue] at hnames
    cases hnames

theorem NoRepetitions.viewDidLoad {defaults : Option Data}
    (hstore : PersistenceManager.Proper coder defaults) :
    NoRepetitions coder (viewDidLoad coder defaults) := by
  rcases hstore with ⟨histories, hread, hnodup⟩
  have hread' : PersistenceManager.retrieveHistories coder
      (initial defaults).configureCollectionView.defaults = .ok histories := hread
  unfold SearchVC.viewDidLoad getTexts
  rw [hread']
  exact ⟨⟨⟨histories, hread, hnodup⟩, hnodup, List.nodup_nil⟩, by simp [MainLoop.start]⟩

variable (coder)

/-- The snapshots that a step submits have pairwise unequal items. -/
def SubmitsUnique (l : MainLoop (SearchVC Data) Block) (x : LoopStep Event)
    (_ : MainLoop (SearchVC Data) Block) : Prop :=
  ∀ snapshot, .applyTags snapshot ∈ MainLoop.deferredBy (handlers coder) l x →
    snapshot.itemIdentifiers.Pairwise fun a b => a.eq b = false

/-- When a step submits the tags, no tag of the history has the name of a hot
search. -/
def SubmitsDisjoint (l : MainLoop (SearchVC Data) Block) (x : LoopStep Event)
    (l' : MainLoop (SearchVC Data) Block) : Prop :=
  (∃ snapshot, .applyTags snapshot ∈ MainLoop.deferredBy (handlers coder) l x) →
    ∀ hot ∈ l'.state.hotSearch, ∀ tag ∈ l'.state.histories, hot.key ≠ tag.key

variable {coder}

/-- What a step submits is the snapshot of `textList`. -/
theorem submitted_eq {l l' : MainLoop (SearchVC Data) Block} {x : LoopStep Event}
    (hstep : (machine coder).step l x = some l') {snapshot : Snapshot Nat SearchTag}
    (hmem : .applyTags snapshot ∈ MainLoop.deferredBy (handlers coder) l x) :
    snapshot = tagSnapshot l'.state.hotSearch l'.state.histories := by
  have hof : ∀ vc vc' : SearchVC Data,
      TagEffect coder vc vc' (MainLoop.deferredBy (handlers coder) l x) →
        snapshot = tagSnapshot vc'.hotSearch vc'.histories := by
    intro vc vc' heffect
    cases heffect with
    | same _ _ _ hnone => exact absurd hmem (hnone snapshot)
    | reset _ _ _ hnone _ => exact absurd hmem (hnone snapshot)
    | refresh hdeferred =>
        rw [hdeferred] at hmem
        exact Block.applyTags.inj (List.mem_singleton.1 hmem)
  rcases MainLoop.step_deferred hstep with ⟨e, vc', -, he, rfl⟩ | ⟨b, rest, vc', -, -, hb, rfl⟩ |
    ⟨-, -, -, hnone⟩
  · exact hof _ _ (handle_tags he)
  · by_cases happly : ∃ s, b = .applyTags s
    · rcases happly with ⟨s, rfl⟩
      rw [← (Outcome.ok.inj hb).2] at hmem
      cases hmem
    · rw [not_exists] at happly
      exact hof _ _ (block_tags happly hb)
  · rw [hnone] at hmem
    cases hmem

theorem unique_iff_disjoint {vc : SearchVC Data} (hvc : NamesDistinct coder vc) :
    ((tagSnapshot vc.hotSearch vc.histories).itemIdentifiers.Pairwise fun a b =>
        a.eq b = false) ↔
      ∀ hot ∈ vc.hotSearch, ∀ tag ∈ vc.histories, hot.key ≠ tag.key := by
  have heq : ∀ a b : SearchTag, a.eq b = false ↔ a.key ≠ b.key := by
    intro a b
    rw [← Bool.not_eq_true, SearchTag.eq_iff]
  rw [tagSnapshot_identifiers]
  simp only [heq, List.pairwise_append]
  constructor
  · rintro ⟨-, -, hdisjoint⟩
    exact hdisjoint
  · intro hdisjoint
    exact ⟨List.pairwise_map.1 hvc.hot, List.pairwise_map.1 hvc.histories, hdisjoint⟩

/-- At every step, unique items are the same as disjoint lists. -/
theorem submits_unique_step {l l' : MainLoop (SearchVC Data) Block} {x : LoopStep Event}
    (hstep : (machine coder).step l x = some l') (hx : HotDistinct x)
    (h : NoRepetitions coder l) : SubmitsUnique coder l x l' ↔ SubmitsDisjoint coder l x l' := by
  have hiff := unique_iff_disjoint (h.step hstep hx).state
  constructor
  · rintro hunique ⟨snapshot, hmem⟩
    rw [← hiff, ← submitted_eq hstep hmem]
    exact hunique snapshot hmem
  · intro hdisjoint snapshot hmem
    rw [submitted_eq hstep hmem, hiff]
    exact hdisjoint ⟨snapshot, hmem⟩

/-- Along any run the submitted items are pairwise unequal exactly when, whenever
the tags are submitted, no tag of the history has the name of a hot search. -/
theorem submits_unique_iff {defaults : Option Data}
    (hstore : PersistenceManager.Proper coder defaults) {xs : List (LoopStep Event)}
    (hxs : ∀ x ∈ xs, HotDistinct x) :
    (machine coder).Along (SubmitsUnique coder) (viewDidLoad coder defaults) xs ↔
      (machine coder).Along (SubmitsDisjoint coder) (viewDidLoad coder defaults) xs := by
  have hnames := NoRepetitions.viewDidLoad hstore
  refine (EventMachine.along_of_forall hxs).congr ?_ ?_ hnames
  · intro l x l' hstep hx hinv
    exact submits_unique_step hstep hx hinv
  · intro l x l' hstep hx _ hinv
    exact hinv.step hstep hx

end Unique

section CodePoints

attribute [local instance] Unicode.codePoints

/-- A hot search is tapped, answered, and the text is cleared. -/
def tapHotSearch : List (LoopStep Event) :=
  answeredTags ["tea"] ++ [.event (.tapTag 0 0), .event (.searchAnswer 0 (.ok [])), .block,
    .block, .event (.textDidChange "")]

theorem tapHotSearch_distinct : ∀ x ∈ tapHotSearch ++ [.block], HotDistinct x := by
  intro x hx names hnames
  subst hnames
  simp [tapHotSearch, answeredTags] at hx
  rw [hx]
  decide

/-- The tapped hot search is now in the history, and the screen submits both. -/
theorem tapped_hot_search_repeats :
    PersistenceManager.Proper plainCoder none ∧
    (∀ x ∈ tapHotSearch ++ [.block], HotDistinct x) ∧
    (∃ l snapshot, (machine plainCoder).run (viewDidLoad plainCoder none)
        (tapHotSearch ++ [.block]) = some l ∧ l.queue = [.applyTags snapshot] ∧
      snapshot.itemIdentifiers.map SearchTag.name = ["tea", "tea"]) ∧
    ¬ (machine plainCoder).Along (SubmitsUnique plainCoder) (viewDidLoad plainCoder none)
      (tapHotSearch ++ [.block]) := by
  refine ⟨PersistenceManager.proper_none plainCoder, tapHotSearch_distinct,
    ⟨_, _, rfl, rfl, rfl⟩, ?_⟩
  intro h
  have hlast := h.of_append rfl
  have hunique := (hlast _ rfl).1 _ (List.mem_singleton_self _)
  revert hunique
  decide

/-- With no history the hot searches are unique. -/
theorem hot_searches_unique :
    (machine plainCoder).Along (SubmitsUnique plainCoder) (viewDidLoad plainCoder none)
      (answeredTags ["tea", "noodles"]) := by
  refine (submits_unique_iff (PersistenceManager.proper_none plainCoder) ?_).2 ?_
  · intro x hx names hnames
    subst hnames
    simp [answeredTags] at hx
    rw [hx]
    decide
  · -- no step of the run fills the history
    intro l₁ h₁
    obtain rfl := Option.some.inj h₁
    refine ⟨(fun _ hot _ tag htag => by cases htag), ?_⟩
    intro l₂ h₂
    obtain rfl := Option.some.inj h₂
    refine ⟨(fun _ hot _ tag htag => by cases htag), ?_⟩
    intro l₃ h₃
    obtain rfl := Option.some.inj h₃
    exact ⟨(fun _ hot _ tag htag => by cases htag), trivial⟩

end CodePoints

end FancyLife.SearchVC
