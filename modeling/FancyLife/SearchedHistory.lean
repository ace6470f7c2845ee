import FancyLife.SearchResults
import FancyLife.SearchHistory

/-! # The history of the search screen

What the screen does to its store is a run of history updates: an addition for
every search that is submitted, and a removal for every tap on the bin. The
history section is read from the store when the tag view is built again.
-/

namespace FancyLife.SearchVC

open PersistenceManager (retrieveHistories updateWith)
open SearchHistory (Operation newestFirst addedSinceRemove)
open Swift (Unicode)

variable {Data : Type} {coder : HistoryCoder Data}

/-- The update that a search for `text` makes. -/
def additions (vc : SearchVC Data) (text : String) : List Operation :=
  if text = "" then [] else [.add ⟨vc.nextUUID, text⟩]

/-- The calls of `updateWith` in a step. -/
def updates (vc : SearchVC Data) : LoopStep Event → List Operation
  | .event .searchButtonClicked => additions vc vc.searchText
  | .event (.tapTag sectionNumber item) =>
      match vc.tagAt sectionNumber item with
      | some tag => additions vc tag.name
      | none => []
  | .event .clearHistory => [.remove none]
  | _ => []

/-- The texts are read from the store, which stays as it is. -/
theorem getTexts_defaults (vc : SearchVC Data) (onlyHistory : Bool) :
    (getTexts coder vc onlyHistory).1.defaults = vc.defaults := by
  unfold getTexts
  cases retrieveHistories coder vc.defaults with
  | error error => rfl
  | ok histories =>
      cases onlyHistory with
      | false => rfl
      | true => rfl

/-- What the screen does when it builds its tag view again. -/
theorem rebuild_histories {vc : SearchVC Data} {histories : List SearchTag}
    (hread : retrieveHistories coder vc.defaults = .ok histories) :
    (rebuild coder vc).1.histories = histories ∧
      (rebuild coder vc).2 = [.applyTags (tagSnapshot vc.hotSearch histories)] := by
  have hread' : retrieveHistories coder vc.configureCollectionView.defaults = .ok histories := hread
  unfold rebuild getTexts
  rw [hread']
  exact ⟨rfl, rfl⟩

section Stores

variable [Unicode]

/-- The store goes from `vc` to `vc'` by the updates. -/
def Stores (coder : HistoryCoder Data) (vc : SearchVC Data) (ops : List Operation)
    (vc' : SearchVC Data) : Prop :=
  (SearchHistory.machine coder).run vc.defaults ops = some vc'.defaults

/-- A step that leaves the store alone. -/
theorem Stores.same {vc vc' : SearchVC Data} (h : vc'.defaults = vc.defaults) :
    Stores coder vc [] vc' := congrArg some h.symm

/-- One update. -/
theorem Stores.update {vc vc' : SearchVC Data} {op : Operation} {update : HistoryUpdate Data}
    (hperform : op.perform coder vc.defaults = some update)
    (h : vc'.defaults = update.defaults) : Stores coder vc [op] vc' := by
  have hstep : (SearchHistory.machine coder).step vc.defaults op = some update.defaults :=
    congrArg (Option.map HistoryUpdate.defaults) hperform
  show (SearchHistory.machine coder).run vc.defaults [op] = some vc'.defaults
  rw [EventMachine.run_cons, hstep, h]
  rfl

/-- A search adds its text, and never traps. -/
theorem activate_stores (vc : SearchVC Data) :
    ∃ vc' deferred, activateSearchFunction coder vc = .ok vc' deferred ∧
      Stores coder vc (additions vc vc.searchText) vc' := by
  unfold activateSearchFunction additions
  by_cases htext : vc.searchText = ""
  · rw [if_pos htext, if_pos htext]
    exact ⟨vc, [], rfl, .same rfl⟩
  · rw [if_neg htext, if_neg htext]
    rcases PersistenceManager.updateWith_readable coder vc.defaults
      (some ⟨vc.nextUUID, vc.searchText⟩) .add (fun _ => rfl) with ⟨update, hupdate, -⟩
    have hsearch : updateWith coder
        (vc.configureResults.getSearchResults vc.searchText).defaults
        (some ⟨(vc.configureResults.getSearchResults vc.searchText).nextUUID, vc.searchText⟩) .add =
          some update := hupdate
    refine ⟨{ vc.configureResults.getSearchResults vc.searchText with
      defaults := update.defaults, nextUUID := vc.nextUUID + 1 }, [], ?_,
      Stores.update hupdate rfl⟩
    simp only [hsearch]
    rfl

/-- A removal is made by the bin, and never traps. -/
theorem clear_stores (vc : SearchVC Data) :
    ∃ vc' deferred, clearSearchHistory coder vc = .ok vc' deferred ∧
      Stores coder vc [.remove none] vc' := by
  rcases PersistenceManager.updateWith_readable coder vc.defaults none .remove
    (fun hadd => by cases hadd) with ⟨update, hupdate, -⟩
  unfold clearSearchHistory
  rw [hupdate]
  by_cases hcompleted : none ∈ update.completed
  · simp only [if_pos hcompleted]
    exact ⟨_, _, rfl, Stores.update hupdate rfl⟩
  · simp only [if_neg hcompleted]
    exact ⟨_, _, rfl, Stores.update hupdate rfl⟩

/-- Step lemma for an event. -/
theorem event_stores {vc : SearchVC Data} {e : Event} {o : Outcome (SearchVC Data) Block}
    (ho : (handlers coder).handle vc e = some o) :
    (∃ vc' deferred, o = .ok vc' deferred ∧ Stores coder vc (updates vc (.event e)) vc') ∨
      (o = .trap ∧ updates vc (.event e) = []) := by
  cases e with
  | textDidChange searchText =>
      left
      have ho' : textDidChange vc searchText = o := Option.some.inj ho
      rw [← ho']
      unfold textDidChange
      by_cases hclear : searchText = "" ∧ vc.collectionView ∉ vc.subviews
      · simp only [if_pos hclear]
        exact ⟨_, _, rfl, .same rfl⟩
      · simp only [if_neg hclear]
        exact ⟨_, _, rfl, .same rfl⟩
  | searchButtonClicked =>
      left
      rw [← Option.some.inj ho]
      exact activate_stores vc
  | tapTag sectionNumber item =>
      have ho' : (if (vc.dataSource.item sectionNumber item).isSome then
          some (didSelectTag coder vc sectionNumber item) else none) = some o := ho
      by_cases hshown : (vc.dataSource.item sectionNumber item).isSome = true
      · rw [if_pos hshown] at ho'
        rw [← Option.some.inj ho']
        cases htag : vc.tagAt sectionNumber item with
        | none =>
            right
            have hread : vc.textList[sectionNumber]?.bind (·[item]?) = none := htag
            simp only [didSelectTag, updates, hread, htag, and_self]
        | some tag =>
            left
            have hread : vc.textList[sectionNumber]?.bind (·[item]?) = some tag := htag
            simp only [didSelectTag, updates, hread, htag]
            exact @activate_stores _ coder _ { vc with searchText := tag.name }
      · rw [if_neg hshown] at ho'
        cases ho'
  | clearHistory =>
      left
      rw [← Option.some.inj ho]
      exact clear_stores vc
  | hotAnswer result =>
      left
      rcases vc with ⟨base, defaults, hotSearch, histories, collectionView, dataSource,
        resultCollectionView, resultDataSource, resultList, searchText, hotRequests, searches,
        nextSearch, nextUUID⟩
      cases hotRequests with
      | zero => cases ho
      | succ n =>
          rw [← Option.some.inj ho]
          exact ⟨_, _, rfl, .same rfl⟩
  | searchAnswer id result =>
      left
      by_cases hid : id ∈ vc.searches.map Prod.fst
      · have hsome : (handlers coder).handle vc (.searchAnswer id result) =
            some (.ok { vc with searches := vc.searches.filter (·.1 ≠ id) }
              [.searchCallback result]) := if_pos hid
        rw [hsome] at ho
        rw [← Option.some.inj ho]
        exact ⟨_, _, rfl, .same rfl⟩
      · have hnone : (handlers coder).handle vc (.searchAnswer id result) = none := if_neg hid
        rw [hnone] at ho
        cases ho

/-- No block touches the store. -/
theorem block_defaults {vc vc' : SearchVC Data} {b : Block} {deferred : List Block}
    (ho : (handlers coder).block vc b = .ok vc' deferred) : vc'.defaults = vc.defaults := by
  have hran := block_spec ho
  cases hran with
  | dismiss base hbase => rfl
  | applyTags snapshot => rfl
  | applyResults snapshot => rfl
  | rebuild => exact @getTexts_defaults _ coder vc.configureCollectionView true
  | hotCallback result =>
      cases result with
      | ok names => rfl
      | error error => rfl
  | searchCallback result =>
      cases result with
      | error error => rfl
      | ok results =>
          cases results with
          | nil => rfl
          | cons r rest => rfl
  | present alert => rfl

/-- Step lemma: a step makes its updates, also when it traps. -/
theorem step_stores {l l' : MainLoop (SearchVC Data) Block} {x : LoopStep Event}
    (hstep : (machine coder).step l x = some l') :
    Stores coder l.state (updates l.state x) l'.state := by
  rcases MainLoop.step_cases hstep with ⟨-, ⟨e, o, rfl, ho, rfl⟩ | ⟨b, rest, rfl, hq, rfl⟩⟩
  · rcases event_stores ho with ⟨vc', deferred, rfl, hstores⟩ | ⟨rfl, hnone⟩
    · exact hstores
    · rw [hnone]
      exact .same rfl
  · cases ho : (handlers coder).block l.state b with
    | ok vc' deferred => exact .same (block_defaults ho)
    | trap => exact .same rfl

/-- Run lemma: the store of the screen is the one that its updates lead to. -/
theorem run_stores {defaults : Option Data} {xs : List (LoopStep Event)}
    {l : MainLoop (SearchVC Data) Block}
    (hrun : (machine coder).run (viewDidLoad coder defaults) xs = some l) :
    (SearchHistory.machine coder).run defaults
        ((machine coder).trace (fun l x => updates l.state x) (viewDidLoad coder defaults) xs) =
      some l.state.defaults := by
  have hfirst : (viewDidLoad coder defaults).state.defaults = defaults :=
    @getTexts_defaults _ coder (initial defaults).configureCollectionView false
  have hstart : (SearchHistory.machine coder).run defaults [] =
      some (viewDidLoad coder defaults).state.defaults := congrArg some hfirst.symm
  have halong : (machine coder).Along (fun _ _ _ => True) (viewDidLoad coder defaults) xs :=
    EventMachine.along_of_forall fun _ _ => trivial
  refine @EventMachine.trace_invariant _ _ _ (machine coder) (fun l x => updates l.state x)
    (fun _ _ _ => True)
    (fun l log => (SearchHistory.machine coder).run defaults log = some l.state.defaults)
    ?_ _ _ _ [] hrun halong hstart
  intro l x l' log hstep _ hlog
  rw [EventMachine.run_append, hlog]
  exact step_stores hstep

/-- The tags of the searches that a run on an empty store has submitted since its last
tap on the bin: the first of each text, newest first. -/
def searched (coder : HistoryCoder Data) (xs : List (LoopStep Event)) : List SearchTag :=
  newestFirst (addedSinceRemove
    ((machine coder).trace (fun l x => updates l.state x) (viewDidLoad coder none) xs))

/-- In every run of the search screen from an empty store, whatever answers and
blocks come between, the stored history is that of the searches submitted since the
last tap on the bin. When the tag view is built again, its history section lists just
these. -/
theorem searched_texts_stored
    (hround : ∀ histories, (coder.encode histories).bind coder.decode = some histories)
    {xs : List (LoopStep Event)} {l : MainLoop (SearchVC Data) Block}
    (hrun : (machine coder).run (viewDidLoad coder none) xs = some l) :
    retrieveHistories coder l.state.defaults = .ok (searched coder xs) ∧
      ∀ l', l.queue.head? = some .rebuild → (machine coder).step l .block = some l' →
        l'.state.histories = searched coder xs ∧
          .applyTags (tagSnapshot l.state.hotSearch (searched coder xs)) ∈ l'.queue := by
  have hread : retrieveHistories coder l.state.defaults = .ok (searched coder xs) := by
    rcases SearchHistory.run_spec hround ((machine coder).trace (fun l x => updates l.state x)
      (viewDidLoad coder none) xs) with ⟨defaults, hdefaults, hread⟩
    rw [run_stores hrun, Option.some.injEq] at hdefaults
    rw [hdefaults]
    exact hread
  refine ⟨hread, ?_⟩
  intro l' hhead hstep
  have hstep' : MainLoop.step (handlers coder) l .block = some l' := hstep
  rcases MainLoop.step_cases hstep' with ⟨-, ⟨e, o, hx, -⟩ | ⟨b, rest, -, hq, rfl⟩⟩
  · cases hx
  · rw [hq, List.head?_cons, Option.some.injEq] at hhead
    subst hhead
    rcases rebuild_histories hread with ⟨hhistories, hblocks⟩
    refine ⟨hhistories, ?_⟩
    show _ ∈ rest ++ (rebuild coder l.state).2
    rw [hblocks]
    exact List.mem_append_right _ (List.mem_singleton_self _)

end Stores

/-- Tea, bread, the bin, rice, and rice again, with answers in between; then the text
is cleared. -/
def searchAndClear : List (LoopStep Event) :=
  [.event (.textDidChange "茶"), .event .searchButtonClicked, .event (.textDidChange "面包"),
    .event .searchButtonClicked, .event .clearHistory, .event (.textDidChange "米饭"),
    .event .searchButtonClicked, .event (.searchAnswer 2 (.error .invalidData)),
    .event .searchButtonClicked, .block, .block, .event (.textDidChange "")]

section CodePoints

attribute [local instance] Unicode.codePoints

/-- Only the rice is left, with the tag of its first search. -/
theorem rice_stored :
    ∃ l, (machine plainCoder).run (viewDidLoad plainCoder none) searchAndClear = some l ∧
      retrieveHistories plainCoder l.state.defaults = .ok [⟨2, "米饭"⟩] := by
  have hrun : ∃ l, (machine plainCoder).run (viewDidLoad plainCoder none) searchAndClear =
      some l := ⟨_, rfl⟩
  rcases hrun with ⟨l, hrun⟩
  exact ⟨l, hrun, (searched_texts_stored (fun _ => rfl) hrun).1⟩

end CodePoints

end FancyLife.SearchVC
