import FancyLife.DataLoading
import FancyLife.PersistenceManager
import FancyLife.Lib.Snapshot

/-! # SearchVC

The search screen: a collection view with the tags (hot searches and the search
history), which a successful search removes, and a new collection view for the
results of every search. Firestore calls its callbacks through the main queue,
so that an answer is a block like any other.
-/

namespace FancyLife

open Swift (Unicode)

/-- What a header of the tag lists is set to. -/
structure TagHeader where
  title : String
  hasButton : Bool
  hasDeleteButton : Bool
deriving DecidableEq

def hotHeader : TagHeader := { title := "热门搜索", hasButton := false, hasDeleteButton := false }

def historyHeader : TagHeader := { title := "搜索记录", hasButton := false, hasDeleteButton := true }

/-- The switch of `supplementaryViewProvider`, by section number. -/
def headerOf : Nat → Option TagHeader
  | 0 => some hotHeader
  | 1 => some historyHeader
  | _ => none

/-- The snapshot of `updateData(on:)`: empty lists get no section. -/
def tagSnapshot (hotSearch histories : List SearchTag) : Snapshot Nat SearchTag :=
  let snapshot : Snapshot Nat SearchTag := .empty
  let snapshot := if hotSearch.isEmpty then snapshot else snapshot.append 0 hotSearch
  if histories.isEmpty then snapshot else snapshot.append 1 histories

/-- The snapshot of `updateResultData(on:)`. -/
def resultSnapshot (results : List SearchResult) : Snapshot Nat SearchResult :=
  Snapshot.empty.append 0 results

/-- The state of the screen. `hotSearch` and `histories` are `textList[0]` and
`textList[1]`; `dataSource` and `resultDataSource` are the snapshots that the two
data sources have applied; `hotRequests` and `searches` are the requests that are
not answered yet, and `nextSearch` numbers the searches. -/
structure SearchVC (Data : Type) extends FLDataLoadingVC where
  defaults : Option Data
  hotSearch : List SearchTag
  histories : List SearchTag
  collectionView : UIView
  dataSource : Snapshot Nat SearchTag
  resultCollectionView : Option UIView
  resultDataSource : Option (Snapshot Nat SearchResult)
  resultList : List SearchResult
  searchText : String
  hotRequests : Nat
  searches : List (Nat × String)
  nextSearch : Nat
  nextUUID : UUID

namespace SearchVC

/-- What the user does, and the answers of Firestore. `searchAnswer` is the end
of the two queries of a search. -/
inductive Event where
  | textDidChange (searchText : String)
  | searchButtonClicked
  | tapTag (sectionNumber item : Nat)
  | clearHistory
  | hotAnswer (result : Except FLError (List String))
  | searchAnswer (id : Nat) (result : Except FLError (List SearchResult))

inductive Block where
  | dismiss
  | applyTags (snapshot : Snapshot Nat SearchTag)
  | applyResults (snapshot : Snapshot Nat SearchResult)
  | rebuild
  | hotCallback (result : Except FLError (List String))
  | searchCallback (result : Except FLError (List SearchResult))
  | present (alert : FLAlert)
deriving DecidableEq

variable {Data : Type} (coder : HistoryCoder Data)

/-- `textList`. -/
def textList (vc : SearchVC Data) : List (List SearchTag) := [vc.hotSearch, vc.histories]

/-- `updateData(on: self.textList)`. -/
def updateData (vc : SearchVC Data) : List Block :=
  [.applyTags (tagSnapshot vc.hotSearch vc.histories)]

/-- `configureCollectionView()`. -/
def configureCollectionView (vc : SearchVC Data) : SearchVC Data :=
  { vc with
    toFLDataLoadingVC := vc.addNew .content
    collectionView := ⟨.content, vc.nextView⟩ }

/-- `configureDataSource()`: a new data source for `collectionView`. -/
def configureDataSource (vc : SearchVC Data) : SearchVC Data := { vc with dataSource := .empty }

/-- `getTexts(onlyHistory:)`; the failure is only printed. -/
def getTexts (vc : SearchVC Data) (onlyHistory : Bool) : SearchVC Data × List Block :=
  match PersistenceManager.retrieveHistories coder vc.defaults with
  | .ok histories =>
      if onlyHistory then ({ vc with histories }, updateData { vc with histories })
      else ({ vc with histories, hotRequests := vc.hotRequests + 1 }, [])
  | .error _ => (vc, [])

/-- The block of `textDidChange`. -/
def rebuild (vc : SearchVC Data) : SearchVC Data × List Block :=
  let (vc, blocks) := getTexts coder vc.configureCollectionView true
  (vc.configureDataSource, blocks)

/-- `configureResultCollectionView()` and `configureResultDataSource()`. -/
def configureResults (vc : SearchVC Data) : SearchVC Data :=
  { vc with
    toFLDataLoadingVC := vc.addNew .content
    resultCollectionView := some ⟨.content, vc.nextView⟩
    resultDataSource := some .empty }

/-- `getSearchResults(keyword:)`, until it returns. -/
def getSearchResults (vc : SearchVC Data) (keyword : String) : SearchVC Data :=
  { vc with
    toFLDataLoadingVC := vc.showLoadingView
    searches := vc.searches ++ [(vc.nextSearch, keyword)]
    nextSearch := vc.nextSearch + 1 }

section Search

variable [Unicode]

/-- `activateSearchFunction()`. What `updateWith` reports is ignored. -/
def activateSearchFunction (vc : SearchVC Data) : Outcome (SearchVC Data) Block :=
  if vc.searchText = "" then .ok vc []
  else
    let filter := vc.searchText
    let vc := vc.configureResults.getSearchResults filter
    let searchTag : SearchTag := { id := vc.nextUUID, name := filter }
    match PersistenceManager.updateWith coder vc.defaults (some searchTag) .add with
    | some update => .ok { vc with defaults := update.defaults, nextUUID := vc.nextUUID + 1 } []
    | none => .trap

/-- `searchBar(_:textDidChange:)`. -/
def textDidChange (vc : SearchVC Data) (searchText : String) : Outcome (SearchVC Data) Block :=
  let vc := { vc with searchText }
  if searchText = "" ∧ vc.collectionView ∉ vc.subviews then
    .ok { vc with subviews := [] } [.rebuild]
  else .ok vc []

/-- `collectionView(_:didSelectItemAt:)` on the tags; `none` in the source is an
index out of range. -/
def didSelectTag (vc : SearchVC Data) (sectionNumber item : Nat) : Outcome (SearchVC Data) Block :=
  match vc.textList[sectionNumber]?.bind (·[item]?) with
  | some tag => activateSearchFunction coder { vc with searchText := tag.name }
  | none => .trap

/-- `clearSearchHistory()`. -/
def clearSearchHistory (vc : SearchVC Data) : Outcome (SearchVC Data) Block :=
  match PersistenceManager.updateWith coder vc.defaults none .remove with
  | some update =>
      let vc := { vc with defaults := update.defaults }
      if none ∈ update.completed then
        .ok { vc with histories := [] } (updateData { vc with histories := [] })
      else .ok vc []
  | none => .trap

/-- `getHotSearch`: the tags of the documents' names. -/
def hotTags (names : List String) (nextUUID : UUID) : List SearchTag :=
  (names.zipIdx nextUUID).map fun (name, id) => { id, name }

/-- The closure of `getHotSearch` in `getTexts`. -/
def hotCallback (vc : SearchVC Data) : Except FLError (List String) → SearchVC Data × List Block
  | .ok names =>
      let vc := { vc with
        hotSearch := hotTags names vc.nextUUID
        nextUUID := vc.nextUUID + names.length }
      (vc, vc.updateData)
  | .error _ => (vc, [])

/-- The closure of `getSearchResults`. -/
def searchCallback (vc : SearchVC Data) :
    Except FLError (List SearchResult) → SearchVC Data × List Block
  | .ok results =>
      let vc := { vc with
        toFLDataLoadingVC := vc.remove vc.collectionView
        resultList := results }
      if results.isEmpty then
        ({ vc with toFLDataLoadingVC := vc.showEmptyStateView "暂无搜索结果" }, [.dismiss])
      else (vc, [.dismiss, .applyResults (resultSnapshot results)])
  | .error error =>
      (vc, [.dismiss,
        .present { title := "错误！", message := error.rawValue, buttonTitle := "确认" }])

/-- The handlers of the screen. A tap hits a tag that is displayed. -/
def handlers : Handlers (SearchVC Data) Event Block where
  handle vc
    | .textDidChange searchText => some (vc.textDidChange searchText)
    | .searchButtonClicked => some (activateSearchFunction coder vc)
    | .tapTag sectionNumber item =>
        if (vc.dataSource.item sectionNumber item).isSome then
          some (didSelectTag coder vc sectionNumber item)
        else none
    | .clearHistory => some (clearSearchHistory coder vc)
    | .hotAnswer result =>
        match vc.hotRequests with
        | 0 => none
        | n + 1 => some (.ok { vc with hotRequests := n } [.hotCallback result])
    | .searchAnswer id result =>
        if id ∈ vc.searches.map Prod.fst then
          some (.ok { vc with searches := vc.searches.filter (·.1 ≠ id) } [.searchCallback result])
        else none
  block vc
    | .dismiss =>
        match vc.dismissBlock with
        | some base => .ok { vc with toFLDataLoadingVC := base } []
        | none => .trap
    | .applyTags snapshot => .ok { vc with dataSource := snapshot } []
    | .applyResults snapshot =>
        match vc.resultDataSource with
        | some _ => .ok { vc with resultDataSource := some snapshot } []
        | none => .trap
    | .rebuild => .ok (rebuild coder vc).1 (rebuild coder vc).2
    | .hotCallback result => .ok (vc.hotCallback result).1 (vc.hotCallback result).2
    | .searchCallback result => .ok (vc.searchCallback result).1 (vc.searchCallback result).2
    | .present _ => .ok vc []

/-- A screen before `viewDidLoad`. -/
def initial (defaults : Option Data) : SearchVC Data where
  subviews := []
  containerview := none
  nextView := 0
  defaults := defaults
  hotSearch := []
  histories := []
  collectionView := ⟨.content, 0⟩
  dataSource := .empty
  resultCollectionView := none
  resultDataSource := none
  resultList := []
  searchText := ""
  hotRequests := 0
  searches := []
  nextSearch := 0
  nextUUID := 0

/-- `viewDidLoad()`. -/
def viewDidLoad (defaults : Option Data) : MainLoop (SearchVC Data) Block :=
  let (vc, blocks) := getTexts coder (initial defaults).configureCollectionView false
  .start vc.configureDataSource blocks

/-- The screen, opened on any store. -/
def machine : EventMachine (MainLoop (SearchVC Data) Block) (LoopStep Event) :=
  MainLoop.machine (handlers coder) fun l => ∃ defaults, l = viewDidLoad coder defaults

/-- A store that keeps the history as it is. -/
def plainCoder : HistoryCoder (List SearchTag) where
  encode := some
  decode := some
  decode_encode _ _ h := h.symm

/-! ## What a handler does -/

/-- What `activateSearchFunction` does: nothing for an empty text. -/
inductive Activated (vc : SearchVC Data) : SearchVC Data → List Block → Prop where
  | empty (htext : vc.searchText = "") : Activated vc vc []
  | search (update : HistoryUpdate Data) (htext : vc.searchText ≠ "")
      (hupdate : PersistenceManager.updateWith coder vc.defaults
        (some ⟨vc.nextUUID, vc.searchText⟩) .add = some update) :
      Activated vc
        { vc.configureResults.getSearchResults vc.searchText with
          defaults := update.defaults, nextUUID := vc.nextUUID + 1 } []

/-- What the handler of an event does, when it does not trap. -/
inductive Handled (vc : SearchVC Data) : Event → SearchVC Data → List Block → Prop where
  | clear (hremoved : vc.collectionView ∉ vc.subviews) :
      Handled vc (.textDidChange "") { vc with searchText := "", subviews := [] } [.rebuild]
  | edit (searchText : String) : Handled vc (.textDidChange searchText) { vc with searchText } []
  | search (vc' : SearchVC Data) (deferred : List Block)
      (hactivated : Activated coder vc vc' deferred) :
      Handled vc .searchButtonClicked vc' deferred
  | tapTag (sectionNumber item : Nat) (tag : SearchTag) (vc' : SearchVC Data)
      (deferred : List Block)
      (hactivated : Activated coder { vc with searchText := tag.name } vc' deferred) :
      Handled vc (.tapTag sectionNumber item) vc' deferred
  | clearHistory (update : HistoryUpdate Data)
      (hupdate : PersistenceManager.updateWith coder vc.defaults none .remove = some update)
      (hcompleted : none ∈ update.completed) :
      Handled vc .clearHistory { vc with defaults := update.defaults, histories := [] }
        (updateData { vc with histories := [] })
  | clearFailed (update : HistoryUpdate Data)
      (hupdate : PersistenceManager.updateWith coder vc.defaults none .remove = some update)
      (hcompleted : none ∉ update.completed) :
      Handled vc .clearHistory { vc with defaults := update.defaults } []
  | hotAnswer (result : Except FLError (List String)) (n : Nat) :
      Handled vc (.hotAnswer result) { vc with hotRequests := n } [.hotCallback result]
  | searchAnswer (id : Nat) (result : Except FLError (List SearchResult)) :
      Handled vc (.searchAnswer id result)
        { vc with searches := vc.searches.filter (·.1 ≠ id) } [.searchCallback result]

variable {coder}

theorem activate_spec {vc vc' : SearchVC Data} {deferred : List Block}
    (h : activateSearchFunction coder vc = .ok vc' deferred) :
    Activated coder vc vc' deferred := by
  unfold activateSearchFunction at h
  split at h
  · rename_i htext
    rcases Outcome.ok.inj h with ⟨rfl, rfl⟩
    exact .empty htext
  · rename_i htext
    simp only at h
    split at h
    · rename_i update hupdate
      rcases Outcome.ok.inj h with ⟨rfl, rfl⟩
      exact .search update htext hupdate
    · cases h

/-- Inversion of a handler. -/
theorem handle_spec {vc vc' : SearchVC Data} {e : Event} {deferred : List Block}
    (h : (handlers coder).handle vc e = some (.ok vc' deferred)) :
    Handled coder vc e vc' deferred := by
  cases e with
  | textDidChange searchText =>
      have h' := Option.some.inj h
      unfold textDidChange at h'
      simp only at h'
      split at h'
      · rename_i hclear
        rcases Outcome.ok.inj h' with ⟨rfl, rfl⟩
        rcases hclear with ⟨rfl, hremoved⟩
        exact .clear hremoved
      · rcases Outcome.ok.inj h' with ⟨rfl, rfl⟩
        exact .edit searchText
  | searchButtonClicked => exact .search vc' deferred (activate_spec (Option.some.inj h))
  | tapTag sectionNumber item =>
      simp only [handlers] at h
      split at h
      · have h' := Option.some.inj h
        unfold didSelectTag at h'
        split at h'
        · rename_i tag _
          exact .tapTag sectionNumber item tag vc' deferred (activate_spec h')
        · cases h'
      · cases h
  | clearHistory =>
      have h' := Option.some.inj h
      unfold clearSearchHistory at h'
      split at h'
      · rename_i update hupdate
        simp only at h'
        split at h' <;> rename_i hcompleted <;> rcases Outcome.ok.inj h' with ⟨rfl, rfl⟩
        · exact .clearHistory update hupdate hcompleted
        · exact .clearFailed update hupdate hcompleted
      · cases h'
  | hotAnswer result =>
      simp only [handlers] at h
      split at h
      · cases h
      · rename_i n _
        rcases Outcome.ok.inj (Option.some.inj h) with ⟨rfl, rfl⟩
        exact .hotAnswer result n
  | searchAnswer id result =>
      simp only [handlers] at h
      split at h
      · rcases Outcome.ok.inj (Option.some.inj h) with ⟨rfl, rfl⟩
        exact .searchAnswer id result
      · cases h

/-- What a block does, when it does not trap. -/
inductive Ran (coder : HistoryCoder Data) (vc : SearchVC Data) :
    Block → SearchVC Data → List Block → Prop where
  | dismiss (base : FLDataLoadingVC) (hbase : vc.dismissBlock = some base) :
      Ran coder vc .dismiss { vc with toFLDataLoadingVC := base } []
  | applyTags (snapshot : Snapshot Nat SearchTag) :
      Ran coder vc (.applyTags snapshot) { vc with dataSource := snapshot } []
  | applyResults (snapshot : Snapshot Nat SearchResult) :
      Ran coder vc (.applyResults snapshot) { vc with resultDataSource := some snapshot } []
  | rebuild : Ran coder vc .rebuild (SearchVC.rebuild coder vc).1 (SearchVC.rebuild coder vc).2
  | hotCallback (result : Except FLError (List String)) :
      Ran coder vc (.hotCallback result) (vc.hotCallback result).1 (vc.hotCallback result).2
  | searchCallback (result : Except FLError (List SearchResult)) :
      Ran coder vc (.searchCallback result) (vc.searchCallback result).1
        (vc.searchCallback result).2
  | present (alert : FLAlert) : Ran coder vc (.present alert) vc []

/-- Inversion of a block. -/
theorem block_spec {vc vc' : SearchVC Data} {b : Block} {deferred : List Block}
    (h : (handlers coder).block vc b = .ok vc' deferred) : Ran coder vc b vc' deferred := by
  cases b with
  | dismiss =>
      simp only [handlers] at h
      split at h
      · rename_i base hbase
        rcases Outcome.ok.inj h with ⟨rfl, rfl⟩
        exact .dismiss base hbase
      · cases h
  | applyResults snapshot =>
      simp only [handlers] at h
      split at h
      · rcases Outcome.ok.inj h with ⟨rfl, rfl⟩
        exact .applyResults snapshot
      · cases h
  | applyTags | rebuild | hotCallback | searchCallback | present =>
      rcases Outcome.ok.inj h with ⟨rfl, rfl⟩
      constructor

end Search

end SearchVC

end FancyLife
