import FancyLife.SearchedHistory

/-! # The search pages over one history

Every tap on a search bar opens a new SearchVC, and all of them keep their history
under the same key. A page reads it when it is opened and when it builds its tag view
again, and what other pages add or throw away in between it does not see.
-/

namespace FancyLife

/-- The pages that were opened so far, with the store and the source of `UUID()` that
they share. A page that was closed takes no more steps. -/
structure SearchPages (Data : Type) where
  defaults : Option Data
  nextUUID : UUID
  pages : List (MainLoop (SearchVC Data) SearchVC.Block)

namespace SearchPages

open PersistenceManager (retrieveHistories updateWith)
open SearchHistory (Operation newestFirst addedSinceRemove)
open Swift (Unicode)

variable {Data : Type} {coder : HistoryCoder Data}

/-- A page is opened, or one of the pages takes a step. -/
inductive Event where
  | pushSearchVC
  | page (index : Nat) (x : LoopStep SearchVC.Event)

/-- The page, with what the pages share as it is now. -/
def resume (s : SearchPages Data) (page : MainLoop (SearchVC Data) SearchVC.Block) :
    MainLoop (SearchVC Data) SearchVC.Block :=
  { page with state := { page.state with defaults := s.defaults, nextUUID := s.nextUUID } }

/-- Reading the texts. -/
theorem getTexts_histories (vc : SearchVC Data) (onlyHistory : Bool) {histories : List SearchTag}
    (hread : retrieveHistories coder vc.defaults = .ok histories) :
    (SearchVC.getTexts coder vc onlyHistory).1.histories = histories := by
  unfold SearchVC.getTexts
  rw [hread]
  cases onlyHistory with
  | false => rfl
  | true => rfl

/-- What a block lists is what the page listed before, or what the store holds. -/
theorem ran_histories {vc vc' : SearchVC Data} {b : SearchVC.Block}
    {deferred : List SearchVC.Block} {histories : List SearchTag}
    (hread : retrieveHistories coder vc.defaults = .ok histories)
    (h : SearchVC.Ran coder vc b vc' deferred) :
    vc'.histories = vc.histories ∨
      retrieveHistories coder vc'.defaults = .ok vc'.histories := by
  cases h with
  | dismiss base hbase => exact Or.inl rfl
  | applyTags snapshot => exact Or.inl rfl
  | applyResults snapshot => exact Or.inl rfl
  | rebuild =>
      right
      have hlisted : (SearchVC.rebuild coder vc).1.histories = histories :=
        getTexts_histories vc.configureCollectionView true hread
      have hkept : (SearchVC.rebuild coder vc).1.defaults = vc.defaults :=
        @SearchVC.getTexts_defaults _ coder vc.configureCollectionView true
      rw [hlisted, hkept]
      exact hread
  | hotCallback result =>
      left
      cases result with
      | ok names => rfl
      | error error => rfl
  | searchCallback result =>
      left
      cases result with
      | error error => rfl
      | ok results =>
          cases results with
          | nil => rfl
          | cons r rest => rfl
  | present alert => exact Or.inl rfl

section Pages

variable [Unicode]

/-- A crash of one page ends them all. -/
def step (coder : HistoryCoder Data) (s : SearchPages Data) : Event → Option (SearchPages Data)
  | .pushSearchVC =>
      if s.pages.any MainLoop.trapped then none
      else some { s with pages := s.pages ++ [SearchVC.viewDidLoad coder s.defaults] }
  | .page index x =>
      if s.pages.any MainLoop.trapped then none
      else do
        let page ← s.pages[index]?
        let page ← (SearchVC.machine coder).step (s.resume page) x
        return {
          defaults := page.state.defaults, nextUUID := page.state.nextUUID
          pages := s.pages.set index page }

/-- The app on a new device. -/
def installed : SearchPages Data := ⟨none, 0, []⟩

def machine (coder : HistoryCoder Data) : EventMachine (SearchPages Data) Event where
  init s := s = installed
  step := step coder

/-- The calls of `updateWith` in a step, on whichever page it is. -/
def updates (s : SearchPages Data) : Event → List Operation
  | .pushSearchVC => []
  | .page index x =>
      match s.pages[index]? with
      | some page => SearchVC.updates (s.resume page).state x
      | none => []

/-- Inversion of a step. -/
theorem step_cases {s s' : SearchPages Data} {e : Event} (h : (machine coder).step s e = some s') :
    (e = .pushSearchVC ∧
      s' = { s with pages := s.pages ++ [SearchVC.viewDidLoad coder s.defaults] }) ∨
    ∃ index x page page', e = .page index x ∧ s.pages[index]? = some page ∧
      (SearchVC.machine coder).step (s.resume page) x = some page' ∧
      s' = {
        defaults := page'.state.defaults, nextUUID := page'.state.nextUUID
        pages := s.pages.set index page' } := by
  have h' : step coder s e = some s' := h
  cases e with
  | pushSearchVC =>
      left
      unfold step at h'
      by_cases htrapped : s.pages.any MainLoop.trapped = true
      · simp only [if_pos htrapped] at h'
        cases h'
      · simp only [if_neg htrapped, Option.some.injEq] at h'
        exact ⟨rfl, h'.symm⟩
  | page index x =>
      right
      unfold step at h'
      by_cases htrapped : s.pages.any MainLoop.trapped = true
      · simp only [if_pos htrapped] at h'
        cases h'
      · simp only [if_neg htrapped] at h'
        rcases Option.bind_eq_some_iff.1 h' with ⟨page, hpage, h'⟩
        rcases Option.bind_eq_some_iff.1 h' with ⟨page', hpage', h'⟩
        exact ⟨index, x, page, page', rfl, hpage, hpage', (Option.some.inj h').symm⟩

/-! ## The store -/

/-- Step lemma: the store goes through the updates of the page that takes the step. -/
theorem step_stores {s s' : SearchPages Data} {e : Event}
    (h : (machine coder).step s e = some s') :
    (SearchHistory.machine coder).run s.defaults (updates s e) = some s'.defaults := by
  rcases step_cases h with ⟨rfl, rfl⟩ | ⟨index, x, page, page', rfl, hpage, hstep, rfl⟩
  · rfl
  · unfold updates
    simp only [hpage]
    exact SearchVC.step_stores hstep

/-- The tags of the searches that all pages have submitted since the last tap on a bin:
the first of each text, newest first. -/
def searched (coder : HistoryCoder Data) (es : List Event) : List SearchTag :=
  newestFirst (addedSinceRemove ((machine coder).trace updates installed es))

/-- A run with one more step. -/
theorem run_append_step {s s' : SearchPages Data} {e : Event} {es : List Event}
    (hrun : (machine coder).run installed es = some s)
    (hstep : (machine coder).step s e = some s') :
    (machine coder).run installed (es ++ [e]) = some s' := by
  rw [EventMachine.run_append, hrun, Option.bind_some]
  exact (machine coder).run_cons_eq_some.2 ⟨s', hstep, rfl⟩

/-- Run lemma for the store. -/
theorem run_stores {s : SearchPages Data} {es : List Event}
    (hrun : (machine coder).run installed es = some s) :
    (SearchHistory.machine coder).run none ((machine coder).trace updates installed es) =
      some s.defaults := by
  have halong : (machine coder).Along (fun _ _ _ => True) installed es :=
    EventMachine.along_of_forall fun _ _ => trivial
  refine @EventMachine.trace_invariant _ _ _ (machine coder) updates (fun _ _ _ => True)
    (fun s log => (SearchHistory.machine coder).run none log = some s.defaults)
    ?_ _ _ _ [] hrun halong rfl
  intro s e s' log hstep _ hlog
  rw [EventMachine.run_append, hlog]
  exact step_stores hstep

section RoundTrip

variable (hround : ∀ histories, (coder.encode histories).bind coder.decode = some histories)

include hround

theorem stored_eq_searched {s : SearchPages Data} {es : List Event}
    (hrun : (machine coder).run installed es = some s) :
    retrieveHistories coder s.defaults = .ok (searched coder es) := by
  rcases SearchHistory.run_spec hround ((machine coder).trace updates installed es) with
    ⟨defaults, hdefaults, hread⟩
  rw [run_stores hrun, Option.some.injEq] at hdefaults
  rw [hdefaults]
  exact hread

/-! ## The lists on the pages -/

/-- What a handler lists is what it listed before, or what the store then holds. -/
theorem handled_histories {vc vc' : SearchVC Data} {e : SearchVC.Event}
    {deferred : List SearchVC.Block} {histories : List SearchTag}
    (hread : retrieveHistories coder vc.defaults = .ok histories)
    (h : SearchVC.Handled coder vc e vc' deferred) :
    vc'.histories = vc.histories ∨
      retrieveHistories coder vc'.defaults = .ok vc'.histories := by
  cases h with
  | clear hremoved => exact Or.inl rfl
  | edit searchText => exact Or.inl rfl
  | search vc' deferred hactivated =>
      cases hactivated with
      | empty htext => exact Or.inl rfl
      | search update htext hupdate => exact Or.inl rfl
  | tapTag sectionNumber item tag vc' deferred hactivated =>
      cases hactivated with
      | empty htext => exact Or.inl rfl
      | search update htext hupdate => exact Or.inl rfl
  | clearHistory update hupdate hcompleted =>
      right
      unfold updateWith at hupdate
      rw [hread] at hupdate
      rw [← Option.some.inj hupdate]
      exact SearchHistory.retrieve_save (hround []) vc.defaults
  | clearFailed update hupdate hcompleted => exact Or.inl rfl
  | hotAnswer result n => exact Or.inl rfl
  | searchAnswer id result => exact Or.inl rfl

/-- Step lemma for one page. -/
theorem page_histories {l l' : MainLoop (SearchVC Data) SearchVC.Block}
    {x : LoopStep SearchVC.Event} {histories : List SearchTag}
    (hread : retrieveHistories coder l.state.defaults = .ok histories)
    (hstep : (SearchVC.machine coder).step l x = some l') :
    l'.state.histories = l.state.histories ∨
      retrieveHistories coder l'.state.defaults = .ok l'.state.histories := by
  rcases MainLoop.step_deferred hstep with
    ⟨e, vc', rfl, ho, rfl⟩ | ⟨b, rest, vc', rfl, -, ho, rfl⟩ | ⟨-, hstate, -, -⟩
  · exact handled_histories hround hread (SearchVC.handle_spec ho)
  · exact ran_histories hread (SearchVC.block_spec ho)
  · rw [hstate]
    exact Or.inl rfl

/-- Every page lists the history as it was at some moment of `es`. -/
def Listed (coder : HistoryCoder Data) (s : SearchPages Data) (es : List Event) : Prop :=
  ∀ page ∈ s.pages, ∃ past, past <+: es ∧ page.state.histories = searched coder past

omit hround in
/-- The moments of a run are moments of a longer one. -/
theorem Listed.later {s : SearchPages Data} {es : List Event} (h : Listed coder s es) (e : Event)
    {page : MainLoop (SearchVC Data) SearchVC.Block} (hpage : page ∈ s.pages) :
    ∃ past, past <+: es ++ [e] ∧ page.state.histories = searched coder past := by
  rcases h page hpage with ⟨past, hpast, hhistories⟩
  exact ⟨past, hpast.trans (List.prefix_append es [e]), hhistories⟩

/-- What a page lists when it is opened. -/
theorem opened_histories {s : SearchPages Data} {es : List Event}
    (hrun : (machine coder).run installed es = some s) :
    (SearchVC.viewDidLoad coder s.defaults).state.histories = searched coder es := by
  have hread : retrieveHistories coder
      (SearchVC.initial s.defaults).configureCollectionView.defaults = .ok (searched coder es) :=
    stored_eq_searched hround hrun
  exact getTexts_histories _ false hread

/-- Step lemma for the lists. -/
theorem Listed.step {s s' : SearchPages Data} {e : Event} {es : List Event}
    (hrun : (machine coder).run installed es = some s)
    (hstep : (machine coder).step s e = some s') (h : Listed coder s es) :
    Listed coder s' (es ++ [e]) := by
  have hrun' := run_append_step hrun hstep
  intro other hother
  rcases step_cases hstep with ⟨rfl, rfl⟩ | ⟨index, x, page, page', rfl, hpage, hpage', rfl⟩
  · rcases List.mem_append.1 hother with hmem | hmem
    · exact h.later _ hmem
    · -- the new page
      rw [List.mem_singleton.1 hmem]
      exact ⟨es, List.prefix_append es _, opened_histories hround hrun⟩
  · rcases List.mem_or_eq_of_mem_set hother with hmem | rfl
    · exact h.later _ hmem
    · have hread : retrieveHistories coder (s.resume page).state.defaults =
          .ok (searched coder es) := stored_eq_searched hround hrun
      rcases page_histories hround hread hpage' with hsame | hread'
      · have hkept : (s.resume page).state.histories = page.state.histories := rfl
        rw [hsame, hkept]
        exact h.later _ (List.mem_of_getElem? hpage)
      · have hstored := stored_eq_searched hround hrun'
        refine ⟨_, List.prefix_refl _, ?_⟩
        exact Except.ok.inj (hread'.symm.trans hstored)

end RoundTrip

end Pages

section CodePoints

attribute [local instance] Unicode.codePoints

end CodePoints

end SearchPages

end FancyLife
