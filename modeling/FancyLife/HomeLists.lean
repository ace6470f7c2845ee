import FancyLife.DataLoading
import FancyLife.Models
import FancyLife.Lib.Simulation
import FancyLife.Lib.Snapshot

/-! # The lists of HomeVC

The four categories are applied once, from a block that `viewDidLoad` queues; the
list of group purchases is requested anew at every appearance, under the loading
view of `FLDataLoadingVC`. A tap on a category pushes a shop list.

The address line and the advert are in modules of their own; the success view of
`didRequestToAddToCart` is left out.
-/

namespace FancyLife.HomeVC

/-- `enum Section { case main }`. -/
inductive Section where
  | main
deriving DecidableEq

/-- `categoryImages`, by the names of the assets. It is never assigned again. -/
def categoryImages : List String := ["fooddrink", "shengxian", "fun", "travel"]

/-- The snapshot of `updateCategoryData()`. -/
def categorySnapshot : Snapshot Nat String := Snapshot.empty.append 0 categoryImages

/-- The snapshot of `updateTuanGoData(on: tuanGoItems)`. -/
def tuanGoSnapshot (tuanGoItems : List TuanGo) : Snapshot Section TuanGo :=
  Snapshot.empty.append .main tuanGoItems

/-- The state of the screen. The data sources hold the snapshots applied so far,
`outstanding` counts the requests that are not answered yet, and `pushed` lists
the categories of the shop lists that were pushed. -/
structure Lists extends FLDataLoadingVC where
  tuanGoList : List TuanGo
  categoryDataSource : Option (Snapshot Nat String)
  tuanGoDataSource : Option (Snapshot Section TuanGo)
  outstanding : Nat
  pushed : List String

namespace Lists

inductive Event where
  | viewWillAppear
  | answer (result : Except FLError (List TuanGo))
  | didSelectItemAt (item : Nat)

inductive Block where
  | dismiss
  | applyCategories
  | applyTuanGo (snapshot : Snapshot Section TuanGo)
  | present (alert : FLAlert)
deriving DecidableEq

/-- The closure of `getTuanGoItems()`. -/
def answered (s : Lists) : Except FLError (List TuanGo) → Lists × List Block
  | .ok tuanGoList => ({ s with tuanGoList }, [.dismiss, .applyTuanGo (tuanGoSnapshot tuanGoList)])
  | .error error =>
      (s, [.dismiss,
        .present { title := "错误！", message := error.rawValue, buttonTitle := "确认" }])

/-- The picture that the category collection view shows at `item`. -/
def categoryAt (s : Lists) (item : Nat) : Option String :=
  s.categoryDataSource.bind fun snapshot => snapshot.item 0 item

/-- Only a picture on the screen can be tapped; `options[indexPath.item]` traps
when there is no such option. -/
def handlers : Handlers Lists Event Block where
  handle s
    | .viewWillAppear =>
        some (.ok { s with
          toFLDataLoadingVC := s.showLoadingView, outstanding := s.outstanding + 1 } [])
    | .answer result =>
        match s.outstanding with
        | 0 => none
        | n + 1 =>
            let (s', deferred) := answered { s with outstanding := n } result
            some (.ok s' deferred)
    | .didSelectItemAt item =>
        match s.categoryAt item, options[item]? with
        | some _, some category => some (.ok { s with pushed := s.pushed ++ [category] } [])
        | some _, none => some .trap
        | none, _ => none
  block s
    | .dismiss =>
        match s.dismissBlock with
        | some vc => .ok { s with toFLDataLoadingVC := vc } []
        | none => .trap
    | .applyCategories => .ok { s with categoryDataSource := some categorySnapshot } []
    | .applyTuanGo snapshot => .ok { s with tuanGoDataSource := some snapshot } []
    | .present _ => .ok s []

/-- The screen after `viewDidLoad()`, with the scroll view on it. -/
def viewDidLoad : MainLoop Lists Block :=
  .start ⟨⟨[⟨.content, 0⟩], none, 1⟩, [], none, none, 0, []⟩ [.applyCategories]

def machine : EventMachine (MainLoop Lists Block) (LoopStep Event) :=
  MainLoop.machine handlers (· = viewDidLoad)

/-! ## The category pictures -/

/-- The pictures on the screen are the four categories. -/
def ShowsCategories (l : MainLoop Lists Block) : Prop :=
  ∀ snapshot, l.state.categoryDataSource = some snapshot → snapshot = categorySnapshot

/-- There is an option for every picture. -/
theorem options_of_categoryAt {s : Lists} {item : Nat} {image : String}
    (hshows : ∀ snapshot, s.categoryDataSource = some snapshot → snapshot = categorySnapshot)
    (himage : s.categoryAt item = some image) : ∃ category, options[item]? = some category := by
  rcases Option.bind_eq_some_iff.1 himage with ⟨snapshot, hsnapshot, hitem⟩
  obtain rfl := hshows snapshot hsnapshot
  have hget : categoryImages[item]? = some image := hitem
  -- there are as many options as pictures
  have hlt : item < options.length := (List.getElem?_eq_some_iff.1 hget).1
  exact ⟨_, List.getElem?_eq_getElem hlt⟩

/-- What an event does: the loading view changes at an appearance only, and the
only pushes are those of taps. -/
inductive Handled (s : Lists) : Event → Lists → List Block → Prop where
  | viewWillAppear :
      Handled s .viewWillAppear
        { s with toFLDataLoadingVC := s.showLoadingView, outstanding := s.outstanding + 1 } []
  | answer (n : Nat) (result : Except FLError (List TuanGo)) (h : s.outstanding = n + 1) :
      Handled s (.answer result) (answered { s with outstanding := n } result).1
        (answered { s with outstanding := n } result).2
  | didSelectItemAt (item : Nat) (category : String) (h : options[item]? = some category) :
      Handled s (.didSelectItemAt item) { s with pushed := s.pushed ++ [category] } []

theorem handle_cases {s : Lists} {e : Event} {o : Outcome Lists Block}
    (hshows : ∀ snapshot, s.categoryDataSource = some snapshot → snapshot = categorySnapshot)
    (ho : handlers.handle s e = some o) :
    ∃ s' deferred, o = .ok s' deferred ∧ Handled s e s' deferred := by
  cases e with
  | viewWillAppear =>
      obtain rfl := Option.some.inj ho
      exact ⟨_, _, rfl, .viewWillAppear⟩
  | answer result =>
      rcases s with ⟨vc, tuanGoList, categoryDataSource, tuanGoDataSource, outstanding, pushed⟩
      cases outstanding with
      | zero => cases ho
      | succ n =>
          obtain rfl := Option.some.inj ho
          exact ⟨_, _, rfl, .answer n result rfl⟩
  | didSelectItemAt item =>
      simp only [handlers] at ho
      split at ho
      · rename_i category _ hcategory
        obtain rfl := Option.some.inj ho
        exact ⟨_, _, rfl, .didSelectItemAt item category hcategory⟩
      · -- a picture without an option
        rename_i image himage hnone
        rcases options_of_categoryAt hshows himage with ⟨category, hcategory⟩
        rw [hnone] at hcategory
        cases hcategory
      · cases ho

/-- What one step can do: an event, the block that dismisses the loading view, or
a block that leaves it alone. -/
theorem step_cases {l l' : MainLoop Lists Block} {x : LoopStep Event}
    (hstep : machine.step l x = some l') (hshows : ShowsCategories l) :
    l.trapped = false ∧
      ((∃ e s' deferred, x = .event e ∧ Handled l.state e s' deferred ∧
          l' = ⟨s', l.queue ++ deferred, false⟩) ∨
       (∃ rest, x = .block ∧ l.queue = .dismiss :: rest ∧
          l' = l.absorb rest (handlers.block l.state .dismiss)) ∨
       (∃ b rest s', x = .block ∧ l.queue = b :: rest ∧ b ≠ .dismiss ∧
          handlers.block l.state b = .ok s' [] ∧ l' = ⟨s', rest, false⟩)) := by
  rcases MainLoop.step_cases hstep with ⟨htrapped, ⟨e, o, rfl, ho, rfl⟩ | ⟨b, rest, rfl, hq, rfl⟩⟩
  · rcases handle_cases hshows ho with ⟨s', deferred, rfl, hhandled⟩
    exact ⟨htrapped, Or.inl ⟨e, s', deferred, rfl, hhandled, rfl⟩⟩
  · refine ⟨htrapped, Or.inr ?_⟩
    have hother : ∀ s', b ≠ .dismiss → handlers.block l.state b = .ok s' [] →
        ∃ b' rest' s', (LoopStep.block : LoopStep Event) = .block ∧ l.queue = b' :: rest' ∧
          b' ≠ .dismiss ∧ handlers.block l.state b' = .ok s' [] ∧
          l.absorb rest (handlers.block l.state b) = ⟨s', rest', false⟩ := by
      intro s' hne hblock
      refine ⟨b, rest, s', rfl, hq, hne, hblock, ?_⟩
      rw [hblock, MainLoop.absorb_ok, List.append_nil]
    cases b with
    | dismiss => exact Or.inl ⟨rest, rfl, hq, rfl⟩
    | applyCategories => exact Or.inr (hother _ (by decide) rfl)
    | applyTuanGo snapshot => exact Or.inr (hother _ (fun h => Block.noConfusion h) rfl)
    | present alert => exact Or.inr (hother _ (fun h => Block.noConfusion h) rfl)

/-! ## The loading view

Seen from `FLDataLoadingVC`, an appearance starts a request; taps and the blocks
that apply a snapshot or present an alert are not seen at all. -/

def Block.loading : Block → Option FLDataLoadingVC.LoadingBlock
  | .dismiss => some .dismiss
  | _ => none

/-- The screen as its superclass sees it. -/
def loading (l : MainLoop Lists Block) :
    MainLoop FLDataLoadingVC.Loading FLDataLoadingVC.LoadingBlock :=
  ⟨⟨l.state.toFLDataLoadingVC, l.state.outstanding⟩, l.queue.filterMap Block.loading, l.trapped⟩

/-- What a step means to the superclass. -/
def request (l : MainLoop Lists Block) :
    LoopStep Event → List (LoopStep FLDataLoadingVC.RequestEvent)
  | .event .viewWillAppear => [.event .start]
  | .event (.answer _) => [.event .answer]
  | .event (.didSelectItemAt _) => []
  | .block =>
      match l.queue with
      | .dismiss :: _ => [.block]
      | _ => []

/-- The rest of the queue without the blocks that the superclass does not know. -/
theorem loading_answered (s : Lists) (result : Except FLError (List TuanGo)) :
    (answered s result).1.toFLDataLoadingVC = s.toFLDataLoadingVC ∧
      (answered s result).1.outstanding = s.outstanding ∧
      (answered s result).1.categoryDataSource = s.categoryDataSource ∧
      (answered s result).2.filterMap Block.loading = [.dismiss] := by
  cases result with
  | ok tuanGoList => exact ⟨rfl, rfl, rfl, rfl⟩
  | error error => exact ⟨rfl, rfl, rfl, rfl⟩

/-- Blocks other than the dismissal change the data sources only. -/
theorem loading_block {s s' : Lists} {b : Block} (hne : b ≠ .dismiss)
    (hblock : handlers.block s b = .ok s' []) :
    s'.toFLDataLoadingVC = s.toFLDataLoadingVC ∧ s'.outstanding = s.outstanding ∧
      b.loading = none := by
  cases b with
  | dismiss => exact absurd rfl hne
  | applyCategories =>
      injection hblock with hs
      exact ⟨hs ▸ rfl, hs ▸ rfl, rfl⟩
  | applyTuanGo snapshot =>
      injection hblock with hs
      exact ⟨hs ▸ rfl, hs ▸ rfl, rfl⟩
  | present alert =>
      injection hblock with hs
      exact ⟨hs ▸ rfl, hs ▸ rfl, rfl⟩

/-- Step lemma: the pictures on the screen stay the four categories. -/
theorem ShowsCategories.step {l l' : MainLoop Lists Block} {x : LoopStep Event}
    (hstep : machine.step l x = some l') (h : ShowsCategories l) : ShowsCategories l' := by
  rcases step_cases hstep h with ⟨-, ⟨e, s', deferred, -, hhandled, rfl⟩ | ⟨rest, -, -, rfl⟩ |
    ⟨b, rest, s', -, -, -, hblock, rfl⟩⟩
  · cases hhandled with
    | viewWillAppear => exact h
    | answer n result hn =>
        have hsame := (loading_answered { l.state with outstanding := n } result).2.2.1
        intro snapshot hsnapshot
        exact h snapshot (hsame.symm.trans hsnapshot)
    | didSelectItemAt item category hcategory => exact h
  · -- the dismissal, or a trap in it
    cases hvc : l.state.dismissBlock with
    | none =>
        have hblock : handlers.block l.state .dismiss = .trap := by simp only [handlers, hvc]
        rw [hblock]
        exact h
    | some vc =>
        have hblock : handlers.block l.state .dismiss =
            .ok { l.state with toFLDataLoadingVC := vc } [] := by simp only [handlers, hvc]
        rw [hblock]
        exact h
  · cases b with
    | dismiss =>
        simp only [handlers] at hblock
        split at hblock
        · injection hblock with hs
          exact hs ▸ h
        · cases hblock
    | applyCategories =>
        injection hblock with hs
        intro snapshot hsnapshot
        rw [← hs] at hsnapshot
        exact (Option.some.inj hsnapshot).symm
    | applyTuanGo snapshot =>
        injection hblock with hs
        exact hs ▸ h
    | present alert =>
        injection hblock with hs
        exact hs ▸ h

/-- An event of the screen is at most one event of the superclass. -/
theorem run_request {s s' : Lists} {e : Event} {deferred : List Block} (q : List Block)
    (h : Handled s e s' deferred) :
    FLDataLoadingVC.machine.run (loading ⟨s, q, false⟩) (request ⟨s, q, false⟩ (.event e)) =
      some (loading ⟨s', q ++ deferred, false⟩) := by
  cases h with
  | viewWillAppear =>
      refine (MainLoop.run_event rfl).trans ?_
      simp only [MainLoop.absorb_ok, loading, List.append_nil]
  | answer n result hn =>
      rcases loading_answered { s with outstanding := n } result with ⟨hvc, hout, -, hqueue⟩
      have hhandle : FLDataLoadingVC.handlers.handle ⟨s.toFLDataLoadingVC, s.outstanding⟩
          .answer = some (.ok ⟨s.toFLDataLoadingVC, n⟩ [.dismiss]) := by
        rw [hn]
        rfl
      refine (MainLoop.run_event hhandle).trans ?_
      simp only [MainLoop.absorb_ok, loading, hvc, hout, List.filterMap_append, hqueue]
  | didSelectItemAt item category hcategory =>
      show some _ = some _
      rw [List.append_nil]
      rfl

/-- The dismissal is the block of the superclass. -/
theorem run_dismiss (s : Lists) (rest : List Block) :
    FLDataLoadingVC.machine.run (loading ⟨s, .dismiss :: rest, false⟩) [.block] =
      some (loading (MainLoop.absorb ⟨s, .dismiss :: rest, false⟩ rest
        (handlers.block s .dismiss))) := by
  rcases s with ⟨⟨subviews, containerview, nextView⟩, tuanGoList, categoryDataSource,
    tuanGoDataSource, outstanding, pushed⟩
  cases containerview with
  | none => rfl
  | some v =>
      show some (MainLoop.mk _ (rest.filterMap Block.loading ++ []) false) =
        some (loading ⟨_, rest ++ [], false⟩)
      rw [List.append_nil, List.append_nil]
      rfl

/-- The home screen is a screen of `FLDataLoadingVC`: nothing that it does with
its lists touches the loading view, and a tap never traps. -/
def toDataLoading : Simulation machine FLDataLoadingVC.machine where
  rel l t := t = loading l ∧ ShowsCategories l
  lift := request
  init := by
    rintro l rfl
    refine ⟨_, ⟨rfl, rfl, ?_, ?_, rfl, rfl⟩, rfl, ?_⟩
    · intro v hv
      rw [List.mem_singleton.1 hv]
      exact fun h => ViewKind.noConfusion h
    · intro v hv
      rw [List.mem_singleton.1 hv]
      exact Nat.zero_lt_one
    · intro snapshot hsnapshot
      cases hsnapshot
  step := by
    rintro l x l' t hstep ⟨rfl, hshows⟩
    refine ⟨loading l', ?_, rfl, hshows.step hstep⟩
    rcases l with ⟨s, q, trapped⟩
    rcases step_cases hstep hshows with ⟨htrapped, ⟨e, s', deferred, rfl, hhandled, rfl⟩ |
      ⟨rest, rfl, hq, rfl⟩ | ⟨b, rest, s', rfl, hq, hne, hblock, rfl⟩⟩
    · obtain rfl : trapped = false := htrapped
      exact run_request q hhandled
    · obtain rfl : trapped = false := htrapped
      obtain rfl : q = .dismiss :: rest := hq
      exact run_dismiss s rest
    · -- another block is not seen
      obtain rfl : trapped = false := htrapped
      obtain rfl : q = b :: rest := hq
      rcases loading_block hne hblock with ⟨hvc, hout, hnone⟩
      have hrequest : request ⟨s, b :: rest, false⟩ .block = [] := by
        cases b with
        | dismiss => exact absurd rfl hne
        | applyCategories => rfl
        | applyTuanGo snapshot => rfl
        | present alert => rfl
      rw [hrequest]
      simp only [EventMachine.run_nil, loading, hvc, hout, List.filterMap_cons_none hnone]

/-- Every request is answered, and its loading view is dismissed. -/
def Quiet (l : MainLoop Lists Block) : Prop :=
  l.state.outstanding = 0 ∧ Block.dismiss ∉ l.queue

/-- No handler has trapped, and a quiet screen is not covered. -/
def Uncovered (l : MainLoop Lists Block) : Prop :=
  l.trapped = false ∧ (Quiet l → l.state.NoOverlay)

theorem loading_eq_some {b : Block} {b' : FLDataLoadingVC.LoadingBlock}
    (h : b.loading = some b') : b = .dismiss := by
  cases b with
  | dismiss => rfl
  | applyCategories => cases h
  | applyTuanGo snapshot => cases h
  | present alert => cases h

theorem quiet_iff {l : MainLoop Lists Block} : Quiet l ↔ FLDataLoadingVC.Idle (loading l) := by
  refine and_congr Iff.rfl ?_
  constructor
  · intro hnot
    refine List.filterMap_eq_nil_iff.2 ?_
    intro b hb
    cases hb' : b.loading with
    | none => rfl
    | some b' => exact absurd (loading_eq_some hb' ▸ hb) hnot
  · intro hdrained hmem
    have hnone := List.filterMap_eq_nil_iff.1 hdrained .dismiss hmem
    cases hnone

theorem uncovered_iff {l : MainLoop Lists Block} :
    Uncovered l ↔ FLDataLoadingVC.Uncovered (loading l) :=
  and_congr Iff.rfl (imp_congr quiet_iff Iff.rfl)

/-- Only an appearance can start a request that overlaps another one. -/
theorem sequential_iff {l l' : MainLoop Lists Block} {x : LoopStep Event}
    (hstep : machine.step l x = some l') (hshows : ShowsCategories l) :
    (x = .event .viewWillAppear → Quiet l) ↔
      FLDataLoadingVC.machine.Along (fun l x _ => FLDataLoadingVC.Sequential l x) (loading l)
        (request l x) := by
  rw [quiet_iff]
  rcases toDataLoading.step l x l' _ hstep ⟨rfl, hshows⟩ with ⟨t, hrun, -⟩
  rcases step_cases hstep hshows with ⟨-, ⟨e, s', deferred, rfl, hhandled, -⟩ |
    ⟨rest, rfl, hq, -⟩ | ⟨b, rest, s', rfl, hq, hne, -⟩⟩
  · cases hhandled with
    | viewWillAppear =>
        rcases (EventMachine.run_cons_eq_some _).1 hrun with ⟨u, hu, -⟩
        show _ ↔ FLDataLoadingVC.machine.Along _ (loading l) [.event .start]
        rw [EventMachine.along_cons_of_some _ _ hu]
        constructor
        · intro h
          exact ⟨fun _ => h rfl, trivial⟩
        · rintro ⟨h, -⟩ -
          exact h rfl
    | answer n result hn =>
        refine iff_of_true (fun h => by cases h) ?_
        intro u _
        exact ⟨fun h => (by cases h), trivial⟩
    | didSelectItemAt item category hcategory =>
        exact iff_of_true (fun h => by cases h) trivial
  · refine iff_of_true (fun h => by cases h) ?_
    simp only [request, hq]
    intro u _
    exact ⟨fun h => (by cases h), trivial⟩
  · refine iff_of_true (fun h => by cases h) ?_
    cases b with
    | dismiss => exact absurd rfl hne
    | applyCategories =>
        simp only [request, hq]
        exact trivial
    | applyTuanGo snapshot =>
        simp only [request, hq]
        exact trivial
    | present alert =>
        simp only [request, hq]
        exact trivial

/-- Step lemma: an appearance on a quiet screen keeps one request under way. -/
theorem oneRequest_step {l l' : MainLoop Lists Block} {x : LoopStep Event}
    (hstep : machine.step l x = some l') (hseq : x = .event .viewWillAppear → Quiet l)
    (hshows : ShowsCategories l) (h : FLDataLoadingVC.OneRequest (loading l)) :
    FLDataLoadingVC.OneRequest (loading l') := by
  rcases toDataLoading.step l x l' _ hstep ⟨rfl, hshows⟩ with ⟨t, hrun, rfl, -⟩
  exact EventMachine.run_invariant_along (fun _ _ _ hs hx hinv => hinv.step hs hx) hrun
    ((sequential_iff hstep hshows).1 hseq) h

theorem viewDidLoad_related :
    loading viewDidLoad = loading viewDidLoad ∧ ShowsCategories viewDidLoad := by
  refine ⟨rfl, ?_⟩
  intro snapshot hsnapshot
  cases hsnapshot

theorem viewDidLoad_oneRequest : FLDataLoadingVC.OneRequest (loading viewDidLoad) := by
  rcases toDataLoading.init viewDidLoad rfl with ⟨t, ht, rfl, -⟩
  exact FLDataLoadingVC.OneRequest.init ht

/-- In a run that ends with a crash or with a quiet screen, the home screen handles
its loading view properly throughout exactly when it appeared on a quiet screen only. -/
theorem home_uncovered_iff {l : MainLoop Lists Block} {xs : List (LoopStep Event)}
    (hrun : machine.run viewDidLoad xs = some l) (hend : l.trapped = true ∨ Quiet l) :
    machine.Along (fun _ _ l' => Uncovered l') viewDidLoad xs ↔
      machine.Along (fun l x _ => x = .event .viewWillAppear → Quiet l) viewDidLoad xs := by
  constructor
  · intro huncovered
    by_contra hnot
    rw [toDataLoading.along_iff (fun s x s' t hs hrel => hrel.1 ▸ sequential_iff hs hrel.2) hrun
      viewDidLoad_related] at hnot
    rcases toDataLoading.run hrun viewDidLoad_related with ⟨t, ht, rfl, -⟩
    have hlost : FLDataLoadingVC.Lost (loading l) := EventMachine.run_violation
      (fun _ _ _ hs hseq hinv => hinv.step hs hseq)
      (fun _ _ _ hs hover hinv => hinv.overlap hs hover)
      (fun _ _ _ hs hbad => hbad.step hs) ht viewDidLoad_oneRequest hnot
    have hfirst : Uncovered viewDidLoad := uncovered_iff.2 viewDidLoad_oneRequest.uncovered
    rcases huncovered.last hrun hfirst with ⟨htrapped, hnone⟩
    -- a crash was excluded, and a lost view still covers the quiet screen
    rcases hlost with hlost | ⟨-, horphan⟩
    · have htrue : l.trapped = true := hlost
      rw [htrapped] at htrue
      cases htrue
    · rcases hend with hend | hquiet
      · rw [htrapped] at hend
        cases hend
      · exact horphan.not_noOverlay (hnone hquiet)
  · intro hseq
    have hkeep : ∀ s x s', machine.step s x = some s' → (x = .event .viewWillAppear → Quiet s) →
        ShowsCategories s ∧ FLDataLoadingVC.OneRequest (loading s) →
        Uncovered s' ∧ ShowsCategories s' ∧ FLDataLoadingVC.OneRequest (loading s') := by
      rintro s x s' hstep hx ⟨hshows, hone⟩
      have hone' := oneRequest_step hstep hx hshows hone
      exact ⟨uncovered_iff.2 hone'.uncovered, hshows.step hstep, hone'⟩
    exact hseq.of_invariant hkeep ⟨viewDidLoad_related.2, viewDidLoad_oneRequest⟩

/-- The screen appears again before its first list has come: the first loading view
is lost, and the second dismissal unwraps nil. -/
theorem early_return_home_covered :
    ¬ machine.Along (fun _ _ l' => Uncovered l') viewDidLoad
      [.event .viewWillAppear, .event .viewWillAppear, .event (.answer (.ok [])),
        .event (.answer (.ok [])), .block, .block, .block, .block] := by
  have hrun : ∃ l, machine.run viewDidLoad [.event .viewWillAppear, .event .viewWillAppear,
      .event (.answer (.ok [])), .event (.answer (.ok [])), .block, .block, .block, .block] =
        some l ∧ l.trapped = true := ⟨_, rfl, rfl⟩
  rcases hrun with ⟨l, hrun, htrapped⟩
  rw [home_uncovered_iff hrun (Or.inl htrapped)]
  intro halong
  -- the second appearance is not on a quiet screen
  have hquiet := ((halong _ rfl).2 _ rfl).1 rfl
  exact absurd hquiet.1 (by decide)

/-! ## What the lists show -/

/-- The lists that came, in order. -/
def answers (xs : List (LoopStep Event)) : List (List TuanGo) :=
  xs.filterMap fun
    | .event (.answer (.ok tuanGoList)) => some tuanGoList
    | _ => none

/-- The categories that were tapped, in order. -/
def taps (xs : List (LoopStep Event)) : List Nat :=
  xs.filterMap fun
    | .event (.didSelectItemAt item) => some item
    | _ => none

/-- The snapshot that a block applies to the list of group purchases. -/
def Block.tuanGo : Block → Option (Snapshot Section TuanGo)
  | .applyTuanGo snapshot => some snapshot
  | _ => none

/-- The snapshot that the list of group purchases shows once the queue is drained. -/
def latest (s : Lists) (queue : List Block) : Option (Snapshot Section TuanGo) :=
  (queue.filterMap Block.tuanGo).getLast?.or s.tuanGoDataSource

/-- What the screen has done so far with the events of `past`. -/
structure Shows (l : MainLoop Lists Block) (past : List (LoopStep Event)) : Prop where
  pictures : ShowsCategories l
  pushed : l.state.pushed.map some = (taps past).map (options[·]?)
  list : l.state.tuanGoList = (answers past).getLast?.getD []
  categories : l.trapped = false →
    Block.applyCategories ∈ l.queue ∨ l.state.categoryDataSource = some categorySnapshot
  rows : l.trapped = false →
    latest l.state l.queue = (answers past).getLast?.map tuanGoSnapshot

theorem Shows.init : Shows viewDidLoad [] where
  pictures := viewDidLoad_related.2
  pushed := rfl
  list := rfl
  categories _ := Or.inl (List.mem_singleton_self _)
  rows _ := rfl

/-- An event shows in `answers` and `taps` at the end. -/
theorem answers_append (past : List (LoopStep Event)) (x : LoopStep Event) :
    answers (past ++ [x]) = answers past ++ answers [x] := List.filterMap_append

theorem taps_append (past : List (LoopStep Event)) (x : LoopStep Event) :
    taps (past ++ [x]) = taps past ++ taps [x] := List.filterMap_append

/-- An event leaves the data sources to the blocks. -/
theorem Handled.dataSources {s s' : Lists} {e : Event} {deferred : List Block}
    (h : Handled s e s' deferred) :
    s'.categoryDataSource = s.categoryDataSource ∧ s'.tuanGoDataSource = s.tuanGoDataSource := by
  cases h with
  | viewWillAppear => exact ⟨rfl, rfl⟩
  | answer n result hn =>
      cases result with
      | ok tuanGoList => exact ⟨rfl, rfl⟩
      | error error => exact ⟨rfl, rfl⟩
  | didSelectItemAt item category hcategory => exact ⟨rfl, rfl⟩

/-- An event brings a list, whose snapshot it queues, or it brings none. -/
theorem Handled.list {s s' : Lists} {e : Event} {deferred : List Block}
    (h : Handled s e s' deferred) :
    (∃ tuanGoList, answers [.event e] = [tuanGoList] ∧ s'.tuanGoList = tuanGoList ∧
        deferred.filterMap Block.tuanGo = [tuanGoSnapshot tuanGoList]) ∨
      (answers [.event e] = [] ∧ s'.tuanGoList = s.tuanGoList ∧
        deferred.filterMap Block.tuanGo = []) := by
  cases h with
  | viewWillAppear => exact Or.inr ⟨rfl, rfl, rfl⟩
  | answer n result hn =>
      cases result with
      | ok tuanGoList => exact Or.inl ⟨tuanGoList, rfl, rfl, rfl⟩
      | error error => exact Or.inr ⟨rfl, rfl, rfl⟩
  | didSelectItemAt item category hcategory => exact Or.inr ⟨rfl, rfl, rfl⟩

/-- An event pushes what is tapped in it. -/
theorem Handled.pushed {s s' : Lists} {e : Event} {deferred : List Block}
    (h : Handled s e s' deferred) :
    s'.pushed.map some = s.pushed.map some ++ (taps [.event e]).map (options[·]?) := by
  cases h with
  | viewWillAppear => exact (List.append_nil _).symm
  | answer n result hn =>
      cases result with
      | ok tuanGoList => exact (List.append_nil _).symm
      | error error => exact (List.append_nil _).symm
  | didSelectItemAt item category hcategory =>
      show (s.pushed ++ [category]).map some = s.pushed.map some ++ [options[item]?]
      rw [List.map_append, hcategory]
      rfl

/-- Step lemma for an event. -/
theorem Shows.handled {s s' : Lists} {q deferred : List Block} {e : Event}
    {past : List (LoopStep Event)} (hhandled : Handled s e s' deferred)
    (hpictures : ShowsCategories ⟨s', q ++ deferred, false⟩) (h : Shows ⟨s, q, false⟩ past) :
    Shows ⟨s', q ++ deferred, false⟩ (past ++ [.event e]) := by
  rcases hhandled.dataSources with ⟨hcategories, htuanGo⟩
  refine ⟨hpictures, ?_, ?_, fun _ => ?_, fun _ => ?_⟩
  · rw [taps_append, List.map_append, ← h.pushed]
    exact hhandled.pushed
  · rw [answers_append]
    rcases hhandled.list with ⟨tuanGoList, hanswers, hlist, -⟩ | ⟨hanswers, hlist, -⟩
    · rw [hanswers, List.getLast?_concat]
      exact hlist
    · rw [hanswers, List.append_nil]
      exact hlist.trans h.list
  · rcases h.categories rfl with hmem | hshown
    · exact Or.inl (List.mem_append_left _ hmem)
    · exact Or.inr (hcategories.trans hshown)
  · rw [answers_append, latest, List.filterMap_append, htuanGo]
    rcases hhandled.list with ⟨tuanGoList, hanswers, -, hqueue⟩ | ⟨hanswers, -, hqueue⟩
    · -- the new snapshot is the last one on the queue
      rw [hanswers, hqueue, List.getLast?_concat, List.getLast?_concat]
      rfl
    · rw [hanswers, hqueue, List.append_nil, List.append_nil]
      exact h.rows rfl

/-- Step lemma for a block that is not the dismissal. -/
theorem Shows.ran {s s' : Lists} {b : Block} {rest : List Block} {past : List (LoopStep Event)}
    (hne : b ≠ .dismiss) (hblock : handlers.block s b = .ok s' [])
    (hpictures : ShowsCategories ⟨s', rest, false⟩) (h : Shows ⟨s, b :: rest, false⟩ past) :
    Shows ⟨s', rest, false⟩ past := by
  have hcategories := h.categories rfl
  have hrows := h.rows rfl
  cases b with
  | dismiss => exact absurd rfl hne
  | applyCategories =>
      injection hblock with hs
      subst hs
      exact ⟨hpictures, h.pushed, h.list, fun _ => Or.inr rfl, fun _ => hrows⟩
  | applyTuanGo snapshot =>
      injection hblock with hs
      subst hs
      refine ⟨hpictures, h.pushed, h.list, fun _ => ?_, fun _ => ?_⟩
      · rcases hcategories with hmem | hshown
        · exact Or.inl ((List.mem_cons.1 hmem).resolve_left fun h => Block.noConfusion h)
        · exact Or.inr hshown
      · -- the snapshot moves from the queue to the data source
        rw [← hrows]
        show (rest.filterMap Block.tuanGo).getLast?.or (some snapshot) =
          (snapshot :: rest.filterMap Block.tuanGo).getLast?.or _
        cases hlast : (rest.filterMap Block.tuanGo).getLast? with
        | none =>
            rw [List.getLast?_eq_none_iff.1 hlast]
            rfl
        | some last =>
            rw [List.getLast?_cons, hlast]
            rfl
  | present alert =>
      injection hblock with hs
      subst hs
      refine ⟨hpictures, h.pushed, h.list, fun _ => ?_, fun _ => hrows⟩
      rcases hcategories with hmem | hshown
      · exact Or.inl ((List.mem_cons.1 hmem).resolve_left fun h => Block.noConfusion h)
      · exact Or.inr hshown

/-- Step lemma for the dismissal, which may trap. -/
theorem Shows.dismissed {s : Lists} {rest : List Block} {past : List (LoopStep Event)}
    (h : Shows ⟨s, .dismiss :: rest, false⟩ past) :
    Shows (MainLoop.absorb ⟨s, .dismiss :: rest, false⟩ rest (handlers.block s .dismiss)) past := by
  cases hvc : s.dismissBlock with
  | none =>
      have hblock : handlers.block s .dismiss = .trap := by simp only [handlers, hvc]
      rw [hblock]
      exact ⟨h.pictures, h.pushed, h.list, fun h => (by cases h), fun h => (by cases h)⟩
  | some vc =>
      have hblock : handlers.block s .dismiss =
          .ok { s with toFLDataLoadingVC := vc } [] := by simp only [handlers, hvc]
      rw [hblock, MainLoop.absorb_ok, List.append_nil]
      refine ⟨h.pictures, h.pushed, h.list, fun _ => ?_, fun _ => h.rows rfl⟩
      rcases h.categories rfl with hmem | hshown
      · exact Or.inl ((List.mem_cons.1 hmem).resolve_left fun h => Block.noConfusion h)
      · exact Or.inr hshown

/-- A block brings no list and is no tap. -/
theorem Shows.block {l : MainLoop Lists Block} {past : List (LoopStep Event)} (h : Shows l past) :
    Shows l (past ++ [.block]) := by
  have hanswers : answers (past ++ [.block]) = answers past := by
    rw [answers_append]
    exact List.append_nil _
  have htaps : taps (past ++ [.block]) = taps past := by
    rw [taps_append]
    exact List.append_nil _
  refine ⟨h.pictures, ?_, ?_, h.categories, ?_⟩
  · rw [htaps]
    exact h.pushed
  · rw [hanswers]
    exact h.list
  · rw [hanswers]
    exact h.rows

/-- Step lemma. -/
theorem Shows.step (l : MainLoop Lists Block) (x : LoopStep Event) (l' : MainLoop Lists Block)
    (past : List (LoopStep Event)) (hstep : machine.step l x = some l') (h : Shows l past) :
    Shows l' (past ++ [x]) := by
  have hpictures := h.pictures.step hstep
  rcases l with ⟨s, q, trapped⟩
  rcases step_cases hstep h.pictures with ⟨htrapped, ⟨e, s', deferred, rfl, hhandled, rfl⟩ |
    ⟨rest, rfl, hq, rfl⟩ | ⟨b, rest, s', rfl, hq, hne, hblock, rfl⟩⟩
  · obtain rfl : trapped = false := htrapped
    exact Shows.handled hhandled hpictures h
  · obtain rfl : trapped = false := htrapped
    obtain rfl : q = .dismiss :: rest := hq
    exact h.dismissed.block
  · obtain rfl : trapped = false := htrapped
    obtain rfl : q = b :: rest := hq
    exact (h.ran hne hblock hpictures).block

/-- In every run of the home screen each tap on a category pushes the shop list of
that category, and whenever the screen has not crashed and its queue is drained, it
shows the four categories and the last list of group purchases that came. -/
theorem home_lists_settled {l : MainLoop Lists Block} {xs : List (LoopStep Event)}
    (hrun : machine.run viewDidLoad xs = some l) :
    l.state.pushed.map some = (taps xs).map (options[·]?) ∧
      (l.trapped = false → l.Drained →
        l.state.categoryDataSource = some categorySnapshot ∧
        l.state.tuanGoDataSource = (answers xs).getLast?.map tuanGoSnapshot) := by
  have hshows : Shows l ([] ++ xs) := EventMachine.history_invariant Shows.step hrun Shows.init
  refine ⟨hshows.pushed, ?_⟩
  intro htrapped hdrained
  have hqueue : l.queue = [] := hdrained
  constructor
  · rcases hshows.categories htrapped with hmem | hshown
    · rw [hqueue] at hmem
      cases hmem
    · exact hshown
  · have hrows := hshows.rows htrapped
    rw [hqueue] at hrows
    exact hrows

/-- One purchase comes, the user taps the third category, and the next request fails. -/
theorem fun_tapped_on_home :
    ∃ l, machine.run viewDidLoad [.block, .event .viewWillAppear,
        .event (.answer (.ok [⟨"t1", "面包", "", .finite 1, .finite 2, .finite 3, "t1.png"⟩])),
        .event (.didSelectItemAt 2), .block, .block, .event .viewWillAppear,
        .event (.answer (.error .invalidData)), .block, .block] = some l ∧
      l.state.pushed = ["娱乐"] ∧
      l.state.tuanGoDataSource =
        some (tuanGoSnapshot [⟨"t1", "面包", "", .finite 1, .finite 2, .finite 3, "t1.png"⟩]) := by
  have hrun : ∃ l, machine.run viewDidLoad [.block, .event .viewWillAppear,
      .event (.answer (.ok [⟨"t1", "面包", "", .finite 1, .finite 2, .finite 3, "t1.png"⟩])),
      .event (.didSelectItemAt 2), .block, .block, .event .viewWillAppear,
      .event (.answer (.error .invalidData)), .block, .block] = some l ∧ l.trapped = false ∧
        l.queue = [] ∧ l.state.pushed = ["娱乐"] := ⟨_, rfl, rfl, rfl, rfl⟩
  rcases hrun with ⟨l, hrun, htrapped, hqueue, hpushed⟩
  exact ⟨l, hrun, hpushed, ((home_lists_settled hrun).2 htrapped hqueue).2⟩

end Lists

end FancyLife.HomeVC
