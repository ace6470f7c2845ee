import FancyLife.Lib.MainLoop

/-! # FLDataLoadingVC

The screens that cover themselves with a loading view while a request is
outstanding. One slot, `containerview`, holds the view to remove, and the
removal is a block on the main queue: a request that starts before the block of
the previous one has run overwrites the slot.
-/

namespace FancyLife

/-! ## Views -/

/-- What the model tells apart in a view hierarchy. -/
inductive ViewKind where
  | loading
  | emptyState (message : String)
  | content
deriving DecidableEq

/-- A view; two views of one kind differ in `id`. -/
structure UIView where
  kind : ViewKind
  id : Nat
deriving DecidableEq

/-- The part of a screen that `FLDataLoadingVC` manages: the subviews from back
to front, and the slot. `nextView` is the identity of the next view. -/
structure FLDataLoadingVC where
  subviews : List UIView
  containerview : Option UIView
  nextView : Nat

namespace FLDataLoadingVC

/-- `view.addSubview(UIView(...))` with a new view. -/
def addNew (vc : FLDataLoadingVC) (kind : ViewKind) : FLDataLoadingVC :=
  { vc with subviews := vc.subviews ++ [⟨kind, vc.nextView⟩], nextView := vc.nextView + 1 }

/-- `subview.removeFromSuperview()`. -/
def remove (vc : FLDataLoadingVC) (v : UIView) : FLDataLoadingVC :=
  { vc with subviews := vc.subviews.filter (· ≠ v) }

/-- `showLoadingView()`. -/
def showLoadingView (vc : FLDataLoadingVC) : FLDataLoadingVC :=
  { vc.addNew .loading with containerview := some ⟨.loading, vc.nextView⟩ }

/-- The block of `dismissLoadingView()`; `none` is the nil unwrapped. -/
def dismissBlock (vc : FLDataLoadingVC) : Option FLDataLoadingVC :=
  match vc.containerview with
  | some v => some { vc.remove v with containerview := none }
  | none => none

/-- `showEmptyStateView(with: message, in: view)`. -/
def showEmptyStateView (vc : FLDataLoadingVC) (message : String) : FLDataLoadingVC :=
  vc.addNew (.emptyState message)

/-- No loading view is left in the hierarchy. -/
def NoOverlay (vc : FLDataLoadingVC) : Prop := ∀ v ∈ vc.subviews, v.kind ≠ .loading

instance (vc : FLDataLoadingVC) : Decidable vc.NoOverlay :=
  inferInstanceAs (Decidable (∀ v ∈ vc.subviews, _))

/-- Views are numbered below `nextView`. -/
def Fresh (vc : FLDataLoadingVC) : Prop := ∀ v ∈ vc.subviews, v.id < vc.nextView

/-- A loading view that the slot has lost track of. -/
def Orphaned (vc : FLDataLoadingVC) : Prop :=
  ∃ v ∈ vc.subviews, v.kind = .loading ∧ vc.containerview ≠ some v

/-! ## What the methods do -/

theorem Fresh.addNew {vc : FLDataLoadingVC} (h : vc.Fresh) (kind : ViewKind) :
    (vc.addNew kind).Fresh := by
  intro v hv
  rcases List.mem_append.1 hv with hv | hv
  · exact Nat.lt_succ_of_lt (h v hv)
  · rw [List.mem_singleton.1 hv]
    exact Nat.lt_succ_self _

theorem Fresh.remove {vc : FLDataLoadingVC} (h : vc.Fresh) (v : UIView) : (vc.remove v).Fresh :=
  fun w hw => h w (List.mem_filter.1 hw).1

theorem mem_remove {vc : FLDataLoadingVC} {v w : UIView} :
    w ∈ (vc.remove v).subviews ↔ w ∈ vc.subviews ∧ w ≠ v := by
  simp [FLDataLoadingVC.remove]

/-- When the block runs with the only loading view in the slot, none is left. -/
theorem dismissBlock_noOverlay {vc : FLDataLoadingVC} {v : UIView}
    (hslot : vc.containerview = some v)
    (honly : ∀ w ∈ vc.subviews, w.kind = .loading → w = v) :
    ∃ vc', vc.dismissBlock = some vc' ∧ vc'.NoOverlay ∧ vc'.containerview = none := by
  refine ⟨_, by rw [dismissBlock, hslot], ?_, rfl⟩
  intro w hw hloading
  rcases mem_remove.1 hw with ⟨hmem, hne⟩
  exact hne (honly w hmem hloading)

/-- No method removes an orphaned loading view. -/
theorem Orphaned.addNew {vc : FLDataLoadingVC} (h : vc.Orphaned) (kind : ViewKind) :
    (vc.addNew kind).Orphaned := by
  rcases h with ⟨v, hv, hloading, hslot⟩
  exact ⟨v, List.mem_append_left _ hv, hloading, hslot⟩

theorem Orphaned.showLoadingView {vc : FLDataLoadingVC} (hfresh : vc.Fresh) (h : vc.Orphaned) :
    vc.showLoadingView.Orphaned := by
  rcases h with ⟨v, hv, hloading, -⟩
  refine ⟨v, List.mem_append_left _ hv, hloading, ?_⟩
  -- the slot now holds a younger view
  intro hslot
  have hlt := hfresh v hv
  rw [← Option.some.inj hslot] at hlt
  exact Nat.lt_irrefl _ hlt

theorem Orphaned.dismissBlock {vc vc' : FLDataLoadingVC} (h : vc.Orphaned)
    (hblock : vc.dismissBlock = some vc') : vc'.Orphaned := by
  rcases h with ⟨v, hv, hloading, hslot⟩
  unfold FLDataLoadingVC.dismissBlock at hblock
  split at hblock
  · rename_i w hw
    rw [← Option.some.inj hblock]
    refine ⟨v, mem_remove.2 ⟨hv, ?_⟩, hloading, fun h => by cases h⟩
    intro hvw
    exact hslot (hvw ▸ hw)
  · cases hblock

theorem Orphaned.not_noOverlay {vc : FLDataLoadingVC} (h : vc.Orphaned) : ¬ vc.NoOverlay := by
  rcases h with ⟨v, hv, hloading, -⟩
  intro hnone
  exact hnone v hv hloading

/-! ## Requests -/

/-- A screen with its requests that are not answered yet. -/
structure Loading where
  vc : FLDataLoadingVC
  outstanding : Nat

/-- A request starts or is answered; the screen may show an empty state. -/
inductive RequestEvent where
  | start
  | answer
  | showEmptyState (message : String)
deriving DecidableEq

/-- The only block: the one of `dismissLoadingView()`. -/
inductive LoadingBlock where
  | dismiss
deriving DecidableEq

/-- A request shows the loading view when it starts, and schedules its removal
when it is answered. -/
def handlers : Handlers Loading RequestEvent LoadingBlock where
  handle s
    | .start => some (.ok ⟨s.vc.showLoadingView, s.outstanding + 1⟩ [])
    | .answer =>
        match s.outstanding with
        | 0 => none
        | n + 1 => some (.ok { s with outstanding := n } [.dismiss])
    | .showEmptyState message => some (.ok { s with vc := s.vc.showEmptyStateView message } [])
  block s
    | .dismiss =>
        match s.vc.dismissBlock with
        | some vc => .ok { s with vc } []
        | none => .trap

/-- A screen before its first request: whatever it shows, no loading view. -/
def Initial (l : MainLoop Loading LoadingBlock) : Prop :=
  l.state.outstanding = 0 ∧ l.state.vc.containerview = none ∧ l.state.vc.NoOverlay ∧
    l.state.vc.Fresh ∧ l.queue = [] ∧ l.trapped = false

/-- The screen and the main queue. -/
def machine : EventMachine (MainLoop Loading LoadingBlock) (LoopStep RequestEvent) :=
  MainLoop.machine handlers Initial

/-- Every request has been answered and the main queue is drained. -/
def Idle (l : MainLoop Loading LoadingBlock) : Prop := l.state.outstanding = 0 ∧ l.Drained

/-- No block has unwrapped nil, and an idle screen is not covered. -/
def Uncovered (l : MainLoop Loading LoadingBlock) : Prop :=
  l.trapped = false ∧ (Idle l → l.state.vc.NoOverlay)

/-- A step is sequential if a request starts on an idle screen only. -/
def Sequential (l : MainLoop Loading LoadingBlock) (x : LoopStep RequestEvent) : Prop :=
  x = .event .start → Idle l

/-! ## Sequential requests -/

/-- With sequential requests the slot holds the only loading view, while a
request is outstanding or its block is scheduled. -/
structure OneRequest (l : MainLoop Loading LoadingBlock) : Prop where
  trapped : l.trapped = false
  fresh : l.state.vc.Fresh
  phase :
    (Idle l ∧ l.state.vc.containerview = none ∧ l.state.vc.NoOverlay) ∨
    (l.state.outstanding + l.queue.length = 1 ∧
      ∃ v ∈ l.state.vc.subviews, l.state.vc.containerview = some v ∧ v.kind = .loading ∧
        ∀ w ∈ l.state.vc.subviews, w.kind = .loading → w = v)

theorem OneRequest.uncovered {l : MainLoop Loading LoadingBlock} (h : OneRequest l) :
    Uncovered l := by
  refine ⟨h.trapped, ?_⟩
  rintro ⟨hout, hqueue⟩
  rcases h.phase with ⟨-, -, hnone⟩ | ⟨hone, -⟩
  · exact hnone
  · rw [hout, show l.queue = [] from hqueue] at hone
    cases hone

theorem OneRequest.init {l : MainLoop Loading LoadingBlock} (h : Initial l) : OneRequest l := by
  rcases h with ⟨hout, hslot, hnone, hfresh, hqueue, htrapped⟩
  exact ⟨htrapped, hfresh, Or.inl ⟨⟨hout, hqueue⟩, hslot, hnone⟩⟩

/-- The phase after a request has started on an idle screen. -/
theorem OneRequest.start {vc : FLDataLoadingVC} (hfresh : vc.Fresh) (hnone : vc.NoOverlay) :
    OneRequest ⟨⟨vc.showLoadingView, 1⟩, [], false⟩ := by
  refine ⟨rfl, hfresh.addNew .loading, Or.inr ⟨rfl, ⟨.loading, vc.nextView⟩, ?_, rfl, rfl, ?_⟩⟩
  · exact List.mem_append_right _ (List.mem_singleton_self _)
  · intro w hw hloading
    rcases List.mem_append.1 hw with hw | hw
    · exact absurd hloading (hnone w hw)
    · exact List.mem_singleton.1 hw

/-- A view of another kind changes nothing. -/
theorem OneRequest.showEmptyState {s : Loading} {q : List LoadingBlock}
    (h : OneRequest ⟨s, q, false⟩) (message : String) :
    OneRequest ⟨{ s with vc := s.vc.showEmptyStateView message }, q, false⟩ := by
  have hmem : ∀ w ∈ (s.vc.showEmptyStateView message).subviews, w.kind = .loading →
      w ∈ s.vc.subviews := by
    intro w hw hloading
    rcases List.mem_append.1 hw with hw | hw
    · exact hw
    · rw [List.mem_singleton.1 hw] at hloading
      cases hloading
  refine ⟨rfl, h.fresh.addNew _, ?_⟩
  rcases h.phase with ⟨hidle, hslot, hnone⟩ | ⟨hone, v, hv, hslot, hloading, honly⟩
  · exact Or.inl ⟨hidle, hslot, fun w hw hw' => hnone w (hmem w hw hw') hw'⟩
  · exact Or.inr ⟨hone, v, List.mem_append_left _ hv, hslot, hloading,
      fun w hw hw' => honly w (hmem w hw hw') hw'⟩

/-- Step lemma: sequential requests stay one request. -/
theorem OneRequest.step {l l' : MainLoop Loading LoadingBlock} {x : LoopStep RequestEvent}
    (hstep : machine.step l x = some l') (hseq : Sequential l x) (h : OneRequest l) :
    OneRequest l' := by
  rcases l with ⟨⟨vc, out⟩, q, trapped⟩
  obtain rfl : trapped = false := h.trapped
  rcases MainLoop.step_cases hstep with ⟨-, ⟨e, o, rfl, ho, rfl⟩ | ⟨b, rest, rfl, hq, rfl⟩⟩
  · cases e with
    | start =>
        -- the screen was idle, so the new view is the only one
        rcases hseq rfl with ⟨hout, hqueue⟩
        obtain rfl : out = 0 := hout
        obtain rfl : q = [] := hqueue
        obtain rfl := Option.some.inj ho
        rcases h.phase with ⟨-, -, hnone⟩ | ⟨hone, -⟩
        · exact OneRequest.start h.fresh hnone
        · cases hone
    | answer =>
        cases out with
        | zero => cases ho
        | succ n =>
            obtain rfl := Option.some.inj ho
            -- the request moves from `outstanding` to the queue
            rcases h.phase with ⟨⟨hout, -⟩, -⟩ | ⟨hone, hslot⟩
            · cases hout
            · refine ⟨rfl, h.fresh, Or.inr ⟨?_, hslot⟩⟩
              simp only [MainLoop.absorb_ok, List.length_append, List.length_singleton] at hone ⊢
              omega
    | showEmptyState message =>
        obtain rfl := Option.some.inj ho
        rw [MainLoop.absorb_ok, List.append_nil]
        exact h.showEmptyState message
  · -- the dismiss block runs, and no other request is under way
    obtain rfl : q = b :: rest := hq
    rcases h.phase with ⟨⟨-, hqueue⟩, -⟩ | ⟨hone, v, hv, hslot, -, honly⟩
    · cases hqueue
    · simp only [List.length_cons] at hone
      obtain rfl : rest = [] := List.eq_nil_of_length_eq_zero (by omega)
      obtain rfl : out = 0 := by omega
      rcases dismissBlock_noOverlay hslot honly with ⟨vc', hvc', hnone, hslot'⟩
      have hblock : handlers.block ⟨vc, 0⟩ b = .ok ⟨vc', 0⟩ [] := by
        cases b
        show (match vc.dismissBlock with
          | some vc => Outcome.ok { vc, outstanding := 0 : Loading } []
          | none => .trap) = _
        rw [hvc']
      show OneRequest (MainLoop.absorb _ [] (handlers.block ⟨vc, 0⟩ b))
      rw [hblock]
      refine ⟨rfl, ?_, Or.inl ⟨⟨rfl, rfl⟩, hslot', hnone⟩⟩
      rw [dismissBlock, hslot] at hvc'
      rw [← Option.some.inj hvc']
      exact h.fresh.remove v

/-! ## Overlapping requests -/

/-- The screen has crashed, or a loading view is lost. -/
def Lost (l : MainLoop Loading LoadingBlock) : Prop :=
  l.trapped = true ∨ (l.state.vc.Fresh ∧ l.state.vc.Orphaned)

/-- A request that starts while another one is under way orphans its view. -/
theorem OneRequest.overlap {l l' : MainLoop Loading LoadingBlock} {x : LoopStep RequestEvent}
    (hstep : machine.step l x = some l') (hover : ¬ Sequential l x) (h : OneRequest l) :
    Lost l' := by
  unfold Sequential at hover
  rw [Classical.not_imp] at hover
  rcases hover with ⟨rfl, hidle⟩
  rcases h.phase with ⟨hidle', -⟩ | ⟨-, v, hv, hslot, hloading, -⟩
  · exact absurd hidle' hidle
  · have hstep' : MainLoop.step handlers l (.event .start) = some l' := hstep
    rcases MainLoop.step_cases hstep' with ⟨-, ⟨e, o, he, ho, rfl⟩ | ⟨b, rest, hx, -⟩⟩
    · obtain rfl := LoopStep.event.inj he
      obtain rfl := Option.some.inj ho
      right
      refine ⟨h.fresh.addNew .loading, v, List.mem_append_left _ hv, hloading, ?_⟩
      intro hslot'
      have hlt := h.fresh v hv
      rw [← Option.some.inj hslot'] at hlt
      exact Nat.lt_irrefl _ hlt
    · cases hx

/-- Step lemma: what is lost stays lost. -/
theorem Lost.step {l l' : MainLoop Loading LoadingBlock} {x : LoopStep RequestEvent}
    (hstep : machine.step l x = some l') (h : Lost l) : Lost l' := by
  rcases l with ⟨⟨vc, out⟩, q, trapped⟩
  rcases MainLoop.step_cases hstep with
    ⟨htrapped, ⟨e, o, rfl, ho, rfl⟩ | ⟨b, rest, rfl, hq, rfl⟩⟩
  · rcases h with h | ⟨hfresh, horphan⟩
    · exact absurd (h.symm.trans htrapped) (by decide)
    cases e with
    | start =>
        obtain rfl := Option.some.inj ho
        exact Or.inr ⟨hfresh.addNew .loading, horphan.showLoadingView hfresh⟩
    | answer =>
        cases out with
        | zero => cases ho
        | succ n =>
            obtain rfl := Option.some.inj ho
            exact Or.inr ⟨hfresh, horphan⟩
    | showEmptyState message =>
        obtain rfl := Option.some.inj ho
        exact Or.inr ⟨hfresh.addNew _, horphan.addNew _⟩
  · rcases h with h | ⟨hfresh, horphan⟩
    · exact absurd (h.symm.trans htrapped) (by decide)
    -- the block crashes, or removes the view in the slot, which is not the lost one
    cases b
    show Lost (MainLoop.absorb _ rest (match vc.dismissBlock with
      | some vc => Outcome.ok { vc, outstanding := out : Loading } []
      | none => .trap))
    cases hvc' : vc.dismissBlock with
    | none => exact Or.inl rfl
    | some vc' =>
        right
        refine ⟨?_, horphan.dismissBlock hvc'⟩
        unfold FLDataLoadingVC.dismissBlock at hvc'
        split at hvc'
        · rw [← Option.some.inj hvc']
          exact hfresh.remove _
        · cases hvc'

/-- In a run that ends with a crash or on an idle screen, the loading view is
handled properly throughout exactly when every request started on an idle
screen. -/
theorem uncovered_iff_sequential {l₀ l : MainLoop Loading LoadingBlock}
    {xs : List (LoopStep RequestEvent)} (hinit : Initial l₀)
    (hrun : machine.run l₀ xs = some l) (hend : l.trapped = true ∨ Idle l) :
    machine.Along (fun _ _ l' => Uncovered l') l₀ xs ↔
      machine.Along (fun l x _ => Sequential l x) l₀ xs := by
  have hone : OneRequest l₀ := OneRequest.init hinit
  constructor
  · intro huncovered
    by_contra hnot
    have hlost : Lost l := EventMachine.run_violation
      (fun _ _ _ hstep hseq hinv => hinv.step hstep hseq)
      (fun _ _ _ hstep hover hinv => hinv.overlap hstep hover)
      (fun _ _ _ hstep hbad => hbad.step hstep) hrun hone hnot
    rcases huncovered.last hrun hone.uncovered with ⟨htrapped, hnone⟩
    -- a crash was excluded, and a lost view still covers the idle screen
    rcases hlost with hlost | ⟨-, horphan⟩
    · rw [htrapped] at hlost
      cases hlost
    · rcases hend with hend | hidle
      · rw [htrapped] at hend
        cases hend
      · exact horphan.not_noOverlay (hnone hidle)
  · intro hseq
    refine hseq.of_invariant ?_ hone
    intro s x s' hstep hx hinv
    have hinv' := hinv.step hstep hx
    exact ⟨hinv'.uncovered, hinv'⟩

/-- A screen with nothing on it. -/
def blank : MainLoop Loading LoadingBlock := .start ⟨⟨[], none, 0⟩, 0⟩ []

theorem blank_initial : Initial blank := by
  refine ⟨rfl, rfl, ?_, ?_, rfl, rfl⟩
  · intro v hv
    cases hv
  · intro v hv
    cases hv

/-- Two requests overlap: the second dismiss block unwraps nil. -/
theorem overlapping_requests_crash :
    ∃ l, machine.run blank [.event .start, .event .start, .event .answer, .event .answer,
        .block, .block] = some l ∧
      l.trapped = true ∧ ¬ Uncovered l := by
  refine ⟨_, rfl, rfl, ?_⟩
  rintro ⟨htrapped, -⟩
  cases htrapped

/-- Two requests, one after the other. -/
theorem sequential_requests_uncovered :
    machine.Along (fun _ _ l' => Uncovered l') blank
      [.event .start, .event .answer, .block, .event .start, .event .answer, .block] := by
  have hidle : Idle (.start ⟨⟨[], none, 2⟩, 0⟩ []) := ⟨rfl, rfl⟩
  refine (uncovered_iff_sequential blank_initial rfl (Or.inr hidle)).2 ?_
  intro l₁ h₁
  obtain rfl := Option.some.inj h₁
  refine ⟨fun _ => ⟨rfl, rfl⟩, ?_⟩
  intro l₂ h₂
  obtain rfl := Option.some.inj h₂
  refine ⟨nofun, ?_⟩
  intro l₃ h₃
  obtain rfl := Option.some.inj h₃
  refine ⟨nofun, ?_⟩
  intro l₄ h₄
  obtain rfl := Option.some.inj h₄
  refine ⟨fun _ => ⟨rfl, rfl⟩, ?_⟩
  intro l₅ h₅
  obtain rfl := Option.some.inj h₅
  refine ⟨nofun, ?_⟩
  intro l₆ h₆
  exact ⟨nofun, trivial⟩

end FLDataLoadingVC

end FancyLife
