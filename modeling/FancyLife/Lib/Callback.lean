import FancyLife.Lib.EventMachine
import Mathlib.Algebra.GroupWithZero.Nat
import Mathlib.Data.List.Perm.Basic

/-! # Callback code

Code that asks questions of a service and goes on at once: each answer comes
later and runs the callback that was passed with the question. `Code.eval` is
what the code reports when the service answers by `answer`; the session machine
below lets the outstanding answers arrive in any order, and
`reports_perm_eval` says that the order only permutes the reports.
-/

/-- Callback code over questions `Q`, answers `A` and reports `R`. -/
inductive Code (Q A R : Type) where
  | done
  | trap
  | report (r : R) (next : Code Q A R)
  | ask (q : Q) (callback : A → Code Q A R) (next : Code Q A R)

namespace Code

variable {Q A R : Type}

/-- Run one piece of code after another. -/
def append : Code Q A R → Code Q A R → Code Q A R
  | .done, d => d
  | .trap, _ => .trap
  | .report r k, d => .report r (k.append d)
  | .ask q cb k, d => .ask q cb (k.append d)

instance : Append (Code Q A R) := ⟨append⟩

variable (answer : Q → A)

/-- No trap is reached when the service answers by `answer`. -/
def TrapFree : Code Q A R → Prop
  | .done => True
  | .trap => False
  | .report _ k => TrapFree k
  | .ask q cb k => TrapFree (cb (answer q)) ∧ TrapFree k

/-- The reports made before the code returns to its caller, followed by those
of the callbacks. -/
def eval : Code Q A R → List R
  | .done => []
  | .trap => []
  | .report r k => r :: eval k
  | .ask q cb k => eval k ++ eval (cb (answer q))

/-- How many questions the code asks, callbacks included. -/
def weight : Code Q A R → Nat
  | .done => 0
  | .trap => 0
  | .report _ k => weight k
  | .ask q cb k => weight k + weight (cb (answer q)) + 1

end Code

/-- The questions that are not answered yet, with their callbacks, and the
reports made so far. -/
structure Session (Q A R : Type) where
  pending : List (Q × (A → Code Q A R))
  reports : List R
  trapped : Bool

namespace Session

variable {Q A R : Type} (answer : Q → A)

/-- Run code until it returns to its caller. -/
def exec : Code Q A R → Session Q A R → Session Q A R
  | .done, s => s
  | .trap, s => { s with pending := [], trapped := true }
  | .report r k, s => exec k { s with reports := s.reports ++ [r] }
  | .ask q cb k, s => exec k { s with pending := s.pending ++ [(q, cb)] }

/-- The session of a call that has just returned to its caller. -/
def start (c : Code Q A R) : Session Q A R := exec c ⟨[], [], false⟩

/-- The answer to the `i`-th outstanding question arrives. -/
def step (s : Session Q A R) (i : Nat) : Option (Session Q A R) :=
  match s.pending[i]? with
  | some (q, cb) => some (exec (cb (answer q)) { s with pending := s.pending.eraseIdx i })
  | none => none

/-- The session machine of one call. -/
def machine (c : Code Q A R) : EventMachine (Session Q A R) Nat where
  init s := s = start c
  step := step answer

/-- Every issued question has been answered. -/
def Finished (s : Session Q A R) : Prop := s.pending = []

/-- In every order of the answers the call reports exactly once: some order
answers every issued question, and each that does leaves one report. -/
def ReportsOnce (c : Code Q A R) : Prop :=
  (∃ is s, (machine answer c).run (start c) is = some s ∧ s.Finished) ∧
  ∀ is s, (machine answer c).run (start c) is = some s → s.Finished → s.reports.length = 1

/-- In no order of the answers is a trap reached. -/
def NeverTraps (c : Code Q A R) : Prop :=
  ∀ is s, (machine answer c).run (start c) is = some s → s.trapped = false

/-! ## What is still to come -/

/-- The reports of the outstanding callbacks. -/
def later (p : List (Q × (A → Code Q A R))) : List R :=
  p.flatMap fun qc => (qc.2 (answer qc.1)).eval answer

/-- The questions that the outstanding callbacks will ask, themselves included. -/
def load (p : List (Q × (A → Code Q A R))) : Nat :=
  (p.map fun qc => (qc.2 (answer qc.1)).weight answer + 1).sum

/-- No outstanding callback traps. -/
def Safe (s : Session Q A R) : Prop :=
  s.trapped = false ∧ ∀ qc ∈ s.pending, (qc.2 (answer qc.1)).TrapFree answer

/-- The session still has the reports `rs` to make or has made them, up to order. -/
def Owes (s : Session Q A R) (rs : List R) : Prop :=
  (s.reports ++ later answer s.pending).Perm rs

/-- Running code moves its reports and callbacks into the session. -/
theorem exec_spec {c : Code Q A R} (hc : c.TrapFree answer) {s : Session Q A R}
    (hs : s.Safe answer) :
    (exec c s).Safe answer ∧
      (exec c s).Owes answer (s.reports ++ later answer s.pending ++ c.eval answer) ∧
      load answer (exec c s).pending = load answer s.pending + c.weight answer := by
  induction c generalizing s with
  | done => exact ⟨hs, by simp [exec, Code.eval, Owes], by simp [exec, Code.weight]⟩
  | trap => exact hc.elim
  | report r k ih =>
      have hs' : Safe answer { s with reports := s.reports ++ [r] } := hs
      rcases ih hc hs' with ⟨h1, h2, h3⟩
      refine ⟨h1, h2.trans ?_, h3⟩
      -- `r` moves past what is still outstanding
      have hmove : (r :: (later answer s.pending ++ k.eval answer)).Perm
          (later answer s.pending ++ r :: k.eval answer) := List.perm_middle.symm
      simp only [Code.eval, List.append_assoc]
      exact List.Perm.append_left _ hmove
  | ask q cb k _ ih =>
      have hs' : Safe answer { s with pending := s.pending ++ [(q, cb)] } := by
        constructor
        · exact hs.1
        · intro qc hqc
          rcases List.mem_append.1 hqc with h | h
          · exact hs.2 qc h
          · rw [List.mem_singleton.1 h]
            exact hc.1
      rcases ih hc.2 hs' with ⟨h1, h2, h3⟩
      -- the callback reports after what the rest of the code reports
      refine ⟨h1, h2.trans ?_, ?_⟩
      · simp only [Code.eval, later, List.flatMap_append, List.flatMap_singleton,
          List.append_assoc]
        exact List.Perm.append_left _ (List.Perm.append_left _ List.perm_append_comm)
      · rw [exec, h3]
        simp only [load, Code.weight, List.map_append, List.sum_append, List.map_singleton,
          List.sum_singleton]
        omega

/-- An answer moves one callback's reports from later to now. -/
theorem step_spec {s s' : Session Q A R} {i : Nat} (h : step answer s i = some s')
    (hs : s.Safe answer) :
    s'.Safe answer ∧ s'.Owes answer (s.reports ++ later answer s.pending) ∧
      load answer s'.pending + 1 = load answer s.pending := by
  unfold step at h
  split at h
  swap
  · cases h
  rename_i q cb hi
  obtain rfl := Option.some.inj h
  rcases List.getElem?_eq_some_iff.1 hi with ⟨hlt, hget⟩
  have hmem : (q, cb) ∈ s.pending := hget ▸ List.getElem_mem hlt
  -- the callback that runs was one of the outstanding ones
  have hperm : s.pending.Perm ((q, cb) :: s.pending.eraseIdx i) :=
    hget ▸ (List.getElem_cons_eraseIdx_perm hlt).symm
  have hs' : Safe answer { s with pending := s.pending.eraseIdx i } :=
    ⟨hs.1, fun qc hqc => hs.2 qc (List.mem_of_mem_eraseIdx hqc)⟩
  rcases exec_spec answer (hs.2 _ hmem) hs' with ⟨h1, h2, h3⟩
  refine ⟨h1, h2.trans ?_, ?_⟩
  · have hlater : (later answer s.pending).Perm
        ((cb (answer q)).eval answer ++ later answer (s.pending.eraseIdx i)) :=
      hperm.flatMap_right _
    rw [List.append_assoc]
    exact List.Perm.append_left _ (List.perm_append_comm.trans hlater.symm)
  · have hload := (hperm.map fun qc => (qc.2 (answer qc.1)).weight answer + 1).sum_nat
    simp only [List.map_cons, List.sum_cons] at hload
    simp only [load] at h3 ⊢
    omega

/-- The start of a call that does not trap. -/
theorem start_spec {c : Code Q A R} (hc : c.TrapFree answer) :
    (start c).Safe answer ∧ (start c).Owes answer (c.eval answer) := by
  have hempty : Safe answer (⟨[], [], false⟩ : Session Q A R) := ⟨rfl, by simp⟩
  rcases exec_spec answer hc hempty with ⟨h1, h2, -⟩
  refine ⟨h1, ?_⟩
  unfold start
  simpa [later] using h2

/-! ## Rules -/

/-- At any time the call owes exactly the reports of `eval`. -/
theorem run_owes {c : Code Q A R} (hc : c.TrapFree answer) {is : List Nat}
    {s : Session Q A R} (hrun : (machine answer c).run (start c) is = some s) :
    s.Safe answer ∧ s.Owes answer (c.eval answer) := by
  have hstep : ∀ s i s', (machine answer c).step s i = some s' →
      s.Safe answer ∧ s.Owes answer (c.eval answer) →
      s'.Safe answer ∧ s'.Owes answer (c.eval answer) := by
    intro s i s' h hinv
    rcases step_spec answer h hinv.1 with ⟨h1, h2, -⟩
    exact ⟨h1, h2.trans hinv.2⟩
  exact EventMachine.run_invariant hstep hrun (start_spec answer hc)

/-- Running code makes its own reports only, now or later. -/
theorem mem_of_mem_exec {c : Code Q A R} {s : Session Q A R} {r : R}
    (h : r ∈ (exec c s).reports ++ later answer (exec c s).pending) :
    r ∈ s.reports ++ later answer s.pending ++ c.eval answer := by
  induction c generalizing s with
  | done => exact List.mem_append_left _ h
  | trap =>
      -- what was outstanding is lost
      have hreports : r ∈ s.reports := by simpa [exec, later] using h
      exact List.mem_append_left _ (List.mem_append_left _ hreports)
  | report q k ih =>
      have := ih h
      simp only [List.mem_append, Code.eval, List.mem_cons] at this ⊢
      tauto
  | ask q cb k _ ih =>
      have := ih h
      simp only [later, List.flatMap_append, List.flatMap_singleton, List.mem_append,
        Code.eval] at this ⊢
      tauto

/-- A report made so far is one of `eval`, whether or not the call traps. -/
theorem mem_eval_of_mem_reports {c : Code Q A R} {is : List Nat} {s : Session Q A R}
    (hrun : (machine answer c).run (start c) is = some s) {r : R} (hr : r ∈ s.reports) :
    r ∈ c.eval answer := by
  have hstep : ∀ s i s', (machine answer c).step s i = some s' →
      (∀ r ∈ s.reports ++ later answer s.pending, r ∈ c.eval answer) →
      ∀ r ∈ s'.reports ++ later answer s'.pending, r ∈ c.eval answer := by
    intro s i s' h hinv r hr
    change step answer s i = some s' at h
    unfold step at h
    split at h
    swap
    · cases h
    rename_i q cb hi
    obtain rfl := Option.some.inj h
    have hmem : (q, cb) ∈ s.pending := List.mem_of_getElem? hi
    apply hinv
    -- the callback that ran was outstanding, with all its reports
    rcases List.mem_append.1 (mem_of_mem_exec answer hr) with hr | hr
    · rcases List.mem_append.1 hr with hr | hr
      · exact List.mem_append_left _ hr
      · rcases List.mem_flatMap.1 hr with ⟨qc, hqc, hr⟩
        exact List.mem_append_right _
          (List.mem_flatMap.2 ⟨qc, List.mem_of_mem_eraseIdx hqc, hr⟩)
    · exact List.mem_append_right _ (List.mem_flatMap.2 ⟨_, hmem, hr⟩)
  refine EventMachine.run_invariant hstep hrun ?_ r (List.mem_append_left _ hr)
  intro r hr
  simpa [later] using mem_of_mem_exec answer hr

/-- When all answers have arrived, in whatever order, the reports are those of
`eval` up to order, and nothing has trapped. -/
theorem reports_perm_eval {c : Code Q A R} (hc : c.TrapFree answer) {is : List Nat}
    {s : Session Q A R} (hrun : (machine answer c).run (start c) is = some s)
    (hfin : s.Finished) : s.trapped = false ∧ s.reports.Perm (c.eval answer) := by
  have hinv := run_owes answer hc hrun
  refine ⟨hinv.1.1, ?_⟩
  have hp : s.pending = [] := hfin
  simpa [hp, later, Owes] using hinv.2

/-- The answers of a call that does not trap can all arrive: `load` of them. -/
theorem exists_finished {c : Code Q A R} (s : Session Q A R) (hs : s.Safe answer) :
    ∃ is s', (machine answer c).run s is = some s' ∧ s'.Finished := by
  generalize hn : load answer s.pending = n
  induction n generalizing s with
  | zero =>
      refine ⟨[], s, rfl, ?_⟩
      cases hp : s.pending with
      | nil => exact hp
      | cons qc p => simp [hp, load] at hn
  | succ n ih =>
      cases hp : s.pending with
      | nil => simp [hp, load] at hn
      | cons qc p =>
          -- answer the oldest question; `load` goes down by one
          have hstep : step answer s 0 =
              some (exec (qc.2 (answer qc.1)) { s with pending := s.pending.eraseIdx 0 }) := by
            simp [step, hp]
          rcases step_spec answer hstep hs with ⟨h1, -, h3⟩
          rcases ih _ h1 (by omega) with ⟨is, s', hrun, hfin⟩
          exact ⟨0 :: is, s', ((machine answer c).run_cons_eq_some).2 ⟨_, hstep, hrun⟩, hfin⟩

/-- A call that does not trap reports once, in every order of the answers, if
and only if it evaluates to one report. -/
theorem reportsOnce_iff {c : Code Q A R} (hc : c.TrapFree answer) :
    ReportsOnce answer c ↔ (c.eval answer).length = 1 := by
  constructor
  · rintro ⟨⟨is, s, hrun, hfin⟩, hall⟩
    rw [← (reports_perm_eval answer hc hrun hfin).2.length_eq]
    exact hall is s hrun hfin
  · intro h
    refine ⟨exists_finished answer _ (start_spec answer hc).1, ?_⟩
    intro is s hrun hfin
    rw [(reports_perm_eval answer hc hrun hfin).2.length_eq, h]

/-- A callback that is outstanding stays so while other code runs. -/
theorem mem_pending_exec {c : Code Q A R} (hc : c.TrapFree answer) {s : Session Q A R}
    {qc : Q × (A → Code Q A R)} (h : qc ∈ s.pending) : qc ∈ (exec c s).pending := by
  induction c generalizing s with
  | done => exact h
  | trap => exact hc.elim
  | report r k ih => exact ih hc h
  | ask q cb k _ ih => exact ih hc.2 (List.mem_append_left _ h)

/-- Code that is not free of traps can be brought to one: its own, or that of
the first callback that has one. -/
theorem exists_trapped {c c₀ : Code Q A R} (hc : ¬ c.TrapFree answer) (s : Session Q A R) :
    ∃ is s', (machine answer c₀).run (exec c s) is = some s' ∧ s'.trapped = true := by
  induction c generalizing s with
  | done => exact absurd trivial hc
  | trap => exact ⟨[], _, rfl, rfl⟩
  | report r k ih => exact ih hc _
  | ask q cb k ihcb ih =>
      by_cases hk : k.TrapFree answer
      · have hcb : ¬ (cb (answer q)).TrapFree answer := fun h => hc ⟨h, hk⟩
        have hmem : (q, cb) ∈ (exec (.ask q cb k) s).pending :=
          mem_pending_exec answer hk (List.mem_append_right _ List.mem_cons_self)
        rcases List.mem_iff_getElem?.1 hmem with ⟨i, hi⟩
        -- its answer arrives next
        have hstep : (machine answer c₀).step (exec (.ask q cb k) s) i = some (exec
            (cb (answer q)) { exec (.ask q cb k) s with
              pending := (exec (.ask q cb k) s).pending.eraseIdx i }) := by
          simp [machine, step, hi]
        rcases ihcb (answer q) hcb _ with ⟨is, s', hrun, htrap⟩
        exact ⟨i :: is, s', ((machine answer c₀).run_cons_eq_some).2 ⟨_, hstep, hrun⟩, htrap⟩
      · exact ih hk _

/-- A call never traps, in any order of the answers, if and only if it is free
of traps. -/
theorem neverTraps_iff {c : Code Q A R} : NeverTraps answer c ↔ c.TrapFree answer := by
  constructor
  · intro hnever
    by_contra hc
    rcases exists_trapped answer hc ⟨[], [], false⟩ with ⟨is, s, hrun, htrap⟩
    have hfalse := hnever is s hrun
    rw [htrap] at hfalse
    cases hfalse
  · intro hc is s hrun
    exact (run_owes answer hc hrun).1.1

/-- Every finished run leaves the one report `r` if and only if the call
evaluates to it. -/
theorem finished_reports_iff {c : Code Q A R} (hc : c.TrapFree answer) (r : R) :
    (∀ is s, (machine answer c).run (start c) is = some s → s.Finished → s.reports = [r]) ↔
      c.eval answer = [r] := by
  constructor
  · intro hall
    rcases exists_finished answer (c := c) _ (start_spec answer hc).1 with ⟨is, s, hrun, hfin⟩
    have hperm := (reports_perm_eval answer hc hrun hfin).2
    rw [hall is s hrun hfin] at hperm
    exact List.singleton_perm.1 hperm |>.symm
  · intro heval is s hrun hfin
    have hperm := (reports_perm_eval answer hc hrun hfin).2
    rw [heval] at hperm
    exact List.perm_singleton.1 hperm

/-- A call that traps before it asks or reports anything never reports. -/
theorem not_reportsOnce_trap : ¬ ReportsOnce answer (.trap : Code Q A R) := by
  rintro ⟨-, hall⟩
  have h := hall [] (start .trap) rfl rfl
  simp [start, exec] at h

end Session
