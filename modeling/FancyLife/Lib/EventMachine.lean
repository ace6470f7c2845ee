import Mathlib.Data.List.Basic
import Mathlib.Tactic.Common

/-! # Event machines

A machine has initial states and a partial step: `step s e = none` says that
the event `e` cannot happen in `s`. A run is a list of events. The rules carry
an invariant along a run, or along a run whose steps meet a condition.
-/

/-- A machine driven by events. -/
structure EventMachine (σ ε : Type*) where
  init : σ → Prop
  step : σ → ε → Option σ

namespace EventMachine

variable {σ ε ω : Type*} (M : EventMachine σ ε)

/-- Run a list of events; `none` if one of them cannot happen. -/
def run : σ → List ε → Option σ
  | s, [] => some s
  | s, e :: es => (M.step s e).bind fun s' => run s' es

@[simp] theorem run_nil (s : σ) : M.run s [] = some s := rfl

@[simp] theorem run_cons (s : σ) (e : ε) (es : List ε) :
    M.run s (e :: es) = (M.step s e).bind fun s' => M.run s' es := rfl

theorem run_append (s : σ) (es fs : List ε) :
    M.run s (es ++ fs) = (M.run s es).bind fun s' => M.run s' fs := by
  induction es generalizing s with
  | nil => rfl
  | cons e es ih =>
      cases h : M.step s e with
      | none => simp [h]
      | some s' => simp [h, ih]

/-- A run of `e :: es` takes the step `e` and then runs `es`. -/
theorem run_cons_eq_some {s s' : σ} {e : ε} {es : List ε} :
    M.run s (e :: es) = some s' ↔ ∃ t, M.step s e = some t ∧ M.run t es = some s' := by
  simp [Option.bind_eq_some_iff]

/-- Every step that the run takes satisfies `P`. -/
def Along (P : σ → ε → σ → Prop) : σ → List ε → Prop
  | _, [] => True
  | s, e :: es => ∀ s', M.step s e = some s' → P s e s' ∧ Along P s' es

theorem along_cons_of_none {P : σ → ε → σ → Prop} {s : σ} {e : ε} (es : List ε)
    (h : M.step s e = none) : M.Along P s (e :: es) := by
  intro s' hs'
  rw [h] at hs'
  cases hs'

theorem along_cons_of_some {P : σ → ε → σ → Prop} {s t : σ} {e : ε} (es : List ε)
    (h : M.step s e = some t) : M.Along P s (e :: es) ↔ P s e t ∧ M.Along P t es := by
  constructor
  · intro halong
    exact halong t h
  · intro hand s' hs'
    obtain rfl := Option.some.inj (h.symm.trans hs')
    exact hand

/-- A decidable condition on the steps is decidable along a run. -/
instance decidableAlong (P : σ → ε → σ → Prop) [∀ s e s', Decidable (P s e s')] :
    ∀ s es, Decidable (M.Along P s es)
  | _, [] => isTrue trivial
  | s, e :: es =>
      match h : M.step s e with
      | none => isTrue (along_cons_of_none M es h)
      | some t =>
          have := decidableAlong P t es
          decidable_of_iff _ (along_cons_of_some M es h).symm

/-- What the steps of a run put out. -/
def trace (out : σ → ε → List ω) : σ → List ε → List ω
  | _, [] => []
  | s, e :: es => out s e ++ (M.step s e).elim [] fun s' => trace out s' es

/-- The states that some run from an initial state ends in. -/
def Reachable (s : σ) : Prop :=
  ∃ s₀ es, M.init s₀ ∧ M.run s₀ es = some s

variable {M}

/-- Invariant rule: what every step preserves, every run preserves. -/
theorem run_invariant {inv : σ → Prop}
    (hstep : ∀ s e s', M.step s e = some s' → inv s → inv s')
    {s s' : σ} {es : List ε} (hrun : M.run s es = some s') (hinv : inv s) : inv s' := by
  induction es generalizing s with
  | nil =>
      rw [run_nil, Option.some.injEq] at hrun
      exact hrun ▸ hinv
  | cons e es ih =>
      rcases (M.run_cons_eq_some).1 hrun with ⟨t, ht, hrest⟩
      exact ih hrest (hstep s e t ht hinv)

/-- Invariant rule for runs whose steps meet a condition. -/
theorem run_invariant_along {P : σ → ε → σ → Prop} {inv : σ → Prop}
    (hstep : ∀ s e s', M.step s e = some s' → P s e s' → inv s → inv s')
    {s s' : σ} {es : List ε} (hrun : M.run s es = some s')
    (halong : M.Along P s es) (hinv : inv s) : inv s' := by
  induction es generalizing s with
  | nil =>
      rw [run_nil, Option.some.injEq] at hrun
      exact hrun ▸ hinv
  | cons e es ih =>
      rcases (M.run_cons_eq_some).1 hrun with ⟨t, ht, hrest⟩
      rcases halong t ht with ⟨hP, htail⟩
      exact ih hrest htail (hstep s e t ht hP hinv)

/-- Invariant rule for a state together with the events so far. -/
theorem history_invariant {inv : σ → List ε → Prop}
    (hstep : ∀ s e s' past, M.step s e = some s' → inv s past → inv s' (past ++ [e]))
    {s s' : σ} {es past : List ε} (hrun : M.run s es = some s') (hinv : inv s past) :
    inv s' (past ++ es) := by
  induction es generalizing s past with
  | nil =>
      rw [run_nil, Option.some.injEq] at hrun
      rw [List.append_nil]
      exact hrun ▸ hinv
  | cons e es ih =>
      rcases (M.run_cons_eq_some).1 hrun with ⟨t, ht, hrest⟩
      have hnext := ih hrest (hstep s e t past ht hinv)
      rw [List.append_assoc] at hnext
      exact hnext

/-- Invariant rule for reachable states. -/
theorem reachable_invariant {inv : σ → Prop}
    (hinit : ∀ s, M.init s → inv s)
    (hstep : ∀ s e s', M.step s e = some s' → inv s → inv s')
    {s : σ} (hs : M.Reachable s) : inv s := by
  rcases hs with ⟨s₀, es, hs₀, hrun⟩
  exact run_invariant hstep hrun (hinit s₀ hs₀)

/-- A run whose steps meet `P`, and an invariant with which `P` gives `Q`. -/
theorem Along.of_invariant {P Q : σ → ε → σ → Prop} {inv : σ → Prop}
    (hstep : ∀ s e s', M.step s e = some s' → P s e s' → inv s → Q s e s' ∧ inv s')
    {s : σ} {es : List ε} (halong : M.Along P s es) (hinv : inv s) : M.Along Q s es := by
  induction es generalizing s with
  | nil => trivial
  | cons e es ih =>
      intro s' hs'
      rcases halong s' hs' with ⟨hP, htail⟩
      rcases hstep s e s' hs' hP hinv with ⟨hQ, hinv'⟩
      exact ⟨hQ, ih htail hinv'⟩

/-- The second part of a run. -/
theorem Along.of_append {P : σ → ε → σ → Prop} {s t : σ} {es fs : List ε}
    (halong : M.Along P s (es ++ fs)) (hrun : M.run s es = some t) : M.Along P t fs := by
  induction es generalizing s with
  | nil =>
      rw [run_nil, Option.some.injEq] at hrun
      exact hrun ▸ halong
  | cons e es ih =>
      rcases (M.run_cons_eq_some).1 hrun with ⟨s', hs', hrest⟩
      exact ih (halong s' hs').2 hrest

/-- A condition on the events of a run holds along it. -/
theorem along_of_forall {P : ε → Prop} {s : σ} {es : List ε} (h : ∀ e ∈ es, P e) :
    M.Along (fun _ e _ => P e) s es := by
  induction es generalizing s with
  | nil => trivial
  | cons e es ih =>
      intro s' _
      exact ⟨h e List.mem_cons_self, ih fun f hf => h f (List.mem_cons_of_mem e hf)⟩

theorem Along.and {P Q : σ → ε → σ → Prop} {s : σ} {es : List ε} (hP : M.Along P s es)
    (hQ : M.Along Q s es) : M.Along (fun s e s' => P s e s' ∧ Q s e s') s es := by
  induction es generalizing s with
  | nil => trivial
  | cons e es ih =>
      intro s' hs'
      rcases hP s' hs' with ⟨hPs, hPtail⟩
      rcases hQ s' hs' with ⟨hQs, hQtail⟩
      exact ⟨⟨hPs, hQs⟩, ih hPtail hQtail⟩

/-- Along a run whose steps meet `A`, two conditions that agree on such steps under
an invariant are equivalent. -/
theorem Along.congr {A P Q : σ → ε → σ → Prop} {inv : σ → Prop}
    (hiff : ∀ s e s', M.step s e = some s' → A s e s' → inv s → (P s e s' ↔ Q s e s'))
    (hinv : ∀ s e s', M.step s e = some s' → A s e s' → P s e s' → inv s → inv s')
    {s : σ} {es : List ε} (halong : M.Along A s es) (hs : inv s) :
    M.Along P s es ↔ M.Along Q s es := by
  constructor
  · intro hP
    refine (hP.and halong).of_invariant ?_ hs
    rintro s e s' hstep ⟨hPs, hA⟩ h
    exact ⟨(hiff s e s' hstep hA h).1 hPs, hinv s e s' hstep hA hPs h⟩
  · intro hQ
    refine (hQ.and halong).of_invariant ?_ hs
    rintro s e s' hstep ⟨hQs, hA⟩ h
    have hPs := (hiff s e s' hstep hA h).2 hQs
    exact ⟨hPs, hinv s e s' hstep hA hPs h⟩

/-- Two conditions that agree under an invariant hold along the same runs. -/
theorem along_iff {P Q : σ → ε → σ → Prop} {inv : σ → Prop}
    (hiff : ∀ s e s', M.step s e = some s' → inv s → (P s e s' ↔ Q s e s'))
    (hinv : ∀ s e s', M.step s e = some s' → P s e s' → inv s → inv s')
    {s : σ} {es : List ε} (hs : inv s) : M.Along P s es ↔ M.Along Q s es := by
  have halong : M.Along (fun _ _ _ => True) s es := along_of_forall fun _ _ => trivial
  exact halong.congr (fun s e s' hstep _ h => hiff s e s' hstep h)
    (fun s e s' hstep _ hP h => hinv s e s' hstep hP h) hs

/-- Two conditions that agree at every step hold along the same runs. -/
theorem along_iff_of_step {P Q : σ → ε → σ → Prop}
    (hiff : ∀ s e s', M.step s e = some s' → (P s e s' ↔ Q s e s')) {s : σ} {es : List ε} :
    M.Along P s es ↔ M.Along Q s es := by
  have hinv : ∀ s e s', M.step s e = some s' → P s e s' → True → True := fun _ _ _ _ _ h => h
  exact along_iff (fun s e s' hstep _ => hiff s e s' hstep) hinv trivial

/-- Invariant rule for a state together with the trace of the run so far. -/
theorem trace_invariant {out : σ → ε → List ω} {P : σ → ε → σ → Prop}
    {inv : σ → List ω → Prop}
    (hstep : ∀ s e s' log, M.step s e = some s' → P s e s' → inv s log →
      inv s' (log ++ out s e))
    {s s' : σ} {es : List ε} {log : List ω} (hrun : M.run s es = some s')
    (halong : M.Along P s es) (hinv : inv s log) : inv s' (log ++ M.trace out s es) := by
  induction es generalizing s log with
  | nil =>
      rw [run_nil, Option.some.injEq] at hrun
      rw [trace, List.append_nil]
      exact hrun ▸ hinv
  | cons e es ih =>
      rcases (M.run_cons_eq_some).1 hrun with ⟨t, ht, hrest⟩
      rcases halong t ht with ⟨hP, htail⟩
      have hnext := ih hrest htail (hstep s e t log ht hP hinv)
      rw [trace, ht, ← List.append_assoc]
      exact hnext

/-- What holds before a run and after each of its steps holds at its end. -/
theorem Along.last {Q : σ → Prop} {s s' : σ} {es : List ε}
    (halong : M.Along (fun _ _ t => Q t) s es) (hrun : M.run s es = some s') (hs : Q s) :
    Q s' := by
  have hstep : ∀ t e t', M.step t e = some t' → Q t' → Q t → Q t' := fun _ _ _ _ hQ _ => hQ
  exact run_invariant_along hstep hrun halong hs

/-- Violation rule: a run that leaves `P` once ends badly, when the first
violation is bad and nothing repairs it. -/
theorem run_violation {P : σ → ε → σ → Prop} {inv bad : σ → Prop}
    (hstep : ∀ s e s', M.step s e = some s' → P s e s' → inv s → inv s')
    (hfirst : ∀ s e s', M.step s e = some s' → ¬ P s e s' → inv s → bad s')
    (hbad : ∀ s e s', M.step s e = some s' → bad s → bad s')
    {s s' : σ} {es : List ε} (hrun : M.run s es = some s') (hinv : inv s)
    (hnot : ¬ M.Along P s es) : bad s' := by
  induction es generalizing s with
  | nil => exact absurd trivial hnot
  | cons e es ih =>
      rcases (M.run_cons_eq_some).1 hrun with ⟨t, ht, hrest⟩
      by_cases hP : P s e t
      · refine ih hrest (hstep s e t ht hP hinv) ?_
        -- the violation is in the rest of the run
        intro htail
        apply hnot
        intro t' ht'
        obtain rfl := Option.some.inj (ht.symm.trans ht')
        exact ⟨hP, htail⟩
      · exact run_invariant hbad hrest (hfirst s e t ht hP hinv)

/-- Progress rule: when outside the goal some allowed events lower a measure and
keep the invariant, allowed events lead to the goal. -/
theorem exists_run_of_progress {inv goal : σ → Prop} {allowed : ε → Prop} (measure : σ → Nat)
    (hprogress : ∀ s, inv s → ¬ goal s → ∃ es s', (∀ e ∈ es, allowed e) ∧
      M.run s es = some s' ∧ inv s' ∧ measure s' < measure s)
    {s : σ} (hs : inv s) :
    ∃ es s', (∀ e ∈ es, allowed e) ∧ M.run s es = some s' ∧ inv s' ∧ goal s' := by
  generalize hn : measure s = n
  induction n using Nat.strongRecOn generalizing s with
  | ind n ih =>
      by_cases hgoal : goal s
      · refine ⟨[], s, ?_, rfl, hs, hgoal⟩
        intro e he
        cases he
      · rcases hprogress s hs hgoal with ⟨es, t, hallowed, hrun, ht, hlt⟩
        rcases ih (measure t) (hn ▸ hlt) ht rfl with ⟨fs, s', hallowed', hrun', hs', hgoal'⟩
        refine ⟨es ++ fs, s', ?_, ?_, hs', hgoal'⟩
        · intro e he
          rcases List.mem_append.1 he with he | he
          · exact hallowed e he
          · exact hallowed' e he
        · rw [M.run_append, hrun]
          exact hrun'

end EventMachine
