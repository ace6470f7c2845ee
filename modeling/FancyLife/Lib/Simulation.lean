import FancyLife.Lib.EventMachine

/-! # Simulations

A concrete machine is simulated by an abstract one when every concrete step is
answered by a list of abstract events, the empty list for a step that the
abstract machine does not see. The rules carry runs, conditions on the steps and
what the steps put out from one machine to the other.
-/

/-- A simulation of `C` by `A`: `lift s e` is what the step `e` means to `A`. -/
structure Simulation {σ ε τ δ : Type*} (C : EventMachine σ ε) (A : EventMachine τ δ) where
  rel : σ → τ → Prop
  lift : σ → ε → List δ
  init : ∀ s, C.init s → ∃ t, A.init t ∧ rel s t
  step : ∀ s e s' t, C.step s e = some s' → rel s t →
    ∃ t', A.run t (lift s e) = some t' ∧ rel s' t'

namespace EventMachine

variable {σ ε ω : Type*} {M : EventMachine σ ε}

/-- The two parts of a run. -/
theorem along_append_iff {P : σ → ε → σ → Prop} {s t : σ} {es : List ε} (fs : List ε)
    (hrun : M.run s es = some t) :
    M.Along P s (es ++ fs) ↔ M.Along P s es ∧ M.Along P t fs := by
  induction es generalizing s with
  | nil =>
      rw [run_nil, Option.some.injEq] at hrun
      rw [List.nil_append, hrun]
      exact (and_iff_right trivial).symm
  | cons e es ih =>
      rcases (M.run_cons_eq_some).1 hrun with ⟨s', hs', hrest⟩
      rw [List.cons_append, along_cons_of_some M _ hs', along_cons_of_some M _ hs', ih hrest]
      exact and_assoc.symm

theorem trace_cons_of_some {out : σ → ε → List ω} {s s' : σ} {e : ε} (es : List ε)
    (h : M.step s e = some s') : M.trace out s (e :: es) = out s e ++ M.trace out s' es := by
  rw [trace, h]
  rfl

theorem trace_singleton (out : σ → ε → List ω) (s : σ) (e : ε) :
    M.trace out s [e] = out s e := by
  rw [trace]
  cases M.step s e with
  | none => exact List.append_nil _
  | some t => exact List.append_nil _

/-- The trace of a run in two parts. -/
theorem trace_append {out : σ → ε → List ω} {s t : σ} {es : List ε} (fs : List ε)
    (hrun : M.run s es = some t) :
    M.trace out s (es ++ fs) = M.trace out s es ++ M.trace out t fs := by
  induction es generalizing s with
  | nil =>
      rw [run_nil, Option.some.injEq] at hrun
      rw [hrun]
      rfl
  | cons e es ih =>
      rcases (M.run_cons_eq_some).1 hrun with ⟨s', hs', hrest⟩
      rw [List.cons_append, trace_cons_of_some _ hs', trace_cons_of_some _ hs', ih hrest,
        List.append_assoc]

end EventMachine

namespace Simulation

variable {σ ε τ δ : Type*} {C : EventMachine σ ε} {A : EventMachine τ δ} (f : Simulation C A)

/-- Run rule: a run of `C` is a run of `A` over the lifted events. -/
theorem run {s s' : σ} {t : τ} {es : List ε} (hrun : C.run s es = some s') (hrel : f.rel s t) :
    ∃ t', A.run t (C.trace f.lift s es) = some t' ∧ f.rel s' t' := by
  induction es generalizing s t with
  | nil =>
      obtain rfl := Option.some.inj hrun
      exact ⟨t, rfl, hrel⟩
  | cons e es ih =>
      rcases (C.run_cons_eq_some).1 hrun with ⟨u, hu, hrest⟩
      rcases f.step s e u t hu hrel with ⟨v, hv, huv⟩
      rcases ih hrest huv with ⟨t', ht', hrel'⟩
      refine ⟨t', ?_, hrel'⟩
      rw [EventMachine.trace_cons_of_some es hu, A.run_append, hv]
      exact ht'

/-- A condition on the steps of `C` that gives one on the steps of `A` they lift to. -/
theorem along {P : σ → ε → σ → Prop} {Q : τ → δ → τ → Prop}
    (hPQ : ∀ s e s' t, C.step s e = some s' → f.rel s t → P s e s' → A.Along Q t (f.lift s e))
    {s s' : σ} {t : τ} {es : List ε} (hrun : C.run s es = some s') (hrel : f.rel s t)
    (halong : C.Along P s es) : A.Along Q t (C.trace f.lift s es) := by
  induction es generalizing s t with
  | nil => trivial
  | cons e es ih =>
      rcases (C.run_cons_eq_some).1 hrun with ⟨u, hu, hrest⟩
      rcases halong u hu with ⟨hP, htail⟩
      rcases f.step s e u t hu hrel with ⟨v, hv, huv⟩
      rw [EventMachine.trace_cons_of_some es hu, EventMachine.along_append_iff _ hv]
      exact ⟨hPQ s e u t hu hrel hP, ih hrest huv htail⟩

/-- A condition on the steps of `C` that says the same as one on the steps of `A`
they lift to. -/
theorem along_iff {P : σ → ε → σ → Prop} {Q : τ → δ → τ → Prop}
    (hPQ : ∀ s e s' t, C.step s e = some s' → f.rel s t → (P s e s' ↔ A.Along Q t (f.lift s e)))
    {s s' : σ} {t : τ} {es : List ε} (hrun : C.run s es = some s') (hrel : f.rel s t) :
    C.Along P s es ↔ A.Along Q t (C.trace f.lift s es) := by
  induction es generalizing s t with
  | nil => exact Iff.rfl
  | cons e es ih =>
      rcases (C.run_cons_eq_some).1 hrun with ⟨u, hu, hrest⟩
      rcases f.step s e u t hu hrel with ⟨v, hv, huv⟩
      rw [C.along_cons_of_some es hu, EventMachine.trace_cons_of_some es hu,
        EventMachine.along_append_iff _ hv, hPQ s e u t hu hrel, ih hrest huv]

/-- Trace rule: what the run of `A` puts out. -/
theorem trace {ω : Type*} {out : σ → ε → List ω} {seen : τ → δ → List ω}
    (hout : ∀ s e s' t, C.step s e = some s' → f.rel s t → A.trace seen t (f.lift s e) = out s e)
    {s s' : σ} {t : τ} {es : List ε} (hrun : C.run s es = some s') (hrel : f.rel s t) :
    A.trace seen t (C.trace f.lift s es) = C.trace out s es := by
  induction es generalizing s t with
  | nil => rfl
  | cons e es ih =>
      rcases (C.run_cons_eq_some).1 hrun with ⟨u, hu, hrest⟩
      rcases f.step s e u t hu hrel with ⟨v, hv, huv⟩
      rw [EventMachine.trace_cons_of_some es hu, EventMachine.trace_append _ hv,
        EventMachine.trace_cons_of_some es hu, hout s e u t hu hrel, ih hrest huv]

end Simulation
