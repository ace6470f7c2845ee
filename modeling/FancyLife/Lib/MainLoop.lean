import FancyLife.Lib.EventMachine

/-! # The main run loop

Handlers run one at a time on one thread. A handler changes the state and may
defer blocks to the main queue, which is first in, first out; between two
blocks any outside event may happen. A handler that traps ends the program.
-/

/-- What a handler does: it returns with a new state and the blocks it
deferred, in order, or it traps. -/
inductive Outcome (σ β : Type*) where
  | ok (state : σ) (deferred : List β)
  | trap
deriving DecidableEq

/-- The handlers of a program. `handle s e = none` says that the event `e`
cannot happen in `s`. -/
structure Handlers (σ ε β : Type*) where
  handle : σ → ε → Option (Outcome σ β)
  block : σ → β → Outcome σ β

/-- A run of the loop takes outside events and queued blocks. -/
inductive LoopStep (ε : Type*) where
  | event (e : ε)
  | block
deriving DecidableEq

/-- The program between two handlers. -/
structure MainLoop (σ β : Type*) where
  state : σ
  queue : List β
  trapped : Bool
deriving DecidableEq

namespace MainLoop

variable {σ ε β : Type*}

/-- A program that has just started, with `deferred` already queued. -/
def start (s : σ) (deferred : List β) : MainLoop σ β := ⟨s, deferred, false⟩

/-- Nothing is left on the main queue. -/
def Drained (l : MainLoop σ β) : Prop := l.queue = []

/-- Take the outcome of a handler; `rest` is what the queue still held. -/
def absorb (l : MainLoop σ β) (rest : List β) : Outcome σ β → MainLoop σ β
  | .ok s deferred => ⟨s, rest ++ deferred, false⟩
  | .trap => { l with queue := [], trapped := true }

@[simp] theorem absorb_ok (l : MainLoop σ β) (rest deferred : List β) (s : σ) :
    l.absorb rest (.ok s deferred) = ⟨s, rest ++ deferred, false⟩ := rfl

/-- One step of the loop. After a trap no handler runs any more. -/
def step (H : Handlers σ ε β) (l : MainLoop σ β) : LoopStep ε → Option (MainLoop σ β)
  | .event e => if l.trapped then none else (H.handle l.state e).map (l.absorb l.queue)
  | .block =>
      match l.trapped, l.queue with
      | false, b :: rest => some (l.absorb rest (H.block l.state b))
      | _, _ => none

/-- What one step can do: an event or the oldest block is handled, and its
handler returns or traps. -/
theorem step_cases {H : Handlers σ ε β} {l l' : MainLoop σ β} {x : LoopStep ε}
    (h : step H l x = some l') :
    l.trapped = false ∧
      ((∃ e o, x = .event e ∧ H.handle l.state e = some o ∧ l' = l.absorb l.queue o) ∨
       (∃ b rest, x = .block ∧ l.queue = b :: rest ∧
          l' = l.absorb rest (H.block l.state b))) := by
  cases x with
  | event e =>
      simp only [step] at h
      split at h
      · cases h
      · rename_i htr
        obtain ⟨o, ho, rfl⟩ := Option.map_eq_some_iff.1 h
        exact ⟨by simpa using htr, Or.inl ⟨e, o, rfl, ho, rfl⟩⟩
  | block =>
      simp only [step] at h
      split at h
      · rename_i b rest htr hq
        exact ⟨htr, Or.inr ⟨b, rest, rfl, hq, (Option.some.inj h).symm⟩⟩
      · cases h

/-- The blocks that a step defers. -/
def deferredBy (H : Handlers σ ε β) (l : MainLoop σ β) : LoopStep ε → List β
  | .event e =>
      match H.handle l.state e with
      | some (.ok _ deferred) => deferred
      | _ => []
  | .block =>
      match l.queue.head?.map (H.block l.state) with
      | some (.ok _ deferred) => deferred
      | _ => []

/-- What one step can do, by the handler that ran and what it deferred. -/
theorem step_deferred {H : Handlers σ ε β} {l l' : MainLoop σ β} {x : LoopStep ε}
    (h : step H l x = some l') :
    (∃ e s', x = .event e ∧ H.handle l.state e = some (.ok s' (deferredBy H l x)) ∧
      l' = ⟨s', l.queue ++ deferredBy H l x, false⟩) ∨
    (∃ b rest s', x = .block ∧ l.queue = b :: rest ∧
      H.block l.state b = .ok s' (deferredBy H l x) ∧
      l' = ⟨s', rest ++ deferredBy H l x, false⟩) ∨
    (l'.trapped = true ∧ l'.state = l.state ∧ l'.queue = [] ∧ deferredBy H l x = []) := by
  rcases step_cases h with ⟨-, ⟨e, o, rfl, ho, rfl⟩ | ⟨b, rest, rfl, hq, rfl⟩⟩
  · cases o with
    | ok s' ds =>
        have hds : deferredBy H l (.event e) = ds := by simp only [deferredBy, ho]
        rw [hds]
        exact Or.inl ⟨e, s', rfl, ho, rfl⟩
    | trap => exact Or.inr (Or.inr ⟨rfl, rfl, rfl, by simp only [deferredBy, ho]⟩)
  · have hhead : l.queue.head?.map (H.block l.state) = some (H.block l.state b) := by rw [hq]; rfl
    cases hb : H.block l.state b with
    | ok s' ds =>
        have hds : deferredBy H l (.block : LoopStep ε) = ds := by
          simp only [deferredBy, hhead, hb]
        rw [hds]
        exact Or.inr (Or.inl ⟨b, rest, s', rfl, hq, hb, rfl⟩)
    | trap => exact Or.inr (Or.inr ⟨rfl, rfl, rfl, by simp only [deferredBy, hhead, hb]⟩)

/-- The loop of a program as an event machine. -/
def machine (H : Handlers σ ε β) (init : MainLoop σ β → Prop) :
    EventMachine (MainLoop σ β) (LoopStep ε) where
  init := init
  step := step H

/-- A run of one event. -/
theorem run_event {H : Handlers σ ε β} {init : MainLoop σ β → Prop} {s : σ} {queue : List β}
    {e : ε} {o : Outcome σ β} (h : H.handle s e = some o) :
    (machine H init).run ⟨s, queue, false⟩ [.event e] =
      some (absorb ⟨s, queue, false⟩ queue o) := by
  show ((H.handle s e).map (absorb ⟨s, queue, false⟩ queue)).bind some = _
  rw [h]
  rfl

/-- A run of one block. -/
theorem run_block {H : Handlers σ ε β} {init : MainLoop σ β → Prop} (s : σ) (b : β)
    (rest : List β) :
    (machine H init).run ⟨s, b :: rest, false⟩ [.block] =
      some (absorb ⟨s, b :: rest, false⟩ rest (H.block s b)) := rfl

end MainLoop
