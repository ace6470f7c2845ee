import FancyLife.Lib.EventMachine

/-! # Recycled views

A list keeps the views that it no longer shows and hands them out again: a view is
made for its kind, or taken from those of that kind that are out of sight, and then
configured for a request. Nothing is cleaned up in between. The rules carry what
every view of a kind keeps, and what configuring it for a request brings about, to
every run of the list.
-/

/-- Views `ν` of kinds `κ`, made by `fresh` and configured for requests `ρ`. There may
be no view for a request, and `configure` may trap. -/
structure ReusePool (κ ρ ν : Type*) where
  kind : ρ → Option κ
  fresh : κ → ν
  configure : ρ → ν → Option ν

namespace ReusePool

/-- A view of the list, and the request that it is shown for. -/
structure Slot (κ ρ ν : Type*) where
  kind : κ
  view : ν
  shownFor : Option ρ

/-- The list asks for a view, a new one or the one at an index, or a view goes out of
sight. -/
inductive Event (ρ : Type*) where
  | provide (request : ρ) (recycled : Option Nat)
  | recycle (index : Nat)

variable {κ ρ ν : Type*}

/-- The view of a kind that is configured: a new one, or one that is out of sight. -/
def dequeue [DecidableEq κ] (pool : ReusePool κ ρ ν) (slots : List (Slot κ ρ ν))
    (kind : κ) : Option Nat → Option ν
  | none => some (pool.fresh kind)
  | some index => slots[index]?.bind fun slot =>
      if slot.shownFor.isNone ∧ slot.kind = kind then some slot.view else none

/-- A slot is added, or the recycled one is replaced. -/
def put (slots : List (Slot κ ρ ν)) (slot : Slot κ ρ ν) : Option Nat → List (Slot κ ρ ν)
  | none => slots ++ [slot]
  | some index => slots.set index slot

/-- One step of the list. -/
def step [DecidableEq κ] (pool : ReusePool κ ρ ν) (slots : List (Slot κ ρ ν)) :
    Event ρ → Option (List (Slot κ ρ ν))
  | .provide request recycled => (pool.kind request).bind fun kind =>
      (pool.dequeue slots kind recycled).bind fun view =>
        (pool.configure request view).map fun view =>
          put slots ⟨kind, view, some request⟩ recycled
  | .recycle index => slots[index]?.bind fun slot =>
      if slot.shownFor.isSome then some (slots.set index { slot with shownFor := none })
      else none

/-- Every view keeps `inv`, and a shown one has what its request brings about. -/
def Holds (inv : κ → ν → Prop) (shows : ρ → ν → Prop) (slots : List (Slot κ ρ ν)) : Prop :=
  ∀ slot ∈ slots, inv slot.kind slot.view ∧
    ∀ request, slot.shownFor = some request → shows request slot.view

theorem holds_nil (inv : κ → ν → Prop) (shows : ρ → ν → Prop) :
    Holds inv shows ([] : List (Slot κ ρ ν)) := by
  intro slot hslot
  cases hslot

variable {inv : κ → ν → Prop} {shows : ρ → ν → Prop} {slots slots' : List (Slot κ ρ ν)}

theorem Holds.put (h : Holds inv shows slots) {slot : Slot κ ρ ν}
    (hslot : inv slot.kind slot.view ∧
      ∀ request, slot.shownFor = some request → shows request slot.view)
    (recycled : Option Nat) : Holds inv shows (put slots slot recycled) := by
  intro other hother
  cases recycled with
  | none =>
      rcases List.mem_append.1 hother with hmem | hmem
      · exact h other hmem
      · rw [List.mem_singleton.1 hmem]
        exact hslot
  | some index =>
      rcases List.mem_or_eq_of_mem_set hother with hmem | rfl
      · exact h other hmem
      · exact hslot

variable [DecidableEq κ] {pool : ReusePool κ ρ ν}

/-- A view that is configured keeps what its kind keeps. -/
theorem inv_of_dequeue (hfresh : ∀ kind, inv kind (pool.fresh kind)) (h : Holds inv shows slots)
    {kind : κ} {recycled : Option Nat} {view : ν}
    (hview : pool.dequeue slots kind recycled = some view) : inv kind view := by
  cases recycled with
  | none =>
      rw [← Option.some.inj hview]
      exact hfresh kind
  | some index =>
      rcases Option.bind_eq_some_iff.1 hview with ⟨slot, hslot, hview⟩
      by_cases hfree : slot.shownFor.isNone ∧ slot.kind = kind
      · simp only [if_pos hfree, Option.some.injEq] at hview
        rw [← hview, ← hfree.2]
        exact (h slot (List.mem_of_getElem? hslot)).1
      · simp only [if_neg hfree] at hview
        cases hview

/-- Step lemma: what new views have and configuring keeps, all views have; what
configuring brings about, the shown views have. -/
theorem Holds.step (hfresh : ∀ kind, inv kind (pool.fresh kind))
    (hconfigure : ∀ request kind view view', pool.kind request = some kind → inv kind view →
      pool.configure request view = some view' → inv kind view' ∧ shows request view')
    (h : Holds inv shows slots) {e : Event ρ} (hstep : pool.step slots e = some slots') :
    Holds inv shows slots' := by
  cases e with
  | provide request recycled =>
      rcases Option.bind_eq_some_iff.1 hstep with ⟨kind, hkind, hstep⟩
      rcases Option.bind_eq_some_iff.1 hstep with ⟨view, hview, hstep⟩
      rcases Option.map_eq_some_iff.1 hstep with ⟨view', hview', rfl⟩
      rcases hconfigure request kind view view' hkind (inv_of_dequeue hfresh h hview) hview' with
        ⟨hinv, hshows⟩
      refine h.put ⟨hinv, ?_⟩ recycled
      intro request' hrequest'
      rw [← Option.some.inj hrequest']
      exact hshows
  | recycle index =>
      rcases Option.bind_eq_some_iff.1 hstep with ⟨slot, hslot, hstep⟩
      by_cases hshown : slot.shownFor.isSome = true
      · simp only [if_pos hshown, Option.some.injEq] at hstep
        rw [← hstep]
        have hgone : ∀ request, (none : Option ρ) = some request → shows request slot.view := by
          intro request hrequest
          cases hrequest
        have hslot' : inv slot.kind slot.view := (h slot (List.mem_of_getElem? hslot)).1
        exact @Holds.put _ _ _ _ _ _ h ⟨slot.kind, slot.view, none⟩ ⟨hslot', hgone⟩ (some index)
      · simp only [if_neg hshown] at hstep
        cases hstep

end ReusePool
