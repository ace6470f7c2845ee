import FancyLife.Models
import FancyLife.Lib.MainLoop
import FancyLife.Lib.Snapshot

/-! # ProductVC and EventVC

Two screens with the shop on top and a list below. They differ in their items
and in how often `updateData` applies the snapshot. Every answer appends one
more shop row to section 0, while section 1 is replaced.

A run lasts as long as its screen. When the screen is freed before an answer arrives, the
guard on the weak `self` drops the answer and nothing is left to show anything, so the
machines keep the screen and have no step for it.
-/

namespace FancyLife

open Swift (Unicode)

/-! ## The items -/

/-- What the screens need of their items: the identifier, and the synthesized
`==`, which compares it along with the other fields. -/
class ListItem [Unicode] (α : Type) where
  id : α → String
  setID : α → String → α
  eq : α → α → Bool
  id_setID : ∀ a s, id (setID a s) = s
  id_of_eq : ∀ a b, eq a b = true → Swift.stringEq (id a) (id b) = true

instance [Unicode] : ListItem Product where
  id := Product.id
  setID p s := { p with id := s }
  eq := Product.eq
  id_setID _ _ := rfl
  id_of_eq a b h := by
    simp only [Product.eq, Bool.and_eq_true] at h
    exact h.1.1.1.1.1.1

instance [Unicode] : ListItem Event where
  id := Event.id
  setID e s := { e with id := s }
  eq := Event.eq
  id_setID _ _ := rfl
  id_of_eq a b h := by
    simp only [Event.eq, Bool.and_eq_true] at h
    exact h.1.1.1.1.1.1.1.1

/-- What `==` compares of an identifier. -/
def ListItem.key [Unicode] {α : Type} [ListItem α] (a : α) : String := Unicode.nfd (ListItem.id a)

/-! ## The screens -/

/-- `dataList`, which always has two entries. -/
structure DataList (α : Type) where
  section0 : List α
  section1 : List α
deriving DecidableEq

/-- The snapshot with both sections. -/
def DataList.snapshot {α : Type} (dataList : DataList α) : Snapshot Nat α :=
  (Snapshot.empty.append 0 dataList.section0).append 1 dataList.section1

/-- A screen: the snapshots that the blocks of its `updateData` apply. -/
structure ListScreen (α : Type) where
  updateData : DataList α → List (Snapshot Nat α)
  applies : ∀ dataList, updateData dataList ≠ []
  snapshot : ∀ dataList, ∀ s ∈ updateData dataList, s = dataList.snapshot

/-- `ProductVC.updateData(on:)`: one block after the loop. -/
def ProductVC.updateData (products : DataList Product) : List (Snapshot Nat Product) :=
  [products.snapshot]

/-- `EventVC.updateData(on:)`: a block in each turn of the loop. The blocks share
the variable `snapshot`, and run when the loop has appended both sections. -/
def EventVC.updateData (events : DataList Event) : List (Snapshot Nat Event) :=
  [events.snapshot, events.snapshot]

def ProductVC : ListScreen Product where
  updateData := ProductVC.updateData
  applies _ := List.cons_ne_nil _ _
  snapshot _ _ h := List.mem_singleton.1 h

def EventVC : ListScreen Event where
  updateData := EventVC.updateData
  applies _ := List.cons_ne_nil _ _
  snapshot _ s h := by
    rcases List.mem_cons.1 h with h | h
    · exact h
    · exact List.mem_singleton.1 h

namespace ListScreen

variable {α : Type}

/-- The state of a screen: `productList` or `eventList`, `dataList`, the snapshot
its data source has applied, and its requests that are not answered yet. -/
structure State (α : Type) where
  list : List α
  dataList : DataList α
  dataSource : Option (Snapshot Nat α)
  outstanding : Nat

inductive Event (α : Type) where
  | viewWillAppear
  | answer (result : Except FLError (List α))

inductive Block (α : Type) where
  | apply (snapshot : Snapshot Nat α)
  | present (alert : FLAlert)

section Screen

variable [Unicode] [ListItem α] (screen : ListScreen α)

/-- The closure of `getProductList()` and of `getEventList()`. `list[0]` traps on
an empty list. -/
def loaded (s : State α) : Except FLError (List α) → Outcome (State α) (Block α)
  | .ok list =>
      match list with
      | [] => .trap
      | first :: _ =>
          let dataList : DataList α :=
            { section0 := s.dataList.section0 ++ [ListItem.setID first "#"], section1 := list }
          .ok { s with list, dataList } ((screen.updateData dataList).map .apply)
  | .error error =>
      .ok s [.present { title := "错误！", message := error.rawValue, buttonTitle := "确认" }]

/-- Every appearance sends a request. -/
def handlers : Handlers (State α) (Event α) (Block α) where
  handle s
    | .viewWillAppear => some (.ok { s with outstanding := s.outstanding + 1 } [])
    | .answer result =>
        match s.outstanding with
        | 0 => none
        | n + 1 => some (loaded screen { s with outstanding := n } result)
  block s
    | .apply snapshot => .ok { s with dataSource := some snapshot } []
    | .present _ => .ok s []

/-- A screen that has just been loaded. -/
def fresh : MainLoop (State α) (Block α) := .start ⟨[], ⟨[], []⟩, none, 0⟩ []

def machine : EventMachine (MainLoop (State α) (Block α)) (LoopStep (Event α)) :=
  MainLoop.machine (handlers screen) (· = fresh)

/-! ## Good snapshots -/

/-- A list of documents: not empty, with unique ids other than `"#"`. -/
def Documents (list : List α) : Prop :=
  list ≠ [] ∧ (list.map ListItem.key).Nodup ∧ Unicode.nfd "#" ∉ list.map ListItem.key

/-- Pairwise distinct identifiers, one shop row, and the response below it. -/
def Good (response : List α) (snapshot : Snapshot Nat α) : Prop :=
  snapshot.itemIdentifiers.Pairwise (fun a b => ListItem.eq a b = false) ∧
    (∃ row, snapshot.items 0 = some [row] ∧ ListItem.id row = "#") ∧
    snapshot.items 1 = some response

/-- The snapshots that an answered step submits are good for its response. -/
def SubmitsGood (l : MainLoop (State α) (Block α)) (x : LoopStep (Event α))
    (l' : MainLoop (State α) (Block α)) : Prop :=
  ∀ response, x = .event (.answer (.ok response)) →
    ∀ snapshot, .apply snapshot ∈ l'.queue.drop l.queue.length → Good response snapshot

/-- The responses of a run. -/
def responses (xs : List (LoopStep (Event α))) : List (List α) :=
  xs.filterMap fun
    | .event (.answer (.ok response)) => some response
    | _ => none

/-- The snapshot is good for a response as long as its shop row is the first. -/
theorem good_snapshot_iff {first : α} {rest : List α} (hdocs : Documents (first :: rest))
    (rows : List α) :
    Good (first :: rest)
        (DataList.snapshot ⟨rows ++ [ListItem.setID first "#"], first :: rest⟩) ↔
      rows = [] := by
  constructor
  · rintro ⟨-, ⟨row, hrow, -⟩, -⟩
    have hone : rows ++ [ListItem.setID first "#"] = [row] := Option.some.inj hrow
    have hlength := congrArg List.length hone
    simp only [List.length_append, List.length_singleton] at hlength
    exact List.eq_nil_of_length_eq_zero (by omega)
  · rintro rfl
    rcases hdocs with ⟨-, hnodup, hhash⟩
    refine ⟨?_, ⟨_, rfl, ListItem.id_setID first "#"⟩, rfl⟩
    -- distinct ids make distinct identifiers
    have hids : ((ListItem.setID first "#" :: first :: rest).map ListItem.key).Nodup := by
      rw [List.map_cons, ListItem.key, ListItem.id_setID]
      exact List.nodup_cons.2 ⟨hhash, hnodup⟩
    have hidentifiers : (DataList.snapshot
        ⟨[] ++ [ListItem.setID first "#"], first :: rest⟩).itemIdentifiers =
          ListItem.setID first "#" :: first :: rest := by
      simp [DataList.snapshot]
    rw [hidentifiers]
    refine List.Pairwise.imp ?_ (List.pairwise_map.1 hids)
    intro a b hne
    rw [Bool.eq_false_iff]
    exact fun h => hne (Swift.stringEq_iff.1 (ListItem.id_of_eq a b h))

/-! ## Runs -/

/-- A response makes good snapshots exactly when section 0 was empty. -/
theorem answer_step {l l' : MainLoop (State α) (Block α)} {response : List α}
    (hdocs : Documents response)
    (hstep : (machine screen).step l (.event (.answer (.ok response))) = some l') :
    l'.state.dataList.section0 ≠ [] ∧
      (SubmitsGood l (.event (.answer (.ok response))) l' ↔ l.state.dataList.section0 = []) := by
  cases response with
  | nil => exact absurd rfl hdocs.1
  | cons first rest =>
      have hstep' : MainLoop.step (handlers screen) l
          (.event (.answer (.ok (first :: rest)))) = some l' := hstep
      rcases MainLoop.step_cases hstep' with ⟨-, ⟨e, o, he, ho, rfl⟩ | ⟨b, rest, hx, -⟩⟩
      swap
      · cases hx
      obtain rfl := LoopStep.event.inj he
      rcases l with ⟨⟨list, dataList, dataSource, outstanding⟩, q, trapped⟩
      cases outstanding with
      | zero => cases ho
      | succ n =>
          obtain rfl := Option.some.inj ho
          constructor
          · exact List.append_ne_nil_of_right_ne_nil _ (List.cons_ne_nil _ _)
          rw [← good_snapshot_iff hdocs dataList.section0]
          -- all blocks of `updateData` apply the one snapshot
          set d : DataList α :=
            ⟨dataList.section0 ++ [ListItem.setID first "#"], first :: rest⟩ with hd
          have hdrop : ((q ++ (screen.updateData d).map Block.apply).drop q.length) =
              (screen.updateData d).map Block.apply := List.drop_left
          constructor
          · intro hgood
            rcases List.exists_mem_of_ne_nil _ (screen.applies d) with ⟨s, hs⟩
            have hmem : Block.apply s ∈
                (q ++ (screen.updateData d).map Block.apply).drop q.length := by
              rw [hdrop]
              exact List.mem_map_of_mem hs
            have := hgood _ rfl s hmem
            rwa [screen.snapshot d s hs] at this
          · intro hgood response hresponse s hs
            have hs' : Block.apply s ∈
                (q ++ (screen.updateData d).map Block.apply).drop q.length := hs
            rw [hdrop] at hs'
            rcases List.mem_map.1 hs' with ⟨s', hs'', heq⟩
            obtain rfl := Block.apply.inj heq
            injection hresponse with h1
            injection h1 with h2
            injection h2 with h3
            rw [screen.snapshot d s' hs'', ← h3]
            exact hgood

/-- Every other step leaves `dataList` alone. -/
theorem other_step {l l' : MainLoop (State α) (Block α)} {x : LoopStep (Event α)}
    (hx : ∀ response, x ≠ .event (.answer (.ok response)))
    (hstep : (machine screen).step l x = some l') :
    l'.state.dataList = l.state.dataList ∧ SubmitsGood l x l' := by
  refine ⟨?_, fun response h => absurd h (hx response)⟩
  rcases l with ⟨⟨list, dataList, dataSource, outstanding⟩, q, trapped⟩
  rcases MainLoop.step_cases hstep with ⟨-, ⟨e, o, rfl, ho, rfl⟩ | ⟨b, rest, rfl, -, rfl⟩⟩
  · cases e with
    | viewWillAppear =>
        obtain rfl := Option.some.inj ho
        rfl
    | answer result =>
        cases outstanding with
        | zero => cases ho
        | succ n =>
            obtain rfl := Option.some.inj ho
            cases result with
            | ok response => exact absurd rfl (hx response)
            | error error => rfl
  · cases b <;> rfl

/-- Run lemma: how many more responses the screen can take. -/
theorem good_run_iff {l l' : MainLoop (State α) (Block α)} {xs : List (LoopStep (Event α))}
    (hrun : (machine screen).run l xs = some l') (hdocs : ∀ r ∈ responses xs, Documents r) :
    (machine screen).Along SubmitsGood l xs ↔
      (l.state.dataList.section0 = [] ∧ (responses xs).length ≤ 1) ∨
        (responses xs).length = 0 := by
  induction xs generalizing l with
  | nil =>
      constructor
      · intro _
        exact Or.inr rfl
      · intro _
        trivial
  | cons x xs ih =>
      rcases ((machine screen).run_cons_eq_some).1 hrun with ⟨t, ht, hrest⟩
      rw [(machine screen).along_cons_of_some xs ht]
      by_cases hx : ∃ response, x = .event (.answer (.ok response))
      · -- the first response is good on an empty list only, and fills the list
        rcases hx with ⟨response, rfl⟩
        have hresponses : responses (.event (.answer (.ok response)) :: xs) =
            response :: responses xs := rfl
        rw [hresponses] at hdocs ⊢
        rcases answer_step screen (hdocs response List.mem_cons_self) ht with ⟨hne, hgood⟩
        rw [hgood, ih hrest fun r hr => hdocs r (List.mem_cons_of_mem _ hr), List.length_cons]
        constructor
        · rintro ⟨hempty, ⟨hempty', -⟩ | hnone⟩
          · exact absurd hempty' hne
          · exact Or.inl ⟨hempty, by omega⟩
        · rintro (⟨hempty, hle⟩ | hzero)
          · exact ⟨hempty, Or.inr (by omega)⟩
          · cases hzero
      · -- any other step is good and leaves the list alone
        rw [not_exists] at hx
        have hresponses : responses (x :: xs) = responses xs := by
          unfold responses
          rw [List.filterMap_cons_none]
          rcases x with (_ | (_ | response)) | _
          · rfl
          · rfl
          · exact absurd rfl (hx response)
          · rfl
        rw [hresponses] at hdocs ⊢
        rcases other_step screen hx ht with ⟨hsame, hgood⟩
        rw [ih hrest hdocs, hsame, and_iff_right hgood]

/-- From a fresh screen. -/
theorem good_iff_of_fresh {l : MainLoop (State α) (Block α)} {xs : List (LoopStep (Event α))}
    (hrun : (machine screen).run fresh xs = some l) (hdocs : ∀ r ∈ responses xs, Documents r) :
    (machine screen).Along SubmitsGood fresh xs ↔ (responses xs).length ≤ 1 := by
  rw [good_run_iff screen hrun hdocs]
  constructor
  · rintro (⟨-, hle⟩ | hzero)
    · exact hle
    · omega
  · intro hle
    exact Or.inl ⟨rfl, hle⟩

end Screen

/-- Along any run of either screen the submitted snapshots are good exactly when
at most one appearance has been answered. -/
theorem good_iff_answered_once [Unicode] {xs : List (LoopStep (Event Product))}
    {ys : List (LoopStep (Event FancyLife.Event))}
    {l : MainLoop (State Product) (Block Product)}
    {m : MainLoop (State FancyLife.Event) (Block FancyLife.Event)}
    (hrun : (machine ProductVC).run fresh xs = some l) (hdocs : ∀ r ∈ responses xs, Documents r)
    (hrun' : (machine EventVC).run fresh ys = some m)
    (hdocs' : ∀ r ∈ responses ys, Documents r) :
    ((machine ProductVC).Along SubmitsGood fresh xs ↔ (responses xs).length ≤ 1) ∧
      ((machine EventVC).Along SubmitsGood fresh ys ↔ (responses ys).length ≤ 1) :=
  ⟨good_iff_of_fresh ProductVC hrun hdocs, good_iff_of_fresh EventVC hrun' hdocs'⟩

/-- A product and an event to load. -/
def tea : Product := ⟨"p", "s", "https://img/p", "tea", "", .finite 9, .finite 3⟩

def sale : FancyLife.Event :=
  ⟨"e", "s", "sale", ⟨0, 0⟩, ⟨86400, 0⟩, "", "https://img/e", .finite 5, .finite 10⟩

/-- One visit to a screen: it appears, is answered and applies the snapshot. -/
def visit (response : List α) (blocks : Nat) : List (LoopStep (Event α)) :=
  .event .viewWillAppear :: .event (.answer (.ok response)) :: List.replicate blocks .block

section CodePoints

attribute [local instance] Unicode.codePoints

/-- Visited once, both screens are good. -/
theorem one_visit_good :
    (machine ProductVC).Along SubmitsGood fresh (visit [tea] 1) ∧
      (machine EventVC).Along SubmitsGood fresh (visit [sale] 2) := by
  have htea : ∀ r ∈ responses (visit [tea] 1), Documents r := by
    intro r hr
    rw [List.mem_singleton.1 hr]
    exact ⟨List.cons_ne_nil _ _, by decide, by decide⟩
  have hsale : ∀ r ∈ responses (visit [sale] 2), Documents r := by
    intro r hr
    rw [List.mem_singleton.1 hr]
    exact ⟨List.cons_ne_nil _ _, by decide, by decide⟩
  rcases good_iff_answered_once rfl htea rfl hsale with ⟨hproducts, hevents⟩
  exact ⟨hproducts.2 (Nat.le_refl 1), hevents.2 (Nat.le_refl 1)⟩

/-- The second visit shows the shop twice, with one identifier. -/
theorem second_visit_repeats_shop_row :
    (∃ l, (machine ProductVC).run fresh (visit [tea] 1 ++ visit [tea] 1) = some l ∧
      l.state.dataSource.map Snapshot.itemIdentifiers =
        some [{ tea with id := "#" }, { tea with id := "#" }, tea]) ∧
    Product.eq { tea with id := "#" } { tea with id := "#" } = true ∧
    ¬ (machine ProductVC).Along SubmitsGood fresh (visit [tea] 1 ++ visit [tea] 1) ∧
    ¬ (machine EventVC).Along SubmitsGood fresh (visit [sale] 2 ++ visit [sale] 2) := by
  refine ⟨⟨_, rfl, rfl⟩, by decide, ?_, ?_⟩
  · rw [good_iff_of_fresh ProductVC rfl]
    · decide
    · intro r hr
      have hr' : r ∈ [[tea], [tea]] := hr
      obtain rfl : r = [tea] := by simpa using hr'
      exact ⟨List.cons_ne_nil _ _, by decide, by decide⟩
  · rw [good_iff_of_fresh EventVC rfl]
    · decide
    · intro r hr
      have hr' : r ∈ [[sale], [sale]] := hr
      obtain rfl : r = [sale] := by simpa using hr'
      exact ⟨List.cons_ne_nil _ _, by decide, by decide⟩

end CodePoints

end ListScreen

end FancyLife
