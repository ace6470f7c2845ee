import FancyLife.PersistenceManager
import FancyLife.Lib.EventMachine
import FancyLife.Lib.Firsts
import Mathlib.Data.List.Induction

/-! # Runs of history updates

Any sequence of calls of `updateWith`, and what `retrieveHistories` reads after
it: the tags added since the last removal, the first of each name, newest
first. A store that cannot be decoded is never written again.
-/

namespace FancyLife.SearchHistory

open PersistenceManager Firsts
open Swift (Unicode)

/-- One call of `updateWith`. An addition always comes with a tag. -/
inductive Operation where
  | add (history : SearchTag)
  | remove (history : Option SearchTag)
deriving DecidableEq

variable {Data : Type} (coder : HistoryCoder Data)

/-- The tags added since the last removal, oldest first, one more call later. -/
def addedThen (added : List SearchTag) : Operation → List SearchTag
  | .add history => added ++ [history]
  | .remove _ => []

/-- The tags added since the last removal, oldest first. -/
def addedSinceRemove (ops : List Operation) : List SearchTag := ops.foldl addedThen []

theorem addedSinceRemove_append (ops : List Operation) (op : Operation) :
    addedSinceRemove (ops ++ [op]) = addedThen (addedSinceRemove ops) op := by
  unfold addedSinceRemove
  rw [List.foldl_append]
  rfl

/-- What is saved is read back. -/
theorem retrieve_save {coder : HistoryCoder Data} {histories : List SearchTag}
    (hround : (coder.encode histories).bind coder.decode = some histories)
    (defaults : Option Data) :
    retrieveHistories coder (saveHistories coder defaults histories) = .ok histories := by
  rcases Option.bind_eq_some_iff.1 hround with ⟨data, hencode, hdecode⟩
  unfold saveHistories
  rw [hencode]
  unfold retrieveHistories
  simp only [hdecode]

section Runs

variable [Unicode]

/-- The call that an operation stands for. -/
def Operation.perform (defaults : Option Data) : Operation → Option (HistoryUpdate Data)
  | .add history => updateWith coder defaults (some history) .add
  | .remove history => updateWith coder defaults history .remove

/-- The store under a sequence of calls. -/
def machine : EventMachine (Option Data) Operation where
  init defaults := defaults = none
  step defaults op := (op.perform coder defaults).map HistoryUpdate.defaults

/-- The first addition of each name, newest first. -/
def newestFirst (added : List SearchTag) : List SearchTag :=
  (firstsBy SearchTag.key added).reverse

theorem mem_keys_newestFirst {added : List SearchTag} {key : String} :
    key ∈ (newestFirst added).map SearchTag.key ↔ key ∈ added.map SearchTag.key := by
  unfold newestFirst
  rw [List.map_reverse, List.mem_reverse]
  exact mem_map_firstsBy SearchTag.key

/-- A history contains a tag when its name has been added. -/
theorem contains_newestFirst {added : List SearchTag} {history : SearchTag} :
    contains (newestFirst added) history = true ↔ history.key ∈ added.map SearchTag.key :=
  contains_eq_true.trans mem_keys_newestFirst

/-- One more addition puts a tag of a new name at the front. -/
theorem newestFirst_append (added : List SearchTag) (history : SearchTag) :
    newestFirst (added ++ [history]) =
      if contains (newestFirst added) history then newestFirst added
      else history :: newestFirst added := by
  have hfirsts := firstsBy_append_singleton SearchTag.key added history
  by_cases hmem : history.key ∈ added.map SearchTag.key
  · rw [if_pos (contains_newestFirst.2 hmem)]
    rw [if_pos hmem] at hfirsts
    exact congrArg List.reverse hfirsts
  · rw [if_neg (mt contains_newestFirst.1 hmem)]
    rw [if_neg hmem] at hfirsts
    simp only [newestFirst, hfirsts, List.reverse_append]
    rfl

variable {coder}

section RoundTrip

variable (hround : ∀ histories, (coder.encode histories).bind coder.decode = some histories)

include hround

/-- Step lemma: a call takes a store that holds `newestFirst added` to one that
holds it with the call's addition or removal. -/
theorem step_spec {defaults : Option Data} {added : List SearchTag}
    (h : retrieveHistories coder defaults = .ok (newestFirst added)) (op : Operation) :
    ∃ defaults', (machine coder).step defaults op = some defaults' ∧
      retrieveHistories coder defaults' = .ok (newestFirst (addedThen added op)) := by
  cases op with
  | add history =>
      rw [addedThen, newestFirst_append]
      by_cases hmem : contains (newestFirst added) history = true
      · refine ⟨defaults, ?_, ?_⟩
        · simp [machine, Operation.perform, updateWith, h, hmem]
        · rw [if_pos hmem, h]
      · refine ⟨saveHistories coder defaults (history :: newestFirst added), ?_, ?_⟩
        · simp [machine, Operation.perform, updateWith, h, hmem]
        · rw [if_neg hmem]
          exact retrieve_save (hround _) defaults
  | remove history =>
      refine ⟨saveHistories coder defaults [], ?_, retrieve_save (hround []) defaults⟩
      simp [machine, Operation.perform, updateWith, h]

/-- Run lemma: no call traps, and the store holds what has been added since the
last removal. -/
theorem run_spec (ops : List Operation) :
    ∃ defaults, (machine coder).run none ops = some defaults ∧
      retrieveHistories coder defaults = .ok (newestFirst (addedSinceRemove ops)) := by
  induction ops using List.reverseRecOn with
  | nil => exact ⟨none, rfl, rfl⟩
  | append_singleton ops op ih =>
      rcases ih with ⟨defaults, hrun, hretrieve⟩
      rcases step_spec hround hretrieve op with ⟨defaults', hstep, hretrieve'⟩
      refine ⟨defaults', ?_, ?_⟩
      · rw [EventMachine.run_append, hrun, Option.bind_some, EventMachine.run_cons, hstep]
        rfl
      · rw [addedSinceRemove_append]
        exact hretrieve'

/-- After any sequence of calls on an absent key, `retrieveHistories` succeeds
with the first addition of each name since the last removal, newest first, and
adding a stored name again changes nothing. -/
theorem retrieveHistories_run (ops : List Operation) :
    ∃ defaults, (machine coder).run none ops = some defaults ∧
      retrieveHistories coder defaults = .ok (newestFirst (addedSinceRemove ops)) ∧
      ((newestFirst (addedSinceRemove ops)).map SearchTag.key).Nodup ∧
      (∀ key, key ∈ (newestFirst (addedSinceRemove ops)).map SearchTag.key ↔
        key ∈ (addedSinceRemove ops).map SearchTag.key) ∧
      (newestFirst (addedSinceRemove ops)).reverse.Sublist (addedSinceRemove ops) ∧
      (∀ tag, tag ∈ newestFirst (addedSinceRemove ops) ↔
        ∃ before after, addedSinceRemove ops = before ++ tag :: after ∧
          tag.key ∉ before.map SearchTag.key) ∧
      ∀ tag, tag.key ∈ (newestFirst (addedSinceRemove ops)).map SearchTag.key →
        (machine coder).step defaults (.add tag) = some defaults := by
  rcases run_spec hround ops with ⟨defaults, hrun, hretrieve⟩
  refine ⟨defaults, hrun, hretrieve, ?_, fun key => mem_keys_newestFirst, ?_, ?_, ?_⟩
  · unfold newestFirst
    rw [List.map_reverse]
    exact List.pairwise_reverse.2 ((nodup_map_firstsBy SearchTag.key _).imp Ne.symm)
  · unfold newestFirst
    rw [List.reverse_reverse]
    exact firstsBy_sublist _ _
  · intro tag
    unfold newestFirst
    rw [List.mem_reverse]
    exact mem_firstsBy _
  · intro tag hmem
    have hcontains := contains_eq_true.2 hmem
    simp [machine, Operation.perform, updateWith, hretrieve, hcontains]

end RoundTrip

end Runs

variable {coder}

/-- A coder that stores a history as it is, in a store that can also hold
something else: `none` is data that does not decode. -/
def brittleCoder : HistoryCoder (Option (List SearchTag)) where
  encode histories := some (some histories)
  decode data := data
  decode_encode _ _ h := (Option.some.inj h).symm

section CodePoints

attribute [local instance] Unicode.codePoints

/-- A name added twice, before and after another one, and a removal before them. -/
theorem retrieveHistories_run_brittle :
    ∃ defaults, (machine brittleCoder).run none
        [.add ⟨0, "火锅"⟩, .remove none, .add ⟨1, "奶茶"⟩, .add ⟨2, "火锅"⟩, .add ⟨3, "奶茶"⟩] =
        some defaults ∧
      retrieveHistories brittleCoder defaults = .ok [⟨2, "火锅"⟩, ⟨1, "奶茶"⟩] := by
  rcases @retrieveHistories_run _ brittleCoder _ (fun _ => rfl)
    [.add ⟨0, "火锅"⟩, .remove none, .add ⟨1, "奶茶"⟩, .add ⟨2, "火锅"⟩, .add ⟨3, "奶茶"⟩]
    with ⟨defaults, hrun, hretrieve, -⟩
  exact ⟨defaults, hrun, hretrieve⟩

end CodePoints

/-! ## Stores that do not decode -/

section CodePoints

attribute [local instance] Unicode.codePoints

/-- Clearing data that does not decode leaves it in the store. -/
theorem remove_corrupted :
    ∃ update, updateWith brittleCoder (some none) none .remove = some update ∧
      retrieveHistories brittleCoder update.defaults ≠ .ok [] :=
  ⟨⟨some none, [some .dataCorrupted]⟩, rfl, by simp [retrieveHistories, brittleCoder]⟩

end CodePoints

section Removals

variable [Unicode]

/-- Clearing an absent or decodable history leaves an empty one and completes
without an error. On data that does not decode it completes with the decoding
error and leaves the store as it is. -/
theorem remove_spec (hempty : (coder.encode []).bind coder.decode = some [])
    (defaults : Option Data) :
    ∃ update, updateWith coder defaults none .remove = some update ∧
      ((∀ data, defaults = some data → (coder.decode data).isSome) →
        retrieveHistories coder update.defaults = .ok [] ∧ update.completed = [none]) ∧
      ∀ data, defaults = some data → coder.decode data = none →
        update.defaults = some data ∧ update.completed = [some .dataCorrupted] := by
  unfold updateWith
  cases hretrieve : retrieveHistories coder defaults with
  | ok histories =>
      refine ⟨_, rfl, fun _ => ⟨retrieve_save hempty defaults, rfl⟩, ?_⟩
      intro data hdata hdecode
      rw [hdata, retrieveHistories, hdecode] at hretrieve
      cases hretrieve
  | error error =>
      refine ⟨_, rfl, ?_, fun data hdata _ => ⟨hdata, by cases error; rfl⟩⟩
      -- a readable store does not end in an error
      intro hreadable
      cases defaults with
      | none => cases hretrieve
      | some data =>
          rcases Option.isSome_iff_exists.1 (hreadable data rfl) with ⟨histories, hdecode⟩
          rw [retrieveHistories, hdecode] at hretrieve
          cases hretrieve

end Removals

section CodePoints

attribute [local instance] Unicode.codePoints

theorem remove_spec_brittle :
    (∃ update, updateWith brittleCoder (some (some [⟨0, "火锅"⟩])) none .remove = some update ∧
      retrieveHistories brittleCoder update.defaults = .ok []) ∧
    ∃ update, updateWith brittleCoder (some none) none .remove = some update ∧
      update.defaults = some none := by
  rcases @remove_spec _ brittleCoder _ rfl (some (some [⟨0, "火锅"⟩])) with
    ⟨update, hupdate, hreadable, -⟩
  rcases @remove_spec _ brittleCoder _ rfl (some none) with
    ⟨update', hupdate', -, hcorrupted⟩
  refine ⟨⟨update, hupdate, (hreadable ?_).1⟩, update', hupdate', (hcorrupted none rfl rfl).1⟩
  intro data hdata
  rw [← Option.some.inj hdata]
  rfl

end CodePoints

section Reports

variable [Unicode]

/-- No sequence of updates repairs data that does not decode. -/
theorem run_corrupted {data : Data} (hdecode : coder.decode data = none)
    (ops : List Operation) : (machine coder).run (some data) ops = some (some data) := by
  induction ops with
  | nil => rfl
  | cons op ops ih =>
      have hstep : (machine coder).step (some data) op = some (some data) := by
        cases op <;> simp [machine, Operation.perform, updateWith, retrieveHistories, hdecode]
      rw [EventMachine.run_cons, hstep]
      exact ih

/-! ## What the caller is told -/

/-- The list that an operation is meant to leave in the store; there is none for
an addition to data that does not decode. -/
def intended (coder : HistoryCoder Data) (defaults : Option Data) :
    Operation → Option (List SearchTag)
  | .add history =>
      match retrieveHistories coder defaults with
      | .ok histories =>
          some (if contains histories history then histories else history :: histories)
      | .error _ => none
  | .remove _ => some []

/-- The store holds the list. -/
def Holds (coder : HistoryCoder Data) (defaults : Option Data) (list : Option (List SearchTag)) :
    Prop :=
  ∃ histories, list = some histories ∧ retrieveHistories coder defaults = .ok histories

/-- An update completes once, with nil exactly when the store holds what it is
meant to hold, and an error leaves the store as it was. -/
structure Reliable (coder : HistoryCoder Data) (defaults : Option Data) (op : Operation)
    (update : HistoryUpdate Data) : Prop where
  once : update.completed.length = 1
  honest : update.completed = [none] ↔ Holds coder update.defaults (intended coder defaults op)
  untouched : ∀ error, some error ∈ update.completed → update.defaults = defaults

/-- The data does not decode; or the added tag is new and the longer list can be
encoded; or there is nothing to remove or the empty list can be encoded. -/
def Writable (coder : HistoryCoder Data) (defaults : Option Data) (op : Operation) : Prop :=
  match retrieveHistories coder defaults, op with
  | .error _, _ => True
  | .ok histories, .add history =>
      contains histories history = false ∧ (coder.encode (history :: histories)).isSome
  | .ok histories, .remove _ => (coder.encode []).isSome ∨ histories = []

/-- An update that saves `list` over a store that holds `histories`, and
completes with nil, is reliable exactly when the list can be encoded or was there. -/
theorem reliable_save_iff {defaults : Option Data} {op : Operation}
    {histories list : List SearchTag} (hretrieve : retrieveHistories coder defaults = .ok histories)
    (hintended : intended coder defaults op = some list) :
    Reliable coder defaults op ⟨saveHistories coder defaults list, [none]⟩ ↔
      (coder.encode list).isSome ∨ histories = list := by
  have hholds : Holds coder (saveHistories coder defaults list) (intended coder defaults op) ↔
      (coder.encode list).isSome ∨ histories = list := by
    unfold Holds
    rw [hintended]
    cases hencode : coder.encode list with
    | none =>
        have hsave : saveHistories coder defaults list = defaults := by
          simp only [saveHistories, hencode]
        rw [hsave, hretrieve]
        simp
    | some data =>
        have hround : (coder.encode list).bind coder.decode = some list := by
          rw [hencode]
          exact coder.decode_encode list data hencode
        simp [retrieve_save hround]
  rw [← hholds]
  constructor
  · intro h
    exact h.honest.1 rfl
  · intro h
    exact ⟨rfl, iff_of_true rfl h, fun error herror => by cases List.mem_singleton.1 herror⟩

/-- An update is reliable exactly when the store can be written: adding a stored
tag never completes, and a list that cannot be encoded is reported as saved. -/
theorem perform_reliable_iff (coder : HistoryCoder Data) (defaults : Option Data)
    (op : Operation) :
    (∃ update, op.perform coder defaults = some update ∧ Reliable coder defaults op update) ↔
      Writable coder defaults op := by
  cases hretrieve : retrieveHistories coder defaults with
  | error error =>
      have hperform : op.perform coder defaults = some ⟨defaults, [some error]⟩ := by
        cases op <;> simp only [Operation.perform, updateWith, hretrieve]
      have hnot : ¬ Holds coder defaults (intended coder defaults op) := by
        rintro ⟨histories, -, h⟩
        rw [hretrieve] at h
        cases h
      have hreliable : Reliable coder defaults op ⟨defaults, [some error]⟩ :=
        ⟨rfl, iff_of_false (by simp) hnot, fun _ _ => rfl⟩
      have hwritable : Writable coder defaults op := by simp only [Writable, hretrieve]
      exact iff_of_true ⟨_, hperform, hreliable⟩ hwritable
  | ok histories =>
      cases op with
      | add history =>
          by_cases hmem : contains histories history = true
          · -- the guard returns without calling `completed`
            have hperform : (Operation.add history).perform coder defaults =
                some ⟨defaults, []⟩ := by
              simp only [Operation.perform, updateWith, hretrieve, hmem, if_true]
            have hwritable : ¬ Writable coder defaults (.add history) := by
              simp [Writable, hretrieve, hmem]
            refine iff_of_false ?_ hwritable
            rintro ⟨update, hupdate, hreliable⟩
            obtain rfl := Option.some.inj (hperform.symm.trans hupdate)
            cases hreliable.once
          · have hperform : (Operation.add history).perform coder defaults =
                some ⟨saveHistories coder defaults (history :: histories), [none]⟩ := by
              simp only [Operation.perform, updateWith, hretrieve, hmem, if_false,
                Bool.false_eq_true]
            have hintended : intended coder defaults (.add history) =
                some (history :: histories) := by
              simp only [intended, hretrieve, hmem, if_false, Bool.false_eq_true]
            have hne : histories ≠ history :: histories := (List.cons_ne_self _ _).symm
            have hsave := reliable_save_iff hretrieve hintended
            rw [hperform]
            simp only [Option.some.injEq, exists_eq_left', hsave]
            simp [Writable, hretrieve, hmem, hne]
      | remove history =>
          have hperform : (Operation.remove history).perform coder defaults =
              some ⟨saveHistories coder defaults [], [none]⟩ := by
            simp only [Operation.perform, updateWith, hretrieve]
          have hsave := @reliable_save_iff _ coder _ defaults (.remove history) _ _ hretrieve rfl
          rw [hperform]
          simp only [Option.some.injEq, exists_eq_left', hsave]
          simp only [Writable, hretrieve]

end Reports

/-- A coder that cannot encode anything. -/
def silentCoder : HistoryCoder (List SearchTag) where
  encode _ := none
  decode data := some data
  decode_encode _ _ h := by cases h

section CodePoints

attribute [local instance] Unicode.codePoints

/-- A tag that is added again is never answered, and a save that fails is
answered as if it had succeeded. -/
theorem update_misreported :
    (∃ update, (Operation.add ⟨1, "火锅"⟩).perform brittleCoder (some (some [⟨0, "火锅"⟩])) =
        some update ∧ update.completed = []) ∧
      (∃ update, (Operation.remove none).perform silentCoder (some [⟨0, "火锅"⟩]) = some update ∧
        update.completed = [none] ∧
        retrieveHistories silentCoder update.defaults = .ok [⟨0, "火锅"⟩]) ∧
      ¬ ∃ update, (Operation.add ⟨1, "火锅"⟩).perform brittleCoder (some (some [⟨0, "火锅"⟩])) =
          some update ∧
        Reliable brittleCoder (some (some [⟨0, "火锅"⟩])) (.add ⟨1, "火锅"⟩) update := by
  refine ⟨⟨_, rfl, rfl⟩, ⟨_, rfl, rfl, rfl⟩, ?_⟩
  rintro ⟨update, hupdate, hreliable⟩
  obtain rfl := Option.some.inj hupdate
  cases hreliable.once

end CodePoints

end FancyLife.SearchHistory
