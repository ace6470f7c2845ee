import FancyLife.Models
import Mathlib.Data.List.Basic

/-! # PersistenceManager

The search history in `UserDefaults`: one value of type `Data` under one key.
`JSONEncoder` and `JSONDecoder` are a `HistoryCoder`.
-/

namespace FancyLife

open Swift (Unicode)

/-- The JSON coders on `[SearchTag]`, and that decoding undoes encoding. -/
structure HistoryCoder (Data : Type) where
  encode : List SearchTag → Option Data
  decode : Data → Option (List SearchTag)
  decode_encode : ∀ histories data, encode histories = some data → decode data = some histories

inductive PersistenceActionType where
  | add
  | remove
deriving DecidableEq

/-- What the completions receive when the stored data cannot be decoded. -/
inductive DecodingError where
  | dataCorrupted
deriving DecidableEq

/-- What `updateWith` does: the store it leaves and its calls of `completed`. -/
structure HistoryUpdate (Data : Type) where
  defaults : Option Data
  completed : List (Option DecodingError)

namespace PersistenceManager

variable {Data : Type} (coder : HistoryCoder Data)

/-- `retrieveHistories`. -/
def retrieveHistories (defaults : Option Data) : Except DecodingError (List SearchTag) :=
  match defaults with
  | none => .ok []
  | some historiesData =>
      match coder.decode historiesData with
      | some histories => .ok histories
      | none => .error .dataCorrupted

/-- `saveHistories`: the store afterwards. It returns nil whatever happens. -/
def saveHistories (defaults : Option Data) (histories : List SearchTag) : Option Data :=
  match coder.encode histories with
  | some encodedhistories => some encodedhistories
  | none => defaults

/-- The store is empty or decodes to a history. -/
def Readable (defaults : Option Data) : Prop :=
  ∃ histories, retrieveHistories coder defaults = .ok histories

theorem readable_save {defaults : Option Data} (h : Readable coder defaults)
    (histories : List SearchTag) : Readable coder (saveHistories coder defaults histories) := by
  unfold saveHistories
  cases hencode : coder.encode histories with
  | none => exact h
  | some data =>
      refine ⟨histories, ?_⟩
      simp only [retrieveHistories, coder.decode_encode histories data hencode]

section Updates

variable [Unicode]

/-- `[SearchTag].contains`, by the `==` that compares names. -/
def contains (histories : List SearchTag) (history : SearchTag) : Bool :=
  histories.any fun tag => tag.eq history

/-- `updateWith(history:actionType:)`; `none` is `history!` of nil. A tag that is
already there returns without calling `completed`. -/
def updateWith (defaults : Option Data) (history : Option SearchTag)
    (actionType : PersistenceActionType) : Option (HistoryUpdate Data) :=
  match retrieveHistories coder defaults with
  | .ok histories =>
      match actionType with
      | .add =>
          match history with
          | some history =>
              if contains histories history then some ⟨defaults, []⟩
              else some ⟨saveHistories coder defaults (history :: histories), [none]⟩
          | none => none
      | .remove => some ⟨saveHistories coder defaults [], [none]⟩
  | .error error => some ⟨defaults, [some error]⟩

/-! ## Stores that can be read -/

/-- Step lemma: an update does not trap when adding comes with a tag, and afterwards the
store can be read if it could before. It reports nil on such a store only. -/
theorem updateWith_readable (defaults : Option Data) (history : Option SearchTag)
    (actionType : PersistenceActionType) (hhistory : actionType = .add → history.isSome) :
    ∃ update, updateWith coder defaults history actionType = some update ∧
      (Readable coder update.defaults ↔ Readable coder defaults) ∧
      (none ∈ update.completed → Readable coder defaults) := by
  unfold updateWith
  cases hretrieve : retrieveHistories coder defaults with
  | error error => exact ⟨_, rfl, Iff.rfl, fun hmem => by cases List.mem_singleton.1 hmem⟩
  | ok histories =>
      have hread : Readable coder defaults := ⟨histories, hretrieve⟩
      cases actionType with
      | add =>
          rcases Option.isSome_iff_exists.1 (hhistory rfl) with ⟨tag, rfl⟩
          by_cases hmem : contains histories tag = true
          · simp only [if_pos hmem]
            exact ⟨_, rfl, Iff.rfl, fun _ => hread⟩
          · simp only [if_neg hmem]
            exact ⟨_, rfl, iff_of_true (readable_save coder hread _) hread, fun _ => hread⟩
      | remove =>
          exact ⟨_, rfl, iff_of_true (readable_save coder hread []) hread, fun _ => hread⟩

/-! ## Stores without repetitions -/

/-- The store holds a history, and no name occurs twice in it. -/
def Proper (defaults : Option Data) : Prop :=
  ∃ histories, retrieveHistories coder defaults = .ok histories ∧
    (histories.map SearchTag.key).Nodup

theorem proper_none : Proper coder none := ⟨[], rfl, List.nodup_nil⟩

theorem contains_eq_true {histories : List SearchTag} {history : SearchTag} :
    contains histories history = true ↔ history.key ∈ histories.map SearchTag.key := by
  simp [contains, SearchTag.eq_iff, List.mem_map]

variable {coder}

/-- Saving a history without repetitions keeps the store proper. -/
theorem Proper.save {defaults : Option Data} (h : Proper coder defaults)
    {histories : List SearchTag} (hnodup : (histories.map SearchTag.key).Nodup) :
    Proper coder (saveHistories coder defaults histories) := by
  unfold saveHistories
  cases hencode : coder.encode histories with
  | none => exact h
  | some data =>
      refine ⟨histories, ?_, hnodup⟩
      simp only [retrieveHistories, coder.decode_encode histories data hencode]

/-- Step lemma: an update keeps the store proper, and adding does not trap. -/
theorem Proper.update {defaults : Option Data} (h : Proper coder defaults)
    (history : Option SearchTag) (actionType : PersistenceActionType)
    (hhistory : actionType = .add → history.isSome) :
    ∃ update, updateWith coder defaults history actionType = some update ∧
      Proper coder update.defaults ∧ (∀ error ∈ update.completed, error = none) := by
  rcases h with ⟨histories, hretrieve, hnodup⟩
  unfold updateWith
  rw [hretrieve]
  cases actionType with
  | add =>
      rcases Option.isSome_iff_exists.1 (hhistory rfl) with ⟨tag, rfl⟩
      simp only []
      by_cases hmem : contains histories tag = true
      · rw [if_pos hmem]
        exact ⟨_, rfl, ⟨histories, hretrieve, hnodup⟩, by simp⟩
      · rw [if_neg hmem]
        refine ⟨_, rfl, Proper.save ⟨histories, hretrieve, hnodup⟩ ?_, by simp⟩
        rw [List.map_cons, List.nodup_cons]
        rw [contains_eq_true] at hmem
        exact ⟨hmem, hnodup⟩
  | remove =>
      exact ⟨_, rfl, Proper.save ⟨histories, hretrieve, hnodup⟩ List.nodup_nil, by simp⟩

/-- Removing always completes without an error. -/
theorem Proper.completed_remove {defaults : Option Data} (h : Proper coder defaults) :
    updateWith coder defaults none .remove =
      some ⟨saveHistories coder defaults [], [none]⟩ := by
  rcases h with ⟨histories, hretrieve, -⟩
  unfold updateWith
  rw [hretrieve]

end Updates

end PersistenceManager

end FancyLife
