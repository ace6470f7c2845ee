import Mathlib.Data.List.Basic
import Mathlib.Tactic.Common

/-! # Diffable snapshots

A snapshot is a list of sections with their items. A collection view that shows
it numbers the sections by their position, whatever their identifiers are.
-/

/-- `NSDiffableDataSourceSnapshot<S, I>`. That item identifiers have to be unique
is not enforced here. -/
structure Snapshot (S I : Type*) where
  sections : List (S × List I)
deriving DecidableEq

namespace Snapshot

variable {S I : Type*}

/-- `NSDiffableDataSourceSnapshot<S, I>()`. -/
def empty : Snapshot S I := ⟨[]⟩

/-- `snapshot.appendSections([s])` followed by `snapshot.appendItems(items)`. -/
def append (snapshot : Snapshot S I) (s : S) (items : List I) : Snapshot S I :=
  ⟨snapshot.sections ++ [(s, items)]⟩

/-- `snapshot.itemIdentifiers`. -/
def itemIdentifiers (snapshot : Snapshot S I) : List I := snapshot.sections.flatMap Prod.snd

/-- The items that a collection view shows in its section number `n`. -/
def items (snapshot : Snapshot S I) (n : Nat) : Option (List I) :=
  (snapshot.sections[n]?).map Prod.snd

/-- The identifier of the section that a collection view numbers `n`. -/
def sectionIdentifier (snapshot : Snapshot S I) (n : Nat) : Option S :=
  (snapshot.sections[n]?).map Prod.fst

/-- The item at an index path. -/
def item (snapshot : Snapshot S I) (n i : Nat) : Option I := (snapshot.items n).bind (·[i]?)

@[simp] theorem sections_empty : (empty : Snapshot S I).sections = [] := rfl

@[simp] theorem sections_append (snapshot : Snapshot S I) (s : S) (items : List I) :
    (snapshot.append s items).sections = snapshot.sections ++ [(s, items)] := rfl

@[simp] theorem itemIdentifiers_empty : (empty : Snapshot S I).itemIdentifiers = [] := rfl

@[simp] theorem itemIdentifiers_append (snapshot : Snapshot S I) (s : S) (items : List I) :
    (snapshot.append s items).itemIdentifiers = snapshot.itemIdentifiers ++ items := by
  simp [itemIdentifiers]

end Snapshot
