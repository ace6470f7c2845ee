import FancyLife.Models
import FancyLife.Lib.OrderedList
import Mathlib.Data.String.Basic

/-! # Firestore

What the app relies on of the database: schemaless documents, the failing casts
of `document.get(...) as! T`, and queries with one where-clause, an ordering by
one field and a limit. `Query.run` is the answer of a working database;
`Query.Respects` is all that an arbitrary answer promises.

The database compares strings byte by byte, which is the equality of Lean's strings, and
so do its document ids: they are unique in the sense of `UniqueIDs`. The app compares them
by Swift's `==`, in whose sense `DistinctIDs` says that they are unique.
-/

namespace FancyLife

open Swift (Double Unicode)

/-- A field value. `other` stands for the types the app never reads. -/
inductive Value where
  | null
  | bool (b : Bool)
  | integer (n : Int)
  | number (x : Double)
  | timestamp (t : Timestamp)
  | string (s : String)
  | array (vs : List Value)
  | other

structure Document where
  documentID : String
  fields : List (String × Value)

/-- `document.get(field)`. -/
def Document.get (d : Document) (field : String) : Option Value := d.fields.lookup field

/-! ## Forced casts: `none` is a trap -/

/-- `as! String`. -/
def asString : Option Value → Option String
  | some (.string s) => some s
  | _ => none

/-- `as! Double`: an `NSNumber` whose value is a double, booleans included. -/
def asDouble : Option Value → Option Double
  | some (.number x) => some x
  | some (.integer n) => Swift.exactDouble n
  | some (.bool b) => some (.finite (if b then 1 else 0))
  | _ => none

/-- `as! [Double]`. -/
def asDoubles : Option Value → Option (List Double)
  | some (.array vs) => vs.mapM fun v => asDouble (some v)
  | _ => none

/-- `as! Timestamp`. -/
def asTimestamp : Option Value → Option Timestamp
  | some (.timestamp t) => some t
  | _ => none

/-! ## Queries -/

/-- The where-clauses of the app. -/
inductive Filter where
  | isEqualTo (field value : String)
  | arrayContains (field value : String)

/-- `.collection(name).whereField(...).order(by: ...).limit(to: ...)`. -/
structure Query where
  collection : String
  whereField : Option Filter
  orderBy : Option String
  limit : Option Int

/-- What `getDocuments` passes to its callback. -/
structure Response where
  snapshot : Option (List Document)
  error : Option String

/-- The documents when `error == nil && snapshot != nil`. -/
def Response.documents (r : Response) : Option (List Document) :=
  if r.error.isNone then r.snapshot else none

/-- `.collection(collection).document(documentID)`. -/
structure DocumentReference where
  collection : String
  documentID : String

/-- What `getDocument` passes to its callback. A document that does not exist
arrives as one without fields. -/
structure DocumentResponse where
  document : Option Document
  error : Option String

/-- The document when `document != nil && error == nil`. -/
def DocumentResponse.found (r : DocumentResponse) : Option Document :=
  if r.error.isNone then r.document else none

/-- A successful answer. -/
def Response.ok (docs : List Document) : Response := ⟨some docs, none⟩

def Value.isString (v : Value) (s : String) : Bool :=
  match v with
  | .string t => t = s
  | _ => false

def Filter.matches (f : Filter) (d : Document) : Bool :=
  match f with
  | .isEqualTo field value => (d.get field).any (·.isString value)
  | .arrayContains field value =>
      match d.get field with
      | some (.array vs) => vs.any (·.isString value)
      | _ => false

/-- The database's order of field values: any total preorder. -/
structure ValueOrder where
  le : Value → Value → Bool
  total : ∀ v w, le v w = true ∨ le w v = true
  trans : ∀ u v w, le u v = true → le v w = true → le u w = true

section Answers

variable (ord : ValueOrder)

/-- The order of an `order(by: field)`: by the field, then by the document id. -/
def orderLe (field : String) (d e : Document) : Prop :=
  match d.get field, e.get field with
  | some v, some w =>
      ord.le v w = true ∧ (ord.le w v = true → d.documentID ≤ e.documentID)
  | none, some _ => True
  | some _, none => False
  | none, none => d.documentID ≤ e.documentID

instance (field : String) : DecidableRel (orderLe ord field) := by
  intro d e
  unfold orderLe
  split <;> infer_instance

/-- The documents a query selects, before the limit: `order(by:)` drops the
documents that lack the field. -/
def Query.selects (q : Query) (d : Document) : Bool :=
  q.whereField.all (·.matches d) && q.orderBy.all fun f => (d.get f).isSome

def Query.sort (q : Query) (docs : List Document) : List Document :=
  match q.orderBy with
  | some f => docs.insertionSort (orderLe ord f)
  | none => docs

def Query.cut (q : Query) (docs : List Document) : List Document :=
  match q.limit with
  | some n => docs.take n.toNat
  | none => docs

/-- The answer of a working database that holds `docs` in the collection. -/
def Query.run (q : Query) (docs : List Document) : List Document :=
  q.cut (q.sort ord (docs.filter q.selects))

/-- What every answer to `q` promises: only selected documents, in order, and
no more than the limit. -/
def Query.Respects (q : Query) (docs : List Document) : Prop :=
  (∀ d ∈ docs, q.selects d = true) ∧
    (∀ f, q.orderBy = some f → docs.Pairwise (orderLe ord f)) ∧
    ∀ n, q.limit = some n → (docs.length : Int) ≤ n

theorem orderLe_total (field : String) (d e : Document) :
    orderLe ord field d e ∨ orderLe ord field e d := by
  unfold orderLe
  cases d.get field with
  | none =>
      cases e.get field with
      | none => exact le_total _ _
      | some w => exact Or.inl trivial
  | some v =>
      cases e.get field with
      | none => exact Or.inr trivial
      | some w =>
          rcases ord.total v w with h | h
          · by_cases h' : ord.le w v = true
            · rcases le_total d.documentID e.documentID with hid | hid
              · exact Or.inl ⟨h, fun _ => hid⟩
              · exact Or.inr ⟨h', fun _ => hid⟩
            · exact Or.inl ⟨h, fun h'' => absurd h'' h'⟩
          · by_cases h' : ord.le v w = true
            · rcases le_total d.documentID e.documentID with hid | hid
              · exact Or.inl ⟨h', fun _ => hid⟩
              · exact Or.inr ⟨h, fun _ => hid⟩
            · exact Or.inr ⟨h, fun h'' => absurd h'' h'⟩

theorem orderLe_trans (field : String) (d e g : Document)
    (hde : orderLe ord field d e) (heg : orderLe ord field e g) : orderLe ord field d g := by
  unfold orderLe at *
  cases hd : d.get field <;> cases he : e.get field <;> cases hg : g.get field <;>
    simp only [hd, he, hg] at hde heg ⊢
  · exact le_trans hde heg
  · rename_i u v w
    refine ⟨ord.trans u v w hde.1 heg.1, ?_⟩
    intro hwu
    -- equal to the first value, the last one is also equal to the middle one
    exact le_trans (hde.2 (ord.trans v w u heg.1 hwu)) (heg.2 (ord.trans w u v hwu hde.1))

/-- Documents that are equivalent in the order have one id. -/
theorem orderLe_antisymm_id (field : String) (d e : Document)
    (hde : orderLe ord field d e) (hed : orderLe ord field e d) :
    d.documentID = e.documentID := by
  unfold orderLe at *
  cases hd : d.get field <;> cases he : e.get field <;> simp only [hd, he] at hde hed
  · exact le_antisymm hde hed
  · exact le_antisymm (hde.2 hed.1) (hed.2 hde.1)

/-! ## Collections with unique ids -/

/-- The ids of a collection are unique. -/
def UniqueIDs (docs : List Document) : Prop := (docs.map Document.documentID).Nodup

instance (docs : List Document) : Decidable (UniqueIDs docs) :=
  inferInstanceAs (Decidable (List.Nodup _))

theorem UniqueIDs.eq_of_mem {docs : List Document} (h : UniqueIDs docs) {d e : Document}
    (hd : d ∈ docs) (he : e ∈ docs) (hid : d.documentID = e.documentID) : d = e :=
  List.inj_on_of_nodup_map h hd he hid

/-- The ids of a collection are unique in the app's comparison. -/
def DistinctIDs [Unicode] (docs : List Document) : Prop :=
  (docs.map fun d => Unicode.nfd d.documentID).Nodup

instance [Unicode] (docs : List Document) : Decidable (DistinctIDs docs) :=
  inferInstanceAs (Decidable (List.Nodup _))

theorem DistinctIDs.unique [Unicode] {docs : List Document} (h : DistinctIDs docs) :
    UniqueIDs docs := by
  unfold DistinctIDs at h
  rw [← Function.comp_def Unicode.nfd, ← List.map_map] at h
  exact h.of_map _

theorem DistinctIDs.filter [Unicode] {docs : List Document} (h : DistinctIDs docs)
    (p : Document → Bool) : DistinctIDs (docs.filter p) :=
  h.sublist (List.filter_sublist.map _)

theorem DistinctIDs.sort [Unicode] {docs : List Document} (h : DistinctIDs docs) (q : Query) :
    DistinctIDs (q.sort ord docs) := by
  unfold Query.sort
  cases q.orderBy with
  | none => exact h
  | some f => exact ((List.perm_insertionSort _ docs).map _).nodup_iff.2 h

theorem UniqueIDs.filter {docs : List Document} (h : UniqueIDs docs) (p : Document → Bool) :
    UniqueIDs (docs.filter p) :=
  h.sublist (List.filter_sublist.map _)

/-- Sorting an answer and filtering it commute. -/
theorem Query.filter_sort (q : Query) {docs : List Document} (h : UniqueIDs docs)
    (p : Document → Bool) : (q.sort ord docs).filter p = q.sort ord (docs.filter p) := by
  unfold Query.sort
  cases q.orderBy with
  | none => rfl
  | some f =>
      apply OrderedList.filter_insertionSort _ (orderLe_total ord f) (orderLe_trans ord f)
      intro d hd e he hde hed
      exact h.eq_of_mem hd he (orderLe_antisymm_id ord f d e hde hed)

theorem Query.cut_sublist (q : Query) (docs : List Document) : (q.cut docs).Sublist docs := by
  unfold Query.cut
  cases q.limit with
  | none => exact List.Sublist.refl docs
  | some n => exact List.take_sublist _ _

theorem Query.mem_sort (q : Query) {docs : List Document} {d : Document} :
    d ∈ q.sort ord docs ↔ d ∈ docs := by
  unfold Query.sort
  cases q.orderBy with
  | none => exact Iff.rfl
  | some f => exact List.mem_insertionSort _

/-- Every document of an answer is selected and comes from the collection. -/
theorem Query.mem_of_mem_run (q : Query) {docs : List Document} {d : Document}
    (h : d ∈ q.run ord docs) : d ∈ docs :=
  (List.mem_filter.1 ((q.mem_sort ord).1 ((q.cut_sublist _).mem h))).1

/-- A working database respects the query. -/
theorem Query.run_respects (q : Query) (docs : List Document)
    (hlimit : ∀ n, q.limit = some n → 0 ≤ n) : q.Respects ord (q.run ord docs) := by
  refine ⟨?_, ?_, ?_⟩
  · intro d hd
    exact (List.mem_filter.1 ((q.mem_sort ord).1 ((q.cut_sublist _).mem hd))).2
  · intro f hf
    refine List.Pairwise.sublist (q.cut_sublist _) ?_
    have : Std.Total (orderLe ord f) := ⟨orderLe_total ord f⟩
    have : IsTrans Document (orderLe ord f) := ⟨orderLe_trans ord f⟩
    unfold Query.sort
    rw [hf]
    exact List.pairwise_insertionSort _ _
  · intro n hn
    have hn0 := hlimit n hn
    simp only [Query.run, Query.cut, hn, List.length_take]
    omega

end Answers

end FancyLife
