import FancyLife.Fetchers
import FancyLife.ShopList
import FancyLife.ShopVC

/-! # The cells of the search results

`getSearchResults` puts shops and events into one list of results, and a string
tells them apart. The cell provider of SearchVC looks at it and unwraps the
fields that the other kind leaves nil.
-/

namespace FancyLife

open Swift (Double Unicode)

/-! ## The provider -/

/-- Why a provider traps. -/
inductive CellTrap where
  | unwrappedNil
  | indexOutOfRange
  | notAnInt
deriving DecidableEq

/-- `x!`. -/
def unwrap {α : Type} : Option α → Except CellTrap α
  | some a => .ok a
  | none => .error .unwrappedNil

/-- What a `ShopListCell` is set to. -/
structure ShopListCell where
  title : String
  secondaryTitle : String
  imageURL : String
  score : Double
  distance : Double
deriving DecidableEq

/-- `ShopListCell.set(searchResult:distance:)`, whose `setData` traps when the distance
has no label. -/
def ShopListCell.set (searchResult : SearchResult) (distance : Double) :
    Except CellTrap ShopListCell := do
  let score ← unwrap searchResult.score
  match distanceText distance with
  | some _ => return {
      title := searchResult.title, secondaryTitle := searchResult.description,
      imageURL := searchResult.imageURL, score, distance }
  | none => throw .notAnInt

/-- What an `EventListCell` is set to. -/
structure EventListCell where
  imageURL : String
  title : String
  description : String
  startDate : Date
  endDate : Date
  price : Double
  originalPrice : Double
deriving DecidableEq

/-- `EventListCell.set(searchResult:)`. -/
def EventListCell.set (searchResult : SearchResult) : Except CellTrap EventListCell := do
  let startDate ← unwrap searchResult.eventStartDate
  let endDate ← unwrap searchResult.eventEndDate
  let price ← unwrap searchResult.price
  let originalPrice ← unwrap searchResult.originalPrice
  return {
    imageURL := searchResult.imageURL, title := searchResult.title,
    description := searchResult.description, startDate, endDate, price, originalPrice }

/-- The fields that the cell of a result unwraps are there: score and location of
a shop, prices and dates of anything else. -/
structure SearchResult.Tagged [Unicode] (r : SearchResult) : Prop where
  shop : Swift.stringEq r.kind "shop" = true → r.score.isSome ∧ r.location.isSome
  event : Swift.stringEq r.kind "shop" = false →
    r.price.isSome ∧ r.originalPrice.isSome ∧ r.eventStartDate.isSome ∧ r.eventEndDate.isSome

theorem unwrap_of_isSome {α : Type} {x : Option α} (h : x.isSome = true) :
    ∃ a, unwrap x = .ok a := by
  rcases Option.isSome_iff_exists.1 h with ⟨a, rfl⟩
  exact ⟨a, rfl⟩

theorem ShopListCell.set_cases {r : SearchResult} (hscore : r.score.isSome = true)
    (distance : Double) :
    (∃ cell, ShopListCell.set r distance = .ok cell) ∨
      ShopListCell.set r distance = .error .notAnInt := by
  rcases unwrap_of_isSome hscore with ⟨score, hscore⟩
  unfold ShopListCell.set
  rw [hscore]
  cases distanceText distance with
  | none => exact Or.inr rfl
  | some label => exact Or.inl ⟨_, rfl⟩

/-- A cell that is set up shows the score of its result. -/
theorem ShopListCell.set_ok {r : SearchResult} {distance : Double} {cell : ShopListCell}
    (h : ShopListCell.set r distance = .ok cell) : r.score = some cell.score := by
  unfold ShopListCell.set at h
  cases hscore : r.score with
  | none =>
      rw [hscore] at h
      cases h
  | some score =>
      rw [hscore] at h
      cases hlabel : distanceText distance with
      | none =>
          rw [hlabel] at h
          cases h
      | some label =>
          rw [hlabel] at h
          rw [← Except.ok.inj h]

namespace FirestoreManager

/-! ## The two loops -/

/-- `r` is what the shop loop makes of a document. -/
def ShopResultOf (newID : Nat → UUID) (d : Document) (r : SearchResult) : Prop :=
  ∃ n, decodeShopResult (newID n) d = some r

/-- `r` is what the event loop makes of a document. -/
def EventResultOf (newID : Nat → UUID) (d : Document) (r : SearchResult) : Prop :=
  ∃ n, decodeEventResult (newID n) d = some r

theorem ShopResultOf.tagged [Unicode] {newID : Nat → UUID} {d : Document} {r : SearchResult}
    (h : ShopResultOf newID d r) : r.kind = "shop" ∧ r.shopID = d.documentID ∧ r.Tagged := by
  rcases h with ⟨n, hdecode⟩
  simp only [decodeShopResult, Option.bind_eq_bind, Option.bind_eq_some_iff] at hdecode
  rcases hdecode with ⟨title, -, description, -, score, -, imageURL, -, location, -, hr⟩
  obtain rfl := Option.some.inj hr
  refine ⟨rfl, rfl, ⟨fun _ => ⟨rfl, rfl⟩, fun hne => ?_⟩⟩
  rw [Swift.stringEq_refl] at hne
  cases hne

theorem EventResultOf.tagged [Unicode] {newID : Nat → UUID} {d : Document} {r : SearchResult}
    (h : EventResultOf newID d r) : Swift.stringEq r.kind "shop" = false ∧ r.Tagged := by
  rcases h with ⟨n, hdecode⟩
  simp only [decodeEventResult, Option.bind_eq_bind, Option.bind_eq_some_iff] at hdecode
  rcases hdecode with ⟨shopID, -, title, -, description, -, imageURL, -, start, -, finish, -,
    price, -, originalPrice, -, hr⟩
  obtain rfl := Option.some.inj hr
  have hevent : Swift.stringEq "event" "shop" = false := by
    rw [Swift.stringEq_plain (by simp [Swift.Plain]) (by simp [Swift.Plain])]
    decide
  refine ⟨hevent, ⟨fun hshop => ?_, fun _ => ⟨rfl, rfl, rfl, rfl⟩⟩⟩
  rw [hevent] at hshop
  cases hshop

/-- A loop without a break appends one value for each document, in order. -/
theorem decodeLoop_forall₂ {α : Type} {decode : Nat → Document → Option α} {schema : Schema}
    (hdecode : ∀ n d, (decode n d).isSome = true ↔ d.Castable schema) {docs : List Document}
    (hcast : ∀ d ∈ docs, d.Castable schema) (list : List α) (count : Nat) :
    ∃ new, decodeLoop decode noBreak docs list count = some (list ++ new) ∧
      List.Forall₂ (fun d a => ∃ n, decode n d = some a) docs new := by
  induction docs generalizing list count with
  | nil => exact ⟨[], by simp [decodeLoop], .nil⟩
  | cons d docs ih =>
      have hd := (hdecode list.length d).2 (hcast d List.mem_cons_self)
      rcases Option.isSome_iff_exists.1 hd with ⟨item, hitem⟩
      rcases ih (fun e he => hcast e (List.mem_cons_of_mem d he)) (list ++ [item]) (count + 1)
        with ⟨new, hloop, hall⟩
      refine ⟨item :: new, ?_, .cons ⟨_, hitem⟩ hall⟩
      rw [decodeLoop, hitem]
      simpa [noBreak] using hloop

/-! ## The fetcher -/

section Search

variable (ord : ValueOrder) (collections : String → List Document)

/-- The service answers a query from its collection, or with a failure. -/
def Answers (answer : Query → Response) : Prop :=
  ∀ q, (answer q).documents = none ∨
    (answer q).documents = some (q.run ord (collections q.collection))

/-- The documents of a collection that have the keyword, in priority order. -/
def matching (collection keyword : String) : List Document :=
  (keywordQuery collection keyword).run ord (collections collection)

variable {ord collections} in
theorem Answers.matching {answer : Query → Response} (h : Answers ord collections answer)
    (collection keyword : String) :
    (answer (keywordQuery collection keyword)).documents = none ∨
      (answer (keywordQuery collection keyword)).documents =
        some (FirestoreManager.matching ord collections collection keyword) :=
  h (keywordQuery collection keyword)

/-- The results of a search: one for each matching shop, then one for each
matching event. -/
def SearchResultsOf (newID : Nat → UUID) (keyword : String) (list : List SearchResult) : Prop :=
  ∃ shopResults eventResults, list = shopResults ++ eventResults ∧
    List.Forall₂ (ShopResultOf newID) (matching ord collections "Shop" keyword) shopResults ∧
    List.Forall₂ (EventResultOf newID) (matching ord collections "Event" keyword) eventResults

variable {ord collections}

/-- Every result of a search is tagged. -/
theorem SearchResultsOf.tagged [Unicode] {newID : Nat → UUID} {keyword : String}
    {list : List SearchResult} (h : SearchResultsOf ord collections newID keyword list) :
    ∀ r ∈ list, r.Tagged := by
  rcases h with ⟨shopResults, eventResults, rfl, hshops, hevents⟩
  intro r hr
  rcases List.mem_append.1 hr with hr | hr
  · rcases OrderedList.exists_of_forall₂_right hshops r hr with ⟨d, -, hof⟩
    exact hof.tagged.2.2
  · rcases OrderedList.exists_of_forall₂_right hevents r hr with ⟨d, -, hof⟩
    exact hof.tagged.2

end Search

section CodePoints

attribute [local instance] Unicode.codePoints

end CodePoints

end FirestoreManager

end FancyLife
