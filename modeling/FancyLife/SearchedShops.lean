import FancyLife.ResultCells
import FancyLife.InvalidDocuments

/-! # The shop behind a search result

A tap on a row of the search results asks for the shop that the row names, and
opens it. The row of a shop names its own document. The row of an event names a
shop by a field of the event's document, and nothing keeps the two collections
together.
-/

namespace FancyLife

open Swift (Unicode)

/-- The shop is the one that the row names, and looks like the row if the row is
that of a shop. -/
structure SearchResult.Names [Unicode] (r : SearchResult) (shop : Shop) : Prop where
  id : shop.id = r.shopID
  looks : Swift.stringEq r.kind "shop" = true →
    shop.title = r.title ∧ shop.secondaryTitle = r.description ∧ shop.imageURL = r.imageURL ∧ some shop.score = r.score ∧ some shop.location = r.location

/-- `collectionView(_:didSelectItemAt:)` on the results. What it reports is pushed
as a `ShopInfoVC` if it is a shop, and presented as an alert if it is an error. -/
def SearchVC.didSelectResult (resultList : List SearchResult) (item : Nat) :
    FirestoreManager.DocumentFetch Shop :=
  match resultList[item]? with
  | some searchResult => FirestoreManager.getShop searchResult.shopID (.report · .done)
  | none => .trap

namespace FirestoreManager

/-! ## Documents by their ids -/

/-- The answer of a working database to `getDocument`. -/
def lookup (collections : String → List Document) (ref : DocumentReference) :
    DocumentResponse :=
  ⟨some (((collections ref.collection).find? fun d => d.documentID = ref.documentID).getD
    ⟨ref.documentID, []⟩), none⟩

section Lookup

variable {collections : String → List Document} {collection : String}

/-- A document that is there is found. -/
theorem lookup_mem (hu : UniqueIDs (collections collection)) {d : Document}
    (hd : d ∈ collections collection) :
    (lookup collections ⟨collection, d.documentID⟩).found = some d := by
  have hfind : (collections collection).find? (fun e => decide (e.documentID = d.documentID)) =
      some d := by
    cases hfound : (collections collection).find?
        (fun e => decide (e.documentID = d.documentID)) with
    | none =>
        have hnone := List.find?_eq_none.1 hfound d hd
        exact absurd (decide_eq_true rfl) hnone
    | some e =>
        have hid : decide (e.documentID = d.documentID) = true := by
          have hsome := List.find?_some hfound
          exact hsome
        rw [hu.eq_of_mem (List.mem_of_find?_eq_some hfound) hd (of_decide_eq_true hid)]
  show (some (((collections collection).find? _).getD _)) = some d
  rw [hfind]
  rfl

/-- A document that is not there arrives without fields. -/
theorem lookup_not_mem {id : String} (h : ∀ d ∈ collections collection, d.documentID ≠ id) :
    (lookup collections ⟨collection, id⟩).found = some ⟨id, []⟩ := by
  have hfind : (collections collection).find? (fun e => decide (e.documentID = id)) = none := by
    refine List.find?_eq_none.2 ?_
    intro d hd heq
    exact h d hd (of_decide_eq_true heq)
  show (some (((collections collection).find? _).getD _)) = _
  rw [hfind]
  rfl

end Lookup

/-! ## One shop -/

/-- The call never traps, and its answer opens `shop` and nothing else. -/
structure Opens (collections : String → List Document) (call : DocumentFetch Shop)
    (shop : Shop) : Prop where
  safe : Session.NeverTraps (lookup collections) call
  once : Session.ReportsOnce (lookup collections) call
  opens : ∀ is s, (Session.machine (lookup collections) call).run (Session.start call) is = some s →
    s.Finished → s.reports = [.ok shop]

variable {collections : String → List Document}

/-- What a call that reports once opens. -/
theorem opens_iff {call : DocumentFetch Shop} (hfree : call.TrapFree (lookup collections))
    {result : Except FLError Shop} (heval : call.eval (lookup collections) = [result])
    (shop : Shop) : Opens collections call shop ↔ result = .ok shop := by
  constructor
  · intro h
    have heval' := (Session.finished_reports_iff (lookup collections) hfree _).1 h.opens
    rw [heval] at heval'
    exact List.singleton_inj.1 heval'
  · rintro rfl
    constructor
    · exact (Session.neverTraps_iff _).2 hfree
    · rw [Session.reportsOnce_iff _ hfree, heval]
      rfl
    · exact (Session.finished_reports_iff _ hfree _).2 heval

/-- `getShop` opens the shop of the document that is found, if it can be decoded. -/
theorem opens_getShop_iff (shopId : String) {d : Document}
    (hfound : (lookup collections ⟨"Shop", shopId⟩).found = some d) (shop : Shop) :
    Opens collections (getShop shopId (.report · .done)) shop ↔
      decodeShopOf shopId d = some shop := by
  cases hdecoded : decodeShopOf shopId d with
  | none =>
      refine iff_of_false ?_ (by simp)
      intro h
      -- the cast traps
      have hfree := (Session.neverTraps_iff _).1 h.safe
      simp only [getShop, Code.TrapFree, hfound, hdecoded, succeed] at hfree
      exact hfree.1
  | some shop' =>
      have hfree : (getShop shopId (.report · .done)).TrapFree (lookup collections) := by
        simp only [getShop, Code.TrapFree, hfound, hdecoded, succeed, and_true]
      have heval : (getShop shopId (.report · .done)).eval (lookup collections) =
          [.ok shop'] := by
        simp only [getShop, Code.eval, hfound, hdecoded, succeed, List.nil_append]
      rw [opens_iff hfree heval]
      constructor
      · intro h
        exact congrArg some (Except.ok.inj h)
      · intro h
        exact congrArg Except.ok (Option.some.inj h)

/-- `getShop` opens a shop exactly when a document of that id can be decoded. -/
theorem exists_opens_iff (hu : UniqueIDs (collections "Shop")) (shopId : String) :
    (∃ shop, Opens collections (getShop shopId (.report · .done)) shop) ↔
      ∃ d ∈ collections "Shop", d.documentID = shopId ∧ d.Castable shopSchema := by
  constructor
  · rintro ⟨shop, hopens⟩
    by_cases hmissing : ∀ d ∈ collections "Shop", d.documentID ≠ shopId
    · have hdecoded := (opens_getShop_iff shopId (lookup_not_mem hmissing) shop).1 hopens
      cases hdecoded
    · rcases Classical.not_forall.1 hmissing with ⟨d, hd⟩
      rcases Classical.not_imp.1 hd with ⟨hmem, hid⟩
      obtain rfl := Classical.not_not.1 hid
      have hdecoded := (opens_getShop_iff _ (lookup_mem hu hmem) shop).1 hopens
      refine ⟨d, hmem, rfl, (decodeShopOf_isSome d.documentID d).1 ?_⟩
      rw [hdecoded]
      rfl
  · rintro ⟨d, hmem, rfl, hcast⟩
    rcases Option.isSome_iff_exists.1 ((decodeShopOf_isSome d.documentID d).2 hcast) with
      ⟨shop, hshop⟩
    exact ⟨shop, (opens_getShop_iff _ (lookup_mem hu hmem) shop).2 hshop⟩

/-! ## The rows of a search -/

/-- The row of a shop and the shop are decoded from one document. -/
theorem ShopResultOf.names [Unicode] {newID : Nat → UUID} {d : Document} {r : SearchResult}
    {shop : Shop} (hr : ShopResultOf newID d r) (hshop : decodeShopOf d.documentID d = some shop) :
    r.Names shop := by
  rcases hr with ⟨n, hdecode⟩
  simp only [decodeShopResult, Option.bind_eq_bind, Option.bind_eq_some_iff] at hdecode
  rcases hdecode with ⟨title, htitle, description, hdescription, score, hscore, imageURL,
    himageURL, location, hlocation, hr⟩
  obtain rfl := Option.some.inj hr
  simp only [decodeShopOf, htitle, hdescription, hscore, himageURL, hlocation,
    Option.bind_eq_bind, Option.bind_some, Option.bind_eq_some_iff] at hshop
  rcases hshop with ⟨openTime, -, category, -, address, -, kind, -, hshop⟩
  obtain rfl := Option.some.inj hshop
  exact ⟨rfl, fun _ => ⟨rfl, rfl, rfl, rfl, rfl⟩⟩

/-- The row of an event names the shop in the event's document. -/
theorem EventResultOf.shopID {newID : Nat → UUID} {e : Document} {r : SearchResult}
    (hr : EventResultOf newID e r) : e.get "shopID" = some (.string r.shopID) := by
  rcases hr with ⟨n, hdecode⟩
  simp only [decodeEventResult, Option.bind_eq_bind, Option.bind_eq_some_iff] at hdecode
  rcases hdecode with ⟨shopID, hshopID, title, -, description, -, imageURL, -, start, -, finish, -,
    price, -, originalPrice, -, hr⟩
  obtain rfl := Option.some.inj hr
  unfold asString at hshopID
  split at hshopID
  · rename_i text htext
    rw [htext, Option.some.inj hshopID]
  · cases hshopID

theorem decodeShopOf_id {shopId : String} {d : Document} {shop : Shop}
    (h : decodeShopOf shopId d = some shop) : shop.id = shopId := by
  simp only [decodeShopOf, Option.bind_eq_bind, Option.bind_eq_some_iff] at h
  rcases h with ⟨imageURL, -, title, -, secondaryTitle, -, score, -, openTime, -, category, -,
    address, -, kind, -, location, -, hshop⟩
  rw [← Option.some.inj hshop]

section Search

variable {ord : ValueOrder} {newID : Nat → UUID} {keyword : String} {answer : Query → Response}

/-- A list that a search delivers is one of results. -/
theorem searchResultsOf_of_mem_eval (hanswer : Answers ord collections answer)
    {list : List SearchResult}
    (h : .ok list ∈ (getSearchResults newID keyword report).eval answer) :
    SearchResultsOf ord collections newID keyword list := by
  simp only [getSearchResults, getDocuments, Code.eval, List.nil_append] at h
  rcases hanswer.matching "Shop" keyword with hnone | hdocs
  · rw [hnone] at h
    cases List.mem_singleton.1 h
  · rw [hdocs] at h
    cases hshops : decodeLoop (fun count => decodeShopResult (newID count)) noBreak
        (matching ord collections "Shop" keyword) [] 0 with
    | none =>
        simp only [hshops, Code.eval] at h
        cases h
    | some shopResults =>
        simp only [hshops, Code.eval, List.nil_append] at h
        rcases hanswer.matching "Event" keyword with hnone | hdocs'
        · rw [hnone] at h
          cases List.mem_singleton.1 h
        · rw [hdocs'] at h
          cases hevents : decodeLoop (fun count => decodeEventResult (newID count)) noBreak
              (matching ord collections "Event" keyword) shopResults 0 with
          | none =>
              simp only [hevents] at h
              cases h
          | some results =>
              simp only [hevents] at h
              obtain rfl : list = results := Except.ok.inj (List.mem_singleton.1 h)
              -- both loops went through, so every document could be cast
              have hcast := (decodeLoop_isSome (fun n => decodeShopResult_isSome (newID n)) noBreak
                (matching ord collections "Shop" keyword) [] 0).1 (by rw [hshops]; rfl)
              have hcast' := (decodeLoop_isSome (fun n => decodeEventResult_isSome (newID n))
                noBreak (matching ord collections "Event" keyword) shopResults 0).1
                (by rw [hevents]; rfl)
              rw [reached_noBreak] at hcast hcast'
              rcases decodeLoop_forall₂ (fun n => decodeShopResult_isSome (newID n)) hcast [] 0 with
                ⟨new, hloop, hall⟩
              rcases decodeLoop_forall₂ (fun n => decodeEventResult_isSome (newID n)) hcast'
                shopResults 0 with ⟨new', hloop', hall'⟩
              obtain rfl : new = shopResults := Option.some.inj (hloop.symm.trans hshops)
              obtain rfl : new ++ new' = list := Option.some.inj (hloop'.symm.trans hevents)
              exact ⟨new, new', rfl, hall, hall'⟩

/-- Every row of the results opens the shop that it shows if and only if the
matching shops are complete, and every matching event names a complete shop that
is there. -/
theorem taps_open_shops_iff [Unicode] (hu : UniqueIDs (collections "Shop"))
    (hanswer : Answers ord collections answer) {list : List SearchResult}
    (hsearch : .ok list ∈ (getSearchResults newID keyword report).eval answer) :
    (∀ item r, list[item]? = some r → ∃ shop,
        Opens collections (SearchVC.didSelectResult list item) shop ∧ r.Names shop) ↔
      (∀ d ∈ matching ord collections "Shop" keyword, d.Castable shopSchema) ∧
        ∀ e ∈ matching ord collections "Event" keyword, ∃ d ∈ collections "Shop",
          e.get "shopID" = some (.string d.documentID) ∧ d.Castable shopSchema := by
  rcases searchResultsOf_of_mem_eval hanswer hsearch with ⟨shops, events, rfl, hshops, hevents⟩
  -- the shop that a row names can be opened
  have hrow : ∀ item r, (shops ++ events)[item]? = some r →
      SearchVC.didSelectResult (shops ++ events) item = getShop r.shopID (.report · .done) := by
    intro item r hr
    rw [SearchVC.didSelectResult, hr]
  constructor
  · intro htaps
    have hopens : ∀ r ∈ shops ++ events, ∃ d ∈ collections "Shop", d.documentID = r.shopID ∧
        d.Castable shopSchema := by
      intro r hr
      rcases List.mem_iff_getElem?.1 hr with ⟨item, hitem⟩
      rcases htaps item r hitem with ⟨shop, hopens, -⟩
      rw [hrow item r hitem] at hopens
      exact (exists_opens_iff hu r.shopID).1 ⟨shop, hopens⟩
    constructor
    · intro d hd
      rcases OrderedList.exists_of_forall₂_left hshops d hd with ⟨r, hr, hof⟩
      rcases hopens r (List.mem_append_left _ hr) with ⟨d', hd', hid, hcast⟩
      have hsame : d' = d :=
        hu.eq_of_mem hd' (Query.mem_of_mem_run ord _ hd) (hid.trans hof.tagged.2.1)
      exact hsame ▸ hcast
    · intro e he
      rcases OrderedList.exists_of_forall₂_left hevents e he with ⟨r, hr, hof⟩
      rcases hopens r (List.mem_append_right _ hr) with ⟨d, hd, hid, hcast⟩
      refine ⟨d, hd, ?_, hcast⟩
      rw [hof.shopID, hid]
  · rintro ⟨hcomplete, hreferences⟩ item r hr
    rw [hrow item r hr]
    rcases List.mem_append.1 (List.mem_of_getElem? hr) with hmem | hmem
    · rcases OrderedList.exists_of_forall₂_right hshops r hmem with ⟨d, hd, hof⟩
      rcases Option.isSome_iff_exists.1
        ((decodeShopOf_isSome d.documentID d).2 (hcomplete d hd)) with ⟨shop, hshop⟩
      rw [hof.tagged.2.1]
      have hfound := lookup_mem hu (Query.mem_of_mem_run ord _ hd)
      exact ⟨shop, (opens_getShop_iff _ hfound shop).2 hshop, hof.names hshop⟩
    · rcases OrderedList.exists_of_forall₂_right hevents r hmem with ⟨e, he, hof⟩
      rcases hreferences e he with ⟨d, hd, hname, hcast⟩
      have hid : d.documentID = r.shopID := by
        rw [hof.shopID] at hname
        exact (Value.string.inj (Option.some.inj hname)).symm
      rw [← hid]
      rcases Option.isSome_iff_exists.1
        ((decodeShopOf_isSome d.documentID d).2 hcast) with ⟨shop, hshop⟩
      refine ⟨shop, (opens_getShop_iff _ (lookup_mem hu hd) shop).2 hshop, ?_⟩
      constructor
      · exact (decodeShopOf_id hshop).trans hid
      · intro hkind
        rw [hof.tagged.1] at hkind
        cases hkind

end Search

/-- A bakery with all its fields, and an event of it. -/
def bakeryCollections : String → List Document
  | "Shop" => [⟨"b", [("title", .string "b"), ("secondaryTitle", .string "bread"),
      ("score", .number (.finite 4)), ("imageURL", .string "https://img/b"),
      ("location", .array [.number (.finite 1), .number (.finite 2)]),
      ("openingTime", .string "7:00-17:00"), ("category", .string "餐饮"),
      ("address", .string ""), ("kind", .string "面包"),
      ("keywords", .array [.string "bread"]), ("priority", .number (.finite 1))]⟩]
  | "Event" => [⟨"e", [("shopID", .string "b"), ("title", .string "e"),
      ("description", .string ""), ("imageURL", .string "https://img/e"),
      ("startTime", .timestamp ⟨0, 0⟩), ("endTime", .timestamp ⟨86400, 0⟩),
      ("price", .number (.finite 5)), ("originalPrice", .number (.finite 10)),
      ("keywords", .array [.string "bread"]), ("priority", .number (.finite 1))]⟩]
  | _ => []

section CodePoints

attribute [local instance] Unicode.codePoints

/-- Both rows open the bakery. -/
theorem bread_rows_open_bakery :
    ∃ list : List SearchResult, list.length = 2 ∧ ∀ item r, list[item]? = some r → ∃ shop,
      Opens bakeryCollections (SearchVC.didSelectResult list item) shop ∧ r.Names shop := by
  have hanswer : Answers numberOrder bakeryCollections
      fun q => .ok (q.run numberOrder (bakeryCollections q.collection)) := fun _ => Or.inr rfl
  have hsearch : ∃ list : List SearchResult, list.length = 2 ∧
      .ok list ∈ (getSearchResults id "bread" report).eval
        fun q => .ok (q.run numberOrder (bakeryCollections q.collection)) :=
    ⟨_, rfl, List.mem_singleton_self _⟩
  have hshop : ∀ d ∈ bakeryCollections "Shop", d.documentID = "b" ∧ d.Castable shopSchema := by
    intro d hd
    rw [List.mem_singleton.1 hd]
    exact ⟨rfl, (decodeShopOf_isSome "b" _).1 rfl⟩
  rcases hsearch with ⟨list, hlength, hsearch⟩
  refine ⟨list, hlength, (taps_open_shops_iff (by decide) hanswer hsearch).2 ⟨?_, ?_⟩⟩
  · intro d hd
    exact (hshop d (Query.mem_of_mem_run numberOrder _ hd)).2
  · intro e he
    have hevent := Query.mem_of_mem_run numberOrder _ he
    refine ⟨_, List.mem_singleton_self _, ?_, (hshop _ (List.mem_singleton_self _)).2⟩
    rw [List.mem_singleton.1 hevent]
    rfl

end CodePoints

end FirestoreManager

end FancyLife
