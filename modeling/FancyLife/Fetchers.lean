import FancyLife.Decoding

/-! # The other fetchers of FirestoreManager

Each asks a query or a document, decodes in a loop and calls `completed`;
`getSearchResults` asks a second query in the callback of the first. `newID n`
is the `n`-th identifier that `UUID()` hands out during the call.
-/

namespace FancyLife.FirestoreManager

variable {α β : Type}

/-- `query.getDocuments { (snapshot, error) in ... }`, where `body` is the branch
of `error == nil && snapshot != nil`. -/
def getDocuments (query : Query) (completed : Except FLError α → Fetch β)
    (body : List Document → Fetch β) : Fetch β :=
  .ask query
    (fun response =>
      match response.documents with
      | some documents => body documents
      | none => completed (.error .invalidData))
    .done

/-- `completed(.success(...))` with what was decoded; a failed cast traps before. -/
def succeed {Q A : Type} (completed : Except FLError α → Code Q A (Except FLError β)) :
    Option α → Code Q A (Except FLError β)
  | some value => completed (.ok value)
  | none => .trap

/-- `hotSearchRef.order(by: "priority")`. -/
def hotSearchQuery : Query := ⟨"HotSearch", none, some "priority", none⟩

def getHotSearch (newID : Nat → UUID)
    (completed : Except FLError (List SearchTag) → Fetch β) : Fetch β :=
  getDocuments hotSearchQuery completed fun documents =>
    succeed completed
      (decodeLoop (fun count => decodeSearchTag (newID count)) noBreak documents [] 0)

/-- `tuanGoRef.whereField("location", isEqualTo: location).order(by: "priority")`. -/
def tuanGoQuery (location : String) : Query :=
  ⟨"TuanGo", some (.isEqualTo "location" location), some "priority", none⟩

def getTuanGoList (location : String)
    (completed : Except FLError (List TuanGo) → Fetch β) : Fetch β :=
  getDocuments (tuanGoQuery location) completed fun documents =>
    succeed completed (decodeLoop (fun _ => decodeTuanGo) noBreak documents [] 0)

/-- `adRef.whereField("location", isEqualTo: location)`, in no order. -/
def adQuery (location : String) : Query :=
  ⟨"AdImage", some (.isEqualTo "location" location), none, none⟩

def getAdList (location : String)
    (completed : Except FLError (List AdImage) → Fetch β) : Fetch β :=
  getDocuments (adQuery location) completed fun documents =>
    succeed completed (decodeLoop (fun _ => decodeAdImage) noBreak documents [] 0)

/-- Code that asks for single documents. -/
abbrev DocumentFetch (α : Type) := Code DocumentReference DocumentResponse (Except FLError α)

def getShop (shopId : String) (completed : Except FLError Shop → DocumentFetch β) :
    DocumentFetch β :=
  .ask ⟨"Shop", shopId⟩
    (fun response =>
      match response.found with
      | some document => succeed completed (decodeShopOf shopId document)
      | none => completed (.error .invalidData))
    .done

/-- `whereField("shopID", isEqualTo: shopID).order(by: "priority")`. -/
def ofShopQuery (collection shopID : String) : Query :=
  ⟨collection, some (.isEqualTo "shopID" shopID), some "priority", none⟩

def getEvents (shopID : String) (isLimited : Bool)
    (completed : Except FLError (List Event) → Fetch β) : Fetch β :=
  getDocuments (ofShopQuery "Event" shopID) completed fun documents =>
    if documents.length = 0 then completed (.ok [])
    else
      succeed completed
        (decodeLoop (fun _ => decodeEvent shopID) (breakAt isLimited 1) documents [] 0)

def getProducts (shopID : String) (isLimited : Bool)
    (completed : Except FLError (List Product) → Fetch β) : Fetch β :=
  getDocuments (ofShopQuery "Product" shopID) completed fun documents =>
    succeed completed
      (decodeLoop (fun _ => decodeProduct shopID) (breakAt isLimited 3) documents [] 0)

/-- `whereField("keywords", arrayContains: keyword).order(by: "priority")`. -/
def keywordQuery (collection keyword : String) : Query :=
  ⟨collection, some (.arrayContains "keywords" keyword), some "priority", none⟩

/-- The shops first, then the events behind them in the same list. -/
def getSearchResults (newID : Nat → UUID) (keyword : String)
    (completed : Except FLError (List SearchResult) → Fetch β) : Fetch β :=
  getDocuments (keywordQuery "Shop" keyword) completed fun documents =>
    match decodeLoop (fun count => decodeShopResult (newID count)) noBreak documents [] 0 with
    | some resultList =>
        getDocuments (keywordQuery "Event" keyword) completed fun documents =>
          succeed completed
            (decodeLoop (fun count => decodeEventResult (newID count)) noBreak documents
              resultList 0)
    | none => .trap

end FancyLife.FirestoreManager
