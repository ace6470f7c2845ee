import FancyLife.Firestore
import FancyLife.Lib.Callback

/-! # FirestoreManager.getShopList

The fetcher as callback code: it asks queries, and every call of the caller's
`completed` closure is a report. The three `if`s of the source follow each
other; the kind branch hands its completion to a recursive call.

`FirestoreManager.shared` lives as long as the app, so the guards on `self`
always pass. The loops compare ids by Swift's `!=`, the database's where-clauses
compare byte by byte.
-/

namespace FancyLife.FirestoreManager

open Swift (Unicode)

/-- Fetcher code whose reports are the calls of `completed`. -/
abbrev Fetch (α : Type) := Code Query Response (Except FLError α)

/-- Call the caller's closure. -/
def report {α : Type} (result : Except FLError α) : Fetch α := .report result .done

/-- `Shop(id: ..., ...)` from the fields of a document; `none` is a failed `as!`. -/
def decodeShop (document : Document) (sameCategoryShops : Option Int) : Option Shop := do
  let imageURL ← asString (document.get "imageURL")
  let title ← asString (document.get "title")
  let secondaryTitle ← asString (document.get "secondaryTitle")
  let score ← asDouble (document.get "score")
  let location ← asDoubles (document.get "location")
  let openingTime ← asString (document.get "openingTime")
  let category ← asString (document.get "category")
  let address ← asString (document.get "address")
  let kind ← asString (document.get "kind")
  return {
    id := document.documentID, imageURL, title, secondaryTitle, distance := .finite 0, score,
    location, openingTime, category, address, sameCategoryShops, kind }

/-- The loop of the first branch: every document becomes a shop. -/
def allLoop : List Document → List Shop → Option (List Shop)
  | [], shopList => some shopList
  | document :: rest, shopList => do
      let shopItem ← decodeShop document (some 0)
      allLoop rest (shopList ++ [shopItem])

section Loops

variable [Unicode]

/-- `id != shopID`: every id differs from `nil`. -/
def isOther (shopID : Option String) (document : Document) : Bool :=
  !shopID.any (Swift.stringEq document.documentID)

/-- The loop of the kind branch: skip `shopID` and count the others. -/
def kindLoop (shopID : Option String) :
    List Document → List Shop → Int → Option (List Shop × Int)
  | [], shopList, shopCount => some (shopList, shopCount)
  | document :: rest, shopList, shopCount =>
      if isOther shopID document then do
        let shopItem ← decodeShop document (some (shopCount - 1))
        kindLoop shopID rest (shopList ++ [shopItem]) (shopCount + 1)
      else kindLoop shopID rest shopList shopCount

/-- The loop of the category branch: skip `shopID` and stop at `shopsToGo`. -/
def categoryLoop (shopID : Option String) (shopsToGo : Int) :
    List Document → List Shop → Int → Option (List Shop)
  | [], shopList, _ => some shopList
  | document :: rest, shopList, shopCount =>
      if isOther shopID document then do
        let shopItem ← decodeShop document (some 0)
        if shopCount + 1 = shopsToGo then some (shopList ++ [shopItem])
        else categoryLoop shopID shopsToGo rest (shopList ++ [shopItem]) (shopCount + 1)
      else if shopCount = shopsToGo then some shopList
      else categoryLoop shopID shopsToGo rest shopList shopCount

end Loops

/-- `shopRef.order(by: "priority")`. -/
def allQuery : Query := ⟨"Shop", none, some "priority", none⟩

/-- `shopRef.whereField("kind", isEqualTo: kind!).order(by: "priority").limit(to: 7)`. -/
def kindQuery (kind : String) : Query :=
  ⟨"Shop", some (.isEqualTo "kind" kind), some "priority", some 7⟩

/-- `shopRef.whereField("category", isEqualTo: category!)...limit(to: limit)`. -/
def categoryQuery (category : String) (limit : Int) : Query :=
  ⟨"Shop", some (.isEqualTo "category" category), some "priority", some limit⟩

/-- The callback of the first branch. -/
def allCallback {α : Type} (completed : Except FLError (List Shop) → Fetch α)
    (response : Response) : Fetch α :=
  match response.documents with
  | some documents =>
      match allLoop documents [] with
      | some shopList => completed (.ok shopList)
      | none => .trap
  | none => completed (.error .invalidData)

/-- The callback of the category branch. -/
def categoryCallback [Unicode] {α : Type} (shopsToGo : Int) (shopID : Option String)
    (completed : Except FLError (List Shop) → Fetch α) (response : Response) : Fetch α :=
  match response.documents with
  | some documents =>
      match categoryLoop shopID shopsToGo documents [] 0 with
      | some shopList => completed (.ok shopList)
      | none => .trap
  | none => completed (.error .invalidData)

/-- The type of `getShopList`, its own recursive calls included. -/
abbrev GetShopList (α : Type) :=
  Option String → Option String → Int → Option String →
    (Except FLError (List Shop) → Fetch α) → Fetch α

/-- The closure that the kind branch passes on: what comes back is appended. -/
def appendTo {α : Type} (shopList : List Shop)
    (completed : Except FLError (List Shop) → Fetch α) :
    Except FLError (List Shop) → Fetch α
  | .ok shops => completed (.ok (shopList ++ shops))
  | .error _ => completed (.error .invalidData)

/-- The callback of the kind branch; `recurse` is the call of `getShopList` in it. -/
def kindCallback [Unicode] {α : Type} (recurse : GetShopList α) (category shopID : Option String)
    (completed : Except FLError (List Shop) → Fetch α) (response : Response) : Fetch α :=
  match response.documents with
  | some documents =>
      match kindLoop shopID documents [] 0 with
      | some (shopList, shopCount) =>
          if shopCount < 6 then
            recurse none category (6 - shopCount) shopID (appendTo shopList completed)
          else .done
      | none => .trap
  | none => completed (.error .invalidData)

/-- The body of `getShopList`, with its recursive call as a parameter. -/
def getShopListBody [Unicode] {α : Type} (recurse : GetShopList α) : GetShopList α :=
  fun kind category shopsToGo shopID completed =>
    (match category, kind with
      | none, none => .ask allQuery (allCallback completed) .done
      | _, _ => .done) ++
    (match kind with
      | some kind =>
          .ask (kindQuery kind) (kindCallback recurse category shopID completed) .done
      | none => .done) ++
    (match category, kind with
      | some category, none =>
          match Swift.addInt shopsToGo 1 with
          | some limit =>
              .ask (categoryQuery category limit) (categoryCallback shopsToGo shopID completed)
                .done
          | none => .trap
      | _, _ => .done)

/-- `getShopList` with `kind: nil` makes no recursive call. -/
def getShopListNoKind [Unicode] {α : Type} : GetShopList α := getShopListBody fun _ _ _ _ _ => .trap

/-- `getShopList(kind:category:shopsToGo:shopID:completed:)`. -/
def getShopList [Unicode] {α : Type} : GetShopList α := getShopListBody getShopListNoKind

/-- The recursion of the source: the recursive call is `getShopList` itself. -/
theorem getShopList_eq [Unicode] {α : Type} :
    (getShopList : GetShopList α) = getShopListBody getShopList := by
  have hnone : ∀ recurse₁ recurse₂ : GetShopList α,
      getShopListBody recurse₁ none = getShopListBody recurse₂ none := by
    intro recurse₁ recurse₂
    rfl
  funext kind category shopsToGo shopID completed
  cases kind with
  | none => rfl
  | some kind =>
      -- the only recursive call passes `kind: nil`
      have hrec : (getShopList : GetShopList α) none = getShopListNoKind none := hnone _ _
      have hcb : kindCallback (getShopList : GetShopList α) category shopID completed =
          kindCallback getShopListNoKind category shopID completed := by
        funext response
        unfold kindCallback
        rw [hrec]
      show getShopListBody getShopListNoKind (some kind) category shopsToGo shopID completed = _
      unfold getShopListBody
      simp only [hcb]

/-! ## The three branches -/

variable [Unicode] {α : Type} (completed : Except FLError (List Shop) → Fetch α)
  (shopsToGo : Int) (shopID : Option String)

@[simp] theorem getShopList_all :
    getShopList none none shopsToGo shopID completed =
      .ask allQuery (allCallback completed) .done := rfl

@[simp] theorem getShopList_kind (kind : String) (category : Option String) :
    getShopList (some kind) category shopsToGo shopID completed =
      .ask (kindQuery kind) (kindCallback getShopList category shopID completed) .done := by
  rw [getShopList_eq]
  cases category <;> rfl

theorem getShopList_category (category : String) (h0 : 0 ≤ shopsToGo)
    (hmax : shopsToGo < Swift.intMax) :
    getShopList none (some category) shopsToGo shopID completed =
      .ask (categoryQuery category (shopsToGo + 1))
        (categoryCallback shopsToGo shopID completed) .done := by
  have hadd := Swift.addInt_one h0
  rw [if_pos hmax] at hadd
  unfold getShopList getShopListBody
  simp only [hadd]
  rfl

/-- `shopsToGo + 1` overflows. -/
theorem getShopList_category_overflow (category : String) (h0 : 0 ≤ shopsToGo)
    (hmax : ¬ shopsToGo < Swift.intMax) :
    getShopList none (some category) shopsToGo shopID completed = .trap := by
  have hadd := Swift.addInt_one h0
  rw [if_neg hmax] at hadd
  unfold getShopList getShopListBody
  simp only [hadd]
  rfl

end FancyLife.FirestoreManager
