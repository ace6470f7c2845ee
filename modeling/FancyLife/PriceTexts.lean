import FancyLife.Decoding
import FancyLife.ResultCells
import FancyLife.ShopInfoScreen
import FancyLife.Lib.Decimal

/-! # Prices on the cells

The cells of products, events and group purchases show prices with two digits. The
number that a document keeps goes through the cast of the decoder, the model value,
on the shop page a `ShopInfo`, and the format of the cell. Read back, the text is the
stored price to the nearest cent. `dateText` is `converToYearMonthDayFormat()`, which
depends on the device.
-/

namespace FancyLife

open Swift (Double)

/-! ## The cells -/

/-- The text of a price label. -/
def priceText (price : Double) : String := "$" ++ price.format2

/-- What a `ProductListCell` shows. -/
structure ProductListCell where
  imageURL : String
  title : String
  description : String
  sale : String
  price : String
deriving DecidableEq

/-- `ProductListCell.set(product:)`; `none` is the trap of `Int(product.sale)`. -/
def ProductListCell.set (product : Product) : Option ProductListCell := do
  let sale ← product.sale.toInt
  return {
    imageURL := product.imageURL, title := product.title, description := product.description
    sale := s!"月售{sale}件", price := priceText product.price }

/-- What a `HomeTuanGoCell` shows. -/
structure HomeTuanGoCell where
  imageURL : String
  title : String
  secondaryTitle : String
  amount : String
  price : String
  originalPrice : String
deriving DecidableEq

/-- `HomeTuanGoCell.set(tuanGoItem:)`; `none` is the trap of `Int(tuanGoItem.amount)`. -/
def HomeTuanGoCell.set (tuanGoItem : TuanGo) : Option HomeTuanGoCell := do
  let amount ← tuanGoItem.amount.toInt
  return {
    imageURL := tuanGoItem.imageURL, title := tuanGoItem.title
    secondaryTitle := tuanGoItem.secondaryTitle, amount := s!"剩余{amount}件"
    price := priceText tuanGoItem.price
    originalPrice := priceText tuanGoItem.originalPrice }

/-- What the cell of an event shows. -/
structure EventLabels where
  imageURL : String
  title : String
  description : String
  time : String
  price : String
  originalPrice : String
deriving DecidableEq

/-- `EventListCell.setData`, on the values that a cell is set to. -/
def EventListCell.setData (dateText : Date → String) (cell : EventListCell) : EventLabels where
  imageURL := cell.imageURL
  title := cell.title
  description := cell.description
  time := dateText cell.startDate ++ "至" ++ dateText cell.endDate
  price := priceText cell.price
  originalPrice := priceText cell.originalPrice

/-- `EventListCell.set(event:)`: the values it passes on. -/
def EventListCell.setEvent (event : Event) : EventListCell where
  imageURL := event.imageURL
  title := event.title
  description := event.description
  startDate := event.startDate
  endDate := event.endDate
  price := event.price
  originalPrice := event.originalPrice

/-- `ShopListCell.set(shop:distance:)`: the values it passes on. -/
def ShopListCell.setShop (shop : Shop) (distance : Double) : ShopListCell where
  title := shop.title
  secondaryTitle := shop.secondaryTitle
  imageURL := shop.imageURL
  score := shop.score
  distance := distance

/-- The score label of `ShopListCell.setData`. -/
def ShopListCell.scoreText (cell : ShopListCell) : String := cell.score.format1

/-- `EventCell.set(shopInfo:)`. -/
def EventCell.set (dateText : Date → String) (shopInfo : ShopInfo) : EventLabels where
  imageURL := shopInfo.eventImageURL
  title := shopInfo.eventTitle
  description := shopInfo.eventDescription
  time := dateText shopInfo.eventStartDate ++ "至" ++ dateText shopInfo.eventEndDate
  price := priceText shopInfo.eventPrice
  originalPrice := priceText shopInfo.eventOriginalPirce

/-! ## Reading a price back -/

/-- The number that a field keeps. -/
def numberOf : Option Value → Option Rat
  | some (.number (.finite q)) => some q
  | some (.integer n) => some n
  | _ => none

/-- A text with `digits` digits after the point stands for `q`: it is never more than
half a unit of the last digit away, and it is the decimal number that `q` is closest to. -/
def ReadsAs (digits : Nat) (text : String) (q : Rat) : Prop :=
  |Decimal.read text - q| ≤ 1 / 2 / 10 ^ digits ∧
    ∀ n : Int, |q - n / 10 ^ digits| < 1 / 2 / 10 ^ digits → Decimal.read text = n / 10 ^ digits

/-- A label with a price. -/
def PriceReadsAs (text : String) (q : Rat) : Prop :=
  ∃ number, text = "$" ++ number ∧ ReadsAs 2 number q

theorem format_reads {digits : Nat} (hdigits : 0 < digits) (q : Rat) :
    ReadsAs digits (Decimal.format digits q) q := by
  have hread : Decimal.read (Decimal.format digits q) = Decimal.rounded digits q :=
    Decimal.read_format hdigits q
  constructor
  · rw [hread]
    exact Decimal.abs_rounded_sub_le digits q
  · intro n hclose
    rw [hread]
    exact Decimal.rounded_eq_of_close hclose

theorem asDouble_numberOf {v : Option Value} {x : Double} {q : Rat} (hcast : asDouble v = some x)
    (hnumber : numberOf v = some q) : x = .finite q := by
  unfold numberOf at hnumber
  split at hnumber
  · rw [← Option.some.inj hnumber]
    exact (Option.some.inj hcast).symm
  · rename_i n
    rw [← Option.some.inj hnumber]
    have hexact : Swift.exactDouble n = some x := hcast
    unfold Swift.exactDouble at hexact
    split at hexact
    · exact (Option.some.inj hexact).symm
    · cases hexact
  · cases hnumber

/-- The number that was cast to `x`, on a price label. -/
theorem cast_price_reads {v : Option Value} {x : Double} {q : Rat} (hcast : asDouble v = some x)
    (hnumber : numberOf v = some q) : PriceReadsAs (priceText x) q := by
  rw [asDouble_numberOf hcast hnumber]
  exact ⟨Decimal.format 2 q, rfl, format_reads (by decide) q⟩

/-- The number that was cast to `x`, on a score label. -/
theorem cast_score_reads {v : Option Value} {x : Double} {q : Rat} (hcast : asDouble v = some x)
    (hnumber : numberOf v = some q) : ReadsAs 1 x.format1 q := by
  rw [asDouble_numberOf hcast hnumber]
  exact format_reads (by decide) q

namespace FirestoreManager

/-! ## From the document to the label -/

/-- The casts of a product's numbers. -/
theorem decodeProduct_casts {shopID : String} {document : Document} {product : Product}
    (h : decodeProduct shopID document = some product) :
    asDouble (document.get "price") = some product.price := by
  simp only [decodeProduct, Option.bind_eq_bind, Option.bind_eq_some_iff] at h
  rcases h with ⟨_, -, _, -, _, -, price, hprice, _, -, h⟩
  rw [← Option.some.inj h]
  exact hprice

theorem decodeTuanGo_casts {document : Document} {tuanGoItem : TuanGo}
    (h : decodeTuanGo document = some tuanGoItem) :
    asDouble (document.get "price") = some tuanGoItem.price ∧
      asDouble (document.get "originalPrice") = some tuanGoItem.originalPrice := by
  simp only [decodeTuanGo, Option.bind_eq_bind, Option.bind_eq_some_iff] at h
  rcases h with ⟨_, -, _, -, _, -, price, hprice, originalPrice, horiginal, _, -, h⟩
  rw [← Option.some.inj h]
  exact ⟨hprice, horiginal⟩

theorem decodeEvent_casts {shopID : String} {document : Document} {event : Event}
    (h : decodeEvent shopID document = some event) :
    asDouble (document.get "price") = some event.price ∧
      asDouble (document.get "originalPrice") = some event.originalPrice := by
  simp only [decodeEvent, Option.bind_eq_bind, Option.bind_eq_some_iff] at h
  rcases h with ⟨_, -, _, -, _, -, _, -, price, hprice, originalPrice, horiginal, _, -, h⟩
  rw [← Option.some.inj h]
  exact ⟨hprice, horiginal⟩

/-- A found event unwraps to the values that were cast. -/
theorem decodeEventResult_casts {id : UUID} {document : Document} {searchResult : SearchResult}
    {cell : EventListCell} (h : decodeEventResult id document = some searchResult)
    (hcell : EventListCell.set searchResult = .ok cell) :
    asDouble (document.get "price") = some cell.price ∧
      asDouble (document.get "originalPrice") = some cell.originalPrice := by
  simp only [decodeEventResult, Option.bind_eq_bind, Option.bind_eq_some_iff] at h
  rcases h with
    ⟨_, -, _, -, _, -, _, -, _, -, _, -, price, hprice, originalPrice, horiginal, h⟩
  rw [← Option.some.inj h] at hcell
  rw [← Except.ok.inj hcell]
  exact ⟨hprice, horiginal⟩

/-- A found shop unwraps to the score that was cast. -/
theorem decodeShopResult_casts {id : UUID} {document : Document} {searchResult : SearchResult}
    {distance : Double} {cell : ShopListCell} (h : decodeShopResult id document = some searchResult)
    (hcell : ShopListCell.set searchResult distance = .ok cell) :
    asDouble (document.get "score") = some cell.score := by
  simp only [decodeShopResult, Option.bind_eq_bind, Option.bind_eq_some_iff] at h
  rcases h with ⟨_, -, _, -, score, hscore, _, -, _, -, h⟩
  have hshown := ShopListCell.set_ok hcell
  rw [← Option.some.inj h] at hshown
  rw [hscore, ← hshown]

theorem decodeShop_casts {document : Document} {sameCategoryShops : Option Int} {shop : Shop}
    (h : decodeShop document sameCategoryShops = some shop) :
    asDouble (document.get "score") = some shop.score := by
  simp only [decodeShop, Option.bind_eq_bind, Option.bind_eq_some_iff] at h
  rcases h with ⟨_, -, _, -, _, -, score, hscore, _, -, _, -, _, -, _, -, _, -, h⟩
  rw [← Option.some.inj h]
  exact hscore

/-- The label shows the number that the field keeps. -/
def ShowsPrice (document : Document) (field text : String) : Prop :=
  ∀ q, numberOf (document.get field) = some q → PriceReadsAs text q

theorem showsPrice_of_cast {document : Document} {field : String} {x : Double}
    (hcast : asDouble (document.get field) = some x) :
    ShowsPrice document field (priceText x) :=
  fun _ hnumber => cast_price_reads hcast hnumber

/-- Both prices of an event. -/
def ShowsPrices (document : Document) (labels : EventLabels) : Prop :=
  ShowsPrice document "price" labels.price ∧
    ShowsPrice document "originalPrice" labels.originalPrice

/-- The label shows the score that the document keeps. -/
def ShowsScore (document : Document) (text : String) : Prop :=
  ∀ q, numberOf (document.get "score") = some q → ReadsAs 1 text q

/-- From the document to the label no price and no score is lost: on every cell of a
product, a group purchase, an event, a found event, a shop or a recommended shop, each
text reads back as the number in the document, to the last digit that is shown. -/
theorem labels_read_back (dateText : Date → String) (document : Document) :
    (∀ shopID product cell, decodeProduct shopID document = some product →
        ProductListCell.set product = some cell → ShowsPrice document "price" cell.price) ∧
      (∀ tuanGoItem cell, decodeTuanGo document = some tuanGoItem →
        HomeTuanGoCell.set tuanGoItem = some cell →
          ShowsPrice document "price" cell.price ∧
            ShowsPrice document "originalPrice" cell.originalPrice) ∧
      (∀ shopID event, decodeEvent shopID document = some event →
        ShowsPrices document ((EventListCell.setEvent event).setData dateText) ∧
          ∀ id shop images totalReviews review shops, ShowsPrices document
            (EventCell.set dateText
              (makeShopInfo id shop event images totalReviews review shops))) ∧
      (∀ id searchResult cell, decodeEventResult id document = some searchResult →
        EventListCell.set searchResult = .ok cell → ShowsPrices document (cell.setData dateText)) ∧
      (∀ id searchResult distance cell, decodeShopResult id document = some searchResult →
        ShopListCell.set searchResult distance = .ok cell → ShowsScore document cell.scoreText) ∧
      (∀ sameCategoryShops shop, decodeShop document sameCategoryShops = some shop →
        (∀ distance, ShowsScore document (ShopListCell.setShop shop distance).scoreText) ∧
          ∀ id ofPage event images totalReviews review shops item cell,
            shops[item]? = some shop →
            RecommendationCell.set
              (makeShopInfo id ofPage event images totalReviews review shops) item = some cell →
            ShowsScore document cell.score) := by
  refine ⟨?_, ?_, ?_, ?_, ?_, ?_⟩
  · intro shopID product cell hproduct hcell
    rcases Option.bind_eq_some_iff.1 hcell with ⟨sale, -, hcell⟩
    rw [← Option.some.inj hcell]
    exact showsPrice_of_cast (decodeProduct_casts hproduct)
  · intro tuanGoItem cell hitem hcell
    rcases Option.bind_eq_some_iff.1 hcell with ⟨amount, -, hcell⟩
    rcases decodeTuanGo_casts hitem with ⟨hprice, horiginal⟩
    rw [← Option.some.inj hcell]
    exact ⟨showsPrice_of_cast hprice, showsPrice_of_cast horiginal⟩
  · intro shopID event hevent
    rcases decodeEvent_casts hevent with ⟨hprice, horiginal⟩
    refine ⟨⟨showsPrice_of_cast hprice, showsPrice_of_cast horiginal⟩, ?_⟩
    intro id shop images totalReviews review shops
    exact ⟨showsPrice_of_cast hprice, showsPrice_of_cast horiginal⟩
  · intro id searchResult cell hresult hcell
    rcases decodeEventResult_casts hresult hcell with ⟨hprice, horiginal⟩
    exact ⟨showsPrice_of_cast hprice, showsPrice_of_cast horiginal⟩
  · intro id searchResult distance cell hresult hcell q hnumber
    exact cast_score_reads (decodeShopResult_casts hresult hcell) hnumber
  · intro sameCategoryShops shop hshop
    have hscore := decodeShop_casts hshop
    refine ⟨fun distance q hnumber => cast_score_reads hscore hnumber, ?_⟩
    intro id ofPage event images totalReviews review shops item cell hitem hcell q hnumber
    rcases Option.bind_eq_some_iff.1 hcell with ⟨imageURL, -, hcell⟩
    rcases Option.bind_eq_some_iff.1 hcell with ⟨title, -, hcell⟩
    rcases Option.bind_eq_some_iff.1 hcell with ⟨score, hshown, hcell⟩
    have hread : (shops.map Shop.score)[item]? = some score := hshown
    rw [List.getElem?_map, hitem, Option.map_some, Option.some.injEq] at hread
    rw [← Option.some.inj hcell, ← hread]
    exact cast_score_reads hscore hnumber

/-- The double that is nearest to 12.34. -/
def loafPrice : Rat := 3473401212609495 / 2 ^ 48

/-- A loaf of bread. -/
def loaf : Document where
  documentID := "p1"
  fields := [("imageURL", .string "loaf.png"), ("title", .string "面包"),
    ("description", .string "新鲜"), ("price", .number (.finite loafPrice)), ("sale", .integer 7)]

/-- The loaf's price is read as 12.34. -/
theorem loaf_price_reads : ∃ product cell, decodeProduct "s1" loaf = some product ∧
    ProductListCell.set product = some cell ∧
    ∃ number, cell.price = "$" ++ number ∧ Decimal.read number = 1234 / 100 := by
  have hcell : ∃ product cell, decodeProduct "s1" loaf = some product ∧
      ProductListCell.set product = some cell := ⟨_, _, rfl, rfl⟩
  rcases hcell with ⟨product, cell, hproduct, hcell⟩
  refine ⟨product, cell, hproduct, hcell, ?_⟩
  rcases (labels_read_back (fun _ => "") loaf).1 "s1" product cell hproduct hcell
    loafPrice rfl with ⟨number, htext, -, hreads⟩
  refine ⟨number, htext, ?_⟩
  have hclose := hreads 1234
  norm_num [loafPrice, abs_of_pos, abs_of_neg] at hclose ⊢
  exact hclose

end FirestoreManager

end FancyLife
