import FancyLife.Lib.Swift

/-! # The model types of the app

The structs of `Models/`, field by field, and the errors the fetchers report. Strings
are compared by `Swift.stringEq`.
-/

namespace FancyLife

open Swift (Double Unicode stringEq)

/-- A `UUID()`: the number of identifiers handed out before it. -/
abbrev UUID := Nat

/-- A point in time, as Firestore's `Timestamp` and Foundation's `Date` keep it. -/
structure Timestamp where
  seconds : Int
  nanoseconds : Nat
deriving DecidableEq

/-- `Date` is only stored and shown, so it is kept as the timestamp it comes from. -/
abbrev Date := Timestamp

inductive FLError where
  | invalidUsername
  | unableToComplete
  | invalidResponse
  | invalidData
  | unableToFavourite
  | alreadyInFavourites
deriving DecidableEq

/-- The message that the alerts show. -/
def FLError.rawValue : FLError → String
  | .invalidUsername => "This username created an invalid request. Please try again."
  | .unableToComplete =>
      "Unable to complete your request. Please check you Internet connection."
  | .invalidResponse => "Invalid response from the server. Please try again."
  | .invalidData => "从服务器获取的数据无效，请稍后再次尝试。"
  | .unableToFavourite => "There was an eror favouriting this user. Please try again"
  | .alreadyInFavourites => "You've already favourited this user. You must REALLY like them!"

/-- What `presentFLAlertOnMainThread(title:message:buttonTitle:)` shows. -/
structure FLAlert where
  title : String
  message : String
  buttonTitle : String
deriving DecidableEq

structure Shop where
  id : String
  imageURL : String
  title : String
  secondaryTitle : String
  distance : Double
  score : Double
  location : List Double
  openingTime : String
  category : String
  address : String
  sameCategoryShops : Option Int
  kind : String
deriving DecidableEq

structure Event where
  id : String
  shopID : String
  title : String
  startDate : Date
  endDate : Date
  description : String
  imageURL : String
  price : Double
  originalPrice : Double
deriving DecidableEq

/-- The synthesized `==`. -/
def Event.eq [Unicode] (a b : Event) : Bool :=
  stringEq a.id b.id && stringEq a.shopID b.shopID && stringEq a.title b.title &&
    decide (a.startDate = b.startDate) && decide (a.endDate = b.endDate) &&
    stringEq a.description b.description && stringEq a.imageURL b.imageURL &&
    a.price.eq b.price && a.originalPrice.eq b.originalPrice

structure Product where
  id : String
  shopID : String
  imageURL : String
  title : String
  description : String
  price : Double
  sale : Double
deriving DecidableEq

/-- The synthesized `==`. -/
def Product.eq [Unicode] (a b : Product) : Bool :=
  stringEq a.id b.id && stringEq a.shopID b.shopID && stringEq a.imageURL b.imageURL &&
    stringEq a.title b.title && stringEq a.description b.description &&
    a.price.eq b.price && a.sale.eq b.sale

structure Review where
  id : String
  shopID : String
  username : String
  avatarImageURL : String
  imageURLs : List String
  content : String
  likeAmount : Double
  userID : String
deriving DecidableEq

structure SearchTag where
  id : UUID
  name : String
deriving DecidableEq

/-- The `==` of `extension SearchTag: Equatable`: the id does not count. -/
def SearchTag.eq [Unicode] (lhs rhs : SearchTag) : Bool := stringEq lhs.name rhs.name

/-- What `==` compares of a tag: the decomposition of its name. -/
def SearchTag.key [Unicode] (tag : SearchTag) : String := Unicode.nfd tag.name

theorem SearchTag.eq_iff [Unicode] {lhs rhs : SearchTag} :
    lhs.eq rhs = true ↔ lhs.key = rhs.key := Swift.stringEq_iff

structure SearchResult where
  id : UUID
  shopID : String
  imageURL : String
  title : String
  description : String
  distance : Option Double
  score : Option Double
  location : Option (List Double)
  price : Option Double
  originalPrice : Option Double
  eventStartDate : Option Date
  eventEndDate : Option Date
  kind : String
deriving DecidableEq

structure TuanGo where
  id : String
  title : String
  secondaryTitle : String
  amount : Double
  price : Double
  originalPrice : Double
  imageURL : String
deriving DecidableEq

structure AdImage where
  id : String
  imageURL : String
deriving DecidableEq

structure ShopInfo where
  id : UUID
  shopID : String
  shopImageURL : String
  shopTitle : String
  shopAddress : String
  shopOpeningTime : String
  eventID : String
  eventTitle : String
  eventDescription : String
  eventStartDate : Date
  eventEndDate : Date
  eventPrice : Double
  eventOriginalPirce : Double
  eventImageURL : String
  productImageURLs : List String
  reviewUsername : Option String
  reviewAvatarImageURL : Option String
  reviewContent : Option String
  reviewImageURLs : Option (List String)
  reviewAmount : Int
  reviewLikeAmount : Option Double
  recommendShopIDs : List String
  recommendShopTitles : List String
  recommendShopImages : List String
  recommendShopScores : List Double
deriving DecidableEq

/-- `options` in `HomeVC.collectionView(_:didSelectItemAt:)`: the categories whose shops
the home screen opens. -/
def HomeVC.options : List String := ["餐饮", "生鲜", "娱乐", "旅行"]

end FancyLife
