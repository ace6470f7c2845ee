import FancyLife.FirestoreManager

/-! # Decoding documents

The `as!` casts with which the fetchers turn a document into a model value, and
their loops over the documents of a snapshot. A `Schema` lists the fields that a
decoder reads: `Document.Castable` says that its casts succeed, and
`Document.Valid` that the value can be used, which for a location takes the two
coordinates that the list cells index.
-/

namespace FancyLife

open Swift (Double)

/-! ## Schemas -/

/-- The types of the fields the fetchers read. -/
inductive FieldType where
  | string
  | double
  | timestamp
  | location
deriving DecidableEq

/-- The cast of the field succeeds. -/
def FieldType.Casts : FieldType → Option Value → Prop
  | .string, v => (asString v).isSome
  | .double, v => (asDouble v).isSome
  | .timestamp, v => (asTimestamp v).isSome
  | .location, v => (asDoubles v).isSome

/-- The field has its type, and a location has `[0]` and `[1]`. -/
def FieldType.Valid : FieldType → Option Value → Prop
  | .location, v => (asDoubles v).any fun xs => 2 ≤ xs.length
  | t, v => t.Casts v

/-- The fields a decoder reads, with their types. -/
abbrev Schema := List (String × FieldType)

/-- Every cast of the decoder succeeds. -/
def Document.Castable (d : Document) (schema : Schema) : Prop :=
  ∀ f ∈ schema, f.2.Casts (d.get f.1)

/-- Every field of the schema is there, has its type and can be used. -/
def Document.Valid (d : Document) (schema : Schema) : Prop :=
  ∀ f ∈ schema, f.2.Valid (d.get f.1)

theorem FieldType.Valid.casts {t : FieldType} {v : Option Value} (h : t.Valid v) :
    t.Casts v := by
  cases t with
  | location =>
      rcases Option.any_eq_true_iff_get _ _ |>.1 h with ⟨hsome, -⟩
      exact hsome
  | string => exact h
  | double => exact h
  | timestamp => exact h

theorem Document.Valid.castable {d : Document} {schema : Schema} (h : d.Valid schema) :
    d.Castable schema :=
  fun f hf => (h f hf).casts

/-- Without a location in the schema, a document that can be cast can be used. -/
theorem Document.Castable.valid {d : Document} {schema : Schema} (h : d.Castable schema)
    (hschema : ∀ f ∈ schema, f.2 ≠ .location) : d.Valid schema := by
  intro f hf
  have hcasts := h f hf
  have hne := hschema f hf
  generalize f.2 = t at hcasts hne
  cases t with
  | location => exact absurd rfl hne
  | string => exact hcasts
  | double => exact hcasts
  | timestamp => exact hcasts

namespace FirestoreManager

/-! ## Decoders: `none` is a failed `as!` -/

def hotSearchSchema : Schema := [("name", .string)]

def decodeSearchTag (id : UUID) (document : Document) : Option SearchTag := do
  let history ← asString (document.get "name")
  return { id, name := history }

def tuanGoSchema : Schema :=
  [("title", .string), ("secondaryTitle", .string), ("amount", .double), ("price", .double),
    ("originalPrice", .double), ("imageURL", .string)]

def decodeTuanGo (document : Document) : Option TuanGo := do
  let title ← asString (document.get "title")
  let secondaryTitle ← asString (document.get "secondaryTitle")
  let amount ← asDouble (document.get "amount")
  let price ← asDouble (document.get "price")
  let originalPrice ← asDouble (document.get "originalPrice")
  let imageURL ← asString (document.get "imageURL")
  return {
    id := document.documentID, title, secondaryTitle, amount, price, originalPrice, imageURL }

def adImageSchema : Schema := [("imageURL", .string)]

def decodeAdImage (document : Document) : Option AdImage := do
  let imageURL ← asString (document.get "imageURL")
  return { id := document.documentID, imageURL }

/-- The fields of a whole `Shop`, which `getShop` and `getShopList` read. -/
def shopSchema : Schema :=
  [("imageURL", .string), ("title", .string), ("secondaryTitle", .string), ("score", .double),
    ("location", .location), ("openingTime", .string), ("category", .string),
    ("address", .string), ("kind", .string)]

/-- `getShop` takes the id from its caller and casts the location last. -/
def decodeShopOf (shopId : String) (document : Document) : Option Shop := do
  let imageURL ← asString (document.get "imageURL")
  let title ← asString (document.get "title")
  let secondaryTitle ← asString (document.get "secondaryTitle")
  let score ← asDouble (document.get "score")
  let openTime ← asString (document.get "openingTime")
  let category ← asString (document.get "category")
  let address ← asString (document.get "address")
  let kind ← asString (document.get "kind")
  let location ← asDoubles (document.get "location")
  return {
    id := shopId, imageURL, title, secondaryTitle, distance := .finite 0, score, location,
    openingTime := openTime, category, address, sameCategoryShops := some 0, kind }

def eventSchema : Schema :=
  [("title", .string), ("description", .string), ("startTime", .timestamp),
    ("endTime", .timestamp), ("price", .double), ("originalPrice", .double),
    ("imageURL", .string)]

def decodeEvent (shopID : String) (document : Document) : Option Event := do
  let eventTitle ← asString (document.get "title")
  let eventDescription ← asString (document.get "description")
  let startDate ← asTimestamp (document.get "startTime")
  let endDate ← asTimestamp (document.get "endTime")
  let eventPrice ← asDouble (document.get "price")
  let eventOriginalPirce ← asDouble (document.get "originalPrice")
  let eventImageURL ← asString (document.get "imageURL")
  return {
    id := document.documentID, shopID, title := eventTitle, startDate, endDate,
    description := eventDescription, imageURL := eventImageURL, price := eventPrice,
    originalPrice := eventOriginalPirce }

def productSchema : Schema :=
  [("imageURL", .string), ("title", .string), ("description", .string), ("price", .double),
    ("sale", .double)]

def decodeProduct (shopID : String) (document : Document) : Option Product := do
  let imageURL ← asString (document.get "imageURL")
  let title ← asString (document.get "title")
  let description ← asString (document.get "description")
  let price ← asDouble (document.get "price")
  let sale ← asDouble (document.get "sale")
  return { id := document.documentID, shopID, imageURL, title, description, price, sale }

def shopResultSchema : Schema :=
  [("title", .string), ("secondaryTitle", .string), ("score", .double), ("imageURL", .string),
    ("location", .location)]

def decodeShopResult (id : UUID) (document : Document) : Option SearchResult := do
  let title ← asString (document.get "title")
  let description ← asString (document.get "secondaryTitle")
  let score ← asDouble (document.get "score")
  let imageURL ← asString (document.get "imageURL")
  let location ← asDoubles (document.get "location")
  return {
    id, shopID := document.documentID, imageURL, title, description,
    distance := some (.finite 0), score, location, price := none, originalPrice := none,
    eventStartDate := none, eventEndDate := none, kind := "shop" }

def eventResultSchema : Schema :=
  [("shopID", .string), ("title", .string), ("description", .string), ("imageURL", .string),
    ("startTime", .timestamp), ("endTime", .timestamp), ("price", .double),
    ("originalPrice", .double)]

def decodeEventResult (id : UUID) (document : Document) : Option SearchResult := do
  let shopId ← asString (document.get "shopID")
  let title ← asString (document.get "title")
  let description ← asString (document.get "description")
  let imageURL ← asString (document.get "imageURL")
  let startDate ← asTimestamp (document.get "startTime")
  let endDate ← asTimestamp (document.get "endTime")
  let price ← asDouble (document.get "price")
  let originalPrice ← asDouble (document.get "originalPrice")
  return {
    id, shopID := shopId, imageURL, title, description, distance := some (.finite 0),
    score := none, location := none, price, originalPrice, eventStartDate := startDate,
    eventEndDate := endDate, kind := "event" }

/-! ## A decoder succeeds on the documents its schema can cast -/

/-- One cast of a decoder whose other casts do not depend on its result. -/
theorem isSome_bind_iff {α β : Type} {x : Option α} {f : α → Option β} {p : Prop}
    (h : ∀ a, (f a).isSome = true ↔ p) : (x >>= f).isSome = true ↔ x.isSome = true ∧ p := by
  cases x with
  | none => simp
  | some a => simpa using h a

@[simp] theorem castable_nil (d : Document) : d.Castable [] ↔ True := by
  simp [Document.Castable]

@[simp] theorem castable_cons (d : Document) (field : String) (t : FieldType) (schema : Schema) :
    d.Castable ((field, t) :: schema) ↔ t.Casts (d.get field) ∧ d.Castable schema := by
  simp [Document.Castable]

theorem decodeSearchTag_isSome (id : UUID) (d : Document) :
    (decodeSearchTag id d).isSome ↔ d.Castable hotSearchSchema := by
  unfold decodeSearchTag hotSearchSchema
  simp only [castable_cons, castable_nil, FieldType.Casts]
  iterate 1 refine isSome_bind_iff fun _ => ?_
  simp

theorem decodeTuanGo_isSome (d : Document) :
    (decodeTuanGo d).isSome ↔ d.Castable tuanGoSchema := by
  unfold decodeTuanGo tuanGoSchema
  simp only [castable_cons, castable_nil, FieldType.Casts]
  iterate 6 refine isSome_bind_iff fun _ => ?_
  simp

theorem decodeAdImage_isSome (d : Document) :
    (decodeAdImage d).isSome ↔ d.Castable adImageSchema := by
  unfold decodeAdImage adImageSchema
  simp only [castable_cons, castable_nil, FieldType.Casts]
  iterate 1 refine isSome_bind_iff fun _ => ?_
  simp

theorem decodeShop_isSome_iff (d : Document) (n : Option Int) :
    (decodeShop d n).isSome ↔ d.Castable shopSchema := by
  unfold decodeShop shopSchema
  simp only [castable_cons, castable_nil, FieldType.Casts]
  iterate 9 refine isSome_bind_iff fun _ => ?_
  simp

/-- The order of the casts does not matter. -/
theorem decodeShopOf_isSome (shopId : String) (d : Document) :
    (decodeShopOf shopId d).isSome ↔ d.Castable shopSchema := by
  refine Iff.trans (isSome_bind_iff fun _ => isSome_bind_iff fun _ => isSome_bind_iff fun _ =>
    isSome_bind_iff fun _ => isSome_bind_iff fun _ => isSome_bind_iff fun _ =>
    isSome_bind_iff fun _ => isSome_bind_iff fun _ => isSome_bind_iff fun _ =>
    iff_of_true rfl trivial) ?_
  simp only [shopSchema, castable_cons, castable_nil, FieldType.Casts]
  tauto

theorem decodeEvent_isSome (shopID : String) (d : Document) :
    (decodeEvent shopID d).isSome ↔ d.Castable eventSchema := by
  unfold decodeEvent eventSchema
  simp only [castable_cons, castable_nil, FieldType.Casts]
  iterate 7 refine isSome_bind_iff fun _ => ?_
  simp

theorem decodeProduct_isSome (shopID : String) (d : Document) :
    (decodeProduct shopID d).isSome ↔ d.Castable productSchema := by
  unfold decodeProduct productSchema
  simp only [castable_cons, castable_nil, FieldType.Casts]
  iterate 5 refine isSome_bind_iff fun _ => ?_
  simp

theorem decodeShopResult_isSome (id : UUID) (d : Document) :
    (decodeShopResult id d).isSome ↔ d.Castable shopResultSchema := by
  unfold decodeShopResult shopResultSchema
  simp only [castable_cons, castable_nil, FieldType.Casts]
  iterate 5 refine isSome_bind_iff fun _ => ?_
  simp

theorem decodeEventResult_isSome (id : UUID) (d : Document) :
    (decodeEventResult id d).isSome ↔ d.Castable eventResultSchema := by
  unfold decodeEventResult eventResultSchema
  simp only [castable_cons, castable_nil, FieldType.Casts]
  iterate 8 refine isSome_bind_iff fun _ => ?_
  simp

/-! ## Loops -/

/-- The loops of the fetchers: append the decoded documents, and break when
`stop` holds of the count. The decoder sees how many values are there already. -/
def decodeLoop {α : Type} (decode : Nat → Document → Option α) (stop : Nat → Bool) :
    List Document → List α → Nat → Option (List α)
  | [], list, _ => some list
  | document :: rest, list, count => do
      let item ← decode list.length document
      if stop (count + 1) then some (list ++ [item])
      else decodeLoop decode stop rest (list ++ [item]) (count + 1)

/-- A loop without a `break`. -/
def noBreak : Nat → Bool := fun _ => false

/-- `if isLimited && count == limit { break }`. -/
def breakAt (isLimited : Bool) (limit : Nat) : Nat → Bool :=
  fun count => isLimited && count == limit

/-- The documents a loop gets to before it breaks. -/
def reached (stop : Nat → Bool) : List Document → Nat → List Document
  | [], _ => []
  | document :: rest, count =>
      document :: if stop (count + 1) then [] else reached stop rest (count + 1)

/-- A loop traps exactly when a document it gets to cannot be cast. -/
theorem decodeLoop_isSome {α : Type} {decode : Nat → Document → Option α} {schema : Schema}
    (hdecode : ∀ n d, (decode n d).isSome = true ↔ d.Castable schema) (stop : Nat → Bool)
    (docs : List Document) (list : List α) (count : Nat) :
    (decodeLoop decode stop docs list count).isSome ↔
      ∀ d ∈ reached stop docs count, d.Castable schema := by
  induction docs generalizing list count with
  | nil => simp [decodeLoop, reached]
  | cons d docs ih =>
      have hd := hdecode list.length d
      simp only [decodeLoop, reached, List.forall_mem_cons]
      cases hitem : decode list.length d with
      | none =>
          have hnot : ¬ d.Castable schema := by simpa [hitem] using hd
          simp [hnot]
      | some item =>
          have hcast : d.Castable schema := by simpa [hitem] using hd
          simp only [hcast, true_and, Option.bind_eq_bind, Option.bind_some]
          by_cases hstop : stop (count + 1) = true
          · simp [hstop]
          · simpa [hstop] using ih (list ++ [item]) (count + 1)

@[simp] theorem reached_noBreak (docs : List Document) (count : Nat) :
    reached noBreak docs count = docs := by
  induction docs generalizing count with
  | nil => rfl
  | cons d docs ih => simp only [reached, noBreak, Bool.false_eq_true, if_false, ih]

/-- A limited loop gets to the first `m + 1` documents. -/
theorem reached_breakAt_true (docs : List Document) (limit count m : Nat)
    (h : count + (m + 1) = limit) :
    reached (breakAt true limit) docs count = docs.take (m + 1) := by
  induction docs generalizing count m with
  | nil => simp [reached]
  | cons d docs ih =>
      simp only [reached, breakAt, Bool.true_and, beq_iff_eq, List.take_succ_cons]
      cases m with
      | zero => simp [h]
      | succ m =>
          have hne : count + 1 ≠ limit := by omega
          rw [if_neg hne]
          congr 1
          exact ih (count + 1) m (by omega)

theorem reached_breakAt_false (docs : List Document) (limit count : Nat) :
    reached (breakAt false limit) docs count = docs :=
  reached_noBreak docs count

end FirestoreManager

end FancyLife
