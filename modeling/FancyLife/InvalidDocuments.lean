import FancyLife.Fetchers
import FancyLife.ShopList

/-! # Invalid documents

Firestore promises nothing about the fields of a document. Here the fetchers are
measured against the contract that a document which cannot be used is reported
as `.failure(.invalidData)`, like an error of the transport, and never traps. An
`Outcome` says of a piece of fetcher code when it survives and when it fails;
the contract of each fetcher is read off from that.
-/

namespace FancyLife.FirestoreManager

open Swift (Unicode)

variable {Q A α β : Type}

/-! ## The contract -/

/-- The documents a call has to decode, each with the fields it reads. -/
abbrev Work := List (Document × Schema)

/-- The documents that are decoded by one schema. -/
def need (schema : Schema) (docs : List Document) : Work := docs.map (·, schema)

def AllCastable (work : Work) : Prop := ∀ p ∈ work, p.1.Castable p.2

def AllValid (work : Work) : Prop := ∀ p ∈ work, p.1.Valid p.2

/-- The call never traps, and when a document it has to decode is not valid, it
has reported `.failure(.invalidData)` and nothing else once it is finished. -/
def RejectsInvalid (answer : Q → A) (call : Code Q A (Except FLError α)) (work : Work) : Prop :=
  Session.NeverTraps answer call ∧
    (¬ AllValid work → ∀ is s, (Session.machine answer call).run (Session.start call) is = some s →
      s.Finished → s.reports = [.error .invalidData])

theorem AllValid.castable {work : Work} (h : AllValid work) : AllCastable work :=
  fun p hp => (h p hp).castable

@[simp] theorem allCastable_need (schema : Schema) (docs : List Document) :
    AllCastable (need schema docs) ↔ ∀ d ∈ docs, d.Castable schema := by
  simp [AllCastable, need]

@[simp] theorem allCastable_append (work work' : Work) :
    AllCastable (work ++ work') ↔ AllCastable work ∧ AllCastable work' := by
  simp [AllCastable, or_imp, forall_and]

@[simp] theorem allValid_nil : AllValid [] := by
  simp [AllValid]

/-! ## Outcomes -/

section Outcomes

variable (answer : Q → A)

/-- The call is free of traps if and only if `survives`, and then it reports a
failure if and only if `fails`. -/
structure Outcome (call : Code Q A (Except FLError α)) (survives fails : Prop) : Prop where
  trapFree_iff : call.TrapFree answer ↔ survives
  fails_iff : survives → (call.eval answer = [.error .invalidData] ↔ fails)

/-- A `completed` that passes successes and failures on as such. -/
structure Passes (completed : Except FLError α → Code Q A (Except FLError β)) : Prop where
  error : completed (.error .invalidData) = .report (.error .invalidData) .done
  ok : ∀ a, ∃ b, completed (.ok a) = .report (.ok b) .done

variable {answer}

/-- The contract asks that the call survives, and fails unless all is valid. -/
theorem rejectsInvalid_iff {call : Code Q A (Except FLError α)} {survives fails : Prop}
    (h : Outcome answer call survives fails) (work : Work) :
    RejectsInvalid answer call work ↔ survives ∧ (fails ∨ AllValid work) := by
  unfold RejectsInvalid
  rw [Session.neverTraps_iff, h.trapFree_iff]
  refine and_congr_right fun hs => ?_
  rw [or_iff_not_imp_right, ← h.fails_iff hs,
    ← Session.finished_reports_iff answer (h.trapFree_iff.2 hs)]

/-- Where a failed call has nothing to decode, only valid documents are left. -/
theorem rejectsInvalid_iff_allValid {call : Code Q A (Except FLError α)} {fails : Prop}
    {work : Work} (h : Outcome answer call (AllCastable work) fails)
    (hfails : fails → work = []) : RejectsInvalid answer call work ↔ AllValid work := by
  rw [rejectsInvalid_iff h]
  constructor
  · rintro ⟨-, hfailed | hvalid⟩
    · rw [hfails hfailed]
      exact allValid_nil
    · exact hvalid
  · intro hvalid
    exact ⟨hvalid.castable, Or.inr hvalid⟩

theorem Outcome.congr {call : Code Q A (Except FLError α)} {survives survives' fails fails' : Prop}
    (h : Outcome answer call survives fails) (hs : survives ↔ survives')
    (hf : survives → (fails ↔ fails')) : Outcome answer call survives' fails' where
  trapFree_iff := h.trapFree_iff.trans hs
  fails_iff := fun hsurvives =>
    (h.fails_iff (hs.2 hsurvives)).trans (hf (hs.2 hsurvives))

theorem outcome_error {completed : Except FLError α → Code Q A (Except FLError β)}
    (hcompleted : Passes completed) :
    Outcome answer (completed (.error .invalidData)) True True := by
  rw [hcompleted.error]
  exact ⟨Iff.rfl, fun _ => iff_of_true rfl trivial⟩

theorem outcome_ok {completed : Except FLError α → Code Q A (Except FLError β)}
    (hcompleted : Passes completed) (a : α) :
    Outcome answer (completed (.ok a)) True False := by
  rcases hcompleted.ok a with ⟨b, hb⟩
  rw [hb]
  exact ⟨Iff.rfl, fun _ => by simp [Code.eval]⟩

theorem outcome_trap {survives fails : Prop} (h : ¬ survives) :
    Outcome answer (.trap : Code Q A (Except FLError α)) survives fails :=
  ⟨iff_of_false id h, fun hsurvives => absurd hsurvives h⟩

/-- What cannot be decoded traps. -/
theorem outcome_succeed {completed : Except FLError α → Code Q A (Except FLError β)}
    (hcompleted : Passes completed) {x : Option α} {survives : Prop}
    (hx : x.isSome = true ↔ survives) : Outcome answer (succeed completed x) survives False := by
  cases x with
  | none =>
      have hnot : ¬ survives := by simpa using hx
      exact outcome_trap hnot
  | some a =>
      have hsurvives : survives := by simpa using hx
      exact (outcome_ok hcompleted a).congr (by simp [hsurvives]) fun _ => Iff.rfl

/-- A call that asks once does what its callback does. -/
theorem outcome_ask {q : Q} {cb : A → Code Q A (Except FLError α)} {survives fails : Prop}
    (h : Outcome answer (cb (answer q)) survives fails) :
    Outcome answer (.ask q cb .done) survives fails := by
  constructor
  · simpa [Code.TrapFree] using h.trapFree_iff
  · simpa [Code.eval] using h.fails_iff

end Outcomes

section Queries

variable {answer : Query → Response}

/-- The documents a query was answered with, none for an error. -/
def documentsOf (answer : Query → Response) (q : Query) : List Document :=
  (answer q).documents.getD []

/-- A query that is not answered fails; otherwise the documents in `todo` decide. -/
theorem outcome_getDocuments {q : Query} {completed : Except FLError α → Fetch β}
    {body : List Document → Fetch β} (hcompleted : Passes completed) {schema : Schema}
    (todo : List Document → List Document) (hnil : todo [] = [])
    (hbody : ∀ docs, Outcome answer (body docs) (∀ d ∈ todo docs, d.Castable schema) False) :
    Outcome answer (getDocuments q completed body)
      (AllCastable (need schema (todo (documentsOf answer q)))) ((answer q).documents = none) := by
  apply outcome_ask
  unfold documentsOf
  cases hq : (answer q).documents with
  | none =>
      have hwork : AllCastable (need schema (todo [])) := by
        simp [hnil]
      exact (outcome_error hcompleted).congr (iff_of_true trivial hwork) fun _ => by simp
  | some docs => exact (hbody docs).congr (allCastable_need _ _).symm fun _ => by simp

/-- A fetcher with one query keeps the contract only where there is nothing to
reject: its failures are those of the transport. -/
theorem rejectsInvalid_getDocuments_iff {q : Query} {completed : Except FLError α → Fetch β}
    {body : List Document → Fetch β} (hcompleted : Passes completed) {schema : Schema}
    (todo : List Document → List Document) (hnil : todo [] = [])
    (hbody : ∀ docs, Outcome answer (body docs) (∀ d ∈ todo docs, d.Castable schema) False) :
    RejectsInvalid answer (getDocuments q completed body)
        (need schema (todo (documentsOf answer q))) ↔
      AllValid (need schema (todo (documentsOf answer q))) := by
  apply rejectsInvalid_iff_allValid (outcome_getDocuments hcompleted todo hnil hbody)
  intro hnone
  simp [documentsOf, hnone, hnil, need]

theorem passes_report : Passes (report : Except FLError α → Fetch α) :=
  ⟨rfl, fun a => ⟨a, rfl⟩⟩

/-! ## Fetchers with one loop -/

/-- The documents a limited call needs. -/
def limited (isLimited : Bool) (limit : Nat) (docs : List Document) : List Document :=
  if isLimited then docs.take limit else docs

theorem reached_breakAt (isLimited : Bool) {limit : Nat} (hlimit : 0 < limit)
    (docs : List Document) :
    reached (breakAt isLimited limit) docs 0 = limited isLimited limit docs := by
  cases isLimited with
  | false => exact reached_breakAt_false docs limit 0
  | true =>
      have hm : limit - 1 + 1 = limit := by omega
      rw [reached_breakAt_true docs limit 0 (limit - 1) (by omega), hm]
      rfl

/-- What a loop over the documents and the call after it do. -/
theorem outcome_loop {decode : Nat → Document → Option α} {schema : Schema}
    (hdecode : ∀ n d, (decode n d).isSome = true ↔ d.Castable schema) (stop : Nat → Bool)
    {completed : Except FLError (List α) → Fetch β} (hcompleted : Passes completed)
    (docs : List Document) (list : List α) :
    Outcome answer (succeed completed (decodeLoop decode stop docs list 0))
      (∀ d ∈ reached stop docs 0, d.Castable schema) False :=
  outcome_succeed hcompleted (decodeLoop_isSome hdecode stop docs list 0)

theorem getHotSearch_rejectsInvalid_iff (newID : Nat → UUID) :
    RejectsInvalid answer (getHotSearch newID report)
        (need hotSearchSchema (documentsOf answer hotSearchQuery)) ↔
      AllValid (need hotSearchSchema (documentsOf answer hotSearchQuery)) := by
  apply rejectsInvalid_getDocuments_iff passes_report id rfl
  intro docs
  simpa using outcome_loop (fun n => decodeSearchTag_isSome (newID n)) noBreak passes_report docs []

theorem getTuanGoList_rejectsInvalid_iff (location : String) :
    RejectsInvalid answer (getTuanGoList location report)
        (need tuanGoSchema (documentsOf answer (tuanGoQuery location))) ↔
      AllValid (need tuanGoSchema (documentsOf answer (tuanGoQuery location))) := by
  apply rejectsInvalid_getDocuments_iff passes_report id rfl
  intro docs
  simpa using outcome_loop (fun _ => decodeTuanGo_isSome) noBreak passes_report docs []

theorem getAdList_rejectsInvalid_iff (location : String) :
    RejectsInvalid answer (getAdList location report)
        (need adImageSchema (documentsOf answer (adQuery location))) ↔
      AllValid (need adImageSchema (documentsOf answer (adQuery location))) := by
  apply rejectsInvalid_getDocuments_iff passes_report id rfl
  intro docs
  simpa using outcome_loop (fun _ => decodeAdImage_isSome) noBreak passes_report docs []

theorem getEvents_rejectsInvalid_iff (shopID : String) (isLimited : Bool) :
    RejectsInvalid answer (getEvents shopID isLimited report)
        (need eventSchema (limited isLimited 1 (documentsOf answer (ofShopQuery "Event" shopID)))) ↔
      AllValid (need eventSchema
        (limited isLimited 1 (documentsOf answer (ofShopQuery "Event" shopID)))) := by
  apply rejectsInvalid_getDocuments_iff passes_report (limited isLimited 1) (by simp [limited])
  intro docs
  cases docs with
  | nil => exact (outcome_ok passes_report []).congr (by simp [limited]) fun _ => Iff.rfl
  | cons d docs =>
      rw [← reached_breakAt isLimited Nat.one_pos]
      exact outcome_loop (fun _ => decodeEvent_isSome shopID) _ passes_report (d :: docs) []

theorem getProducts_rejectsInvalid_iff (shopID : String) (isLimited : Bool) :
    RejectsInvalid answer (getProducts shopID isLimited report)
        (need productSchema
          (limited isLimited 3 (documentsOf answer (ofShopQuery "Product" shopID)))) ↔
      AllValid (need productSchema
        (limited isLimited 3 (documentsOf answer (ofShopQuery "Product" shopID)))) := by
  apply rejectsInvalid_getDocuments_iff passes_report (limited isLimited 3) (by simp [limited])
  intro docs
  rw [← reached_breakAt isLimited (by decide)]
  exact outcome_loop (fun _ => decodeProduct_isSome shopID) _ passes_report docs []

/-- The document that `getShop` is answered with. -/
def documentOf (lookup : DocumentReference → DocumentResponse) (shopId : String) :
    List Document :=
  (lookup ⟨"Shop", shopId⟩).found.toList

theorem getShop_rejectsInvalid_iff (lookup : DocumentReference → DocumentResponse)
    (shopId : String) :
    RejectsInvalid lookup (getShop shopId (.report · .done))
        (need shopSchema (documentOf lookup shopId)) ↔
      AllValid (need shopSchema (documentOf lookup shopId)) := by
  have hpasses : Passes fun r : Except FLError Shop =>
      (.report r .done : DocumentFetch Shop) := ⟨rfl, fun a => ⟨a, rfl⟩⟩
  have houtcome : Outcome lookup (getShop shopId (.report · .done))
      (AllCastable (need shopSchema (documentOf lookup shopId)))
      ((lookup ⟨"Shop", shopId⟩).found = none) := by
    apply outcome_ask
    unfold documentOf
    cases hfound : (lookup ⟨"Shop", shopId⟩).found with
    | none => exact (outcome_error hpasses).congr (by simp) fun _ => by simp
    | some d =>
        exact (outcome_succeed hpasses (decodeShopOf_isSome shopId d)).congr (by simp)
          fun _ => by simp
  apply rejectsInvalid_iff_allValid houtcome
  intro hnone
  simp [documentOf, hnone, need]

/-! ## The search -/

/-- Both queries of the search, the second only when the first is answered. -/
def searchWork (answer : Query → Response) (keyword : String) : Work :=
  match (answer (keywordQuery "Shop" keyword)).documents with
  | some docs =>
      need shopResultSchema docs ++
        need eventResultSchema (documentsOf answer (keywordQuery "Event" keyword))
  | none => []

theorem outcome_getSearchResults (newID : Nat → UUID) (keyword : String) :
    Outcome answer (getSearchResults newID keyword report)
      (AllCastable (searchWork answer keyword))
      ((answer (keywordQuery "Shop" keyword)).documents = none ∨
        (answer (keywordQuery "Event" keyword)).documents = none) := by
  apply outcome_ask
  unfold searchWork
  cases hq : (answer (keywordQuery "Shop" keyword)).documents with
  | none =>
      have hwork : AllCastable [] := by
        simp [AllCastable]
      exact (outcome_error passes_report).congr (iff_of_true trivial hwork) fun _ => by simp
  | some docs =>
      have hshops := decodeLoop_isSome (fun n => decodeShopResult_isSome (newID n)) noBreak docs
        [] 0
      rw [reached_noBreak] at hshops
      simp only [allCastable_append, allCastable_need]
      cases hlist : decodeLoop (fun n => decodeShopResult (newID n)) noBreak docs [] 0 with
      | none =>
          have hnot : ¬ ∀ d ∈ docs, d.Castable shopResultSchema := by
            simpa [hlist] using hshops
          exact outcome_trap fun h => hnot h.1
      | some list =>
          have hcast : ∀ d ∈ docs, d.Castable shopResultSchema := by
            simpa [hlist] using hshops
          have hevents : ∀ events, Outcome answer
              (succeed report
                (decodeLoop (fun n => decodeEventResult (newID n)) noBreak events list 0))
              (∀ d ∈ id events, d.Castable eventResultSchema) False := by
            intro events
            simpa using outcome_loop (fun n => decodeEventResult_isSome (newID n)) noBreak
              passes_report events list
          refine (outcome_getDocuments passes_report id rfl hevents).congr ?_ fun _ => by simp
          rw [allCastable_need]
          exact ⟨fun h => ⟨hcast, h⟩, fun h => h.2⟩

theorem getSearchResults_rejectsInvalid_iff (newID : Nat → UUID) (keyword : String) :
    RejectsInvalid answer (getSearchResults newID keyword report) (searchWork answer keyword) ↔
      AllCastable (searchWork answer keyword) ∧
        ((answer (keywordQuery "Event" keyword)).documents = none ∨
          AllValid (searchWork answer keyword)) := by
  rw [rejectsInvalid_iff (outcome_getSearchResults newID keyword), or_assoc]
  refine and_congr_right fun _ => or_iff_right_of_imp fun hnone => ?_
  -- without shops there is nothing to decode at all
  right
  simp [searchWork, hnone]

/-! ## The shop list -/

/-- The first branch runs a loop without a break. -/
theorem allLoop_eq (docs : List Document) (list : List Shop) (count : Nat) :
    allLoop docs list = decodeLoop (fun _ d => decodeShop d (some 0)) noBreak docs list count := by
  induction docs generalizing list count with
  | nil => rfl
  | cons d docs ih =>
      simp only [allLoop, decodeLoop, noBreak, Bool.false_eq_true, if_false]
      congr 1
      funext shopItem
      exact ih _ _

/-- The kind branch runs a loop without a break over the other shops. -/
theorem kindLoop_eq [Unicode] (shopID : Option String) (docs : List Document) (list : List Shop)
    (count : Nat) :
    kindLoop shopID docs list list.length =
      (decodeLoop (fun n d => decodeShop d (some ((n : Int) - 1))) noBreak (others shopID docs)
        list count).map fun shops => (shops, (shops.length : Int)) := by
  induction docs generalizing list count with
  | nil => rfl
  | cons d docs ih =>
      cases hd : isOther shopID d with
      | false =>
          rw [others_cons_self hd, ← ih list count]
          simp [kindLoop, hd]
      | true =>
          rw [others_cons_other hd]
          simp only [kindLoop, decodeLoop, noBreak, hd, if_true, Bool.false_eq_true, if_false,
            Option.bind_eq_bind, Option.map_bind]
          congr 1
          funext shopItem
          have hlen : ((list ++ [shopItem]).length : Int) = list.length + 1 := by
            simp
          rw [← hlen]
          exact ih _ _

/-- A loop without a break decodes all documents or traps. -/
theorem decodeLoop_length {decode : Nat → Document → Option α} {docs : List Document}
    {list list' : List α} {count : Nat}
    (h : decodeLoop decode noBreak docs list count = some list') :
    list'.length = list.length + docs.length := by
  induction docs generalizing list count with
  | nil => simp [← Option.some.inj h]
  | cons d docs ih =>
      simp only [decodeLoop, noBreak, Bool.false_eq_true, if_false, Option.bind_eq_bind,
        Option.bind_eq_some_iff] at h
      rcases h with ⟨item, -, hrest⟩
      have hlen := ih hrest
      simp only [List.length_append, List.length_singleton] at hlen
      simp only [List.length_cons]
      omega

/-- The documents that the category branch decodes before it breaks. -/
def categoryReached [Unicode] (shopID : Option String) (shopsToGo : Int) :
    List Document → Int → List Document
  | [], _ => []
  | document :: rest, shopCount =>
      if isOther shopID document then
        document ::
          if shopCount + 1 = shopsToGo then []
          else categoryReached shopID shopsToGo rest (shopCount + 1)
      else if shopCount = shopsToGo then []
      else categoryReached shopID shopsToGo rest shopCount

theorem categoryLoop_isSome_iff [Unicode] (shopID : Option String) (shopsToGo : Int)
    (docs : List Document) (list : List Shop) (count : Int) :
    (categoryLoop shopID shopsToGo docs list count).isSome ↔
      ∀ d ∈ categoryReached shopID shopsToGo docs count, d.Castable shopSchema := by
  induction docs generalizing list count with
  | nil => simp [categoryLoop, categoryReached]
  | cons d docs ih =>
      unfold categoryLoop categoryReached
      cases isOther shopID d with
      | false =>
          simp only [Bool.false_eq_true, if_false]
          split
          · simp
          · exact ih list count
      | true =>
          simp only [if_true, List.forall_mem_cons]
          rw [← decodeShop_isSome_iff d (some 0)]
          cases decodeShop d (some 0) with
          | none => simp
          | some shopItem =>
              simp only [Option.bind_eq_bind, Option.bind_some, Option.isSome_some, true_and]
              split
              · simp
              · exact ih _ _

/-- The query of a call with `kind: nil`; `none` is the overflow of its limit. -/
def noKindQuery (category : Option String) (shopsToGo : Int) : Option Query :=
  match category with
  | none => some allQuery
  | some category => (Swift.addInt shopsToGo 1).map (categoryQuery category)

/-- The documents such a call decodes. -/
def noKindWork [Unicode] (answer : Query → Response) (category : Option String) (shopsToGo : Int)
    (shopID : Option String) : List Document :=
  match category, noKindQuery category shopsToGo with
  | _, none => []
  | none, some q => documentsOf answer q
  | some _, some q => categoryReached shopID shopsToGo (documentsOf answer q) 0

/-- Its query is not answered. -/
def NoKindFails (answer : Query → Response) (category : Option String) (shopsToGo : Int) : Prop :=
  ∃ q, noKindQuery category shopsToGo = some q ∧ (answer q).documents = none

/-- The documents of a call for a kind: those of the kind, and of the fallback
call when there are fewer than six of them. -/
def kindWork [Unicode] (answer : Query → Response) (kind : String)
    (category shopID : Option String) : List Document :=
  match (answer (kindQuery kind)).documents with
  | some docs =>
      others shopID docs ++
        if (others shopID docs).length < 6 then
          noKindWork answer category (6 - (others shopID docs).length) shopID
        else []
  | none => []

/-- The fallback call is made and fails. -/
def FallbackFails [Unicode] (answer : Query → Response)
    (kind category shopID : Option String) : Prop :=
  ∃ k docs, kind = some k ∧ (answer (kindQuery k)).documents = some docs ∧
    (others shopID docs).length < 6 ∧
    NoKindFails answer category (6 - (others shopID docs).length)

def shopListWork [Unicode] (answer : Query → Response) (kind category : Option String)
    (shopsToGo : Int) (shopID : Option String) : Work :=
  need shopSchema
    (match kind with
      | none => noKindWork answer category shopsToGo shopID
      | some kind => kindWork answer kind category shopID)

/-- The first branch as a query and a loop. -/
theorem getShopList_all_eq [Unicode] (completed : Except FLError (List Shop) → Fetch β)
    (shopsToGo : Int) (shopID : Option String) :
    getShopList none none shopsToGo shopID completed =
      getDocuments allQuery completed fun docs => succeed completed (allLoop docs []) := by
  rw [getShopList_all]
  unfold getDocuments
  congr 1
  funext response
  unfold allCallback
  cases response.documents with
  | none => rfl
  | some docs =>
      simp only
      cases allLoop docs [] with
      | none => rfl
      | some shopList => rfl

/-- The category branch, whose limit may overflow. -/
theorem getShopList_category_eq [Unicode] (completed : Except FLError (List Shop) → Fetch β)
    (category : String) (shopsToGo : Int) (shopID : Option String) :
    getShopList none (some category) shopsToGo shopID completed =
      match Swift.addInt shopsToGo 1 with
      | some limit =>
          getDocuments (categoryQuery category limit) completed fun docs =>
            succeed completed (categoryLoop shopID shopsToGo docs [] 0)
      | none => .trap := by
  unfold getShopList getShopListBody
  simp only
  cases Swift.addInt shopsToGo 1 with
  | none => rfl
  | some limit =>
      show Code.ask (categoryQuery category limit)
        (categoryCallback shopsToGo shopID completed) .done = _
      unfold getDocuments
      congr 1
      funext response
      unfold categoryCallback
      cases response.documents with
      | none => rfl
      | some docs =>
          simp only
          cases categoryLoop shopID shopsToGo docs [] 0 with
          | none => rfl
          | some shopList => rfl

theorem outcome_getShopList_noKind [Unicode] {completed : Except FLError (List Shop) → Fetch β}
    (hcompleted : Passes completed) (category : Option String) (shopsToGo : Int)
    (shopID : Option String) :
    Outcome answer (getShopList none category shopsToGo shopID completed)
      ((noKindQuery category shopsToGo).isSome ∧
        AllCastable (need shopSchema (noKindWork answer category shopsToGo shopID)))
      (NoKindFails answer category shopsToGo) := by
  cases category with
  | none =>
      have hbody : ∀ docs, Outcome answer (succeed completed (allLoop docs []))
          (∀ d ∈ id docs, d.Castable shopSchema) False := by
        intro docs
        rw [allLoop_eq docs [] 0]
        simpa using outcome_loop (fun _ d => decodeShop_isSome_iff d (some 0)) noBreak hcompleted
          docs []
      rw [getShopList_all_eq]
      refine (outcome_getDocuments hcompleted id rfl hbody).congr ?_ fun _ => ?_
      · simp [noKindQuery, noKindWork]
      · simp [NoKindFails, noKindQuery]
  | some category =>
      rw [getShopList_category_eq]
      cases hlimit : Swift.addInt shopsToGo 1 with
      | none => exact outcome_trap (by simp [noKindQuery, hlimit])
      | some limit =>
          have hbody : ∀ docs,
              Outcome answer (succeed completed (categoryLoop shopID shopsToGo docs [] 0))
                (∀ d ∈ categoryReached shopID shopsToGo docs 0, d.Castable shopSchema) False :=
            fun docs =>
              outcome_succeed hcompleted (categoryLoop_isSome_iff shopID shopsToGo docs [] 0)
          refine (outcome_getDocuments hcompleted
            (fun docs => categoryReached shopID shopsToGo docs 0) rfl hbody).congr ?_ fun _ => ?_
          · simp [noKindQuery, noKindWork, hlimit]
          · simp [NoKindFails, noKindQuery, hlimit]

theorem passes_appendTo (shopList : List Shop) :
    Passes (appendTo shopList (report : Except FLError (List Shop) → Fetch (List Shop))) :=
  ⟨rfl, fun shops => ⟨shopList ++ shops, rfl⟩⟩

/-- The limit of the fallback call does not overflow. -/
theorem noKindQuery_isSome (category : Option String) {shopsToGo : Int} (h0 : 0 ≤ shopsToGo)
    (hmax : shopsToGo < Swift.intMax) : (noKindQuery category shopsToGo).isSome := by
  cases category with
  | none => rfl
  | some category => simp [noKindQuery, Swift.addInt_one h0, hmax]

theorem outcome_getShopList_kind [Unicode] (kind : String) (category : Option String)
    (shopsToGo : Int) (shopID : Option String) :
    Outcome answer (getShopList (some kind) category shopsToGo shopID report)
      (AllCastable (need shopSchema (kindWork answer kind category shopID)))
      ((answer (kindQuery kind)).documents = none ∨
        FallbackFails answer (some kind) category shopID) := by
  rw [getShopList_kind]
  apply outcome_ask
  unfold kindCallback kindWork
  cases hq : (answer (kindQuery kind)).documents with
  | none =>
      have hwork : AllCastable (need shopSchema []) := by
        simp
      exact (outcome_error passes_report).congr (iff_of_true trivial hwork) fun _ => by simp
  | some docs =>
      have hloop := kindLoop_eq shopID docs [] 0
      have hothers := decodeLoop_isSome (fun n d => decodeShop_isSome_iff d (some ((n : Int) - 1)))
        noBreak (others shopID docs) [] 0
      rw [reached_noBreak] at hothers
      simp only [List.length_nil, Nat.cast_zero] at hloop
      simp only [hloop, allCastable_need, List.forall_mem_append]
      cases hlist : decodeLoop (fun n d => decodeShop d (some ((n : Int) - 1))) noBreak
          (others shopID docs) [] 0 with
      | none =>
          have hnot : ¬ ∀ d ∈ others shopID docs, d.Castable shopSchema := by
            simpa [hlist] using hothers
          exact outcome_trap fun h => hnot h.1
      | some shopList =>
          have hcast : ∀ d ∈ others shopID docs, d.Castable shopSchema := by
            simpa [hlist] using hothers
          have hlen : shopList.length = (others shopID docs).length := by
            simpa using decodeLoop_length hlist
          simp only [Option.map_some, hlen]
          by_cases hsix : (others shopID docs).length < 6
          · have hsix' : ((others shopID docs).length : Int) < 6 := by
              omega
            have hquery : (noKindQuery category (6 - (others shopID docs).length)).isSome := by
              have : (6 : Int) < Swift.intMax := by decide
              exact noKindQuery_isSome category (by omega) (by omega)
            rw [if_pos hsix']
            simp only [if_pos hsix]
            refine (outcome_getShopList_noKind (passes_appendTo shopList) category _ shopID).congr
              ?_ fun _ => ?_
            · rw [allCastable_need]
              exact ⟨fun h => ⟨hcast, h.2⟩, fun h => ⟨hquery, h.2⟩⟩
            · simp [FallbackFails, hq, hsix]
          · have hsix' : ¬ ((others shopID docs).length : Int) < 6 := by
              omega
            rw [if_neg hsix']
            -- the callback returns without a report
            refine ⟨iff_of_true trivial ⟨hcast, by simp [hsix]⟩, fun _ => ?_⟩
            simp [Code.eval, FallbackFails, hq, hsix]

theorem getShopList_rejectsInvalid_iff [Unicode] (kind category : Option String) (shopsToGo : Int)
    (shopID : Option String) :
    RejectsInvalid answer (getShopList kind category shopsToGo shopID report)
        (shopListWork answer kind category shopsToGo shopID) ↔
      (kind = none → (noKindQuery category shopsToGo).isSome) ∧
        AllCastable (shopListWork answer kind category shopsToGo shopID) ∧
        (FallbackFails answer kind category shopID ∨
          AllValid (shopListWork answer kind category shopsToGo shopID)) := by
  cases kind with
  | none =>
      rw [rejectsInvalid_iff (outcome_getShopList_noKind passes_report category shopsToGo shopID),
        and_assoc]
      refine and_congr (by simp) (and_congr_right fun _ => ?_)
      constructor
      · rintro (⟨q, hq, hnone⟩ | hvalid)
        · right
          cases category <;> simp [shopListWork, noKindWork, hq, documentsOf, hnone,
            categoryReached, need]
        · exact Or.inr hvalid
      · rintro (⟨k, docs, hk, -⟩ | hvalid)
        · cases hk
        · exact Or.inr hvalid
  | some kind =>
      rw [rejectsInvalid_iff (outcome_getShopList_kind kind category shopsToGo shopID), or_assoc]
      have hfailed : (answer (kindQuery kind)).documents = none →
          AllValid (shopListWork answer (some kind) category shopsToGo shopID) := by
        intro hnone
        simp [shopListWork, kindWork, hnone, need]
      rw [or_iff_right_of_imp fun hnone => Or.inr (hfailed hnone)]
      simp [shopListWork]

/-! ## All eight -/

/-- The fetchers report invalid documents only where the transport fails as
well: a call with one query keeps the contract exactly on valid documents, and
one with two queries also when the second fails after the casts of the first. -/
theorem rejectsInvalid_fetchers_iff [Unicode] (answer : Query → Response)
    (lookup : DocumentReference → DocumentResponse) (newID : Nat → UUID) :
    (RejectsInvalid answer (getHotSearch newID report)
        (need hotSearchSchema (documentsOf answer hotSearchQuery)) ↔
      AllValid (need hotSearchSchema (documentsOf answer hotSearchQuery))) ∧
    (∀ location, RejectsInvalid answer (getTuanGoList location report)
        (need tuanGoSchema (documentsOf answer (tuanGoQuery location))) ↔
      AllValid (need tuanGoSchema (documentsOf answer (tuanGoQuery location)))) ∧
    (∀ location, RejectsInvalid answer (getAdList location report)
        (need adImageSchema (documentsOf answer (adQuery location))) ↔
      AllValid (need adImageSchema (documentsOf answer (adQuery location)))) ∧
    (∀ shopId, RejectsInvalid lookup (getShop shopId (.report · .done))
        (need shopSchema (documentOf lookup shopId)) ↔
      AllValid (need shopSchema (documentOf lookup shopId))) ∧
    (∀ kind category shopsToGo shopID,
      RejectsInvalid answer (getShopList kind category shopsToGo shopID report)
        (shopListWork answer kind category shopsToGo shopID) ↔
      (kind = none → (noKindQuery category shopsToGo).isSome) ∧
        AllCastable (shopListWork answer kind category shopsToGo shopID) ∧
        (FallbackFails answer kind category shopID ∨
          AllValid (shopListWork answer kind category shopsToGo shopID))) ∧
    (∀ shopID isLimited, RejectsInvalid answer (getEvents shopID isLimited report)
        (need eventSchema (limited isLimited 1 (documentsOf answer (ofShopQuery "Event" shopID)))) ↔
      AllValid (need eventSchema
        (limited isLimited 1 (documentsOf answer (ofShopQuery "Event" shopID))))) ∧
    (∀ shopID isLimited, RejectsInvalid answer (getProducts shopID isLimited report)
        (need productSchema
          (limited isLimited 3 (documentsOf answer (ofShopQuery "Product" shopID)))) ↔
      AllValid (need productSchema
        (limited isLimited 3 (documentsOf answer (ofShopQuery "Product" shopID))))) ∧
    ∀ keyword,
      RejectsInvalid answer (getSearchResults newID keyword report) (searchWork answer keyword) ↔
        AllCastable (searchWork answer keyword) ∧
          ((answer (keywordQuery "Event" keyword)).documents = none ∨
            AllValid (searchWork answer keyword)) :=
  ⟨getHotSearch_rejectsInvalid_iff newID, getTuanGoList_rejectsInvalid_iff,
    getAdList_rejectsInvalid_iff, getShop_rejectsInvalid_iff lookup,
    getShopList_rejectsInvalid_iff, getEvents_rejectsInvalid_iff,
    getProducts_rejectsInvalid_iff, getSearchResults_rejectsInvalid_iff newID⟩

end Queries

/-- A tag without a name. -/
def namelessTag : Document where
  documentID := "tea"
  fields := [("priority", .integer 1)]

/-- A shop with one coordinate. -/
def halfLocated : Document where
  documentID := "a"
  fields := [("imageURL", .string "https://img/a"), ("title", .string "a"),
    ("secondaryTitle", .string ""), ("score", .number (.finite 4)),
    ("location", .array [.number (.finite 1)]), ("openingTime", .string "9-21"),
    ("category", .string "food"), ("address", .string ""), ("kind", .string "noodles"),
    ("priority", .integer 1)]

section CodePoints

attribute [local instance] Unicode.codePoints

/-- The tag crashes the search screen, and the shop reaches the list whose cells
crash on it: neither is reported as invalid. -/
theorem nameless_tag_traps :
    (∃ s, (Session.machine (fun _ => Response.ok [namelessTag]) (getHotSearch id report)).run
        (Session.start (getHotSearch id report)) [0] = some s ∧ s.trapped = true ∧
          s.reports = []) ∧
    (∃ s shop, (Session.machine (fun _ => Response.ok [halfLocated])
        (getShopList none none 0 none report)).run
        (Session.start (getShopList none none 0 none report)) [0] = some s ∧
          s.Finished ∧ s.reports = [.ok [shop]] ∧ shop.location.length = 1) ∧
    ¬ RejectsInvalid (fun _ => Response.ok [namelessTag]) (getHotSearch id report)
        (need hotSearchSchema [namelessTag]) ∧
    ¬ RejectsInvalid (fun _ => Response.ok [halfLocated]) (getShopList none none 0 none report)
        (need shopSchema [halfLocated]) := by
  refine ⟨⟨_, rfl, rfl, rfl⟩, ⟨_, _, rfl, rfl, rfl, rfl⟩, ?_, ?_⟩
  · rintro ⟨hnever, -⟩
    have htrapped := hnever [0] _ rfl
    cases htrapped
  · rintro ⟨-, hreports⟩
    have hinvalid : ¬ AllValid (need shopSchema [halfLocated]) := by
      intro hvalid
      have hlocation := hvalid _ List.mem_cons_self ("location", .location) (by simp [shopSchema])
      revert hlocation
      simp [FieldType.Valid]
      decide
    have hreport := hreports hinvalid [0] _ rfl rfl
    cases hreport

end CodePoints

end FancyLife.FirestoreManager
