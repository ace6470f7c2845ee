import FancyLife.FirestoreManager

/-! # What getShopList delivers

Each loop is described once by the shops it builds (`allLoop_spec`, `kindLoop_spec`,
`categoryLoop_eq`) or by the document that stops it; the callbacks are described by the
calls of `completed` they make, and the two properties of the fetcher, that it
completes once and which shops it recommends, are read off from these.
-/

namespace FancyLife.FirestoreManager

open Swift (Unicode)

/-- A document from which a `Shop` is built without a trap. -/
def WellTypedShop (d : Document) : Prop := (decodeShop d (some 0)).isSome

instance (d : Document) : Decidable (WellTypedShop d) := inferInstanceAs (Decidable (_ = true))

section Others

variable [Unicode]

/-- The documents other than `shopID`, as both skipping loops see them. -/
def others (shopID : Option String) (docs : List Document) : List Document :=
  docs.filter (isOther shopID)

theorem others_cons_other {shopID : Option String} {d : Document} {docs : List Document}
    (h : isOther shopID d = true) : others shopID (d :: docs) = d :: others shopID docs :=
  List.filter_cons_of_pos h

theorem others_cons_self {shopID : Option String} {d : Document} {docs : List Document}
    (h : isOther shopID d = false) : others shopID (d :: docs) = others shopID docs :=
  List.filter_cons_of_neg (by simp [h])

theorem isOther_some {s : String} {d : Document} :
    isOther (some s) d = !Swift.stringEq d.documentID s := rfl

end Others

/-- The document ids, to compare deliveries with documents. -/
def documentIDs (docs : List Document) : List String := docs.map Document.documentID

/-- The shop ids of a delivery. -/
def shopIDs (shops : List Shop) : List String := shops.map Shop.id

@[simp] theorem shopIDs_append (shops shops' : List Shop) :
    shopIDs (shops ++ shops') = shopIDs shops ++ shopIDs shops' := by
  simp [shopIDs]

/-! ## Decoding -/

theorem decodeShop_id {d : Document} {n : Option Int} {shop : Shop}
    (h : decodeShop d n = some shop) : shop.id = d.documentID := by
  simp only [decodeShop, Option.bind_eq_bind, Option.bind_eq_some_iff] at h
  rcases h with ⟨_, -, _, -, _, -, _, -, _, -, _, -, _, -, _, -, _, -, h⟩
  rw [← Option.some.inj h]

/-- The count stored in the shop does not decide whether the casts succeed. -/
theorem decodeShop_isSome_of {d : Document} {m : Option Int} (n : Option Int)
    (h : (decodeShop d m).isSome) : (decodeShop d n).isSome := by
  rcases Option.isSome_iff_exists.1 h with ⟨shop, hshop⟩
  have hn : decodeShop d n = some { shop with sameCategoryShops := n } := by
    simp only [decodeShop, Option.bind_eq_bind, Option.bind_eq_some_iff] at hshop ⊢
    rcases hshop with ⟨a, ha, b, hb, c, hc, x, hx, l, hl, o, ho, g, hg, r, hr, k, hk, h⟩
    refine ⟨a, ha, b, hb, c, hc, x, hx, l, hl, o, ho, g, hg, r, hr, k, hk, ?_⟩
    rw [← Option.some.inj h]
    rfl
  rw [hn]
  rfl

theorem decodeShop_isSome {d : Document} (h : WellTypedShop d) (n : Option Int) :
    ∃ shop, decodeShop d n = some shop ∧ shop.id = d.documentID := by
  rcases Option.isSome_iff_exists.1 (decodeShop_isSome_of n h) with ⟨shop, hshop⟩
  exact ⟨shop, hshop, decodeShop_id hshop⟩

theorem decodeShop_eq_none {d : Document} (h : ¬ WellTypedShop d) (n : Option Int) :
    decodeShop d n = none := by
  rw [← Option.not_isSome_iff_eq_none]
  exact fun hn => h (decodeShop_isSome_of _ hn)

/-- The shops that the category branch makes of documents; `none` is a failed cast. -/
def decodeShops (docs : List Document) : Option (List Shop) :=
  docs.mapM fun document => decodeShop document (some 0)

theorem decodeShops_cons {d : Document} {docs : List Document} {shop : Shop}
    (hshop : decodeShop d (some 0) = some shop) :
    decodeShops (d :: docs) = (decodeShops docs).map (shop :: ·) := by
  unfold decodeShops
  rw [List.mapM_cons, hshop]
  cases docs.mapM fun document => decodeShop document (some 0) <;> rfl

theorem decodeShops_cons_none {d : Document} (docs : List Document)
    (hshop : decodeShop d (some 0) = none) : decodeShops (d :: docs) = none := by
  unfold decodeShops
  rw [List.mapM_cons, hshop]
  rfl

theorem decodeShops_isSome {docs : List Document} (hwt : ∀ d ∈ docs, WellTypedShop d) :
    ∃ shops, decodeShops docs = some shops ∧ shopIDs shops = documentIDs docs := by
  induction docs with
  | nil => exact ⟨[], rfl, rfl⟩
  | cons d docs ih =>
      rcases decodeShop_isSome (hwt d List.mem_cons_self) (some 0) with ⟨shop, hshop, hid⟩
      rcases ih fun e he => hwt e (List.mem_cons_of_mem d he) with ⟨shops, hshops, hids⟩
      refine ⟨shop :: shops, ?_, ?_⟩
      · rw [decodeShops_cons hshop, hshops]
        rfl
      · simp only [shopIDs, documentIDs, List.map_cons, hid] at hids ⊢
        rw [hids]

theorem decodeShops_eq_none {docs : List Document} (h : ∃ d ∈ docs, ¬ WellTypedShop d) :
    decodeShops docs = none := by
  induction docs with
  | nil => simp at h
  | cons d docs ih =>
      by_cases hwtd : WellTypedShop d
      · rcases decodeShop_isSome hwtd (some 0) with ⟨shop, hshop, -⟩
        have hrest : ∃ e ∈ docs, ¬ WellTypedShop e := by simpa [hwtd] using h
        rw [decodeShops_cons hshop, ih hrest]
        rfl
      · exact decodeShops_cons_none docs (decodeShop_eq_none hwtd _)

/-! ## The loops -/

theorem allLoop_spec {docs : List Document} (hwt : ∀ d ∈ docs, WellTypedShop d)
    (acc : List Shop) :
    ∃ shops, allLoop docs acc = some (acc ++ shops) ∧ shopIDs shops = documentIDs docs := by
  induction docs generalizing acc with
  | nil => exact ⟨[], by simp [allLoop], rfl⟩
  | cons d docs ih =>
      rcases decodeShop_isSome (hwt d List.mem_cons_self) (some 0) with ⟨shop, hshop, hid⟩
      rcases ih (fun e he => hwt e (List.mem_cons_of_mem d he)) (acc ++ [shop])
        with ⟨shops, hrun, hids⟩
      refine ⟨shop :: shops, ?_, ?_⟩
      · simp [allLoop, hshop, hrun]
      · simp [shopIDs, documentIDs, hid] at hids ⊢
        exact hids

section Loops

variable [Unicode]

/-- The kind branch builds the others and counts them. -/
theorem kindLoop_spec {docs : List Document} {shopID : Option String}
    (hwt : ∀ d ∈ others shopID docs, WellTypedShop d) (acc : List Shop) (n : Int) :
    ∃ shops, kindLoop shopID docs acc n = some (acc ++ shops, n + shops.length) ∧
      shopIDs shops = documentIDs (others shopID docs) := by
  induction docs generalizing acc n with
  | nil => exact ⟨[], by simp [kindLoop], rfl⟩
  | cons d docs ih =>
      cases hd : isOther shopID d with
      | false =>
          rw [others_cons_self hd] at hwt ⊢
          rcases ih hwt acc n with ⟨shops, hrun, hids⟩
          exact ⟨shops, by simp [kindLoop, hd, hrun], hids⟩
      | true =>
          rw [others_cons_other hd] at hwt ⊢
          rcases List.forall_mem_cons.1 hwt with ⟨hwtd, hrest⟩
          rcases decodeShop_isSome hwtd (some (n - 1)) with ⟨shop, hshop, hid⟩
          rcases ih hrest (acc ++ [shop]) (n + 1) with ⟨shops, hrun, hids⟩
          refine ⟨shop :: shops, ?_, ?_⟩
          · simp only [kindLoop, hd, if_true, hshop, Option.bind_eq_bind, Option.bind_some, hrun,
              List.append_assoc, List.singleton_append, List.length_cons, Nat.cast_add,
              Nat.cast_one]
            congr 2
            omega
          · simp only [shopIDs, documentIDs, List.map_cons, hid] at hids ⊢
            rw [hids]

/-- An ill-typed document among the others stops the loop. -/
theorem kindLoop_eq_none {docs : List Document} {shopID : Option String}
    (h : ∃ d ∈ others shopID docs, ¬ WellTypedShop d) (acc : List Shop) (n : Int) :
    kindLoop shopID docs acc n = none := by
  induction docs generalizing acc n with
  | nil => simp [others] at h
  | cons d docs ih =>
      unfold kindLoop
      cases hd : isOther shopID d with
      | false =>
          rw [others_cons_self hd] at h
          exact ih h acc n
      | true =>
          rw [others_cons_other hd] at h
          rw [if_pos rfl]
          by_cases hwtd : WellTypedShop d
          · rcases decodeShop_isSome hwtd (some (n - 1)) with ⟨shop, hshop, -⟩
            have hrest : ∃ e ∈ others shopID docs, ¬ WellTypedShop e := by simpa [hwtd] using h
            rw [hshop]
            exact ih hrest _ _
          · rw [decodeShop_eq_none hwtd]
            rfl

/-- Without reaching its bound or not, the loop builds shops only. -/
theorem categoryLoop_isSome {docs : List Document} (hwt : ∀ d ∈ docs, WellTypedShop d)
    (shopID : Option String) (shopsToGo : Int) (acc : List Shop) (n : Int) :
    ∃ shops, categoryLoop shopID shopsToGo docs acc n = some shops := by
  induction docs generalizing acc n with
  | nil => exact ⟨acc, rfl⟩
  | cons d docs ih =>
      have hrest : ∀ e ∈ docs, WellTypedShop e :=
        fun e he => hwt e (List.mem_cons_of_mem d he)
      unfold categoryLoop
      split
      · rcases decodeShop_isSome (hwt d List.mem_cons_self) (some 0) with ⟨shop, hshop, -⟩
        rw [hshop]
        simp only [Option.bind_eq_bind, Option.bind_some]
        split
        · exact ⟨_, rfl⟩
        · exact ih hrest _ _
      · split
        · exact ⟨_, rfl⟩
        · exact ih hrest _ _

/-- While `m + 1` shops are still wanted, the loop decodes the first `m + 1`
others and appends them, whatever comes behind. -/
theorem categoryLoop_eq (shopID : Option String) (shopsToGo : Int) (docs : List Document)
    (list : List Shop) (count : Int) (m : ℕ) (hm : count + (m + 1) = shopsToGo) :
    categoryLoop shopID shopsToGo docs list count =
      (decodeShops ((others shopID docs).take (m + 1))).map (list ++ ·) := by
  induction docs generalizing list count m with
  | nil => simp [categoryLoop, others, decodeShops]
  | cons d docs ih =>
      unfold categoryLoop
      cases hd : isOther shopID d with
      | false =>
          have hcount : count ≠ shopsToGo := by omega
          rw [others_cons_self hd, if_neg Bool.false_ne_true, if_neg hcount]
          exact ih list count m hm
      | true =>
          rw [others_cons_other hd, if_pos rfl, List.take_succ_cons]
          cases hshop : decodeShop d (some 0) with
          | none => rw [decodeShops_cons_none _ hshop]; rfl
          | some shop =>
              rw [decodeShops_cons hshop, Option.map_map]
              simp only [Option.bind_eq_bind, Option.bind_some]
              cases m with
              | zero =>
                  -- this shop was the last one wanted
                  have hcount : count + 1 = shopsToGo := by omega
                  rw [if_pos hcount, List.take_zero]
                  rfl
              | succ m =>
                  have hcount : count + 1 ≠ shopsToGo := by omega
                  rw [if_neg hcount, ih (list ++ [shop]) (count + 1) m (by omega)]
                  congr 1
                  funext shops
                  simp

end Loops

/-! ## Calls -/

section Calls

variable {answer : Query → Response}

/-- Every document the service answers with is a well-typed shop. -/
def WellTypedAnswers (answer : Query → Response) : Prop :=
  ∀ q docs, (answer q).documents = some docs → ∀ d ∈ docs, WellTypedShop d

/-- The call of `completed` alone. -/
theorem report_spec {α : Type} (r : Except FLError α) :
    (report r).TrapFree answer ∧ ((report r).eval answer).length = 1 := ⟨trivial, rfl⟩

variable [Unicode]

/-- A call with `kind: nil` asks one query and passes one result on. -/
theorem getShopList_noKind_spec {α : Type} (hwt : WellTypedAnswers answer)
    (completed : Except FLError (List Shop) → Fetch α) (category shopID : Option String)
    (shopsToGo : Int) (h0 : 0 ≤ shopsToGo) (hmax : category = none ∨ shopsToGo < Swift.intMax) :
    ∃ q cb r, getShopList none category shopsToGo shopID completed = .ask q cb .done ∧
      cb (answer q) = completed r := by
  cases category with
  | none =>
      refine ⟨allQuery, allCallback completed, ?_⟩
      rw [getShopList_all]
      cases hdocs : (answer allQuery).documents with
      | none => exact ⟨.error .invalidData, rfl, by simp [allCallback, hdocs]⟩
      | some docs =>
          rcases allLoop_spec (hwt _ _ hdocs) [] with ⟨shops, hrun, -⟩
          exact ⟨.ok ([] ++ shops), rfl, by simp [allCallback, hdocs, hrun]⟩
  | some c =>
      have hlt : shopsToGo < Swift.intMax := hmax.resolve_left (by simp)
      refine ⟨categoryQuery c (shopsToGo + 1), categoryCallback shopsToGo shopID completed, ?_⟩
      rw [getShopList_category completed shopsToGo shopID c h0 hlt]
      cases hdocs : (answer (categoryQuery c (shopsToGo + 1))).documents with
      | none => exact ⟨.error .invalidData, rfl, by simp [categoryCallback, hdocs]⟩
      | some docs =>
          rcases categoryLoop_isSome (hwt _ _ hdocs) shopID shopsToGo [] 0 with ⟨shops, hrun⟩
          exact ⟨.ok shops, rfl, by simp [categoryCallback, hdocs, hrun]⟩

/-- With `m + 1` shops to go, the first `m + 1` shops other than `shopID` are what the
category query is asked for. -/
theorem categoryCallback_eq {α : Type} (completed : Except FLError (List Shop) → Fetch α)
    (shopID : Option String) (m : ℕ) {response : Response} {docs : List Document}
    (hdocs : response.documents = some docs) :
    categoryCallback (m + 1) shopID completed response =
      match decodeShops ((others shopID docs).take (m + 1)) with
      | some shops => completed (.ok shops)
      | none => .trap := by
  have hloop := categoryLoop_eq shopID (m + 1) docs [] 0 m (by omega)
  simp only [categoryCallback, hdocs, hloop]
  cases decodeShops ((others shopID docs).take (m + 1)) with
  | none => rfl
  | some shops => rfl

/-- The kind branch hands the completion on when fewer than six shops of the
kind came back, and drops it otherwise. -/
theorem kindCallback_spec {α : Type} (completed : Except FLError (List Shop) → Fetch α)
    (category : Option String) {shopID : Option String} {response : Response}
    {docs : List Document} (hdocs : response.documents = some docs)
    (hwt : ∀ d ∈ others shopID docs, WellTypedShop d) :
    ∃ shops, shopIDs shops = documentIDs (others shopID docs) ∧
      kindCallback getShopList category shopID completed response =
        if (others shopID docs).length < 6 then
          getShopList none category (6 - (others shopID docs).length) shopID
            (appendTo shops completed)
        else .done := by
  rcases kindLoop_spec hwt [] 0 with ⟨shops, hrun, hids⟩
  have hlen : shops.length = (others shopID docs).length := by
    simpa [shopIDs, documentIDs] using congrArg List.length hids
  refine ⟨shops, hids, ?_⟩
  simp only [kindCallback, hdocs, hrun, hlen, Int.zero_add, List.nil_append]
  congr 1
  exact propext (by omega)

/-- An ill-typed document among the shops of the kind stops the program. -/
theorem kindCallback_trap {α : Type} (completed : Except FLError (List Shop) → Fetch α)
    (category : Option String) {shopID : Option String} {response : Response}
    {docs : List Document} (hdocs : response.documents = some docs)
    (h : ∃ d ∈ others shopID docs, ¬ WellTypedShop d) :
    kindCallback getShopList category shopID completed response = .trap := by
  simp only [kindCallback, hdocs, kindLoop_eq_none h]

/-- The others of well-typed documents are well typed. -/
theorem others_wellTyped {docs : List Document} (hwt : ∀ d ∈ docs, WellTypedShop d)
    (shopID : Option String) : ∀ d ∈ others shopID docs, WellTypedShop d :=
  fun d hd => hwt d (List.mem_of_mem_filter hd)

/-! ## Completing once -/

/-- A call with `kind: nil` completes once if its `completed` does. -/
theorem noKind_completes {α : Type} (hwt : WellTypedAnswers answer)
    {completed : Except FLError (List Shop) → Fetch α} (category shopID : Option String)
    (shopsToGo : Int) (h0 : 0 ≤ shopsToGo) (hmax : category = none ∨ shopsToGo < Swift.intMax)
    (hcompleted : ∀ r, (completed r).TrapFree answer ∧ ((completed r).eval answer).length = 1) :
    (getShopList none category shopsToGo shopID completed).TrapFree answer ∧
      ((getShopList none category shopsToGo shopID completed).eval answer).length = 1 := by
  rcases getShopList_noKind_spec hwt completed category shopID shopsToGo h0 hmax
    with ⟨q, cb, r, hcall, hcb⟩
  rw [hcall]
  simp only [Code.TrapFree, Code.eval, hcb, and_true, List.nil_append]
  exact hcompleted r

/-- The kind query came back with six shops or more other than `shopID`. -/
def KindFull (answer : Query → Response) (kind shopID : Option String) : Prop :=
  ∃ k docs, kind = some k ∧ (answer (kindQuery k)).documents = some docs ∧
    6 ≤ (others shopID docs).length

/-- `shopsToGo + 1` is computed and overflows. -/
def LimitOverflows (kind category : Option String) (shopsToGo : Int) : Prop :=
  kind = none ∧ category ≠ none ∧ ¬ shopsToGo < Swift.intMax

/-- A full kind query: the callback returns without calling anything. -/
theorem not_completes_of_kindFull (hwt : WellTypedAnswers answer)
    (kind category shopID : Option String) (shopsToGo : Int)
    (hfull : KindFull answer kind shopID) :
    ¬ Session.ReportsOnce answer (getShopList kind category shopsToGo shopID report) := by
  rcases hfull with ⟨k, docs, rfl, hdocs, hsix⟩
  rcases kindCallback_spec report category hdocs (others_wellTyped (hwt _ _ hdocs) shopID)
    with ⟨shops, -, hcb⟩
  rw [if_neg (by omega)] at hcb
  have hfree : (getShopList (some k) category shopsToGo shopID report).TrapFree answer := by
    rw [getShopList_kind]
    simp [Code.TrapFree, hcb]
  rw [Session.reportsOnce_iff answer hfree, getShopList_kind]
  simp [Code.eval, hcb]

/-- Otherwise the call completes once. -/
theorem completes_of_not_kindFull (hwt : WellTypedAnswers answer)
    (kind category shopID : Option String) (shopsToGo : Int) (h0 : 0 ≤ shopsToGo)
    (hfull : ¬ KindFull answer kind shopID) (hroom : ¬ LimitOverflows kind category shopsToGo) :
    Session.ReportsOnce answer (getShopList kind category shopsToGo shopID report) := by
  have hmain : (getShopList kind category shopsToGo shopID report).TrapFree answer ∧
      ((getShopList kind category shopsToGo shopID report).eval answer).length = 1 := by
    cases kind with
    | none =>
        refine noKind_completes hwt category shopID shopsToGo h0 ?_ report_spec
        by_contra hmax
        rw [not_or] at hmax
        exact hroom ⟨rfl, hmax.1, hmax.2⟩
    | some k =>
        rw [getShopList_kind]
        simp only [Code.TrapFree, Code.eval, and_true, List.nil_append]
        cases hdocs : (answer (kindQuery k)).documents with
        | none =>
            have hcb : kindCallback getShopList category shopID report (answer (kindQuery k)) =
                report (.error .invalidData) := by
              simp [kindCallback, hdocs]
            rw [hcb]
            exact report_spec _
        | some docs =>
            have hlt : (others shopID docs).length < 6 := by
              by_contra hge
              exact hfull ⟨k, docs, rfl, hdocs, by omega⟩
            rcases kindCallback_spec report category hdocs
              (others_wellTyped (hwt _ _ hdocs) shopID) with ⟨shops, -, hcb⟩
            rw [hcb, if_pos hlt]
            -- what is left is the fallback call, with one to six shops to go
            refine noKind_completes hwt category shopID _ (by omega) (Or.inr ?_) ?_
            · have : (6 : Int) < Swift.intMax := by decide
              omega
            · intro r
              cases r with
              | ok shops' => exact report_spec _
              | error _ => exact report_spec _
  exact (Session.reportsOnce_iff answer hmain.1).2 hmain.2

/-- `getShopList` calls `completed` exactly once unless the kind query comes
back with six other shops, or the limit of the category query overflows. -/
theorem getShopList_completes_once_iff (answer : Query → Response)
    (hwt : WellTypedAnswers answer) (kind category shopID : Option String) (shopsToGo : Int)
    (h0 : 0 ≤ shopsToGo) :
    Session.ReportsOnce answer (getShopList kind category shopsToGo shopID report) ↔
      ¬ KindFull answer kind shopID ∧ ¬ LimitOverflows kind category shopsToGo := by
  constructor
  · intro honce
    constructor
    · intro hfull
      exact not_completes_of_kindFull hwt kind category shopID shopsToGo hfull honce
    · rintro ⟨rfl, hcategory, hmax⟩
      rcases Option.ne_none_iff_exists'.1 hcategory with ⟨c, rfl⟩
      rw [getShopList_category_overflow report shopsToGo shopID c h0 hmax] at honce
      exact Session.not_reportsOnce_trap answer honce
  · rintro ⟨hfull, hroom⟩
    exact completes_of_not_kindFull hwt kind category shopID shopsToGo h0 hfull hroom

end Calls

/-! ## A collection of noodle shops -/

/-- Numbers by their value; the app orders by nothing else. -/
def numberKey : Value → Rat
  | .number (.finite q) => q
  | _ => 0

def numberOrder : ValueOrder where
  le v w := decide (numberKey v ≤ numberKey w)
  total v w := by simpa using le_total (numberKey v) (numberKey w)
  trans u v w huv hvw := by
    simp only [decide_eq_true_eq] at *
    exact le_trans huv hvw

/-- A well-typed shop document. -/
def shopDocument (id kind category : String) (priority : Rat) : Document where
  documentID := id
  fields := [("imageURL", .string ("https://img/" ++ id)), ("title", .string id),
    ("secondaryTitle", .string ""), ("score", .number (.finite 4)),
    ("location", .array [.number (.finite 1), .number (.finite 2)]),
    ("openingTime", .string "9-21"), ("category", .string category), ("address", .string ""),
    ("kind", .string kind), ("priority", .number (.finite priority))]

/-- A working database that holds `docs`. -/
def database (docs : List Document) (q : Query) : Response := .ok (q.run numberOrder docs)

theorem database_wellTyped {docs : List Document} (h : ∀ d ∈ docs, WellTypedShop d) :
    WellTypedAnswers (database docs) := by
  intro q docs' hdocs' d hd
  obtain rfl : q.run numberOrder docs = docs' := Option.some.inj hdocs'
  exact h d (Query.mem_of_mem_run numberOrder q hd)

def noodleShops : List Document :=
  [shopDocument "a" "noodles" "food" 1, shopDocument "b" "noodles" "food" 2,
    shopDocument "c" "noodles" "food" 3, shopDocument "d" "noodles" "food" 4,
    shopDocument "e" "noodles" "food" 5, shopDocument "f" "noodles" "food" 6]

theorem noodleShops_wellTyped : ∀ d ∈ noodleShops, WellTypedShop d := by
  decide

section CodePoints

attribute [local instance] Unicode.codePoints

/-- Six other noodle shops, and the caller waits forever. -/
theorem noodle_recommendations_never_complete :
    WellTypedAnswers (database noodleShops) ∧
      (∀ q docs, (∀ n, q.limit = some n → 0 ≤ n) →
        (database noodleShops q).documents = some docs → q.Respects numberOrder docs) ∧
      ¬ Session.ReportsOnce (database noodleShops)
        (getShopList (some "noodles") (some "food") 0 (some "s") report) := by
  refine ⟨database_wellTyped noodleShops_wellTyped, ?_, ?_⟩
  · intro q docs hlimit hdocs
    obtain rfl : q.run numberOrder noodleShops = docs := Option.some.inj hdocs
    exact Query.run_respects numberOrder q noodleShops hlimit
  · apply not_completes_of_kindFull (database_wellTyped noodleShops_wellTyped)
    exact ⟨"noodles", _, rfl, rfl, by decide⟩

/-- With five of them the call completes once, through the category query. -/
theorem five_noodle_shops_complete :
    Session.ReportsOnce (database (noodleShops.take 5))
      (getShopList (some "noodles") (some "food") 0 (some "s") report) := by
  refine (getShopList_completes_once_iff _ (database_wellTyped ?_) _ _ _ 0 (by decide)).2
    ⟨?_, ?_⟩
  · decide
  · rintro ⟨k, docs, hk, hdocs, hsix⟩
    obtain rfl := Option.some.inj hk
    obtain rfl := Option.some.inj hdocs
    revert hsix
    decide
  · rintro ⟨hk, -⟩
    cases hk

end CodePoints

end FancyLife.FirestoreManager
