import FancyLife.ShopList

/-! # The recommended shops

`recommended` is what the recommendation row is for: six shops, first those of
the same kind, then those of the same category, the current shop left out and
no shop twice. `getShopList(kind:category:shopID:)` glues it from two queries
and delivers it unless its second query brings back a shop of the kind
(`getShopList_recommends_iff`). Documents of any types may be in the collection: one
that has to be decoded and is ill typed stops the program, and then nothing is delivered.

The documents are told apart by Swift's comparison of their ids, as in the loops. The two
limits leave room for one document to be skipped, so ids that are only bytewise different
from each other could use both of them up.
-/

namespace FancyLife.FirestoreManager

open Swift (Unicode)

section Recommended

variable [Unicode] (ord : ValueOrder) (docs : List Document)

/-- The shops in priority order. -/
def inPriorityOrder (docs : List Document) : List Document := allQuery.run ord docs

def ofKind (k : String) (d : Document) : Bool := (Filter.isEqualTo "kind" k).matches d

def ofCategory (c : String) (d : Document) : Bool := (Filter.isEqualTo "category" c).matches d

/-- The shops of kind `k` other than `s`, in priority order. -/
def kindShops (k s : String) : List Document :=
  inPriorityOrder ord (docs.filter fun d => ofKind k d && isOther (some s) d)

/-- The shops of category `c` other than `shopID`, if there is one to leave out,
in priority order. -/
def othersOfCategory (c : String) (shopID : Option String) : List Document :=
  inPriorityOrder ord (docs.filter fun d => ofCategory c d && isOther shopID d)

/-- The shops of category `c` other than `s`, in priority order. -/
def categoryShops (c s : String) : List Document := othersOfCategory ord docs c (some s)

/-- The shops of category `c` that are neither `s` nor of kind `k`, in priority
order. -/
def otherCategoryShops (k c s : String) : List Document :=
  inPriorityOrder ord
    (docs.filter fun d => ofCategory c d && isOther (some s) d && !ofKind k d)

/-- The recommendation row: the first six. -/
def recommended (k c s : String) : List Document :=
  (kindShops ord docs k s ++ otherCategoryShops ord docs k c s).take 6

/-! ## The row itself -/

variable {ord docs}

omit [Unicode] in
theorem mem_inPriorityOrder {d : Document} :
    d ∈ inPriorityOrder ord docs ↔ d ∈ docs ∧ (d.get "priority").isSome := by
  simp only [inPriorityOrder, Query.run, Query.cut, allQuery, Query.mem_sort, List.mem_filter,
    Query.selects]
  simp

theorem mem_kindShops {k s : String} {d : Document} (h : d ∈ kindShops ord docs k s) :
    d ∈ docs ∧ ofKind k d = true ∧ isOther (some s) d = true := by
  simpa using List.mem_filter.1 (mem_inPriorityOrder.1 h).1

theorem mem_otherCategoryShops {k c s : String} {d : Document}
    (h : d ∈ otherCategoryShops ord docs k c s) :
    d ∈ docs ∧ isOther (some s) d = true ∧ ofKind k d = false := by
  have := List.mem_filter.1 (mem_inPriorityOrder.1 h).1
  simp only [Bool.and_eq_true, Bool.not_eq_true'] at this
  exact ⟨this.1, this.2.1.2, this.2.2⟩

theorem inPriorityOrder_distinct (hd : DistinctIDs docs) :
    DistinctIDs (inPriorityOrder ord docs) :=
  (hd.filter _).sort ord allQuery

/-- The row never shows a shop twice, whatever spelling of its id. -/
theorem recommended_distinct (hd : DistinctIDs docs) (k c s : String) :
    DistinctIDs (recommended ord docs k c s) := by
  refine List.Nodup.sublist ((List.take_sublist _ _).map _) ?_
  rw [List.map_append]
  apply List.Nodup.append (inPriorityOrder_distinct (hd.filter _))
    (inPriorityOrder_distinct (hd.filter _))
  intro i hi hi'
  rcases List.mem_map.1 hi with ⟨d, hmem, rfl⟩
  rcases List.mem_map.1 hi' with ⟨e, hmem', hid⟩
  rcases mem_kindShops hmem with ⟨hdocs, hkind, -⟩
  rcases mem_otherCategoryShops hmem' with ⟨hdocs', -, hkind'⟩
  obtain rfl := List.inj_on_of_nodup_map hd hdocs' hdocs hid
  rw [hkind] at hkind'
  cases hkind'

/-- The row never shows the current shop. -/
theorem current_not_recommended (k c s : String) :
    ∀ d ∈ recommended ord docs k c s, Swift.stringEq d.documentID s = false := by
  intro d hd
  have hother : isOther (some s) d = true := by
    rcases List.mem_append.1 (List.mem_of_mem_take hd) with h | h
    · exact (mem_kindShops h).2.2
    · exact (mem_otherCategoryShops h).2.1
  simpa [isOther_some] using hother

/-- A slot stays empty only when every eligible shop is shown. -/
theorem recommended_full (k c s : String) :
    (recommended ord docs k c s).length = 6 ∨
      recommended ord docs k c s = kindShops ord docs k s ++ otherCategoryShops ord docs k c s := by
  unfold recommended
  rcases Nat.lt_or_ge (kindShops ord docs k s ++ otherCategoryShops ord docs k c s).length 6
    with h | h
  · exact Or.inr (List.take_of_length_le (by omega))
  · exact Or.inl (by rw [List.length_take]; omega)

/-! ## The two queries -/

/-- At most one document is skipped as `shopID`. -/
def SkipsOne (shopID : Option String) (docs : List Document) : Prop :=
  docs.countP (fun d => !isOther shopID d) ≤ 1

instance (shopID : Option String) (docs : List Document) : Decidable (SkipsOne shopID docs) :=
  inferInstanceAs (Decidable (_ ≤ _))

/-- Ids that are distinct in the app's comparison are equal to `shopID` at most once. -/
theorem skipsOne_of_distinct (hd : DistinctIDs docs) (shopID : Option String) :
    SkipsOne shopID docs := by
  induction docs with
  | nil => exact Nat.zero_le 1
  | cons d docs ih =>
      rcases List.nodup_cons.1 hd with ⟨hfresh, hrest⟩
      unfold SkipsOne
      cases hself : isOther shopID d with
      | true =>
          rw [List.countP_cons_of_neg (by simp [hself])]
          exact ih hrest
      | false =>
          -- no later id equals the same text
          have hzero : docs.countP (fun e => !isOther shopID e) = 0 := by
            rw [List.countP_eq_zero]
            intro e he hskip
            cases shopID with
            | none => cases hself
            | some s =>
                simp only [isOther_some, Bool.not_eq_false', Bool.not_not] at hself hskip
                refine hfresh (List.mem_map.2 ⟨e, he, ?_⟩)
                exact (Swift.stringEq_iff.1 hskip).trans (Swift.stringEq_iff.1 hself).symm
          rw [List.countP_cons_of_pos (by simp [hself]), hzero]

theorem skipsOne_none (docs : List Document) : SkipsOne none docs := by
  simp [SkipsOne, isOther]

theorem SkipsOne.sublist {shopID : Option String} {docs' : List Document}
    (h : SkipsOne shopID docs) (hsub : docs'.Sublist docs) : SkipsOne shopID docs' :=
  hsub.countP_le.trans h

theorem SkipsOne.sort {shopID : Option String} (h : SkipsOne shopID docs) (q : Query) :
    SkipsOne shopID (q.sort ord docs) := by
  unfold Query.sort SkipsOne
  cases q.orderBy with
  | none => exact h
  | some f => exact ((List.perm_insertionSort _ docs).countP_eq _).trans_le h

variable (ord)

/-- Skipping `shopID` in an ordered answer, or leaving it out beforehand. -/
theorem others_sorted (hu : UniqueIDs docs) (q : Query) (p : Document → Bool)
    (shopID : Option String) :
    others shopID (q.sort ord (docs.filter p)) =
      q.sort ord (docs.filter fun d => p d && isOther shopID d) := by
  unfold others
  rw [Query.filter_sort ord q (hu.filter p), List.filter_filter]
  congr 2
  funext d
  exact Bool.and_comm _ _

/-- What the kind query would bring back without its limit. -/
theorem others_kind (hu : UniqueIDs docs) (k s : String) :
    others (some s) ((kindQuery k).sort ord (docs.filter (kindQuery k).selects)) =
      kindShops ord docs k s := by
  rw [others_sorted ord hu]
  show allQuery.sort ord _ = allQuery.sort ord _
  rw [List.filter_filter]
  congr 2
  funext d
  simp [Query.selects, kindQuery, allQuery, ofKind, Bool.and_comm, Bool.and_assoc]

/-- What the category query would bring back without its limit. -/
theorem others_category (hu : UniqueIDs docs) (c : String) (shopID : Option String) (n : Int) :
    others shopID ((categoryQuery c n).sort ord (docs.filter (categoryQuery c n).selects)) =
      othersOfCategory ord docs c shopID := by
  rw [others_sorted ord hu]
  show allQuery.sort ord _ = allQuery.sort ord _
  rw [List.filter_filter]
  congr 2
  funext d
  simp [Query.selects, categoryQuery, allQuery, ofCategory, Bool.and_comm, Bool.and_assoc]

theorem otherCategoryShops_eq (hu : UniqueIDs docs) (k c s : String) :
    otherCategoryShops ord docs k c s =
      (categoryShops ord docs c s).filter fun d => !ofKind k d := by
  unfold otherCategoryShops categoryShops othersOfCategory inPriorityOrder Query.run
  show allQuery.sort ord _ = (allQuery.sort ord _).filter _
  rw [Query.filter_sort ord allQuery ((hu.filter _).filter _), List.filter_filter,
    List.filter_filter, List.filter_filter]
  congr 2
  funext d
  cases allQuery.selects d <;> cases ofKind k d <;> simp

/-! ## What the two queries glue together -/

/-- The list behind a delivery: the fallback fills the row up by category,
whatever the kind of the shops it finds. -/
def glued (ord : ValueOrder) (docs : List Document) (k c s : String) : List Document :=
  kindShops ord docs k s ++
    (categoryShops ord docs c s).take (6 - (kindShops ord docs k s).length)

/-- The service answers a query from the collection, or with a failure. -/
def Serves (ord : ValueOrder) (docs : List Document) (answer : Query → Response) : Prop :=
  ∀ q, (answer q).documents = none ∨ (answer q).documents = some (q.run ord docs)

/-- The call for the shops like `s`. -/
def recommendationCall (k c s : String) : Fetch (List Shop) :=
  getShopList (some k) (some c) 0 (some s) report

/-- The seven documents of the kind query decide whether six other shops exist. -/
theorem others_kind_run (hd : DistinctIDs docs) (k s : String) :
    (6 ≤ (others (some s) ((kindQuery k).run ord docs)).length ↔
      6 ≤ (kindShops ord docs k s).length) ∧
    ((kindShops ord docs k s).length < 6 →
      others (some s) ((kindQuery k).run ord docs) = kindShops ord docs k s) := by
  have hone : SkipsOne (some s)
      ((kindQuery k).sort ord (docs.filter (kindQuery k).selects)) :=
    ((skipsOne_of_distinct hd (some s)).sublist List.filter_sublist).sort _
  have hkind := others_kind ord hd.unique k s
  constructor
  · rw [← hkind]
    exact OrderedList.le_length_filter_take_succ hone 6
  · intro hlt
    rw [← hkind] at hlt ⊢
    exact OrderedList.filter_take_succ_of_lt hone hlt

/-- One document more than the shops to go is enough for the category query. -/
theorem others_category_run (hu : UniqueIDs docs) (c : String) {shopID : Option String}
    (hone : SkipsOne shopID (docs.filter (ofCategory c))) (m : ℕ) :
    (others shopID ((categoryQuery c ((m + 1 : Int) + 1)).run ord docs)).take (m + 1) =
      (othersOfCategory ord docs c shopID).take (m + 1) := by
  have hselects : (docs.filter (categoryQuery c ((m + 1 : Int) + 1)).selects).Sublist
      (docs.filter (ofCategory c)) := by
    apply List.monotone_filter_right docs
    intro d hd
    simp only [Query.selects, categoryQuery, Option.all_some, Bool.and_eq_true] at hd
    exact hd.1
  have hsorted := @SkipsOne.sort _ ord _ _ (hone.sublist hselects)
    (categoryQuery c ((m + 1 : Int) + 1))
  have hlimit : ((m + 1 : Int) + 1).toNat = (m + 1) + 1 := by omega
  rw [← others_category ord hu c shopID ((m + 1 : Int) + 1)]
  unfold Query.run Query.cut
  show (others _ (List.take ((m + 1 : Int) + 1).toNat _)).take _ = _
  rw [hlimit]
  exact OrderedList.take_filter_take_succ hsorted (m + 1)

/-- A document that has to be decoded is ill typed. -/
def Stuck (ord : ValueOrder) (docs : List Document) (k c s : String) : Prop :=
  ∃ d ∈ glued ord docs k c s, ¬ WellTypedShop d

/-- With six shops of the kind nothing is reported. -/
theorem recommendationCall_full (hd : DistinctIDs docs) (k c s : String)
    {answer : Query → Response} (hserves : Serves ord docs answer)
    (hsix : 6 ≤ (kindShops ord docs k s).length) (list : List Shop) :
    .ok list ∉ (recommendationCall k c s).eval answer := by
  have hothers := (others_kind_run ord hd k s).1.2 hsix
  unfold recommendationCall
  rw [getShopList_kind]
  simp only [Code.eval, List.nil_append]
  rcases hserves (kindQuery k) with hnone | hdocs
  · simp [kindCallback, hnone, report, Code.eval]
  · by_cases hwt : ∀ d ∈ others (some s) ((kindQuery k).run ord docs), WellTypedShop d
    · rcases kindCallback_spec report (some c) hdocs hwt with ⟨shops, -, hcb⟩
      rw [hcb, if_neg (by omega)]
      exact List.not_mem_nil
    · rw [kindCallback_trap report (some c) hdocs (by simpa using hwt)]
      exact List.not_mem_nil

/-- With fewer, a list is reported only when every document of the two answers is well
typed, and it is the glued one. -/
theorem recommendationCall_lists (hd : DistinctIDs docs) (k c s : String)
    {answer : Query → Response} (hserves : Serves ord docs answer)
    (hlt : (kindShops ord docs k s).length < 6) {list : List Shop}
    (h : .ok list ∈ (recommendationCall k c s).eval answer) :
    ¬ Stuck ord docs k c s ∧ shopIDs list = documentIDs (glued ord docs k c s) := by
  have hothers := (others_kind_run ord hd k s).2 hlt
  unfold recommendationCall at h
  rw [getShopList_kind] at h
  simp only [Code.eval, List.nil_append] at h
  rcases hserves (kindQuery k) with hnone | hdocs
  · simp [kindCallback, hnone, report, Code.eval] at h
  by_cases hwt : ∀ d ∈ others (some s) ((kindQuery k).run ord docs), WellTypedShop d
  swap
  · rw [kindCallback_trap report (some c) hdocs (by simpa using hwt)] at h
    cases h
  rcases kindCallback_spec report (some c) hdocs hwt with ⟨shops, hids, hcb⟩
  rw [hothers] at hwt hids hcb
  rw [hcb, if_pos hlt] at h
  -- `m + 1` shops are to go, at most six
  rcases Nat.exists_eq_add_of_lt hlt with ⟨m, hm⟩
  have hrest : 6 - (kindShops ord docs k s).length = m + 1 := by omega
  have hgo : (6 : Int) - ((kindShops ord docs k s).length : Int) = (m : Int) + 1 := by omega
  have hmax : (m : Int) + 1 < Swift.intMax := by
    have : (6 : Int) < Swift.intMax := by decide
    omega
  rw [hgo, getShopList_category _ _ _ c (by omega) hmax] at h
  simp only [Code.eval, List.nil_append] at h
  rcases hserves (categoryQuery c ((m + 1 : Int) + 1)) with hnone | hdocs'
  · simp [categoryCallback, hnone, appendTo, report, Code.eval] at h
  have hone : SkipsOne (some s) (docs.filter (ofCategory c)) :=
    (skipsOne_of_distinct hd _).sublist List.filter_sublist
  rw [categoryCallback_eq _ _ m hdocs', others_category_run ord hd.unique c hone] at h
  have hglued : glued ord docs k c s =
      kindShops ord docs k s ++ (othersOfCategory ord docs c (some s)).take (m + 1) := by
    unfold glued categoryShops
    rw [hrest]
  by_cases hwt' : ∀ d ∈ (othersOfCategory ord docs c (some s)).take (m + 1), WellTypedShop d
  · rcases decodeShops_isSome hwt' with ⟨shops', hshops', hids'⟩
    rw [hshops'] at h
    obtain rfl : list = shops ++ shops' := Except.ok.inj (List.mem_singleton.1 h)
    unfold Stuck
    rw [hglued]
    constructor
    · rintro ⟨d, hmem, hill⟩
      exact hill ((List.mem_append.1 hmem).elim (hwt d) (hwt' d))
    · rw [shopIDs_append, hids, hids', documentIDs, documentIDs, documentIDs, List.map_append]
  · rw [decodeShops_eq_none (by simpa using hwt')] at h
    cases h

/-- A working service brings the glued list when all of it is well typed. -/
theorem recommendationCall_delivers (hd : DistinctIDs docs) (k c s : String)
    {answer : Query → Response} (hanswer : ∀ q, (answer q).documents = some (q.run ord docs))
    (hlt : (kindShops ord docs k s).length < 6) (hwt : ¬ Stuck ord docs k c s) :
    (recommendationCall k c s).TrapFree answer ∧
      ∃ list, .ok list ∈ (recommendationCall k c s).eval answer := by
  have hothers := (others_kind_run ord hd k s).2 hlt
  have hall : ∀ d ∈ glued ord docs k c s, WellTypedShop d := by
    simpa [Stuck] using hwt
  unfold glued at hall
  rw [List.forall_mem_append] at hall
  rcases kindCallback_spec report (some c) (hanswer (kindQuery k)) (by rw [hothers]; exact hall.1)
    with ⟨shops, -, hcb⟩
  rcases Nat.exists_eq_add_of_lt hlt with ⟨m, hm⟩
  have hrest : 6 - (kindShops ord docs k s).length = m + 1 := by omega
  have hgo : (6 : Int) - ((kindShops ord docs k s).length : Int) = (m : Int) + 1 := by omega
  have hmax : (m : Int) + 1 < Swift.intMax := by
    have : (6 : Int) < Swift.intMax := by decide
    omega
  have hone : SkipsOne (some s) (docs.filter (ofCategory c)) :=
    (skipsOne_of_distinct hd _).sublist List.filter_sublist
  have hwt' : ∀ d ∈ (othersOfCategory ord docs c (some s)).take (m + 1), WellTypedShop d := by
    rw [← hrest]
    exact hall.2
  rcases decodeShops_isSome hwt' with ⟨shops', hshops', -⟩
  unfold recommendationCall
  rw [getShopList_kind]
  simp only [Code.TrapFree, Code.eval, and_true, List.nil_append, hcb, hothers, if_pos hlt]
  rw [hgo, getShopList_category _ _ _ c (by omega) hmax]
  simp only [Code.TrapFree, Code.eval, and_true, List.nil_append,
    categoryCallback_eq _ _ m (hanswer _), others_category_run ord hd.unique c hone, hshops']
  exact ⟨trivial, shops ++ shops', List.mem_singleton_self _⟩

/-! ## When the glued list is the row -/

omit [Unicode] in
/-- Documents of one collection are told apart by their ids. -/
theorem documentIDs_inj (hu : UniqueIDs docs) {l l' : List Document}
    (hl : ∀ d ∈ l, d ∈ docs) (hl' : ∀ d ∈ l', d ∈ docs)
    (h : documentIDs l = documentIDs l') : l = l' := by
  induction l generalizing l' with
  | nil =>
      cases l' with
      | nil => rfl
      | cons e l' => cases h
  | cons d l ih =>
      cases l' with
      | nil => cases h
      | cons e l' =>
          simp only [documentIDs, List.map_cons, List.cons.injEq] at h
          rw [hu.eq_of_mem (hl d List.mem_cons_self) (hl' e List.mem_cons_self) h.1,
            ih (fun a ha => hl a (List.mem_cons_of_mem d ha))
              (fun a ha => hl' a (List.mem_cons_of_mem e ha)) h.2]

theorem glued_eq_recommended_iff (hu : UniqueIDs docs) (k c s : String)
    (hlt : (kindShops ord docs k s).length < 6) :
    documentIDs (glued ord docs k c s) = documentIDs (recommended ord docs k c s) ↔
      ∀ d ∈ (categoryShops ord docs c s).take (6 - (kindShops ord docs k s).length),
        ofKind k d = false := by
  have hrow : recommended ord docs k c s = kindShops ord docs k s ++
      (otherCategoryShops ord docs k c s).take (6 - (kindShops ord docs k s).length) := by
    unfold recommended
    rw [List.take_append, List.take_of_length_le (by omega)]
  have hmem : ∀ d ∈ categoryShops ord docs c s, d ∈ docs := fun d hd =>
    (List.mem_filter.1 (mem_inPriorityOrder.1 hd).1).1
  rw [hrow, otherCategoryShops_eq ord hu]
  unfold glued documentIDs
  rw [List.map_append, List.map_append, List.append_cancel_left_eq]
  constructor
  · intro h
    have hlist := documentIDs_inj hu (fun d hd => hmem d (List.mem_of_mem_take hd))
      (fun d hd => hmem d (List.mem_filter.1 (List.mem_of_mem_take hd)).1) h
    intro d hd
    have := (OrderedList.take_filter_eq_take_iff _ _ _).1 hlist.symm d hd
    simpa using this
  · intro h
    rw [(OrderedList.take_filter_eq_take_iff _ _ _).2 fun d hd => by rw [h d hd]; rfl]

/-- Whatever the service answers and in whatever order, a list is delivered only
if it is the recommendation row. -/
def DeliversRecommended (ord : ValueOrder) (docs : List Document) (k c s : String) : Prop :=
  ∀ answer, Serves ord docs answer → ∀ is session,
    (Session.machine answer (recommendationCall k c s)).run
      (Session.start (recommendationCall k c s)) is = some session →
    ∀ list, .ok list ∈ session.reports →
      shopIDs list = documentIDs (recommended ord docs k c s)

/-- `getShopList` delivers the recommendation row exactly when the category
query, as far as it is used, brings no shop of the kind. With six shops of the kind, or
an ill-typed document among those used, nothing is delivered at all. -/
theorem getShopList_recommends_iff (ord : ValueOrder) (docs : List Document)
    (hd : DistinctIDs docs) (k c s : String) :
    DeliversRecommended ord docs k c s ↔
      6 ≤ (kindShops ord docs k s).length ∨ Stuck ord docs k c s ∨
        ∀ d ∈ (categoryShops ord docs c s).take (6 - (kindShops ord docs k s).length),
          ofKind k d = false := by
  rcases Nat.lt_or_ge (kindShops ord docs k s).length 6 with hlt | hge
  swap
  · refine iff_of_true ?_ (Or.inl hge)
    intro answer hserves is session hrun list hlist
    exact absurd (Session.mem_eval_of_mem_reports answer hrun hlist)
      (recommendationCall_full ord hd k c s hserves hge list)
  rw [or_iff_right (by omega), ← glued_eq_recommended_iff ord hd.unique k c s hlt]
  constructor
  · intro h
    by_contra hnot
    rw [not_or] at hnot
    -- let the service answer both queries and run the call to its end
    have hserves : Serves ord docs fun q => .ok (q.run ord docs) := fun q => Or.inr rfl
    have hruns : ∀ q : Query, (Response.ok (q.run ord docs)).documents =
        some (q.run ord docs) := fun q => rfl
    rcases recommendationCall_delivers ord hd k c s hruns hlt hnot.1 with ⟨hfree, list, heval⟩
    rcases Session.exists_finished _ _ (Session.start_spec _ hfree).1
      with ⟨is, session, hrun, hfin⟩
    have hmem := (Session.reports_perm_eval _ hfree hrun hfin).2.mem_iff.2 heval
    apply hnot.2
    rw [← (recommendationCall_lists ord hd k c s hserves hlt heval).2]
    exact h _ hserves is session hrun list hmem
  · intro hcond answer hserves is session hrun list hlist
    rcases recommendationCall_lists ord hd k c s hserves hlt
      (Session.mem_eval_of_mem_reports answer hrun hlist) with ⟨hwt, hids⟩
    exact hids.trans (hcond.resolve_left hwt)

end Recommended

/-! ## One noodle shop -/

section CodePoints

attribute [local instance] Unicode.codePoints

/-- The only noodle shop is found by the kind query and again by its category. -/
theorem noodle_shop_recommended_twice :
    DistinctIDs (noodleShops.take 1) ∧ (∀ d ∈ noodleShops.take 1, WellTypedShop d) ∧
      (∃ is session list,
        (Session.machine (database (noodleShops.take 1))
            (recommendationCall "noodles" "food" "s")).run
          (Session.start (recommendationCall "noodles" "food" "s")) is = some session ∧
        session.reports = [.ok list] ∧ shopIDs list = ["a", "a"]) ∧
      ¬ DeliversRecommended numberOrder (noodleShops.take 1) "noodles" "food" "s" := by
  have hdelivered : ∃ session list,
      (Session.machine (database (noodleShops.take 1))
          (recommendationCall "noodles" "food" "s")).run
        (Session.start (recommendationCall "noodles" "food" "s")) [0, 0] = some session ∧
      session.reports = [.ok list] ∧ shopIDs list = ["a", "a"] :=
    ⟨_, _, rfl, rfl, by decide⟩
  refine ⟨by decide, by decide, ⟨[0, 0], hdelivered⟩, ?_⟩
  intro h
  rcases hdelivered with ⟨session, list, hrun, hreports, hids⟩
  have hrow := h (database (noodleShops.take 1)) (fun q => Or.inr rfl) [0, 0] session hrun list
    (by rw [hreports]; exact List.mem_singleton_self _)
  rw [hids] at hrow
  revert hrow
  decide

/-- Shops of different categories are recommended as they should be. -/
theorem tea_house_recommended :
    DeliversRecommended numberOrder
      [shopDocument "a" "noodles" "street" 1, shopDocument "t" "tea" "food" 2]
      "noodles" "food" "s" := by
  apply (getShopList_recommends_iff numberOrder _ (by decide) _ _ _).2
  refine Or.inr (Or.inr ?_)
  decide

end CodePoints

end FancyLife.FirestoreManager
