import FancyLife.Recommendations

/-! # The shops of a category

`getShopList(category:shopsToGo:shopID:)` asks for one document more than it is
to deliver, skips `shopID` and stops at its count. It delivers the first
`shopsToGo` shops of the category other than `shopID` (`categoryCall_delivers`), as long as
one document at most is skipped: two ids that only the database tells apart use the limit
up (`categoryCall_traps`).
-/

namespace FancyLife.FirestoreManager

open Swift (Unicode)

variable {ord : ValueOrder} {docs : List Document}

/-- The call for `n` shops of category `c` other than `shopID`. -/
def categoryCall [Unicode] (c : String) (n : Int) (shopID : Option String) : Fetch (List Shop) :=
  getShopList none (some c) n shopID report

/-- The call completes once, with `list`, and without a trap. -/
def Delivers (answer : Query → Response) (call : Fetch (List Shop)) (list : List Shop) : Prop :=
  Session.NeverTraps answer call ∧ Session.ReportsOnce answer call ∧
    ∀ is s, (Session.machine answer call).run (Session.start call) is = some s →
      s.Finished → s.reports = [.ok list]

/-- A call that asks one query and reports what its callback makes of the answer. -/
theorem delivers_ask {answer : Query → Response} {q : Query}
    {cb : Response → Fetch (List Shop)} {list : List Shop}
    (hcb : cb (answer q) = report (.ok list)) : Delivers answer (.ask q cb .done) list := by
  have hfree : (Code.ask q cb .done).TrapFree answer := by
    simp only [Code.TrapFree, hcb, and_true]
    trivial
  have heval : (Code.ask q cb .done).eval answer = [.ok list] := by
    simp only [Code.eval, hcb, List.nil_append]
    rfl
  refine ⟨(Session.neverTraps_iff answer).2 hfree, ?_, ?_⟩
  · rw [Session.reportsOnce_iff answer hfree, heval]
    rfl
  · exact (Session.finished_reports_iff answer hfree _).2 heval

/-- The call delivers the first `n` shops, in priority order, of category `c`
other than `shopID`, or all of them if there are fewer. -/
theorem categoryCall_delivers [Unicode] (hu : UniqueIDs docs) (c : String)
    (shopID : Option String) (hone : SkipsOne shopID (docs.filter (ofCategory c))) (n : Int)
    (hn : 1 ≤ n) (hmax : n < Swift.intMax)
    (hwt : ∀ d ∈ (othersOfCategory ord docs c shopID).take n.toNat, WellTypedShop d)
    {answer : Query → Response}
    (hanswer : (answer (categoryQuery c (n + 1))).documents =
      some ((categoryQuery c (n + 1)).run ord docs)) :
    ∃ list, decodeShops ((othersOfCategory ord docs c shopID).take n.toNat) = some list ∧
      shopIDs list = documentIDs ((othersOfCategory ord docs c shopID).take n.toNat) ∧
      Delivers answer (categoryCall c n shopID) list := by
  rcases decodeShops_isSome hwt with ⟨list, hlist, hids⟩
  refine ⟨list, hlist, hids, ?_⟩
  unfold categoryCall
  rw [getShopList_category report n shopID c (by omega) hmax]
  apply delivers_ask
  -- `n` is a successor, and the query brings one document more
  rcases Int.eq_ofNat_of_zero_le (by omega : 0 ≤ n - 1) with ⟨m, hm⟩
  obtain rfl : n = (m : Int) + 1 := by omega
  have htoNat : ((m : Int) + 1).toNat = m + 1 := by omega
  rw [htoNat] at hlist
  rw [categoryCallback_eq report shopID m hanswer, others_category_run ord hu c hone, hlist]

section CodePoints

attribute [local instance] Unicode.codePoints

/-- With the first shop of the category left out, the other two are delivered. -/
theorem categoryCall_delivers_noodles :
    ∃ list, shopIDs list = ["b", "c"] ∧
      Delivers (database noodleShops) (categoryCall "food" 2 (some "a")) list := by
  have hwt : ∀ d ∈ (othersOfCategory numberOrder noodleShops "food" (some "a")).take
      (2 : Int).toNat, WellTypedShop d := by decide
  rcases @categoryCall_delivers numberOrder noodleShops _ (by decide) "food" (some "a")
    (by decide) 2 (by decide) (by decide) hwt (database noodleShops) rfl
    with ⟨list, -, hids, hdelivers⟩
  exact ⟨list, hids.trans (by decide), hdelivers⟩

/-- A noodle shop without a title. -/
def untitledShop : Document where
  documentID := "u"
  fields := [("category", .string "food"), ("priority", .number (.finite 1))]

/-- The cafés `é`, `é` with a combining accent, and `tea`, by their ids. -/
def cafes : List Document :=
  [shopDocument "\u00e9" "café" "food" 1, shopDocument "e\u0301" "café" "food" 2,
    shopDocument "tea" "café" "food" 3]

/-- The limit of the largest `shopsToGo` overflows, and an untitled shop is not
decoded: neither call delivers anything. Both accented cafés are skipped as `é`, which
leaves nothing of a limit of two, and the tea house is not delivered. -/
theorem categoryCall_traps :
    (∀ list, ¬ Delivers (database []) (categoryCall "food" Swift.intMax none) list) ∧
      (∀ list, ¬ Delivers (database [untitledShop]) (categoryCall "food" 1 none) list) ∧
      UniqueIDs cafes ∧
      documentIDs ((@othersOfCategory Unicode.acute numberOrder cafes "food"
        (some "\u00e9")).take 1) = ["tea"] ∧
      Delivers (database cafes) (@categoryCall Unicode.acute "food" 1 (some "\u00e9")) [] := by
  refine ⟨?_, ?_, by decide, by decide, ?_⟩
  · intro list hdelivers
    have hcall : categoryCall "food" Swift.intMax none = .trap :=
      getShopList_category_overflow report Swift.intMax none "food" (by decide) (by decide)
    have honce := hdelivers.2.1
    rw [hcall] at honce
    exact Session.not_reportsOnce_trap _ honce
  · intro list hdelivers
    have hfalse := hdelivers.1 [0] _ rfl
    revert hfalse
    decide
  · exact delivers_ask rfl

end CodePoints

end FancyLife.FirestoreManager
