import FancyLife.ShopInfoScreen

/-! # The cells of ShopInfoVC

The cell provider reads arrays of its item by the position of the cell. The
recommendation section is as long as the arrays that its cells index; the product
section has three items, however many product images there are.
-/

namespace FancyLife

/-- `ProductCell.set(shopInfo:item:)`: the image to download; `none` is an index
out of range. -/
def ProductCell.set (shopInfo : ShopInfo) (item : Nat) : Option String :=
  shopInfo.productImageURLs[item]?

namespace ShopInfoVC

/-- A configured cell. The shop, event and review cells index none of the arrays
of their item. -/
inductive Cell where
  | shop (shopInfo : ShopInfo)
  | event (shopInfo : ShopInfo)
  | product (imageURL : String)
  | review (shopInfo : ShopInfo)
  | recommendation (cell : RecommendationCell)
deriving DecidableEq

/-- The cell provider of `configureDataSource()`; `none` is a trap: there is no
such section kind, or an index is out of range. -/
def cellProvider (sectionNumber item : Nat) (shopInfo : ShopInfo) : Option Cell :=
  match SectionKind.ofRawValue sectionNumber with
  | some .shop => some (.shop shopInfo)
  | some .event => some (.event shopInfo)
  | some .product => (ProductCell.set shopInfo item).map .product
  | some .review => some (.review shopInfo)
  | some .recommendation => (RecommendationCell.set shopInfo item).map .recommendation
  | none => none

/-- Every item that the screen shows can be given its cell. -/
def CellsInRange (vc : ShopInfoVC) : Prop :=
  ∀ sectionNumber item shopInfo,
    vc.dataSource.bind (·.item sectionNumber item) = some shopInfo →
      (cellProvider sectionNumber item shopInfo).isSome

/-! ## Items of a chain -/

/-- The provider does not look at the `UUID()`. -/
theorem isSome_cellProvider_content (n i : Nat) (info : ShopInfo) :
    (cellProvider n i (content info)).isSome = (cellProvider n i info).isSome := by
  unfold cellProvider
  cases SectionKind.ofRawValue n with
  | none => rfl
  | some kind => cases kind <;> rfl

/-- A product cell is in range of the images of the chain's products. -/
theorem product_cell (chain : Chain) (shop : Shop) (i : Nat) :
    (cellProvider 2 i (chain.shopInfo shop 0)).isSome ↔ i < chain.products.length := by
  have hset : cellProvider 2 i (chain.shopInfo shop 0) =
      ((chain.products.map Product.imageURL)[i]?).map .product := rfl
  rw [hset, Option.isSome_map]
  simp

/-- Every other cell of a chain is in range. -/
theorem other_cell (chain : Chain) (shop : Shop) {n i : Nat} (hn : n < 5) (hne : n ≠ 2)
    (hi : i < sectionCount chain.shops.length n) :
    (cellProvider n i (chain.shopInfo shop 0)).isSome := by
  have hcases : n = 0 ∨ n = 1 ∨ n = 3 ∨ n = 4 := by omega
  rcases hcases with rfl | rfl | rfl | rfl
  · rfl
  · rfl
  · rfl
  · -- the three arrays have one entry for each shop
    have hshop : i < chain.shops.length := hi
    have hcell := @cell_of_content (chain.shopInfo shop 0) chain shop chain.shops[i] i rfl
      (List.getElem?_eq_getElem hshop)
    have hprovider : cellProvider 4 i (chain.shopInfo shop 0) =
        (RecommendationCell.set (chain.shopInfo shop 0) i).map .recommendation := rfl
    rw [hprovider, hcell]
    rfl

/-- The product section of a chain has three items. -/
theorem exists_product_item {five : List (List ShopInfo)} {chain : Chain} {shop : Shop}
    (hfive : five.map (List.map content) = chain.sections shop) {i : Nat} (hi : i < 3) :
    ∃ info, (⟨SectionKind.allCases.zip five⟩ : Snapshot SectionKind ShopInfo).item 2 i =
      some info := by
  have hlength := length_of_sections hfive
  have hitems : five[2]? = some five[2] := List.getElem?_eq_getElem (by omega)
  have hcount := congrArg List.length (section_of_chain hfive hitems)
  rw [List.length_map, List.length_replicate] at hcount
  have hthree : sectionCount chain.shops.length 2 = 3 := rfl
  refine ⟨five[2][i], ?_⟩
  rw [item_zip hlength, hitems, Option.bind_some, List.getElem?_eq_getElem (by omega)]

theorem cellsInRange_iff {vc : ShopInfoVC} {five : List (List ShopInfo)} {chain : Chain}
    {shop : Shop} (hfive : five.map (List.map content) = chain.sections shop)
    (hsource : vc.dataSource = some ⟨SectionKind.allCases.zip five⟩) :
    CellsInRange vc ↔ 3 ≤ chain.products.length := by
  unfold CellsInRange
  rw [hsource]
  constructor
  · intro h
    rcases exists_product_item hfive (by decide : 2 < 3) with ⟨info, hinfo⟩
    have hcell := h 2 2 info hinfo
    rw [← isSome_cellProvider_content, (item_of_chain hfive hinfo).1] at hcell
    exact (product_cell chain shop 2).1 hcell
  · intro h n i info hitem
    rcases item_of_chain hfive hitem with ⟨hcontent, hi⟩
    rw [← isSome_cellProvider_content, hcontent]
    have hn : n < 5 := by
      rw [Option.bind_some, item_zip (length_of_sections hfive)] at hitem
      rcases Option.bind_eq_some_iff.1 hitem with ⟨items, hitems, -⟩
      rcases List.getElem?_eq_some_iff.1 hitems with ⟨hlt, -⟩
      rwa [length_of_sections hfive] at hlt
    by_cases hne : n = 2
    · subst hne
      have hthree : i < 3 := hi
      exact (product_cell chain shop i).2 (by omega)
    · exact other_cell chain shop hn hne hi

/-- After any number of appearances the cells on the screen are in range exactly
when the products of the first chain, which stays on the screen, are three or more. -/
theorem cells_in_range_iff (shop : Shop) (first : Chain) (rest : List Chain) :
    ∃ l, (machine shop).run (fresh shop) ((first :: rest).flatMap Chain.steps) = some l ∧
      l.trapped = false ∧ (CellsInRange l.state ↔ 3 ≤ first.products.length) := by
  rcases chains_run shop first rest with
    ⟨l, five, more, hrun, hl, -, -, -, hfive, hsource⟩
  exact ⟨l, hrun, hl.trapped, cellsInRange_iff hfive hsource⟩

/-- A shop with an event and no product: its first product cell is out of range. -/
theorem no_product_crashes :
    ∃ l info, (machine (bakery "s")).run (fresh (bakery "s")) (recommends []).steps = some l ∧
      l.state.dataSource.bind (·.item 2 0) = some info ∧ cellProvider 2 0 info = none ∧
      ¬ CellsInRange l.state := by
  refine ⟨_, _, rfl, rfl, rfl, ?_⟩
  intro h
  have hcell := h 2 0 _ rfl
  cases hcell

end ShopInfoVC

end FancyLife
