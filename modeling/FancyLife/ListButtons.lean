import FancyLife.FLHeaderSV
import FancyLife.SearchTags
import FancyLife.Lib.ReusePool

/-! # The buttons of the lists

The cells and headers of the lists have buttons that ask a delegate, which their
provider has to set. A list recycles its cells and headers, delegates included. What a
button is for is said by the content of its view (`purpose`), and compared with what the
recycled view does.

- `configure_shows`: however it was used before, a view does what is expected of it once
  its provider has configured it. Expected is what it is for, with three exceptions that
  `expected` names: the share button of a shop cell, which has no target; the header of
  the search history as the first section (`displaced`), which has no bin; and the events
  among the search results, which have no delegate.
- `displaced_iff`: the history is the first section when there are no hot tags.
- `presses_serve_their_purpose`: what follows for every run of a list.

What the cells show is left out, and so are the hearts, which a cell answers itself. A
view that stays on the screen while the sections of the list change counts as shown for
the request that it was last configured for.
-/

namespace FancyLife

open Swift (Unicode)

/-- The requests of the delegates of the cells. -/
inductive CellRequest where
  | didRequestToPushProductVC
  | didRequestToAddToCart
deriving DecidableEq

/-- The cells with a button that asks a delegate. -/
inductive ButtonCellKind where
  | shopCell
  | eventCell
  | eventListCell
  | productListCell
  | homeTuanGoCell
deriving DecidableEq

/-- What the `@objc` method of the button requests: `pushProductVC()` of `ShopCell`,
`addToCart()` of the other cells. -/
def ButtonCellKind.request : ButtonCellKind → CellRequest
  | .shopCell => .didRequestToPushProductVC
  | .eventCell | .eventListCell | .productListCell | .homeTuanGoCell => .didRequestToAddToCart

/-- A cell: its delegate, and whether the button is in the cell. -/
structure ButtonCell (D : Type) where
  kind : ButtonCellKind
  delegate : Option D
  attached : Bool

/-- `init(frame:)`: every `configureUI()` adds the button, except that of `ShopCell`. -/
def ButtonCell.fresh {D : Type} (kind : ButtonCellKind) : ButtonCell D where
  kind := kind
  delegate := none
  attached := kind ≠ .shopCell

/-- `ShopCell.configureEntryButton()`, which only `set(shopInfo:)` calls. -/
def ButtonCell.configureEntryButton {D : Type} (cell : ButtonCell D) : ButtonCell D :=
  { cell with attached := true }

/-- A view that a list recycles. -/
inductive ListView (D : Type) where
  | cell (cell : ButtonCell D)
  | header (header : FLHeaderSV D)

/-- The reuse identifiers. -/
inductive ReuseKind where
  | cell (kind : ButtonCellKind)
  | header
deriving DecidableEq

/-- What a provider is asked for: the cell of a section, the cell of a search result,
or the header of a section, with `totalReviews` as it is then. The identifiers of the
sections are numbered as in the source; a provider does not see them. -/
inductive ListRequest where
  | cell (sectionNumber : Nat)
  | result (searchResult : SearchResult)
  | header (sectionNumber sectionIdentifier : Nat) (totalReviews : Int)

/-- The lists: the group purchases of HomeVC, ProductVC, EventVC, ShopInfoVC, and the
two of SearchVC. -/
inductive ButtonList where
  | tuanGoItems
  | products
  | events
  | shopInfo
  | searchTags
  | searchResults
deriving DecidableEq

namespace ButtonList

/-! ## The providers -/

/-- The view that the providers dequeue. There is none for a section that the list
does not have, and for the cells without such a button. Only the search tags leave out
sections, so that numbers and identifiers differ there. -/
def kind [Unicode] : ButtonList → ListRequest → Option ReuseKind
  | .tuanGoItems, .cell 0 => some (.cell .homeTuanGoCell)
  | .tuanGoItems, .header 0 0 _ => some .header
  | .products, .cell 0 => some (.cell .shopCell)
  | .products, .cell 1 => some (.cell .productListCell)
  | .products, .header 0 0 _ => some .header
  | .products, .header 1 1 _ => some .header
  | .events, .cell 0 => some (.cell .shopCell)
  | .events, .cell 1 => some (.cell .eventListCell)
  | .events, .header 0 0 _ => some .header
  | .events, .header 1 1 _ => some .header
  | .shopInfo, .cell 0 => some (.cell .shopCell)
  | .shopInfo, .cell 1 => some (.cell .eventCell)
  | .shopInfo, .header sectionNumber sectionIdentifier _ =>
      if sectionNumber < 5 ∧ sectionIdentifier = sectionNumber then some .header else none
  | .searchTags, .header 0 0 _ => some .header
  | .searchTags, .header 1 1 _ => some .header
  | .searchTags, .header 0 1 _ => some .header
  | .searchResults, .result searchResult =>
      if Swift.stringEq searchResult.kind "shop" then none else some (.cell .eventListCell)
  | _, _ => none

variable {D : Type}

/-- What the cell providers do to the button of the cell they dequeue. ProductVC and
EventVC set their shop cell by `set(title:address:time:imageURL:)`; SearchVC sets the
cell of an event and nothing else. -/
def configureCell (list : ButtonList) (vc : D) (request : ListRequest) (cell : ButtonCell D) :
    ButtonCell D :=
  match list, request with
  | .tuanGoItems, _ => { cell with delegate := some vc }
  | .products, .cell 0 => cell
  | .products, _ => { cell with delegate := some vc }
  | .events, .cell 0 => cell
  | .events, _ => { cell with delegate := some vc }
  | .shopInfo, .cell 0 => { cell.configureEntryButton with delegate := some vc }
  | .shopInfo, _ => { cell with delegate := some vc }
  | .searchTags, _ => cell
  | .searchResults, _ => cell

/-- What the supplementary view providers do to the header they dequeue; `none` is a trap. -/
def configureHeader (list : ButtonList) (vc : D) (sectionNumber : Nat) (totalReviews : Int)
    (header : FLHeaderSV D) : Option (FLHeaderSV D) :=
  match list with
  | .tuanGoItems => some (header.set "团购" false false none)
  | .products =>
      some (if sectionNumber = 0 then header.removeView else header.set "近期热卖" false false none)
  | .events =>
      some (if sectionNumber = 0 then header.removeView else header.set "优惠活动" false false none)
  | .shopInfo => ShopInfoVC.configureHeader vc totalReviews header sectionNumber
  | .searchTags => some (SearchVC.configureHeader vc header sectionNumber)
  | .searchResults => some header

/-- Configure a view; `none` is a trap, also that of `fatalError` for a view of another
class. -/
def configure (list : ButtonList) (vc : D) (request : ListRequest) :
    ListView D → Option (ListView D)
  | .cell cell =>
      match request with
      | .header _ _ _ => none
      | _ => some (.cell (list.configureCell vc request cell))
  | .header header =>
      match request with
      | .header sectionNumber _ totalReviews =>
          (list.configureHeader vc sectionNumber totalReviews header).map .header
      | _ => none

/-- A new view. -/
def fresh : ReuseKind → ListView D
  | .cell kind => .cell (ButtonCell.fresh kind)
  | .header => .header FLHeaderSV.fresh

/-- The views of a list of the screen `vc`. -/
def pool [Unicode] (list : ButtonList) (vc : D) : ReusePool ReuseKind ListRequest (ListView D) where
  kind := list.kind
  fresh := fresh
  configure := list.configure vc

end ButtonList

/-! ## Presses -/

/-- The buttons: that of a cell, the share button of a shop cell, and the two of a
header. -/
inductive ListButton where
  | cellButton
  | shareButton
  | headerButton
  | deleteButton
deriving DecidableEq

/-- A request to a delegate. -/
inductive ButtonRequest where
  | cell (request : CellRequest)
  | header (request : FLHeaderSVRequest)
deriving DecidableEq

/-- What the screens do when they are asked. -/
inductive ButtonEffect where
  | presentAddToCartSuccessView
  | pushProductVC
  | pushEventVC
  | clearSearchHistory
deriving DecidableEq

variable {D : Type}

/-- What a press sends, when the button is in the view at all: one request to each
delegate; the inner `none` is the trap of a request without a delegate. -/
def ListView.touched : ListView D → ListButton → Option (Option (List (D × ButtonRequest)))
  | .cell row, .cellButton =>
      if row.attached then
        some (row.delegate.map fun delegate => [(delegate, .cell row.kind.request)])
      else none
  -- `configureUI()` adds the share button, and nothing adds a target to it
  | .cell row, .shareButton => if row.kind = .shopCell then some (some []) else none
  | .header top, .headerButton =>
      (top.touched top.button).map (Option.map (List.map (Prod.map id .header)))
  | .header top, .deleteButton =>
      (top.touched top.deleteButton).map (Option.map (List.map (Prod.map id .header)))
  | _, _ => none

namespace ButtonList

/-- The delegate methods of the screens; the empty ones do nothing. -/
def answer : ButtonList → ButtonRequest → Option ButtonEffect
  | .tuanGoItems, .cell .didRequestToAddToCart => some .presentAddToCartSuccessView
  | .products, .cell .didRequestToAddToCart => some .presentAddToCartSuccessView
  | .events, .cell .didRequestToAddToCart => some .presentAddToCartSuccessView
  | .shopInfo, .cell .didRequestToAddToCart => some .presentAddToCartSuccessView
  | .shopInfo, .cell .didRequestToPushProductVC => some .pushProductVC
  | .shopInfo, .header .requestToPushProductVC => some .pushProductVC
  | .shopInfo, .header .requestToPushEventVC => some .pushEventVC
  | .searchTags, .header .requestToClearSearchHistory => some .clearSearchHistory
  | _, _ => none

/-- What a press on a button of a view brings about. -/
def pressed (list : ButtonList) (view : ListView D) (button : ListButton) :
    Option (Option (List (D × ButtonEffect))) :=
  (view.touched button).map (Option.map (List.filterMap fun (delegate, request) =>
    (list.answer request).map fun effect => (delegate, effect)))

end ButtonList

/-- A list on its screen: its views, what their buttons have brought about, and
whether the app has crashed. -/
structure ListButtons (D : Type) where
  slots : List (ReusePool.Slot ReuseKind ListRequest (ListView D))
  done : List (D × ButtonEffect)
  trapped : Bool

namespace ListButtons

/-- The list provides or recycles a view, or the user presses a button of a view that
is shown. -/
inductive Event where
  | view (event : ReusePool.Event ListRequest)
  | press (index : Nat) (button : ListButton)

/-- The request that a view is shown for. -/
def shownFor (s : ListButtons D) (index : Nat) : Option ListRequest :=
  s.slots[index]?.bind ReusePool.Slot.shownFor

/-- A press; the button has to be in a view that is shown. -/
def press (list : ButtonList) (s : ListButtons D) (index : Nat) (button : ListButton) :
    Option (ListButtons D) := do
  let slot ← s.slots[index]?
  let _ ← slot.shownFor
  match ← list.pressed slot.view button with
  | some effects => return { s with done := s.done ++ effects }
  | none => return { s with trapped := true }

def step [Unicode] (list : ButtonList) (vc : D) (s : ListButtons D) : Event → Option (ListButtons D)
  | .view event =>
      if s.trapped then none
      else ((list.pool vc).step s.slots event).map fun slots => { s with slots }
  | .press index button => if s.trapped then none else press list s index button

/-- A list without views. -/
def empty : ListButtons D := ⟨[], [], false⟩

def machine [Unicode] (list : ButtonList) (vc : D) : EventMachine (ListButtons D) Event where
  init s := s = empty
  step := step list vc

end ListButtons

/-! ## What a button is for -/

namespace ButtonList

/-- What a button of a view is for, by the content that the view is shown for. -/
def purpose : ButtonList → ListRequest → ListButton → Option ButtonEffect
  | .tuanGoItems, .cell _, .cellButton => some .presentAddToCartSuccessView
  | .products, .cell 1, .cellButton => some .presentAddToCartSuccessView
  | .events, .cell 1, .cellButton => some .presentAddToCartSuccessView
  | .shopInfo, .cell 0, .cellButton => some .pushProductVC
  | .shopInfo, .cell 1, .cellButton => some .presentAddToCartSuccessView
  | .shopInfo, .header _ 1 _, .headerButton => some .pushEventVC
  | .shopInfo, .header _ 2 _, .headerButton => some .pushProductVC
  | .searchTags, .header _ 1 _, .deleteButton => some .clearSearchHistory
  | .searchResults, .result _, .cellButton => some .presentAddToCartSuccessView
  | _, _, _ => none

/-- The header of the search history as the first section: its provider takes it for that
of the hot tags. -/
def displaced : ButtonList → ListRequest → Bool
  | .searchTags, .header 0 1 _ => true
  | _, _ => false

/-- What a view of a kind keeps, however often it is recycled. -/
inductive Fits (list : ButtonList) : ReuseKind → ListView D → Prop where
  | cell {kind : ButtonCellKind} {cell : ButtonCell D} (hkind : cell.kind = kind)
      (hattached : kind ≠ .shopCell → cell.attached = true)
      (hhidden : kind = .shopCell → list ≠ .shopInfo → cell.attached = false)
      (hdelegate : list = .searchResults → cell.delegate = none) :
      Fits list (.cell kind) (.cell cell)
  | header (header : FLHeaderSV D) : Fits list .header (.header header)

theorem fresh_fits (list : ButtonList) (kind : ReuseKind) :
    Fits list kind (fresh kind : ListView D) := by
  cases kind with
  | header => exact .header _
  | cell kind =>
      refine .cell rfl ?_ ?_ (fun _ => rfl)
      · intro hkind
        exact decide_eq_true hkind
      · intro hkind _
        exact decide_eq_false (not_not_intro hkind)

/-- The button of a cell with a delegate. -/
theorem pressed_cell (list : ButtonList) {cell : ButtonCell D} {vc : D}
    (hattached : cell.attached = true) (hdelegate : cell.delegate = some vc) :
    list.pressed (.cell cell) .cellButton =
      some (some ((list.answer (.cell cell.kind.request)).map
        fun effect => (vc, effect)).toList) := by
  unfold pressed
  simp only [ListView.touched, hattached, if_true, hdelegate, Option.map_some, List.filterMap_cons,
    List.filterMap_nil]
  cases list.answer (.cell cell.kind.request) with
  | none => rfl
  | some effect => rfl

theorem purpose_shareButton (list : ButtonList) (request : ListRequest) :
    list.purpose request .shareButton = none := by
  cases list <;> cases request <;> simp [purpose]

section Expected

variable [Unicode]

/-- What a press does: it serves the purpose of the button, once, on the list's own
screen. The search results never set a delegate, so that every button traps there; a
share button does nothing, and a displaced header has no button. -/
def expected (list : ButtonList) (vc : D) (request : ListRequest) :
    ListButton → Option (Option (List (D × ButtonEffect)))
  | .shareButton => if list.kind request = some (.cell .shopCell) then some (some []) else none
  | button =>
      if list.displaced request then none
      else (list.purpose request button).map fun effect =>
        if list = .searchResults then none else some [(vc, effect)]

theorem expected_eq (list : ButtonList) (vc : D) (request : ListRequest) (button : ListButton)
    (hbutton : button ≠ .shareButton) :
    list.expected vc request button =
      if list.displaced request then none
      else (list.purpose request button).map fun effect =>
        if list = .searchResults then none else some [(vc, effect)] := by
  cases button with
  | shareButton => exact absurd rfl hbutton
  | cellButton | headerButton | deleteButton => rfl

/-- Nothing is expected of a button without a purpose, or on a displaced header. -/
theorem expected_none {list : ButtonList} {request : ListRequest} (vc : D) (button : ListButton)
    (hbutton : button ≠ .shareButton)
    (hpurpose : list.displaced request = false → list.purpose request button = none) :
    list.expected vc request button = none := by
  rw [expected_eq list vc request button hbutton]
  cases hdisplaced : list.displaced request with
  | true => rfl
  | false =>
      rw [hpurpose hdisplaced]
      rfl

/-- The buttons that a view is expected to have. -/
theorem isSome_expected_iff (list : ButtonList) (vc : D) (request : ListRequest)
    (button : ListButton) :
    (list.expected vc request button).isSome = true ↔
      ((list.purpose request button).isSome = true ∧ list.displaced request = false) ∨
        (button = .shareButton ∧ list.kind request = some (.cell .shopCell)) := by
  by_cases hbutton : button = .shareButton
  · subst hbutton
    rw [purpose_shareButton]
    unfold expected
    by_cases hshop : list.kind request = some (.cell .shopCell)
    · rw [if_pos hshop]
      exact iff_of_true rfl (Or.inr ⟨rfl, hshop⟩)
    · rw [if_neg hshop]
      refine iff_of_false nofun ?_
      rintro (⟨hnone, -⟩ | ⟨-, hkind⟩)
      · cases hnone
      · exact hshop hkind
  · rw [expected_eq list vc request button hbutton, or_iff_left fun h => hbutton h.1]
    cases list.displaced request with
    | true => exact iff_of_false nofun nofun
    | false =>
        rw [if_neg Bool.false_ne_true, Option.isSome_map, and_iff_left rfl]

/-- A view does what is expected of it. -/
def Shows (list : ButtonList) (vc : D) (request : ListRequest) (view : ListView D) : Prop :=
  ∀ button, list.pressed view button = list.expected vc request button

/-- There are shop cells on the screens of a shop only. -/
theorem kind_searchResults (request : ListRequest) :
    kind .searchResults request ≠ some (.cell .shopCell) := by
  cases request with
  | cell sectionNumber => exact nofun
  | header sectionNumber sectionIdentifier totalReviews => exact nofun
  | result searchResult =>
      show (if Swift.stringEq searchResult.kind "shop" then none
        else some (.cell .eventListCell)) ≠ some (ReuseKind.cell .shopCell)
      split <;> exact nofun

/-- The sections of the search tags: the history is the first one when there are no hot
tags, and its header is displaced then. -/
theorem displaced_iff {hotSearch histories : List SearchTag} {n sectionIdentifier : Nat}
    (h : (tagSnapshot hotSearch histories).sectionIdentifier n = some sectionIdentifier)
    (totalReviews : Int) :
    kind .searchTags (.header n sectionIdentifier totalReviews) = some .header ∧
      (displaced .searchTags (.header n sectionIdentifier totalReviews) = true ↔
        hotSearch = []) := by
  unfold Snapshot.sectionIdentifier at h
  cases hotSearch with
  | nil =>
      rw [SearchVC.tagSnapshot_of_no_hot] at h
      cases histories with
      | nil => cases h
      | cons tag tags =>
          cases n with
          | zero =>
              obtain rfl := Option.some.inj h
              exact ⟨rfl, iff_of_true rfl rfl⟩
          | succ n => cases h
  | cons hot hots =>
      rw [SearchVC.tagSnapshot_of_hot (List.cons_ne_nil hot hots)] at h
      cases n with
      | zero =>
          obtain rfl := Option.some.inj h
          exact ⟨rfl, iff_of_false nofun nofun⟩
      | succ n =>
          cases histories with
          | nil => cases h
          | cons tag tags =>
              cases n with
              | zero =>
                  obtain rfl := Option.some.inj h
                  exact ⟨rfl, iff_of_false nofun nofun⟩
              | succ n => cases h

/-- The share button is in the shop cells. -/
theorem pressed_share {list : ButtonList} {cell : ButtonCell D} (vc : D) {request : ListRequest}
    {kind : ButtonCellKind} (hkind : cell.kind = kind)
    (hprovided : list.kind request = some (.cell kind)) :
    list.pressed (.cell cell) .shareButton = list.expected vc request .shareButton := by
  unfold pressed expected
  simp only [ListView.touched, hkind, hprovided, Option.some.injEq, ReuseKind.cell.injEq]
  split <;> rfl

/-- A cell whose provider sets the delegate serves what its request is answered with. -/
theorem shows_cell {list : ButtonList} {cell : ButtonCell D} {vc : D} {request : ListRequest}
    {kind : ButtonCellKind} {effect : ButtonEffect} (hlist : list ≠ .searchResults)
    (hprovided : list.kind request = some (.cell kind))
    (hplaced : list.displaced request = false)
    (hkind : cell.kind = kind) (hattached : cell.attached = true)
    (hdelegate : cell.delegate = some vc)
    (hanswer : list.answer (.cell kind.request) = some effect)
    (hpurpose : list.purpose request .cellButton = some effect)
    (hheader : list.purpose request .headerButton = none)
    (hdelete : list.purpose request .deleteButton = none) :
    Shows list vc request (.cell cell) := by
  intro button
  cases button with
  | cellButton =>
      rw [pressed_cell list hattached hdelegate, hkind, hanswer,
        expected_eq list vc request .cellButton nofun, hplaced, hpurpose, Option.map_some, Option.map_some, if_neg hlist]
      rfl
  | shareButton => exact pressed_share vc hkind hprovided
  | headerButton => exact (expected_none vc .headerButton nofun fun _ => hheader).symm
  | deleteButton => exact (expected_none vc .deleteButton nofun fun _ => hdelete).symm

/-- A shop cell that hides its entry button. -/
theorem shows_hidden {list : ButtonList} {cell : ButtonCell D} {vc : D} {request : ListRequest}
    (hprovided : list.kind request = some (.cell .shopCell)) (hkind : cell.kind = .shopCell)
    (hhidden : cell.attached = false) (hpurpose : ∀ button, list.purpose request button = none) :
    Shows list vc request (.cell cell) := by
  intro button
  cases button with
  | cellButton =>
      rw [expected_none vc .cellButton nofun fun _ => hpurpose _]
      unfold pressed
      simp only [ListView.touched, hhidden]
      rfl
  | shareButton => exact pressed_share vc hkind hprovided
  | headerButton => exact (expected_none vc .headerButton nofun fun _ => hpurpose _).symm
  | deleteButton => exact (expected_none vc .deleteButton nofun fun _ => hpurpose _).symm

/-- The cell of an event in the search results has its button, and no delegate. -/
theorem shows_trap {cell : ButtonCell D} {vc : D} {searchResult : SearchResult}
    (hprovided : kind .searchResults (.result searchResult) = some (.cell .eventListCell))
    (hkind : cell.kind = .eventListCell) (hattached : cell.attached = true)
    (hdelegate : cell.delegate = none) :
    Shows .searchResults vc (.result searchResult) (.cell cell) := by
  intro button
  cases button with
  | cellButton =>
      unfold pressed
      simp only [ListView.touched, hattached, hdelegate]
      rfl
  | shareButton => exact pressed_share vc hkind hprovided
  | headerButton => rfl
  | deleteButton => rfl

/-- A header without buttons has no purpose, or is displaced. -/
theorem shows_title (list : ButtonList) (vc : D) {sectionNumber sectionIdentifier : Nat}
    {totalReviews : Int} {header : FLHeaderSV D}
    (hprovided : list.kind (.header sectionNumber sectionIdentifier totalReviews) = some .header)
    (hbutton : header.touched header.button = none)
    (hdelete : header.touched header.deleteButton = none)
    (hpurpose : list.displaced (.header sectionNumber sectionIdentifier totalReviews) = false →
      ∀ button, list.purpose (.header sectionNumber sectionIdentifier totalReviews) button = none) :
    Shows list vc (.header sectionNumber sectionIdentifier totalReviews) (.header header) := by
  have hnone : ∀ button, button ≠ .shareButton →
      list.expected vc (.header sectionNumber sectionIdentifier totalReviews) button = none := by
    intro button hshare
    exact expected_none vc button hshare fun hplaced => hpurpose hplaced button
  intro button
  cases button with
  | cellButton => exact (hnone .cellButton nofun).symm
  | shareButton =>
      unfold expected
      rw [hprovided]
      rfl
  | headerButton =>
      rw [hnone .headerButton nofun]
      unfold pressed
      simp only [ListView.touched, hbutton]
      rfl
  | deleteButton =>
      rw [hnone .deleteButton nofun]
      unfold pressed
      simp only [ListView.touched, hdelete]
      rfl

/-- The headers of the shop page. -/
theorem shopInfo_header_shows {vc : D} {sectionNumber : Nat} (hsection : sectionNumber < 5)
    (totalReviews : Int) {header header' : FLHeaderSV D}
    (h : ShopInfoVC.configureHeader vc totalReviews header sectionNumber = some header') :
    Shows .shopInfo vc (.header sectionNumber sectionNumber totalReviews) (.header header') := by
  match sectionNumber with
  | 0 =>
      rw [← Option.some.inj h]
      exact shows_title _ vc rfl rfl rfl fun _ _ => rfl
  | 1 =>
      rw [← Option.some.inj h]
      intro button
      cases button with
      | cellButton => rfl
      | shareButton => rfl
      | headerButton => rfl
      | deleteButton => rfl
  | 2 =>
      rw [← Option.some.inj h]
      intro button
      cases button with
      | cellButton => rfl
      | shareButton => rfl
      | headerButton => rfl
      | deleteButton => rfl
  | 3 =>
      rw [← Option.some.inj h]
      exact shows_title _ vc rfl rfl rfl fun _ _ => rfl
  | 4 =>
      rw [← Option.some.inj h]
      exact shows_title _ vc rfl rfl rfl fun _ _ => rfl

/-- The views that the lists have. -/
inductive Provides : ButtonList → ListRequest → ReuseKind → Prop where
  | tuanGo : Provides .tuanGoItems (.cell 0) (.cell .homeTuanGoCell)
  | tuanGoHeader (totalReviews : Int) :
      Provides .tuanGoItems (.header 0 0 totalReviews) .header
  | shopOfProducts : Provides .products (.cell 0) (.cell .shopCell)
  | product : Provides .products (.cell 1) (.cell .productListCell)
  | productHeader (n : Fin 2) (totalReviews : Int) :
      Provides .products (.header n n totalReviews) .header
  | shopOfEvents : Provides .events (.cell 0) (.cell .shopCell)
  | event : Provides .events (.cell 1) (.cell .eventListCell)
  | eventHeader (n : Fin 2) (totalReviews : Int) :
      Provides .events (.header n n totalReviews) .header
  | shop : Provides .shopInfo (.cell 0) (.cell .shopCell)
  | shopEvent : Provides .shopInfo (.cell 1) (.cell .eventCell)
  | shopInfoHeader (n : Fin 5) (totalReviews : Int) :
      Provides .shopInfo (.header n n totalReviews) .header
  | tagHeader (n : Fin 2) (totalReviews : Int) :
      Provides .searchTags (.header n n totalReviews) .header
  | displacedHeader (totalReviews : Int) :
      Provides .searchTags (.header 0 1 totalReviews) .header
  | result (searchResult : SearchResult)
      (hkind : Swift.stringEq searchResult.kind "shop" = false) :
      Provides .searchResults (.result searchResult) (.cell .eventListCell)

theorem provides_of_kind {list : ButtonList} {request : ListRequest} {kind : ReuseKind}
    (h : list.kind request = some kind) : Provides list request kind := by
  unfold ButtonList.kind at h
  split at h
  case h_13 sectionNumber sectionIdentifier totalReviews =>
      split at h
      · rename_i hsection
        rcases hsection with ⟨hlt, rfl⟩
        obtain rfl := Option.some.inj h
        exact .shopInfoHeader ⟨sectionIdentifier, hlt⟩ totalReviews
      · cases h
  case h_17 searchResult =>
      split at h
      · cases h
      · rename_i hkind
        obtain rfl := Option.some.inj h
        exact .result searchResult (Bool.eq_false_iff.2 hkind)
  case h_18 => cases h
  all_goals obtain rfl := Option.some.inj h
  case h_1 => exact .tuanGo
  case h_2 totalReviews => exact .tuanGoHeader totalReviews
  case h_3 => exact .shopOfProducts
  case h_4 => exact .product
  case h_5 totalReviews => exact .productHeader 0 totalReviews
  case h_6 totalReviews => exact .productHeader 1 totalReviews
  case h_7 => exact .shopOfEvents
  case h_8 => exact .event
  case h_9 totalReviews => exact .eventHeader 0 totalReviews
  case h_10 totalReviews => exact .eventHeader 1 totalReviews
  case h_11 => exact .shop
  case h_12 => exact .shopEvent
  case h_14 totalReviews => exact .tagHeader 0 totalReviews
  case h_15 totalReviews => exact .tagHeader 1 totalReviews
  case h_16 totalReviews => exact .displacedHeader totalReviews

/-- What configuring a cell brings about. -/
theorem configure_cell {list : ButtonList} {request : ListRequest} {kind : ButtonCellKind}
    (hprovided : list.kind request = some (.cell kind)) (vc : D) {cell : ButtonCell D}
    (hfits : Fits list (.cell kind) (.cell cell)) :
    Fits list (.cell kind) (.cell (list.configureCell vc request cell)) ∧
      Shows list vc request (.cell (list.configureCell vc request cell)) := by
  have hprovides := provides_of_kind hprovided
  cases hfits with
  | cell hkind hattached hhidden hdelegate =>
      cases hprovides with
      | tuanGo =>
          refine ⟨.cell hkind hattached hhidden nofun, ?_⟩
          exact shows_cell nofun hprovided rfl hkind (hattached nofun) rfl rfl rfl rfl rfl
      | shopOfProducts =>
          refine ⟨.cell hkind hattached hhidden hdelegate, ?_⟩
          exact shows_hidden hprovided hkind (hhidden rfl nofun) fun _ => rfl
      | product =>
          refine ⟨.cell hkind hattached hhidden nofun, ?_⟩
          exact shows_cell nofun hprovided rfl hkind (hattached nofun) rfl rfl rfl rfl rfl
      | shopOfEvents =>
          refine ⟨.cell hkind hattached hhidden hdelegate, ?_⟩
          exact shows_hidden hprovided hkind (hhidden rfl nofun) fun _ => rfl
      | event =>
          refine ⟨.cell hkind hattached hhidden nofun, ?_⟩
          exact shows_cell nofun hprovided rfl hkind (hattached nofun) rfl rfl rfl rfl rfl
      | shop =>
          refine ⟨.cell hkind (fun _ => rfl) (fun _ hlist => absurd rfl hlist) nofun, ?_⟩
          exact shows_cell nofun hprovided rfl hkind rfl rfl rfl rfl rfl rfl
      | shopEvent =>
          refine ⟨.cell hkind hattached hhidden nofun, ?_⟩
          exact shows_cell nofun hprovided rfl hkind (hattached nofun) rfl rfl rfl rfl rfl
      | result searchResult _ =>
          refine ⟨.cell hkind hattached hhidden hdelegate, ?_⟩
          exact shows_trap hprovided hkind (hattached nofun) (hdelegate rfl)

/-- What configuring a header brings about. -/
theorem configure_header {list : ButtonList} {sectionNumber sectionIdentifier : Nat}
    {totalReviews : Int}
    (hprovided : list.kind (.header sectionNumber sectionIdentifier totalReviews) = some .header)
    (vc : D) {header header' : FLHeaderSV D}
    (h : list.configureHeader vc sectionNumber totalReviews header = some header') :
    Shows list vc (.header sectionNumber sectionIdentifier totalReviews) (.header header') := by
  have hprovides := provides_of_kind hprovided
  cases hprovides with
  | tuanGoHeader =>
      rw [← Option.some.inj h]
      exact shows_title _ vc rfl rfl rfl fun _ _ => rfl
  | productHeader n _ =>
      rw [← Option.some.inj h]
      match n with
      | 0 => exact shows_title _ vc rfl rfl rfl fun _ _ => rfl
      | 1 => exact shows_title _ vc rfl rfl rfl fun _ _ => rfl
  | eventHeader n _ =>
      rw [← Option.some.inj h]
      match n with
      | 0 => exact shows_title _ vc rfl rfl rfl fun _ _ => rfl
      | 1 => exact shows_title _ vc rfl rfl rfl fun _ _ => rfl
  | shopInfoHeader n _ => exact shopInfo_header_shows n.isLt totalReviews h
  | tagHeader n _ =>
      rw [← Option.some.inj h]
      match n with
      | 0 => exact shows_title _ vc rfl rfl rfl fun _ _ => rfl
      | 1 =>
          intro button
          cases button with
          | cellButton => rfl
          | shareButton => rfl
          | headerButton => rfl
          | deleteButton => rfl
  | displacedHeader _ =>
      -- the provider sets the header of the hot tags
      rw [← Option.some.inj h]
      exact shows_title _ vc rfl rfl rfl nofun

/-- Step lemma for a view: configured, it still fits its kind, and it does what is expected
of it. -/
theorem configure_shows {list : ButtonList} {vc : D} {request : ListRequest} {kind : ReuseKind}
    {view view' : ListView D} (hkind : list.kind request = some kind)
    (hfits : Fits list kind view) (h : list.configure vc request view = some view') :
    Fits list kind view' ∧ Shows list vc request view' := by
  cases hfits with
  | cell hk hattached hhidden hdelegate =>
      cases request with
      | header => cases h
      | cell sectionNumber =>
          rw [← Option.some.inj h]
          exact configure_cell hkind vc (.cell hk hattached hhidden hdelegate)
      | result searchResult =>
          rw [← Option.some.inj h]
          exact configure_cell hkind vc (.cell hk hattached hhidden hdelegate)
  | header header =>
      cases request with
      | cell => cases h
      | result => cases h
      | header sectionNumber sectionIdentifier totalReviews =>
          rcases Option.map_eq_some_iff.1 h with ⟨header', hheader', rfl⟩
          exact ⟨.header header', configure_header hkind vc hheader'⟩

end Expected

end ButtonList

/-! ## Runs of a list -/

namespace ListButtons

open ButtonList

section Runs

variable [Unicode] {list : ButtonList} {vc : D} {s s' : ListButtons D}

/-- Every view fits its kind, and a shown one does what is expected of it. -/
def ViewsShow (list : ButtonList) (vc : D) (s : ListButtons D) : Prop :=
  ReusePool.Holds (Fits list) (Shows list vc) s.slots

/-- What a press does: nothing on a share button, otherwise the purpose of the button it
hits, except in the search results, where it crashes the app. -/
theorem press_spec (h : ViewsShow list vc s) {index : Nat} {button : ListButton}
    (hpress : press list s index button = some s') :
    ∃ request, s.shownFor index = some request ∧
      ((button = .shareButton ∧ list.kind request = some (.cell .shopCell) ∧ s' = s) ∨
        ∃ effect, list.purpose request button = some effect ∧
          s' = if list = .searchResults then { s with trapped := true }
            else { s with done := s.done ++ [(vc, effect)] }) := by
  rcases Option.bind_eq_some_iff.1 hpress with ⟨slot, hslot, hpress⟩
  rcases Option.bind_eq_some_iff.1 hpress with ⟨request, hrequest, hpress⟩
  rcases Option.bind_eq_some_iff.1 hpress with ⟨sent, hsent, hpress⟩
  have hshown : s.shownFor index = some request := by
    unfold shownFor
    rw [hslot]
    exact hrequest
  refine ⟨request, hshown, ?_⟩
  have hshows := (h slot (List.mem_of_getElem? hslot)).2 request hrequest button
  rw [hsent] at hshows
  by_cases hbutton : button = .shareButton
  · left
    subst hbutton
    by_cases hshop : list.kind request = some (.cell .shopCell)
    · have hnothing : sent = some [] := Option.some.inj (hshows.trans (if_pos hshop))
      subst hnothing
      refine ⟨rfl, hshop, ?_⟩
      have hdone : ({ s with done := s.done ++ [] } : ListButtons D) = s' :=
        Option.some.inj hpress
      rw [← hdone, List.append_nil]
    · have hnone := hshows.trans (if_neg hshop)
      cases hnone
  · right
    rw [expected_eq list vc request button hbutton] at hshows
    cases hdisplaced : list.displaced request with
    | true =>
        rw [hdisplaced] at hshows
        cases hshows
    | false =>
        rw [hdisplaced, if_neg Bool.false_ne_true] at hshows
        cases hpurpose : list.purpose request button with
        | none =>
            rw [hpurpose] at hshows
            cases hshows
        | some effect =>
            refine ⟨effect, rfl, ?_⟩
            rw [hpurpose, Option.map_some, Option.some.injEq] at hshows
            subst hshows
            by_cases hlist : list = .searchResults
            · rw [if_pos hlist]
              rw [if_pos hlist] at hpress
              exact (Option.some.inj hpress).symm
            · rw [if_neg hlist]
              rw [if_neg hlist] at hpress
              exact (Option.some.inj hpress).symm

/-- Inversion of a step. -/
theorem step_cases {e : Event} (hstep : (machine list vc).step s e = some s') :
    s.trapped = false ∧
      ((∃ event slots, e = .view event ∧ (list.pool vc).step s.slots event = some slots ∧
          s' = { s with slots }) ∨
        ∃ index button, e = .press index button ∧ press list s index button = some s') := by
  by_cases htrapped : s.trapped = true
  · cases e with
    | view event =>
        have hnone : (machine list vc).step s (.view event) = none := if_pos htrapped
        rw [hnone] at hstep
        cases hstep
    | press index button =>
        have hnone : (machine list vc).step s (.press index button) = none := if_pos htrapped
        rw [hnone] at hstep
        cases hstep
  · refine ⟨Bool.not_eq_true _ ▸ htrapped, ?_⟩
    cases e with
    | view event =>
        left
        have hview : ((list.pool vc).step s.slots event).map (fun slots => { s with slots }) =
            some s' := by
          rw [← hstep]
          exact (if_neg htrapped).symm
        rcases Option.map_eq_some_iff.1 hview with ⟨slots, hslots, rfl⟩
        exact ⟨event, slots, rfl, hslots, rfl⟩
    | press index button =>
        right
        have hpress : press list s index button = some s' := by
          rw [← hstep]
          exact (if_neg htrapped).symm
        exact ⟨index, button, rfl, hpress⟩

/-- Step lemma for the views. -/
theorem ViewsShow.step (e : Event) (hstep : (machine list vc).step s e = some s')
    (h : ViewsShow list vc s) : ViewsShow list vc s' := by
  rcases step_cases hstep with
    ⟨-, ⟨event, slots, rfl, hslots, rfl⟩ | ⟨index, button, rfl, hpress⟩⟩
  · exact ReusePool.Holds.step (fun kind => fresh_fits list kind)
      (fun _ _ _ _ hkind hfits hconfigure => configure_shows hkind hfits hconfigure) h hslots
  · rcases press_spec h hpress with ⟨request, -, ⟨-, -, rfl⟩ | ⟨effect, -, rfl⟩⟩
    · exact h
    · by_cases hlist : list = .searchResults
      · rw [if_pos hlist]
        exact h
      · rw [if_neg hlist]
        exact h

theorem viewsShow_empty : ViewsShow list vc (empty : ListButtons D) :=
  ReusePool.holds_nil (Fits list) (Shows list vc)

/-- The purposes of the buttons that a step presses. -/
def meant (list : ButtonList) (s : ListButtons D) : Event → List ButtonEffect
  | .view _ => []
  | .press index button => ((s.shownFor index).bind (list.purpose · button)).toList

/-- The list has been fair to `past`: it has crashed exactly when a button of the search
results was pressed. -/
def Crashed (list : ButtonList) (s : ListButtons D) (past : List Event) : Prop :=
  s.trapped = true ↔ list = .searchResults ∧ ∃ index button, Event.press index button ∈ past

/-- Step lemma for the crash. -/
theorem Crashed.step {e : Event} {past : List Event}
    (hstep : (machine list vc).step s e = some s') (hviews : ViewsShow list vc s)
    (h : Crashed list s past) : Crashed list s' (past ++ [e]) := by
  rcases step_cases hstep with
    ⟨htrapped, ⟨event, slots, rfl, hslots, rfl⟩ | ⟨index, button, rfl, hpress⟩⟩
  · refine h.trans (and_congr_right fun _ => ?_)
    simp only [List.mem_append, List.mem_singleton, reduceCtorEq, or_false]
  · have hruns : s.trapped ≠ true := by
      rw [htrapped]
      exact Bool.false_ne_true
    rcases press_spec hviews hpress with ⟨request, -, ⟨-, hshop, rfl⟩ | ⟨effect, -, rfl⟩⟩
    · -- the search results have no shop cell
      refine iff_of_false hruns ?_
      rintro ⟨rfl, -⟩
      exact kind_searchResults request hshop
    · by_cases hlist : list = .searchResults
      · rw [if_pos hlist]
        refine iff_of_true rfl ⟨hlist, index, button, ?_⟩
        exact List.mem_append_right past (List.mem_singleton_self _)
      · rw [if_neg hlist]
        exact iff_of_false hruns fun hand => hlist hand.1

/-- Step lemma for what the buttons do. -/
theorem done_step {e : Event} {log : List ButtonEffect} (hlist : list ≠ .searchResults)
    (hstep : (machine list vc).step s e = some s') (hviews : ViewsShow list vc s)
    (h : s.done = log.map fun effect => (vc, effect)) :
    s'.done = (log ++ meant list s e).map fun effect => (vc, effect) := by
  rcases step_cases hstep with
    ⟨-, ⟨event, slots, rfl, hslots, rfl⟩ | ⟨index, button, rfl, hpress⟩⟩
  · rw [meant, List.append_nil]
    exact h
  · rcases press_spec hviews hpress with
      ⟨request, hrequest, ⟨rfl, -, rfl⟩ | ⟨effect, hpurpose, rfl⟩⟩
    · rw [meant, hrequest, Option.bind_some, purpose_shareButton, Option.toList_none,
        List.append_nil]
      exact h
    · rw [if_neg hlist, meant, hrequest, Option.bind_some, hpurpose, List.map_append, ← h]
      rfl

/-- However a list recycles its views, its shown views have exactly the buttons that are for
something there, but for the share button of a shop cell, which is for nothing, and the
header of the search history, which lacks its bin as long as it is the first section. Each
press serves the purpose of its button, once and on the list's own screen; on a share
button it does nothing. Only the search results crash, on the first press. -/
theorem presses_serve_their_purpose {es : List Event}
    (hrun : (machine list vc).run empty es = some s) :
    (∀ slot ∈ s.slots, ∀ request, slot.shownFor = some request → ∀ button,
        ((slot.view.touched button).isSome = true ↔
          ((list.purpose request button).isSome = true ∧ list.displaced request = false) ∨
            (button = .shareButton ∧ list.kind request = some (.cell .shopCell)))) ∧
      (s.trapped = true ↔
        list = .searchResults ∧ ∃ index button, Event.press index button ∈ es) ∧
      (list ≠ .searchResults → s.done =
        ((machine list vc).trace (meant list) empty es).map fun effect => (vc, effect)) := by
  have hviews : ViewsShow list vc s := EventMachine.run_invariant
    (fun _ e _ hstep h => h.step e hstep) hrun viewsShow_empty
  refine ⟨?_, ?_, ?_⟩
  · intro slot hslot request hrequest button
    have hshows := congrArg Option.isSome ((hviews slot hslot).2 request hrequest button)
    rw [pressed, Option.isSome_map] at hshows
    rw [hshows]
    exact isSome_expected_iff list vc request button
  · have hempty : Crashed list (empty : ListButtons D) [] := by
      refine iff_of_false Bool.false_ne_true ?_
      rintro ⟨-, index, button, hmem⟩
      cases hmem
    have hcrashed := @EventMachine.history_invariant _ _ (machine list vc)
      (fun s past => ViewsShow list vc s ∧ Crashed list s past)
      (fun _ e _ _ hstep h => ⟨h.1.step e hstep, h.2.step hstep h.1⟩)
      _ _ _ [] hrun ⟨viewsShow_empty, hempty⟩
    exact hcrashed.2
  · intro hlist
    have halong : (machine list vc).Along (fun _ _ _ => True) empty es :=
      EventMachine.along_of_forall fun _ _ => trivial
    have hdone := @EventMachine.trace_invariant _ _ _ (machine list vc) (meant list)
      (fun _ _ _ => True)
      (fun s log => ViewsShow list vc s ∧ s.done = log.map fun effect => (vc, effect))
      (fun _ e _ _ hstep _ h => ⟨h.1.step e hstep, done_step hlist hstep h.1 h.2⟩)
      _ _ _ [] hrun halong ⟨viewsShow_empty, rfl⟩
    exact hdone.2

end Runs

/-- An event that a search has found. -/
def foundEvent : SearchResult where
  id := 0
  shopID := "s1"
  imageURL := "bread.png"
  title := "面包节"
  description := "买一送一"
  distance := none
  score := none
  location := none
  price := some (.finite 1)
  originalPrice := some (.finite 2)
  eventStartDate := some ⟨0, 0⟩
  eventEndDate := some ⟨1, 0⟩
  kind := "event"

/-- It is shown, and its button is pressed. -/
def buyFound : List Event :=
  [.view (.provide (.result foundEvent) none), .press 0 .cellButton]

section CodePoints

attribute [local instance] Unicode.codePoints

theorem found_event_crashes :
    ∃ s, (machine .searchResults ()).run empty buyFound = some s ∧ s.trapped = true := by
  have hrun : ∃ s, (machine .searchResults ()).run empty buyFound = some s := ⟨_, rfl⟩
  rcases hrun with ⟨s, hrun⟩
  refine ⟨s, hrun, (presses_serve_their_purpose hrun).2.1.2 ⟨rfl, 0, .cellButton, ?_⟩⟩
  exact List.mem_cons_of_mem _ List.mem_cons_self

end CodePoints

end ListButtons

end FancyLife
