import FancyLife.Lib.Swift
import Mathlib.Data.List.Basic
import Mathlib.Tactic.Common

/-! # ShopHeaderSV and its filter bar

Every header of the shop list owns a filter bar and shows either the bar or a
picture. The bar is a collection view of its own: what it highlights is the
selection of that view, which taps move at once and the code moves by blocks on
the main queue.
-/

namespace FancyLife

open Swift (Unicode)

/-- A `ShopFilterView`: the options that its data source has applied, and the
item that is highlighted. -/
structure ShopFilterView where
  options : List String
  selected : Option Nat
deriving DecidableEq

namespace ShopFilterView

/-- `optionList`. -/
def optionList : List String := ["推荐", "餐饮", "生鲜", "娱乐", "旅行", "榜单"]

/-- What the methods of the bar defer to the main queue. -/
inductive Block where
  | apply (options : List String)
  | selectItem (item : Nat)
deriving DecidableEq

/-- Run a deferred block. -/
def run (bar : ShopFilterView) : Block → ShopFilterView
  | .apply options => { bar with options }
  | .selectItem item => { bar with selected := some item }

/-- A bar whose blocks have not run yet. -/
def fresh : ShopFilterView := ⟨[], none⟩

/-- The blocks of `init(frame:)`: `updateData(on: optionList)`, then the first
option is selected. -/
def initBlocks : List Block := [.apply optionList, .selectItem 0]

/-- The switch of `changeOption(category:)`. Its cases are compared by `==`, and their
characters are their own decomposition. -/
def itemOf [Unicode] (category : String) : Option Nat :=
  match Unicode.nfd category with
  | "餐饮" => some 1
  | "生鲜" => some 2
  | "娱乐" => some 3
  | "旅行" => some 4
  | _ => none

/-- The blocks of `changeOption(category:)`. -/
def changeOption [Unicode] (category : String) : List Block :=
  match itemOf category with
  | some item => [.selectItem item]
  | none => []

/-- The option that is highlighted. -/
def highlighted (bar : ShopFilterView) : Option String := bar.selected.bind (bar.options[·]?)

/-- A tap on an item: the bar highlights it and calls `sendCategory` with its
option; `none` if there is no such item. -/
def tap (bar : ShopFilterView) (item : Nat) : Option (ShopFilterView × String) :=
  match bar.options[item]?, optionList[item]? with
  | some _, some category => some ({ bar with selected := some item }, category)
  | _, _ => none

/-- The options are plain: each is its own decomposition. -/
theorem nfd_option [Unicode] {category : String} (h : category ∈ optionList) :
    Unicode.nfd category = category := by
  have hplain : ∀ option ∈ optionList, ∀ c ∈ option.toList, Swift.Plain c := by
    simp [optionList, Swift.Plain]
  exact Unicode.nfd_plain category (hplain category h)

/-- The category that a tap sends is one of the options. -/
theorem tap_mem {bar bar' : ShopFilterView} {item : Nat} {category : String}
    (h : bar.tap item = some (bar', category)) :
    category ∈ optionList ∧ optionList[item]? = some category ∧
      bar' = { bar with selected := some item } := by
  unfold tap at h
  split at h
  · rename_i o c ho hc
    rw [Option.some.injEq, Prod.mk.injEq] at h
    rcases h with ⟨rfl, rfl⟩
    exact ⟨List.mem_of_getElem? hc, hc, rfl⟩
  · cases h

/-- A new bar, once its blocks have run, offers all options and highlights the first. -/
theorem foldl_initBlocks (bar : ShopFilterView) :
    initBlocks.foldl run bar = ⟨optionList, some 0⟩ := rfl

/-- `changeOption` does not touch the options. -/
theorem foldl_changeOption [Unicode] (bar : ShopFilterView) (category : String) :
    (changeOption category).foldl run bar =
      { bar with selected := (itemOf category).orElse fun _ => bar.selected } := by
  unfold changeOption
  cases itemOf category <;> rfl

end ShopFilterView

/-- A header of the shop list: its bar, and whether it shows the bar or the picture. -/
structure ShopHeaderSV where
  filterBar : ShopFilterView
  showsFilterBar : Bool
deriving DecidableEq

namespace ShopHeaderSV

/-- `init(frame:)`. -/
def fresh : ShopHeaderSV := ⟨.fresh, false⟩

/-- `setImage()`, without the request for the picture. -/
def setImage (header : ShopHeaderSV) : ShopHeaderSV := { header with showsFilterBar := false }

/-- `setFilterBar()`. -/
def setFilterBar (header : ShopHeaderSV) : ShopHeaderSV := { header with showsFilterBar := true }

end ShopHeaderSV

end FancyLife
