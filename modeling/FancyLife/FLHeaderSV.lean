import FancyLife.Lib.EventMachine

/-! # FLHeaderSV

The section header that ShopInfoVC and SearchVC share. A header is recycled: it
keeps its subviews, texts, delegate and button targets from one section to the
next, and only `set` and `removeView` clean it up. Layout and colours are left out.
-/

namespace FancyLife

/-- The requests of `FLHeaderSVDelegate`. -/
inductive FLHeaderSVRequest where
  | requestToPushProductVC
  | requestToPushEventVC
  | requestToClearSearchHistory
deriving DecidableEq

/-- The `@objc` methods of the header that its buttons call. -/
inductive FLHeaderSVAction where
  | pushProductVC
  | pushEventVC
  | clearSearchHistory
deriving DecidableEq

/-- The request that an action sends to the delegate. -/
def FLHeaderSVAction.request : FLHeaderSVAction → FLHeaderSVRequest
  | .pushProductVC => .requestToPushProductVC
  | .pushEventVC => .requestToPushEventVC
  | .clearSearchHistory => .requestToClearSearchHistory

/-- A `FLTitleLabel` of the header. -/
structure HeaderLabel where
  attached : Bool
  text : Option String
deriving DecidableEq

/-- A `FLButton` of the header, with its touch targets. The target is always the
header itself. -/
structure HeaderButton where
  attached : Bool
  targets : List FLHeaderSVAction
deriving DecidableEq

/-- What the user sees of a label: its text, when it is attached. -/
def HeaderLabel.shown (label : HeaderLabel) : Option (Option String) :=
  if label.attached then some label.text else none

namespace HeaderButton

/-- `addTarget(self, action: action, for: .touchUpInside)`. A pair that is
already there is not added again. -/
def addTarget (button : HeaderButton) (action : FLHeaderSVAction) : HeaderButton :=
  if action ∈ button.targets then button
  else { button with targets := button.targets ++ [action] }

/-- `removeTarget(self, action: nil, for: .allTouchEvents)`. -/
def removeTargets (button : HeaderButton) : HeaderButton := { button with targets := [] }

end HeaderButton

/-- A header; `D` are the objects that can be its delegate. -/
structure FLHeaderSV (D : Type) where
  delegate : Option D
  titleLabel : HeaderLabel
  countLabel : HeaderLabel
  button : HeaderButton
  deleteButton : HeaderButton
deriving DecidableEq

namespace FLHeaderSV

variable {D : Type}

/-- `init(frame:)`. -/
def fresh : FLHeaderSV D where
  delegate := none
  titleLabel := ⟨false, none⟩
  countLabel := ⟨false, none⟩
  button := ⟨false, []⟩
  deleteButton := ⟨false, []⟩

/-- `removeView()`. -/
def removeView (header : FLHeaderSV D) : FLHeaderSV D :=
  { header with
    titleLabel := { header.titleLabel with attached := false }
    countLabel := { header.countLabel with attached := false }
    button := { header.button with attached := false }
    deleteButton := { header.deleteButton with attached := false } }

/-- `configure()`. -/
def configure (header : FLHeaderSV D) : FLHeaderSV D :=
  { header with titleLabel := { header.titleLabel with attached := true } }

/-- `configureButton()`. -/
def configureButton (header : FLHeaderSV D) : FLHeaderSV D :=
  { header with button := { header.button with attached := true } }

/-- `configureDeleteButton()`. -/
def configureDeleteButton (header : FLHeaderSV D) : FLHeaderSV D :=
  { header with deleteButton := { header.deleteButton with attached := true } }

/-- `configureCountLabel()`. -/
def configureCountLabel (header : FLHeaderSV D) : FLHeaderSV D :=
  { header with countLabel := { header.countLabel with attached := true } }

/-- The text of the count label. -/
def countText (commentCount : Int) : String := s!"({commentCount})条"

/-- `set(title:hasButton:hasDeleteButton:commentCount:)`. -/
def set (header : FLHeaderSV D) (title : String) (hasButton hasDeleteButton : Bool)
    (commentCount : Option Int) : FLHeaderSV D :=
  let header := header.configure
  let header := { header with
    titleLabel := { header.titleLabel with text := some title }
    countLabel := { header.countLabel with attached := false }
    button := { header.button with attached := false }
    deleteButton := { header.deleteButton with attached := false } }
  let header :=
    if hasButton then { header with button := header.button.removeTargets }.configureButton
    else header
  let header :=
    if hasDeleteButton then
      { header with deleteButton := header.deleteButton.removeTargets }.configureDeleteButton
    else header
  match commentCount with
  | some commentCount =>
      let header := header.configureCountLabel
      { header with countLabel := { header.countLabel with text := some (countText commentCount) } }
  | none => header

/-- `addTargetToPushProductVC()`. -/
def addTargetToPushProductVC (header : FLHeaderSV D) : FLHeaderSV D :=
  { header with button := header.button.addTarget .pushProductVC }

/-- `addTargetToPushEventVC()`. -/
def addTargetToPushEventVC (header : FLHeaderSV D) : FLHeaderSV D :=
  { header with button := header.button.addTarget .pushEventVC }

/-- `addTargetToClearSearchHistory()`. -/
def addTargetToClearSearchHistory (header : FLHeaderSV D) : FLHeaderSV D :=
  { header with deleteButton := header.deleteButton.addTarget .clearSearchHistory }

/-- A tap on a button sends the requests of its targets to the delegate, in
order; `none` is the trap of a request without a delegate. -/
def tap (header : FLHeaderSV D) (button : HeaderButton) :
    Option (List (D × FLHeaderSVRequest)) :=
  button.targets.mapM fun action => header.delegate.map fun d => (d, action.request)

/-- What a tap sends, when the button is attached at all. -/
def touched (header : FLHeaderSV D) (button : HeaderButton) :
    Option (Option (List (D × FLHeaderSVRequest))) :=
  if button.attached then some (header.tap button) else none

end FLHeaderSV

/-! ## The providers -/

namespace ShopInfoVC

/-- `sectionTitles`. -/
def sectionTitles : List String := ["", "商家活动", "推荐产品", "评论", "相似商家推荐"]

/-- What the `supplementaryViewProvider` does to the header it dequeues; `none`
is the trap of `sectionTitles[section]`. -/
def configureHeader {D : Type} (vc : D) (totalReviews : Int) (supplementaryView : FLHeaderSV D)
    (sectionIndex : Nat) : Option (FLHeaderSV D) := do
  let sectionTitle ← sectionTitles[sectionIndex]?
  match sectionIndex with
  | 0 => return supplementaryView.removeView
  | 1 =>
      let supplementaryView :=
        (supplementaryView.set sectionTitle true false none).addTargetToPushEventVC
      return { supplementaryView with delegate := some vc }
  | 2 =>
      let supplementaryView :=
        (supplementaryView.set sectionTitle true false none).addTargetToPushProductVC
      return { supplementaryView with delegate := some vc }
  | 3 => return supplementaryView.set sectionTitle false false (some totalReviews)
  | 4 => return supplementaryView.set sectionTitle false false none
  | _ => return supplementaryView

end ShopInfoVC

namespace SearchVC

/-- What the `supplementaryViewProvider` does to the header it dequeues. -/
def configureHeader {D : Type} (vc : D) (header : FLHeaderSV D) (sectionIndex : Nat) :
    FLHeaderSV D :=
  match sectionIndex with
  | 0 => header.set "热门搜索" false false none
  | 1 =>
      let header := header.set "搜索记录" false true none
      { header with delegate := some vc }.addTargetToClearSearchHistory
  | _ => header

end SearchVC

namespace FLHeaderSV

variable {D : Type}

/-- One reuse of a header: the provider of a screen `vc` configures it for one
of its sections. -/
inductive Configuration (D : Type) where
  | shopInfo (vc : D) (totalReviews : Int) (sectionIndex : Fin 5)
  | search (vc : D) (sectionIndex : Fin 2)

/-- Configure a header; `none` is a trap. -/
def Configuration.apply (header : FLHeaderSV D) : Configuration D → Option (FLHeaderSV D)
  | .shopInfo vc totalReviews sectionIndex =>
      ShopInfoVC.configureHeader vc totalReviews header sectionIndex
  | .search vc sectionIndex => some (SearchVC.configureHeader vc header sectionIndex)

/-- The life of a header: it is made and then configured again and again. -/
def machine : EventMachine (FLHeaderSV D) (Configuration D) where
  init header := header = fresh
  step header config := config.apply header

/-! ## What a header shows -/

/-- What the user sees of a header: the text of each attached label, and what a
tap on each attached button sends. -/
structure Appearance (D : Type) where
  title : Option (Option String)
  count : Option (Option String)
  button : Option (Option (List (D × FLHeaderSVRequest)))
  deleteButton : Option (Option (List (D × FLHeaderSVRequest)))
deriving DecidableEq

/-- The appearance of a header. -/
def appearance (header : FLHeaderSV D) : Appearance D where
  title := header.titleLabel.shown
  count := header.countLabel.shown
  button := header.touched header.button
  deleteButton := header.touched header.deleteButton

/-- What one configuration is for: its section's title and count, and one
request, to its own screen, for each button it has. -/
def Configuration.appearance : Configuration D → Appearance D
  | .shopInfo _ _ 0 => ⟨none, none, none, none⟩
  | .shopInfo vc _ 1 =>
      ⟨some (some "商家活动"), none, some (some [(vc, .requestToPushEventVC)]), none⟩
  | .shopInfo vc _ 2 =>
      ⟨some (some "推荐产品"), none, some (some [(vc, .requestToPushProductVC)]), none⟩
  | .shopInfo _ totalReviews 3 =>
      ⟨some (some "评论"), some (some (countText totalReviews)), none, none⟩
  | .shopInfo _ _ 4 => ⟨some (some "相似商家推荐"), none, none, none⟩
  | .search _ 0 => ⟨some (some "热门搜索"), none, none, none⟩
  | .search vc 1 =>
      ⟨some (some "搜索记录"), none, none, some (some [(vc, .requestToClearSearchHistory)])⟩

/-- `set` without buttons: only the title, and the count when there is one, are left. -/
theorem appearance_set (header : FLHeaderSV D) (title : String) (commentCount : Option Int) :
    (header.set title false false commentCount).appearance =
      ⟨some (some title), commentCount.map fun n => some (countText n), none, none⟩ := by
  cases commentCount <;> rfl

/-- `set` with the more-button clears its old targets, so that the one added
next is the only one. -/
theorem appearance_set_button (header : FLHeaderSV D) (title : String) (vc : D)
    (action : FLHeaderSVAction) :
    (let configured := header.set title true false none
     { configured with
        button := configured.button.addTarget action
        delegate := some vc }).appearance =
      ⟨some (some title), none, some (some [(vc, action.request)]), none⟩ := by
  rfl

/-- `set` with the delete-button clears its old targets in the same way. -/
theorem appearance_set_deleteButton (header : FLHeaderSV D) (title : String) (vc : D)
    (action : FLHeaderSVAction) :
    (let configured := header.set title false true none
     { configured with
        deleteButton := configured.deleteButton.addTarget action
        delegate := some vc }).appearance =
      ⟨some (some title), none, none, some (some [(vc, action.request)])⟩ := by
  rfl

/-- Step lemma: whatever a header has been through, a configuration does not
trap and leaves the appearance of its own. -/
theorem appearance_apply (header : FLHeaderSV D) (config : Configuration D) :
    ∃ header', config.apply header = some header' ∧
      header'.appearance = config.appearance := by
  cases config with
  | shopInfo vc totalReviews sectionIndex =>
      match sectionIndex with
      | 0 => exact ⟨_, rfl, rfl⟩
      | 1 => exact ⟨_, rfl, appearance_set_button header _ vc .pushEventVC⟩
      | 2 => exact ⟨_, rfl, appearance_set_button header _ vc .pushProductVC⟩
      | 3 => exact ⟨_, rfl, appearance_set header _ (some totalReviews)⟩
      | 4 => exact ⟨_, rfl, appearance_set header _ none⟩
  | search vc sectionIndex =>
      match sectionIndex with
      | 0 => exact ⟨_, rfl, appearance_set header _ none⟩
      | 1 => exact ⟨_, rfl, appearance_set_deleteButton header _ vc .clearSearchHistory⟩

/-- No sequence of configurations traps. -/
theorem run_isSome (header : FLHeaderSV D) (configs : List (Configuration D)) :
    ∃ header', machine.run header configs = some header' := by
  induction configs generalizing header with
  | nil => exact ⟨header, rfl⟩
  | cons config configs ih =>
      rcases appearance_apply header config with ⟨header', hstep, -⟩
      rcases ih header' with ⟨header'', hrun⟩
      exact ⟨header'', machine.run_cons_eq_some.2 ⟨header', hstep, hrun⟩⟩

/-- A recycled header looks and acts by its last configuration alone, whatever
configurations came before. -/
theorem appearance_run (configs : List (Configuration D)) (config : Configuration D) :
    ∃ header, machine.run fresh (configs ++ [config]) = some header ∧
      header.appearance = config.appearance := by
  rcases run_isSome fresh configs with ⟨header, hrun⟩
  rcases appearance_apply header config with ⟨header', hstep, happearance⟩
  refine ⟨header', ?_, happearance⟩
  rw [EventMachine.run_append, hrun, Option.bind_some, EventMachine.run_cons]
  show (config.apply header).bind _ = _
  rw [hstep]
  rfl

end FLHeaderSV

end FancyLife
