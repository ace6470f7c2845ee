import FancyLife.FLHeaderSV
import FancyLife.Models
import FancyLife.Lib.EventMachine
import FancyLife.Lib.Snapshot

/-! # ReviewCell

The cell of the review section. Without a review it takes its views away and shows
a placeholder, and without pictures it takes the picture view away. Nothing puts a
view back, and nothing takes the placeholder or the heart of an earlier review away:
a recycled cell shows what its whole life has left of it.

- `isSome_set_iff`: an item stops the program by what it is, whatever the cell has been
  through: a review without a number of likes that an `Int` holds, without its list of
  pictures, or with one picture twice, for which the snapshot raises.
- `Lived.step`: what a configuration, or a press on the heart, leaves of a cell.
- `recycled_appearance_iff`: when a recycled cell shows what a new one would.

What a cell shows are its texts and the URLs of its picture cells. The pictures
themselves are left out, that of the avatar too: the image views are recycled with their
cells, and the download of an earlier item may still arrive in them (`ImageViews`). So
are layout and colours.
-/

namespace FancyLife

open Swift (Double Unicode)

/-- A cell: the placeholder, whether the views of a review and the picture view are
attached, and what they were last set to; `avatarURL` is the download that was asked for
last. -/
structure ReviewCell where
  label : HeaderLabel
  review : Bool
  collectionView : Bool
  avatarURL : Option String
  username : Option String
  content : Option String
  count : Option String
  imageURLs : List String
  dataSource : Option (Snapshot Unit String)
  isOn : Bool
deriving DecidableEq

namespace ReviewCell

/-- `init(frame:)`. -/
def fresh : ReviewCell where
  label := ⟨false, none⟩
  review := true
  collectionView := true
  avatarURL := none
  username := none
  content := none
  count := none
  imageURLs := []
  dataSource := none
  isOn := false

/-- The text of the placeholder. -/
def placeholder : String := "此功能尚未开放，敬请期待！"

section Configure

variable [Unicode]

/-- `updateData(images:)`; `none`: the snapshot raises when one picture comes twice. -/
def updateData (cell : ReviewCell) (images : List String) : Option ReviewCell :=
  if (images.map Unicode.nfd).Nodup then
    some { cell with dataSource := some (Snapshot.empty.append () images) }
  else none

/-- `set(shopInfo:)`; `none` is a trap. -/
def set (cell : ReviewCell) (shopInfo : ShopInfo) : Option ReviewCell :=
  match shopInfo.reviewAvatarImageURL with
  | none =>
      some { cell with
        review := false, collectionView := false, label := ⟨true, some placeholder⟩ }
  | some avatarURL => do
      let likeAmount ← shopInfo.reviewLikeAmount
      let count ← likeAmount.toInt
      let reviewImageURLs ← shopInfo.reviewImageURLs
      let cell := { cell with
        avatarURL := some avatarURL, username := shopInfo.reviewUsername
        content := shopInfo.reviewContent, count := some (toString count) }
      if reviewImageURLs.length = 0 then return { cell with collectionView := false }
      else
        let cell := { cell with imageURLs := reviewImageURLs }
        cell.updateData cell.imageURLs

/-- The cell is configured, or its heart is pressed. -/
inductive Event where
  | set (shopInfo : ShopInfo)
  | likeButtonPressed

/-- The life of a cell. The heart can be pressed when it is attached. -/
def machine : EventMachine ReviewCell Event where
  init cell := cell = fresh
  step cell
    | .set shopInfo => cell.set shopInfo
    | .likeButtonPressed => if cell.review then some { cell with isOn := !cell.isOn } else none

end Configure

/-! ## What a cell shows -/

/-- What the user sees: the texts of the attached views, and which picture cells there are. -/
structure Appearance where
  label : Option (Option String)
  review : Option (Option String × Option String × Option String)
  images : Option (Option (Snapshot Unit String))
deriving DecidableEq

def appearance (cell : ReviewCell) : Appearance where
  label := cell.label.shown
  review := if cell.review then some (cell.username, cell.content, cell.count) else none
  images := if cell.collectionView then some cell.dataSource else none

/-- The item has a review. -/
def hasReview (shopInfo : ShopInfo) : Bool := shopInfo.reviewAvatarImageURL.isSome

/-- The item has a review with pictures. -/
def hasImages (shopInfo : ShopInfo) : Bool :=
  hasReview shopInfo && !(shopInfo.reviewImageURLs.getD []).isEmpty

/-- The items that a cell was configured for, in order. -/
def configurations (es : List Event) : List ShopInfo :=
  es.filterMap fun
    | .set shopInfo => some shopInfo
    | .likeButtonPressed => none

/-- How often the heart was pressed. -/
def presses (es : List Event) : Nat :=
  es.countP fun
    | .set _ => false
    | .likeButtonPressed => true

/-- The text of the count. -/
def countText (shopInfo : ShopInfo) : Option String :=
  (shopInfo.reviewLikeAmount.bind Double.toInt).map toString

/-- The item does not stop the program: with a review there are likes that an `Int`
holds, and pictures that differ. -/
def Takes [Unicode] (shopInfo : ShopInfo) : Prop :=
  hasReview shopInfo = true → (countText shopInfo).isSome ∧
    ∃ images, shopInfo.reviewImageURLs = some images ∧ (images.map Unicode.nfd).Nodup

/-- What one configuration does to the views. -/
inductive Configured (cell : ReviewCell) (shopInfo : ShopInfo) : ReviewCell → Prop where
  | placeholder (hreview : hasReview shopInfo = false) :
      Configured cell shopInfo { cell with
        review := false, collectionView := false, label := ⟨true, some ReviewCell.placeholder⟩ }
  | text (hreview : hasReview shopInfo = true) (himages : hasImages shopInfo = false) :
      Configured cell shopInfo { cell with
        avatarURL := shopInfo.reviewAvatarImageURL, username := shopInfo.reviewUsername
        content := shopInfo.reviewContent, count := countText shopInfo, collectionView := false }
  | pictures (hreview : hasReview shopInfo = true) (himages : hasImages shopInfo = true) :
      Configured cell shopInfo { cell with
        avatarURL := shopInfo.reviewAvatarImageURL, username := shopInfo.reviewUsername
        content := shopInfo.reviewContent, count := countText shopInfo
        imageURLs := shopInfo.reviewImageURLs.getD []
        dataSource := some (Snapshot.empty.append () (shopInfo.reviewImageURLs.getD [])) }

section Takes

variable [Unicode]

/-- A cell configured for an item with a review. -/
theorem set_review (cell : ReviewCell) {shopInfo : ShopInfo} {avatarURL : String}
    {likeAmount : Double} {count : Int} {images : List String}
    (havatar : shopInfo.reviewAvatarImageURL = some avatarURL)
    (hlike : shopInfo.reviewLikeAmount = some likeAmount) (hcount : likeAmount.toInt = some count)
    (himages : shopInfo.reviewImageURLs = some images) :
    (¬ (images.map Unicode.nfd).Nodup ∧ cell.set shopInfo = none) ∨
      ((images.map Unicode.nfd).Nodup ∧
        ∃ cell', cell.set shopInfo = some cell' ∧ Configured cell shopInfo cell') := by
  have hreview : hasReview shopInfo = true := by
    unfold hasReview
    rw [havatar]
    rfl
  have htext : countText shopInfo = some (toString count) := by
    unfold countText
    rw [hlike, Option.bind_some, hcount]
    rfl
  simp only [set, havatar, hlike, hcount, himages, Option.bind_eq_bind, Option.bind_some]
  cases images with
  | nil =>
      have hnone : hasImages shopInfo = false := by
        unfold hasImages
        rw [hreview, himages]
        rfl
      have hcell := @Configured.text cell shopInfo hreview hnone
      rw [havatar, htext] at hcell
      exact Or.inr ⟨List.nodup_nil, _, rfl, hcell⟩
  | cons image rest =>
      have hsome : hasImages shopInfo = true := by
        unfold hasImages
        rw [hreview, himages]
        rfl
      have hcell := @Configured.pictures cell shopInfo hreview hsome
      rw [havatar, htext, himages] at hcell
      rw [List.length_cons, if_neg (Nat.succ_ne_zero _)]
      unfold updateData
      by_cases hdistinct : ((image :: rest).map Unicode.nfd).Nodup
      · rw [if_pos hdistinct]
        exact Or.inr ⟨hdistinct, _, rfl, hcell⟩
      · rw [if_neg hdistinct]
        exact Or.inl ⟨hdistinct, rfl⟩

theorem set_cases {cell cell' : ReviewCell} {shopInfo : ShopInfo}
    (h : cell.set shopInfo = some cell') : Configured cell shopInfo cell' := by
  cases havatar : shopInfo.reviewAvatarImageURL with
  | none =>
      have hreview : hasReview shopInfo = false := by
        unfold hasReview
        rw [havatar]
        rfl
      simp only [set, havatar, Option.some.injEq] at h
      rw [← h]
      exact .placeholder hreview
  | some avatarURL =>
      have hset := h
      simp only [set, havatar, Option.bind_eq_bind, Option.bind_eq_some_iff] at h
      rcases h with ⟨likeAmount, hlike, count, hcount, images, himages, -⟩
      rcases cell.set_review havatar hlike hcount himages with
        ⟨-, hnone⟩ | ⟨-, configured, hsome, hconfigured⟩
      · rw [hnone] at hset
        cases hset
      · rw [hsome] at hset
        exact Option.some.inj hset ▸ hconfigured

/-- Whether an item stops the program does not depend on the cell. -/
theorem isSome_set_iff (cell : ReviewCell) (shopInfo : ShopInfo) :
    (cell.set shopInfo).isSome ↔ Takes shopInfo := by
  unfold Takes hasReview countText
  cases havatar : shopInfo.reviewAvatarImageURL with
  | none =>
      simp only [set, havatar]
      exact iff_of_true rfl nofun
  | some avatarURL =>
      simp only [Option.isSome_some, forall_const]
      cases hlike : shopInfo.reviewLikeAmount with
      | none => simp [set, havatar, hlike]
      | some likeAmount =>
          cases hcount : likeAmount.toInt with
          | none => simp [set, havatar, hlike, hcount]
          | some count =>
              cases himages : shopInfo.reviewImageURLs with
              | none => simp [set, havatar, hlike, hcount, himages]
              | some images =>
                  rcases cell.set_review havatar hlike hcount himages with
                    ⟨hnot, hnone⟩ | ⟨hdistinct, cell', hsome, -⟩
                  · rw [hnone]
                    refine iff_of_false nofun ?_
                    rintro ⟨-, images', heq, hdistinct⟩
                    exact hnot (Option.some.inj heq ▸ hdistinct)
                  · rw [hsome]
                    refine iff_of_true rfl ⟨?_, images, rfl, hdistinct⟩
                    rw [Option.bind_some, hcount]
                    rfl

end Takes

/-! ## The life of a cell -/

/-- What the past has left of a cell. -/
structure Lived (cell : ReviewCell) (past : List Event) : Prop where
  label : cell.label =
    if (configurations past).all hasReview then ⟨false, none⟩ else ⟨true, some placeholder⟩
  review : cell.review = (configurations past).all hasReview
  collectionView : cell.collectionView = (configurations past).all hasImages
  isOn : cell.isOn = (presses past % 2 == 1)

theorem configurations_append (past : List Event) (e : Event) :
    configurations (past ++ [e]) = configurations past ++ configurations [e] :=
  List.filterMap_append

theorem presses_append (past : List Event) (e : Event) :
    presses (past ++ [e]) = presses past + presses [e] := List.countP_append

/-- Step lemma for a configuration. -/
theorem Lived.configured {cell cell' : ReviewCell} {shopInfo : ShopInfo} {past : List Event}
    (hcell : Configured cell shopInfo cell') (h : Lived cell past) :
    Lived cell' (past ++ [.set shopInfo]) := by
  have hconfigurations : configurations (past ++ [.set shopInfo]) =
      configurations past ++ [shopInfo] := configurations_append past _
  have hpresses : presses (past ++ [.set shopInfo]) = presses past := presses_append past _
  have hall : ∀ p : ShopInfo → Bool, (configurations (past ++ [.set shopInfo])).all p =
      ((configurations past).all p && p shopInfo) := by
    intro p
    rw [hconfigurations, List.all_append, List.all_cons, List.all_nil, Bool.and_true]
  constructor
  · rw [hall]
    cases hcell with
    | placeholder hreview =>
        rw [hreview, Bool.and_false]
        rfl
    | text hreview himages =>
        rw [hreview, Bool.and_true]
        exact h.label
    | pictures hreview himages =>
        rw [hreview, Bool.and_true]
        exact h.label
  · rw [hall]
    cases hcell with
    | placeholder hreview => rw [hreview, Bool.and_false]
    | text hreview himages =>
        rw [hreview, Bool.and_true]
        exact h.review
    | pictures hreview himages =>
        rw [hreview, Bool.and_true]
        exact h.review
  · rw [hall]
    cases hcell with
    | placeholder hreview =>
        have himages : hasImages shopInfo = false := by
          unfold hasImages
          rw [hreview]
          rfl
        rw [himages, Bool.and_false]
    | text hreview himages => rw [himages, Bool.and_false]
    | pictures hreview himages =>
        rw [himages, Bool.and_true]
        exact h.collectionView
  · rw [hpresses]
    cases hcell with
    | placeholder hreview => exact h.isOn
    | text hreview himages => exact h.isOn
    | pictures hreview himages => exact h.isOn

/-- Step lemma. -/
theorem Lived.step [Unicode] (cell : ReviewCell) (e : Event) (cell' : ReviewCell) (past : List Event)
    (hstep : machine.step cell e = some cell') (h : Lived cell past) :
    Lived cell' (past ++ [e]) := by
  cases e with
  | set shopInfo => exact h.configured (set_cases hstep)
  | likeButtonPressed =>
      have hconfigurations : configurations (past ++ [.likeButtonPressed]) =
          configurations past := by
        rw [configurations_append]
        exact List.append_nil _
      have hpresses : presses (past ++ [.likeButtonPressed]) = presses past + 1 :=
        presses_append past _
      by_cases hreview : cell.review = true
      · have hpress : some { cell with isOn := !cell.isOn } = some cell' := by
          rw [← hstep]
          exact (if_pos hreview).symm
        rw [← Option.some.inj hpress]
        refine ⟨?_, ?_, ?_, ?_⟩
        · rw [hconfigurations]
          exact h.label
        · rw [hconfigurations]
          exact h.review
        · rw [hconfigurations]
          exact h.collectionView
        · rw [hpresses, h.isOn]
          rcases Nat.mod_two_eq_zero_or_one (presses past) with hparity | hparity
          · rw [hparity, show (presses past + 1) % 2 = 1 by omega]
            rfl
          · rw [hparity, show (presses past + 1) % 2 = 0 by omega]
            rfl
      · have hnone : machine.step cell .likeButtonPressed = none := if_neg hreview
        rw [hnone] at hstep
        cases hstep

theorem Lived.fresh : Lived fresh [] := ⟨rfl, rfl, rfl, rfl⟩

/-- The earlier item `shopInfo` left the views alone that `last` needs. -/
def Spares (last shopInfo : ShopInfo) : Prop :=
  hasReview last = true → hasReview shopInfo = true ∧
    (hasImages last = true → hasImages shopInfo = true)

theorem spares_iff {last : ShopInfo} (hlast : hasReview last = true) (earlier : List ShopInfo) :
    (∀ shopInfo ∈ earlier, Spares last shopInfo) ↔
      earlier.all hasReview = true ∧ (hasImages last = true → earlier.all hasImages = true) := by
  rw [List.all_eq_true, List.all_eq_true]
  constructor
  · intro hspares
    refine ⟨fun shopInfo hmem => (hspares shopInfo hmem hlast).1, ?_⟩
    intro himages shopInfo hmem
    exact (hspares shopInfo hmem hlast).2 himages
  · rintro ⟨hreview, himages⟩ shopInfo hmem _
    exact ⟨hreview shopInfo hmem, fun hlast' => himages hlast' shopInfo hmem⟩

/-- The placeholder is not there as long as every item had a review. -/
theorem Lived.label_shown_iff {cell : ReviewCell} {past : List Event} (h : Lived cell past) :
    cell.label.shown = none ↔ (configurations past).all hasReview = true := by
  rw [h.label]
  by_cases hall : (configurations past).all hasReview = true
  · rw [if_pos hall]
    exact iff_of_true rfl hall
  · rw [if_neg hall]
    refine iff_of_false ?_ hall
    intro hshown
    cases hshown

/-- After a configuration for an item with a review the cell looks like a new one
exactly when its past has spared the views. -/
theorem Lived.appearance_iff {cell last first : ReviewCell} {past : List Event}
    {shopInfo : ShopInfo} (h : Lived cell past) (hlast : Configured cell shopInfo last)
    (hfirst : Configured ReviewCell.fresh shopInfo first) :
    last.appearance = first.appearance ↔
      ∀ earlier ∈ configurations past, Spares shopInfo earlier := by
  have hlabel := h.label_shown_iff
  have hreview := h.review
  have himages := h.collectionView
  cases hlast with
  | placeholder hnone =>
      cases hfirst with
      | placeholder _ =>
          refine iff_of_true rfl ?_
          intro earlier _ hsome
          rw [hnone] at hsome
          cases hsome
      | text hsome _ =>
          rw [hnone] at hsome
          cases hsome
      | pictures hsome _ =>
          rw [hnone] at hsome
          cases hsome
  | text hsome hbare =>
      rw [spares_iff hsome]
      cases hfirst with
      | placeholder hnone =>
          rw [hnone] at hsome
          cases hsome
      | pictures _ hpictures =>
          rw [hbare] at hpictures
          cases hpictures
      | text _ _ =>
          have hno : hasImages shopInfo = true → (configurations past).all hasImages = true := by
            intro hpictures
            rw [hbare] at hpictures
            cases hpictures
          rw [and_iff_left hno]
          constructor
          · intro happearance
            exact hlabel.1 (congrArg Appearance.label happearance)
          · intro hall
            simp only [appearance, hlabel.2 hall, hreview, hall]
            rfl
  | pictures hsome hpictures =>
      rw [spares_iff hsome]
      cases hfirst with
      | placeholder hnone =>
          rw [hnone] at hsome
          cases hsome
      | text _ hbare =>
          rw [hbare] at hpictures
          cases hpictures
      | pictures _ _ =>
          constructor
          · intro happearance
            refine ⟨hlabel.1 (congrArg Appearance.label happearance), fun _ => ?_⟩
            -- the picture view is still attached
            have hshown := congrArg Appearance.images happearance
            rw [← himages]
            by_contra hgone
            simp only [appearance, if_neg hgone] at hshown
            cases hshown
          · rintro ⟨hall, hallImages⟩
            simp only [appearance, hlabel.2 hall, hreview, hall, himages, hallImages hpictures]
            rfl

/-- However a review cell was recycled, the next item stops the program by what it is
alone. Otherwise the cell shows it as a new cell would exactly when the item has no
review, or no earlier item lacked one, and none lacked pictures if this one has some. The
heart is the one of the whole life of the cell: it is on after an odd number of presses,
whichever reviews they were for. -/
theorem recycled_appearance_iff [Unicode] {es : List Event} {before : ReviewCell}
    (hrun : machine.run fresh es = some before) (shopInfo : ShopInfo) :
    ((before.set shopInfo).isSome ↔ Takes shopInfo) ∧
      ∀ cell first, before.set shopInfo = some cell → fresh.set shopInfo = some first →
        (cell.appearance = first.appearance ↔
          ∀ earlier ∈ configurations es, Spares shopInfo earlier) ∧
        cell.isOn = (presses es % 2 == 1) := by
  have hlived : Lived before ([] ++ es) :=
    EventMachine.history_invariant Lived.step hrun Lived.fresh
  refine ⟨before.isSome_set_iff shopInfo, ?_⟩
  intro cell first hset hfirst
  have hconfigured : Configured before shopInfo cell := set_cases hset
  refine ⟨hlived.appearance_iff hconfigured (set_cases hfirst), ?_⟩
  rw [(hlived.configured hconfigured).isOn, presses_append]
  rfl

/-- The item of a shop without a review. -/
def noReview : ShopInfo where
  id := 0
  shopID := "s1"
  shopImageURL := ""
  shopTitle := "面包房"
  shopAddress := ""
  shopOpeningTime := ""
  eventID := "e1"
  eventTitle := ""
  eventDescription := ""
  eventStartDate := ⟨0, 0⟩
  eventEndDate := ⟨0, 0⟩
  eventPrice := .finite 1
  eventOriginalPirce := .finite 2
  eventImageURL := ""
  productImageURLs := []
  reviewUsername := none
  reviewAvatarImageURL := none
  reviewContent := none
  reviewImageURLs := none
  reviewAmount := 0
  reviewLikeAmount := none
  recommendShopIDs := []
  recommendShopTitles := []
  recommendShopImages := []
  recommendShopScores := []

/-- The item of a shop with a review. -/
def oneReview : ShopInfo :=
  { noReview with
    reviewUsername := some "小王", reviewAvatarImageURL := some "wang.png"
    reviewContent := some "好吃", reviewImageURLs := some ["1.png"]
    reviewLikeAmount := some (.finite 3) }

section CodePoints

attribute [local instance] Unicode.codePoints

/-- A review that is shown after a placeholder does not come to light. -/
theorem review_hidden_by_placeholder :
    ∃ before cell first, machine.run fresh [.set noReview] = some before ∧
      before.set oneReview = some cell ∧ fresh.set oneReview = some first ∧
      cell.appearance ≠ first.appearance := by
  have hrun : ∃ before cell first, machine.run fresh [.set noReview] = some before ∧
      before.set oneReview = some cell ∧ fresh.set oneReview = some first :=
    ⟨_, _, _, rfl, rfl, rfl⟩
  rcases hrun with ⟨before, cell, first, hrun, hset, hfirst⟩
  refine ⟨before, cell, first, hrun, hset, hfirst, ?_⟩
  intro happearance
  have hiff := ((recycled_appearance_iff hrun oneReview).2 cell first hset hfirst).1
  have hspares := hiff.1 happearance noReview List.mem_cons_self rfl
  cases hspares.1

end CodePoints

end ReviewCell

end FancyLife
