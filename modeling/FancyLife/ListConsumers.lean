import FancyLife.InvalidDocuments
import FancyLife.ListScreens
import FancyLife.FLAdvertVC

/-! # Consumers of lists

The fetchers deliver a list for every query that is answered, and an empty one
where nothing matches. Four screens take these lists and read the first element,
or scroll to it, without looking whether there is one.
-/

namespace FancyLife

open Swift (Unicode)

/-- The step reads no element and scrolls to no item that is not there: that is
what traps in the closures below. -/
def InRange {σ ε β : Type} (_ : MainLoop σ β) (_ : LoopStep ε) (l : MainLoop σ β) : Prop :=
  l.trapped = false

/-! ## What the fetchers deliver -/

namespace FirestoreManager

variable {answer : Query → Response}

/-- A loop without a `break` delivers one value for each document. -/
theorem mem_eval_loop {α : Type} {q : Query} {decode : Nat → Document → Option α}
    {list : List α}
    (h : .ok list ∈ (getDocuments q report fun documents =>
      succeed report (decodeLoop decode noBreak documents [] 0)).eval answer) :
    ∃ documents, (answer q).documents = some documents ∧ list.length = documents.length := by
  simp only [getDocuments, Code.eval, List.nil_append] at h
  cases hdocuments : (answer q).documents with
  | none =>
      rw [hdocuments] at h
      cases List.mem_singleton.1 h
  | some documents =>
      rw [hdocuments] at h
      cases hloop : decodeLoop decode noBreak documents [] 0 with
      | none =>
          simp only [hloop] at h
          cases h
      | some decoded =>
          simp only [hloop] at h
          cases List.mem_singleton.1 h
          refine ⟨documents, rfl, ?_⟩
          simpa using decodeLoop_length hloop

/-- The lists of products, events and advertisements are empty exactly where the
query brings no document. -/
theorem delivers_empty_iff (shopID location : String) :
    (.ok [] ∈ (getProducts shopID false report).eval answer ↔
        (answer (ofShopQuery "Product" shopID)).documents = some []) ∧
      (.ok [] ∈ (getEvents shopID false report).eval answer ↔
        (answer (ofShopQuery "Event" shopID)).documents = some []) ∧
      (.ok [] ∈ (getAdList location report).eval answer ↔
        (answer (adQuery location)).documents = some []) := by
  have hloop : ∀ {α : Type} (q : Query) (decode : Nat → Document → Option α),
      .ok [] ∈ (getDocuments q report fun documents =>
        succeed report (decodeLoop decode noBreak documents [] 0)).eval answer ↔
      (answer q).documents = some [] := by
    intro α q decode
    constructor
    · intro h
      rcases mem_eval_loop h with ⟨documents, hdocuments, hlength⟩
      rw [hdocuments, List.eq_nil_of_length_eq_zero hlength.symm]
    · intro hdocuments
      simp only [getDocuments, Code.eval, hdocuments]
      exact List.mem_singleton_self _
  refine ⟨hloop _ _, ?_, hloop _ _⟩
  rw [← hloop (ofShopQuery "Event" shopID) (fun _ => decodeEvent shopID)]
  -- `getEvents` answers an empty result before its loop, with the same list
  simp only [getEvents, getDocuments, Code.eval, List.nil_append]
  cases (answer (ofShopQuery "Event" shopID)).documents with
  | none => exact Iff.rfl
  | some documents =>
      cases documents with
      | nil => exact Iff.rfl
      | cons document rest => exact Iff.rfl

end FirestoreManager

/-! ## ProductVC and EventVC -/

namespace ListScreen

variable {α : Type}

/-- A list that is delivered has an element. -/
def Filled : LoopStep (Event α) → Prop
  | .event (.answer (.ok list)) => list ≠ []
  | _ => True

/-- The closure reads `list[0]`, and every other step is harmless. -/
theorem inRange_iff [Unicode] [ListItem α] (screen : ListScreen α)
    {l l' : MainLoop (State α) (Block α)} {x : LoopStep (Event α)}
    (hstep : (machine screen).step l x = some l') : InRange l x l' ↔ Filled x := by
  rcases l with ⟨⟨list, dataList, dataSource, outstanding⟩, queue, trapped⟩
  rcases MainLoop.step_cases hstep with ⟨-, ⟨e, o, rfl, ho, rfl⟩ | ⟨b, rest, rfl, -, rfl⟩⟩
  · cases e with
    | viewWillAppear =>
        obtain rfl := Option.some.inj ho
        exact iff_of_true rfl trivial
    | answer result =>
        cases outstanding with
        | zero => cases ho
        | succ n =>
            obtain rfl := Option.some.inj ho
            cases result with
            | error error => exact iff_of_true rfl trivial
            | ok list =>
                cases list with
                | nil => exact iff_of_false nofun (fun hne => hne rfl)
                | cons first rest => exact iff_of_true rfl (List.cons_ne_nil first rest)
  · cases b with
    | apply snapshot => exact iff_of_true rfl trivial
    | present alert => exact iff_of_true rfl trivial

end ListScreen

/-! ## The picture of ShopHeaderSV -/

/-- A header that shows a picture: the requests of `setImage()` that are not
answered yet, the URLs that its `adView` was told to download, and whether the
header still exists. -/
structure AdPicture where
  requests : Nat
  downloads : List String
  alive : Bool

namespace AdPicture

inductive Event where
  | setImage
  | answer (result : Except FLError (List AdImage))
  | deallocate

/-- The closure of `setImage()` in a header that still exists; an error is
printed. -/
def received (s : AdPicture) : Except FLError (List AdImage) → Outcome AdPicture Empty
  | .ok imageList =>
      match imageList[0]? with
      | some image => .ok { s with downloads := s.downloads ++ [image.imageURL] } []
      | none => .trap
  | .error _ => .ok s []

def handlers : Handlers AdPicture Event Empty where
  handle s
    | .setImage => if s.alive then some (.ok { s with requests := s.requests + 1 } []) else none
    | .answer result =>
        match s.requests with
        | 0 => none
        | n + 1 =>
            let s := { s with requests := n }
            some (if s.alive then received s result else .ok s [])
    | .deallocate => some (.ok { s with alive := false } [])
  block _ b := b.elim

/-- A new header. -/
def fresh : MainLoop AdPicture Empty := .start ⟨0, [], true⟩ []

def machine : EventMachine (MainLoop AdPicture Empty) (LoopStep Event) :=
  MainLoop.machine handlers (· = fresh)

/-- A list that is delivered to a header has an element. -/
def Filled (l : MainLoop AdPicture Empty) : LoopStep Event → Prop
  | .event (.answer (.ok imageList)) => l.state.alive = true → imageList ≠ []
  | _ => True

/-- The closure reads `imageList[0]`, if the header still exists. -/
theorem inRange_iff {l l' : MainLoop AdPicture Empty} {x : LoopStep Event}
    (hstep : machine.step l x = some l') : InRange l x l' ↔ Filled l x := by
  rcases l with ⟨⟨requests, downloads, alive⟩, queue, trapped⟩
  rcases MainLoop.step_cases hstep with ⟨-, ⟨e, o, rfl, ho, rfl⟩ | ⟨b, rest, rfl, -, rfl⟩⟩
  · cases e with
    | setImage =>
        simp only [handlers] at ho
        split at ho
        · obtain rfl := Option.some.inj ho
          exact iff_of_true rfl trivial
        · cases ho
    | deallocate =>
        obtain rfl := Option.some.inj ho
        exact iff_of_true rfl trivial
    | answer result =>
        cases requests with
        | zero => cases ho
        | succ n =>
            obtain rfl := Option.some.inj ho
            cases result with
            | error error =>
                refine iff_of_true ?_ trivial
                cases alive <;> rfl
            | ok imageList =>
                cases alive with
                | false => exact iff_of_true rfl nofun
                | true =>
                    cases imageList with
                    | nil => exact iff_of_false nofun (fun hne => hne rfl rfl)
                    | cons image images =>
                        exact iff_of_true rfl (fun _ => List.cons_ne_nil image images)
  · exact b.elim

end AdPicture

/-! ## The show of FLAdvertVC -/

namespace FLAdvertVC

/-- The timer fires when the main queue is drained and there are images. -/
def Filled (l : MainLoop FLAdvertVC Block) : LoopStep Event → Prop
  | .event .timerFires => l.Drained ∧ l.state.images ≠ []
  | _ => True

theorem scrollToItem_frame {vc vc' : FLAdvertVC} {item : Nat}
    (h : vc.scrollToItem item = some vc') : vc' = { vc with scrolled := some item } := by
  rcases Option.map_eq_some_iff.1 h with ⟨image, -, rfl⟩
  rfl

/-- A firing changes neither the images nor what is displayed. -/
theorem changeImage_frame {vc vc' : FLAdvertVC} (h : vc.changeImage = some vc') :
    vc'.images = vc.images ∧ vc'.dataSource = vc.dataSource ∧ vc'.requested = vc.requested ∧
      vc'.firing = vc.firing := by
  unfold changeImage at h
  split at h
  · rcases Option.bind_eq_some_iff.1 h with ⟨scrolled, hscroll, hvc⟩
    obtain rfl := scrollToItem_frame hscroll
    obtain rfl := Option.some.inj hvc
    exact ⟨rfl, rfl, rfl, rfl⟩
  · rcases Option.bind_eq_some_iff.1 h with ⟨scrolled, hscroll, hvc⟩
    obtain rfl := scrollToItem_frame hscroll
    obtain rfl := Option.some.inj hvc
    exact ⟨rfl, rfl, rfl, rfl⟩

/-- Before anything is displayed there is no item to scroll to. -/
theorem changeImage_undisplayed {vc : FLAdvertVC} (hsource : vc.dataSource = none) :
    vc.changeImage = none := by
  unfold changeImage scrollToItem
  rw [hsource]
  split
  · rfl
  · rfl

/-- Once the images are displayed, a firing finds its item if there is any. -/
theorem changeImage_displayed {vc : FLAdvertVC}
    (hsource : vc.dataSource = some (snapshot vc.images)) :
    (∃ vc', vc.changeImage = some vc') ↔ vc.images ≠ [] := by
  unfold changeImage
  split
  · rename_i hlt
    refine iff_of_true ?_ (List.ne_nil_of_length_pos (by omega))
    rw [scrollToItem_of_lt hsource hlt]
    exact ⟨_, rfl⟩
  · -- the show starts over
    constructor
    · rintro ⟨vc', h⟩ hnil
      rcases Option.bind_eq_some_iff.1 h with ⟨scrolled, hscroll, -⟩
      rcases Option.map_eq_some_iff.1 hscroll with ⟨image, himage, -⟩
      have hfirst : vc.images[0]? = some image := by
        rw [← item_snapshot]
        simpa only [hsource, Option.bind_some] using himage
      rw [hnil] at hfirst
      cases hfirst
    · intro hne
      have hscroll : scrollToItem { vc with currentIndex := 0 } 0 =
          some { vc with currentIndex := 0, scrolled := some 0 } :=
        scrollToItem_of_lt hsource (List.length_pos_iff.2 hne)
      simp only [hscroll]
      exact ⟨_, rfl⟩

/-- How far the show has got: its images are requested once, and the timer is
scheduled by the block before the one that displays them. -/
inductive Phase : MainLoop FLAdvertVC Block → Prop
  | waiting : Phase viewDidLoad
  | failed {vc : FLAdvertVC} {queue : List Block} (hrequested : vc.requested = false)
      (hfiring : vc.firing = false) (hqueue : ∀ b ∈ queue, ∃ alert, b = .present alert) :
      Phase ⟨vc, queue, false⟩
  | loaded {vc : FLAdvertVC} (hrequested : vc.requested = false) (hfiring : vc.firing = false)
      (hsource : vc.dataSource = none) :
      Phase ⟨vc, [.scheduleTimer, .apply (snapshot vc.images)], false⟩
  | scheduled {vc : FLAdvertVC} (hrequested : vc.requested = false)
      (hsource : vc.dataSource = none) : Phase ⟨vc, [.apply (snapshot vc.images)], false⟩
  | showing {vc : FLAdvertVC} (hrequested : vc.requested = false)
      (hsource : vc.dataSource = some (snapshot vc.images)) : Phase ⟨vc, [], false⟩

/-- An answer comes once, and its closure queues its blocks. -/
theorem Phase.answer {vc : FLAdvertVC} {queue : List Block}
    {result : Except FLError (List AdImage)} {o : Outcome FLAdvertVC Block}
    (h : Phase ⟨vc, queue, false⟩) (ho : handlers.handle vc (.answer result) = some o) :
    Phase (MainLoop.absorb ⟨vc, queue, false⟩ queue o) := by
  have hrequested : vc.requested ≠ false := by
    intro hr
    simp only [handlers, hr, Bool.false_eq_true, if_false] at ho
    cases ho
  cases h with
  | waiting =>
      cases result with
      | ok imageList =>
          obtain rfl := Option.some.inj ho
          exact .loaded rfl rfl rfl
      | error error =>
          obtain rfl := Option.some.inj ho
          refine .failed rfl rfl ?_
          intro b hb
          exact ⟨_, List.mem_singleton.1 hb⟩
  | failed hr => exact absurd hr hrequested
  | loaded hr => exact absurd hr hrequested
  | scheduled hr => exact absurd hr hrequested
  | showing hr => exact absurd hr hrequested

/-- A firing scrolls to an item, or it comes too early or without an image and
traps. -/
theorem Phase.fires {vc : FLAdvertVC} {queue : List Block} {o : Outcome FLAdvertVC Block}
    (h : Phase ⟨vc, queue, false⟩) (ho : handlers.handle vc .timerFires = some o) :
    (queue = [] ∧ vc.images ≠ [] ∧ Phase (MainLoop.absorb ⟨vc, queue, false⟩ queue o)) ∨
      (¬ (queue = [] ∧ vc.images ≠ []) ∧ o = .trap) := by
  have hnot : vc.firing ≠ false := by
    intro hf
    simp only [handlers, hf, Bool.false_eq_true, if_false] at ho
    cases ho
  have hfiring : vc.firing = true := Bool.eq_true_of_not_eq_false hnot
  simp only [handlers, hfiring, if_true] at ho
  cases h with
  | waiting => cases hfiring
  | failed _ hf => exact absurd hf hnot
  | loaded _ hf => exact absurd hf hnot
  | scheduled _ hsource =>
      right
      rw [changeImage_undisplayed hsource] at ho
      refine ⟨?_, (Option.some.inj ho).symm⟩
      rintro ⟨hqueue, -⟩
      cases hqueue
  | showing hrequested hsource =>
      have hiff := changeImage_displayed hsource
      cases hchange : vc.changeImage with
      | none =>
          right
          rw [hchange] at ho
          refine ⟨?_, (Option.some.inj ho).symm⟩
          rintro ⟨-, hne⟩
          rcases hiff.2 hne with ⟨vc', hvc'⟩
          rw [hchange] at hvc'
          cases hvc'
      | some vc' =>
          left
          rw [hchange] at ho
          obtain rfl := Option.some.inj ho
          rcases changeImage_frame hchange with ⟨himages, hsource', hrequested', -⟩
          refine ⟨rfl, hiff.1 ⟨vc', hchange⟩, .showing ?_ ?_⟩
          · rw [hrequested', hrequested]
          · rw [hsource', himages, hsource]

/-- Step lemma. -/
theorem Phase.step {l l' : MainLoop FLAdvertVC Block} {x : LoopStep Event}
    (hstep : machine.step l x = some l') (h : Phase l) :
    (Filled l x ∧ Phase l') ∨ (¬ Filled l x ∧ l'.trapped = true) := by
  rcases l with ⟨vc, queue, trapped⟩
  rcases MainLoop.step_cases hstep with ⟨htrapped, ⟨e, o, rfl, ho, rfl⟩ | ⟨b, rest, rfl, hq, rfl⟩⟩
  · obtain rfl : trapped = false := htrapped
    cases e with
    | answer result => exact Or.inl ⟨trivial, h.answer ho⟩
    | timerFires =>
        rcases h.fires ho with ⟨hqueue, himages, h'⟩ | ⟨hnot, rfl⟩
        · exact Or.inl ⟨⟨hqueue, himages⟩, h'⟩
        · exact Or.inr ⟨hnot, rfl⟩
  · refine Or.inl ⟨trivial, ?_⟩
    cases h with
    | waiting => cases hq
    | failed hrequested hfiring hqueue =>
        obtain rfl := hq
        rcases hqueue b List.mem_cons_self with ⟨alert, rfl⟩
        refine .failed hrequested hfiring ?_
        intro b hb
        rw [List.append_nil] at hb
        exact hqueue b (List.mem_cons_of_mem _ hb)
    | loaded hrequested _ hsource =>
        obtain ⟨rfl, rfl⟩ := List.cons.inj hq
        exact .scheduled hrequested hsource
    | scheduled hrequested hsource =>
        obtain ⟨rfl, rfl⟩ := List.cons.inj hq
        exact .showing hrequested rfl
    | showing => cases hq

/-- Along a run the show scrolls to existing items as long as its firings find
images displayed. -/
theorem along_inRange_iff (xs : List (LoopStep Event)) :
    machine.Along InRange viewDidLoad xs ↔
      machine.Along (fun l x _ => Filled l x) viewDidLoad xs := by
  have hrunning : ∀ l, Phase l → l.trapped = false := by
    intro l h
    cases h <;> rfl
  refine EventMachine.along_iff ?_ ?_ Phase.waiting
  · intro l x l' hstep h
    rcases h.step hstep with ⟨hfilled, h'⟩ | ⟨hnot, htrapped⟩
    · exact iff_of_true (hrunning l' h') hfilled
    · refine iff_of_false (fun hrange => ?_) hnot
      rw [InRange, htrapped] at hrange
      cases hrange
  · intro l x l' hstep hrange h
    rcases h.step hstep with ⟨-, h'⟩ | ⟨-, htrapped⟩
    · exact h'
    · rw [InRange, htrapped] at hrange
      cases hrange

end FLAdvertVC

/-! ## All consumers -/

/-- Along any runs of the four consumers every access is in range exactly as long
as the lists that are delivered have an element, and the timer fires with images
on display. -/
theorem list_consumers_in_range_iff [Unicode] (ps : List (LoopStep (ListScreen.Event Product)))
    (es : List (LoopStep (ListScreen.Event Event))) (hs : List (LoopStep AdPicture.Event))
    (ads : List (LoopStep FLAdvertVC.Event)) :
    ((ListScreen.machine ProductVC).Along InRange ListScreen.fresh ps ↔
        (ListScreen.machine ProductVC).Along (fun _ x _ => ListScreen.Filled x)
          ListScreen.fresh ps) ∧
      ((ListScreen.machine EventVC).Along InRange ListScreen.fresh es ↔
        (ListScreen.machine EventVC).Along (fun _ x _ => ListScreen.Filled x)
          ListScreen.fresh es) ∧
      (AdPicture.machine.Along InRange AdPicture.fresh hs ↔
        AdPicture.machine.Along (fun l x _ => AdPicture.Filled l x) AdPicture.fresh hs) ∧
      (FLAdvertVC.machine.Along InRange FLAdvertVC.viewDidLoad ads ↔
        FLAdvertVC.machine.Along (fun l x _ => FLAdvertVC.Filled l x) FLAdvertVC.viewDidLoad
          ads) := by
  refine ⟨?_, ?_, ?_, FLAdvertVC.along_inRange_iff ads⟩
  · exact EventMachine.along_iff_of_step fun _ _ _ hstep => ListScreen.inRange_iff ProductVC hstep
  · exact EventMachine.along_iff_of_step fun _ _ _ hstep => ListScreen.inRange_iff EventVC hstep
  · exact EventMachine.along_iff_of_step fun _ _ _ hstep => AdPicture.inRange_iff hstep

section CodePoints

attribute [local instance] Unicode.codePoints

/-- Nothing matches in an empty database, and each of the four consumers traps on
the list that it is delivered. -/
theorem empty_lists_trap :
    ((FirestoreManager.getProducts "s" false FirestoreManager.report).eval
          (FirestoreManager.database []) = [.ok []] ∧
        ∃ l, (ListScreen.machine ProductVC).run ListScreen.fresh
          [.event .viewWillAppear, .event (.answer (.ok []))] = some l ∧ l.trapped = true) ∧
      ((FirestoreManager.getEvents "s" false FirestoreManager.report).eval
          (FirestoreManager.database []) = [.ok []] ∧
        ∃ l, (ListScreen.machine EventVC).run ListScreen.fresh
          [.event .viewWillAppear, .event (.answer (.ok []))] = some l ∧ l.trapped = true) ∧
      ((FirestoreManager.getAdList "shoppage" FirestoreManager.report).eval
          (FirestoreManager.database []) = [.ok []] ∧
        ∃ l, AdPicture.machine.run AdPicture.fresh
          [.event .setImage, .event (.answer (.ok []))] = some l ∧ l.trapped = true) ∧
      ((FirestoreManager.getAdList "homepage" FirestoreManager.report).eval
          (FirestoreManager.database []) = [.ok []] ∧
        ∃ l, FLAdvertVC.machine.run FLAdvertVC.viewDidLoad
          (FLAdvertVC.load [] ++ FLAdvertVC.firings 1) = some l ∧ l.trapped = true) :=
  ⟨⟨rfl, _, rfl, rfl⟩, ⟨rfl, _, rfl, rfl⟩, ⟨rfl, _, rfl, rfl⟩, rfl, _, rfl, rfl⟩

end CodePoints

end FancyLife
