import FancyLife.DownloadLog
import FancyLife.Lib.Simulation

/-! # The image views over the one loader

All image views call `downloadImage(from:)` of the shared manager, and the
manager calls the closure of each call, which sets the image of its own view one
block later. Two simulations take the views apart: without the views there is a
loader, and every view by itself is a `FLRegularImageView`.
-/

namespace FancyLife

/-- The shared loader, the images of the views, and the view whose closure each
call carries. -/
structure ImageViews (Image Data : Type) where
  loader : ImageDownloads Image Data
  image : Nat → Image
  owner : Nat → Nat

namespace ImageViews

variable {Image Data : Type}

/-- `downloadImage(fromURL:)` of a view; the data task of a call ends; the cache
drops an entry. -/
inductive Event (Data : Type) where
  | downloadImage (view : Nat) (url : String)
  | finish (call : DownloadCall) (result : TaskResult Data)
  | evict (url : String)

/-- The blocks on the main queue: those of the loader, and `self.image = image`. -/
inductive Block (Image : Type) where
  | loader (block : ImageDownloads.Block Image)
  | setImage (view : Nat) (image : Image)

/-- The closures that the loader has called on its way to `loader`. -/
def callbacks (s : ImageViews Image Data) (loader : ImageDownloads Image Data) :
    List (Block Image) :=
  (loader.completions.drop s.loader.completions.length).map fun completion =>
    .setImage (s.owner completion.1.number) completion.2

/-- What the loader does, with the closures that it calls. -/
def lift (s : ImageViews Image Data) :
    Outcome (ImageDownloads Image Data) (ImageDownloads.Block Image) →
      Outcome (ImageViews Image Data) (Block Image)
  | .ok loader deferred => .ok { s with loader } (deferred.map .loader ++ s.callbacks loader)
  | .trap => .trap

/-- The view hands its closure to the next call. -/
def call (s : ImageViews Image Data) (view : Nat) : ImageViews Image Data :=
  { s with owner := Function.update s.owner s.loader.calls.length view }

/-- The views, with the loader as it is. -/
def handlers (env : ImageDecoding Image Data) :
    Handlers (ImageViews Image Data) (Event Data) (Block Image) where
  handle s
    | .downloadImage view url =>
        ((ImageDownloads.handlers env).handle s.loader (.downloadImage url)).map (s.call view).lift
    | .finish call result =>
        ((ImageDownloads.handlers env).handle s.loader (.finish call result)).map s.lift
    | .evict url => ((ImageDownloads.handlers env).handle s.loader (.evict url)).map s.lift
  block s
    | .loader b => s.lift ((ImageDownloads.handlers env).block s.loader b)
    | .setImage view image => .ok { s with image := Function.update s.image view image } []

/-- The app has been launched; every view has the image of `configure()`. -/
def launched (image : Nat → Image) : MainLoop (ImageViews Image Data) (Block Image) :=
  .start ⟨ImageDownloads.launched.state, image, fun _ => 0⟩ []

def machine (env : ImageDecoding Image Data) (image : Nat → Image) :
    EventMachine (MainLoop (ImageViews Image Data) (Block Image)) (LoopStep (Event Data)) :=
  MainLoop.machine (handlers env) (· = launched image)

/-! ## Without the views -/

def Block.loader? : Block Image → Option (ImageDownloads.Block Image)
  | .loader b => some b
  | .setImage _ _ => none

/-- The loader and its blocks. -/
def forget (l : MainLoop (ImageViews Image Data) (Block Image)) :
    MainLoop (ImageDownloads Image Data) (ImageDownloads.Block Image) :=
  ⟨l.state.loader, l.queue.filterMap Block.loader?, l.trapped⟩

/-- What a step means to the loader. -/
def forgetStep (l : MainLoop (ImageViews Image Data) (Block Image)) :
    LoopStep (Event Data) → List (LoopStep (ImageDownloads.Event Data))
  | .event (.downloadImage _ url) => [.event (.downloadImage url)]
  | .event (.finish call result) => [.event (.finish call result)]
  | .event (.evict url) => [.event (.evict url)]
  | .block => if (l.queue.head?.bind Block.loader?).isSome then [.block] else []

/-- Closures that are called leave no block to the loader. -/
theorem filterMap_callbacks (s : ImageViews Image Data) (loader : ImageDownloads Image Data) :
    (s.callbacks loader).filterMap Block.loader? = [] := by
  rw [callbacks, List.filterMap_map]
  exact List.filterMap_eq_nil_iff.2 fun _ _ => rfl

theorem filterMap_loader (deferred : List (ImageDownloads.Block Image)) :
    (deferred.map Block.loader).filterMap Block.loader? = deferred := by
  rw [List.filterMap_map]
  exact List.filterMap_some

/-- What the loader does is what it does under the views. -/
theorem forget_absorb (l : MainLoop (ImageViews Image Data) (Block Image))
    (rest : List (Block Image)) (s : ImageViews Image Data)
    (o : Outcome (ImageDownloads Image Data) (ImageDownloads.Block Image)) :
    forget (l.absorb rest (s.lift o)) =
      (forget l).absorb (rest.filterMap Block.loader?) o := by
  cases o with
  | ok loader deferred =>
      simp only [lift, MainLoop.absorb_ok, forget, List.filterMap_append, filterMap_callbacks,
        filterMap_loader, List.append_nil]
  | trap => rfl

/-- Step lemma: the loader takes the same step. -/
theorem forget_step {env : ImageDecoding Image Data} {image : Nat → Image}
    {l l' : MainLoop (ImageViews Image Data) (Block Image)} {x : LoopStep (Event Data)}
    (hstep : (machine env image).step l x = some l') :
    (ImageDownloads.machine env).run (forget l) (forgetStep l x) = some (forget l') := by
  -- an event of the loader
  have hevent : ∀ (s : ImageViews Image Data) e o,
      ((ImageDownloads.handlers env).handle l.state.loader e).map s.lift = some o →
      l.trapped = false → l' = l.absorb l.queue o →
      (ImageDownloads.machine env).run (forget l) [.event e] = some (forget l') := by
    intro s e o ho htrapped hl'
    rcases Option.map_eq_some_iff.1 ho with ⟨p, hp, rfl⟩
    refine ((ImageDownloads.machine env).run_cons_eq_some).2 ⟨forget l', ?_, rfl⟩
    rw [hl', forget_absorb]
    show (if l.trapped = true then none
      else ((ImageDownloads.handlers env).handle l.state.loader e).map _) = _
    rw [htrapped, if_neg Bool.false_ne_true, hp]
    rfl
  rcases MainLoop.step_cases hstep with ⟨htrapped, ⟨e, o, rfl, ho, hl'⟩ | ⟨b, rest, rfl, hq, hl'⟩⟩
  · cases e with
    | downloadImage view url => exact hevent _ _ o ho htrapped hl'
    | finish call result => exact hevent _ _ o ho htrapped hl'
    | evict url => exact hevent _ _ o ho htrapped hl'
  · rcases l with ⟨s, queue, trapped⟩
    obtain rfl : trapped = false := htrapped
    obtain rfl : queue = b :: rest := hq
    cases b with
    | loader b =>
        rw [hl']
        show _ = some (forget (MainLoop.absorb _ rest (s.lift _)))
        rw [forget_absorb]
        rfl
    | setImage view i =>
        rw [hl']
        show some (forget _) = some (forget ⟨_, rest ++ [], false⟩)
        rw [List.append_nil]
        rfl

/-- The views stutter. -/
def toLoader (env : ImageDecoding Image Data) (image : Nat → Image) :
    Simulation (machine env image) (ImageDownloads.machine env) where
  rel l t := forget l = t
  lift := forgetStep
  init l hl := ⟨forget l, by rw [show l = launched image from hl]; rfl, rfl⟩
  step l x l' t hstep hrel := ⟨forget l', hrel ▸ forget_step hstep, rfl⟩

/-! ## Where an image comes from -/

/-- The calls and answers are those of the past, and what a view shows or is about
to show was passed on for a call of its own. -/
structure Routed (image : Nat → Image) (l : MainLoop (ImageViews Image Data) (Block Image))
    (past : List (LoopStep (Event Data))) : Prop where
  called : ∀ c ∈ l.state.loader.calls,
    .event (.downloadImage (l.state.owner c.number) c.url) ∈ past
  answered : ∀ url result, (url, result) ∈ l.state.loader.answers →
    ∃ c, c.url = url ∧ .event (.finish c result) ∈ past
  due : ∀ v i, .setImage v i ∈ l.queue →
    ∃ c, l.state.owner c.number = v ∧ (c, i) ∈ l.state.loader.completions
  shown : ∀ v, l.state.image v = image v ∨
    ∃ c, l.state.owner c.number = v ∧ (c, l.state.image v) ∈ l.state.loader.completions

theorem Routed.init (image : Nat → Image) :
    Routed image (launched image : MainLoop (ImageViews Image Data) (Block Image)) [] := by
  constructor
  · intro c hc
    cases hc
  · intro url result hanswer
    cases hanswer
  · intro v i hdue
    cases hdue
  · intro v
    exact Or.inl rfl

section Routes

variable {image : Nat → Image} {s : ImageViews Image Data} {queue : List (Block Image)}
  {past : List (LoopStep (Event Data))}

/-- The closures of earlier calls stay with their views. -/
theorem owner_call (s : ImageViews Image Data) (view : Nat) {c : DownloadCall}
    (hc : c.number < s.loader.calls.length) : (s.call view).owner c.number = s.owner c.number :=
  Function.update_of_ne (Nat.ne_of_lt hc) _ _

theorem Routed.call (h : Routed image ⟨s, queue, false⟩ past)
    (hmade : ImageDownloads.Made (forget ⟨s, queue, false⟩)) (view : Nat) :
    Routed image ⟨s.call view, queue, false⟩ past := by
  have howner : ∀ c ∈ s.loader.calls, (s.call view).owner c.number = s.owner c.number := by
    intro c hc
    exact owner_call s view (hmade.numbered c hc)
  constructor
  · intro c hc
    show .event (.downloadImage ((s.call view).owner c.number) c.url) ∈ past
    rw [howner c hc]
    exact h.called c hc
  · exact h.answered
  · intro v i hdue
    rcases h.due v i hdue with ⟨c, hv, hc⟩
    have hcalled : c ∈ s.loader.calls := hmade.completed c i hc
    exact ⟨c, (howner c hcalled).trans hv, hc⟩
  · intro v
    rcases h.shown v with hv | ⟨c, hv, hc⟩
    · exact Or.inl hv
    · have hcalled : c ∈ s.loader.calls := hmade.completed c _ hc
      exact Or.inr ⟨c, (howner c hcalled).trans hv, hc⟩

/-- A closure that is called now belongs to a completion. -/
theorem mem_callbacks {loader : ImageDownloads Image Data} {v : Nat} {i : Image}
    (h : .setImage v i ∈ s.callbacks loader) :
    ∃ c, s.owner c.number = v ∧ (c, i) ∈ loader.completions := by
  rcases List.mem_map.1 h with ⟨⟨c, j⟩, hmem, hset⟩
  obtain ⟨hv, rfl⟩ := Block.setImage.inj hset
  exact ⟨c, hv, List.mem_of_mem_drop hmem⟩

/-- The loader goes on, and calls closures. -/
theorem Routed.lifted (h : Routed image ⟨s, queue, false⟩ past) (x : LoopStep (Event Data))
    {loader : ImageDownloads Image Data} {rest : List (Block Image)}
    (deferred : List (ImageDownloads.Block Image)) (hrest : ∀ b ∈ rest, b ∈ queue)
    (hcalls : ∀ c ∈ loader.calls, c ∈ s.loader.calls ∨
      x = .event (.downloadImage (s.owner c.number) c.url))
    (hanswers : ∀ url result, (url, result) ∈ loader.answers →
      (url, result) ∈ s.loader.answers ∨ ∃ c, c.url = url ∧ x = .event (.finish c result))
    (hcompletions : s.loader.completions <+: loader.completions) :
    Routed image (MainLoop.absorb ⟨s, queue, false⟩ rest (s.lift (.ok loader deferred)))
      (past ++ [x]) := by
  have hx : x ∈ past ++ [x] := List.mem_append_right _ (List.mem_singleton_self x)
  constructor
  · intro c hc
    rcases hcalls c hc with hc | rfl
    · exact List.mem_append_left _ (h.called c hc)
    · exact hx
  · intro url result hanswer
    rcases hanswers url result hanswer with hanswer | ⟨c, hc, rfl⟩
    · rcases h.answered url result hanswer with ⟨c, hc, hmem⟩
      exact ⟨c, hc, List.mem_append_left _ hmem⟩
    · exact ⟨c, hc, hx⟩
  · intro v i hdue
    rcases List.mem_append.1 hdue with hdue | hdue
    · rcases h.due v i (hrest _ hdue) with ⟨c, hv, hc⟩
      exact ⟨c, hv, hcompletions.subset hc⟩
    · rcases List.mem_append.1 hdue with hdue | hdue
      · rcases List.mem_map.1 hdue with ⟨b, -, hb⟩
        cases hb
      · have hcallback : ∃ c, s.owner c.number = v ∧ (c, i) ∈ loader.completions :=
          mem_callbacks hdue
        exact hcallback
  · intro v
    rcases h.shown v with hv | ⟨c, hv, hc⟩
    · exact Or.inl hv
    · exact Or.inr ⟨c, hv, hcompletions.subset hc⟩

/-- `self.image = image`. -/
theorem Routed.setImage {view : Nat} {i : Image}
    (h : Routed image ⟨s, .setImage view i :: queue, false⟩ past) (x : LoopStep (Event Data)) :
    Routed image ⟨{ s with image := Function.update s.image view i }, queue, false⟩
      (past ++ [x]) := by
  constructor
  · intro c hc
    exact List.mem_append_left _ (h.called c hc)
  · intro url result hanswer
    rcases h.answered url result hanswer with ⟨c, hc, hmem⟩
    exact ⟨c, hc, List.mem_append_left _ hmem⟩
  · intro v j hdue
    exact h.due v j (List.mem_cons_of_mem _ hdue)
  · intro v
    show Function.update s.image view i v = image v ∨ ∃ c, s.owner c.number = v ∧
      (c, Function.update s.image view i v) ∈ s.loader.completions
    by_cases hv : v = view
    · subst hv
      rw [Function.update_self]
      exact Or.inr (h.due v i List.mem_cons_self)
    · rw [Function.update_of_ne hv]
      exact h.shown v

/-- After a trap the screen stays as it is. -/
theorem Routed.trapped (h : Routed image ⟨s, queue, false⟩ past) (x : LoopStep (Event Data)) :
    Routed image ⟨s, [], true⟩ (past ++ [x]) := by
  constructor
  · intro c hc
    exact List.mem_append_left _ (h.called c hc)
  · intro url result hanswer
    rcases h.answered url result hanswer with ⟨c, hc, hmem⟩
    exact ⟨c, hc, List.mem_append_left _ hmem⟩
  · intro v i hdue
    cases hdue
  · exact h.shown

end Routes

/-- Step lemma. -/
theorem Routed.step {env : ImageDecoding Image Data} {image : Nat → Image}
    {l l' : MainLoop (ImageViews Image Data) (Block Image)} {x : LoopStep (Event Data)}
    {past : List (LoopStep (Event Data))} (hstep : (machine env image).step l x = some l')
    (hmade : ImageDownloads.Made (forget l)) (h : Routed image l past) :
    Routed image l' (past ++ [x]) := by
  rcases l with ⟨s, queue, trapped⟩
  have hself : ∀ b ∈ queue, b ∈ queue := fun _ hb => hb
  rcases MainLoop.step_cases hstep with ⟨htrapped, ⟨e, o, rfl, ho, rfl⟩ | ⟨b, rest, rfl, hq, rfl⟩⟩
  · obtain rfl : trapped = false := htrapped
    cases e with
    | downloadImage view url =>
        rcases Option.map_eq_some_iff.1 ho with ⟨p, hp, rfl⟩
        cases p with
        | trap => exact h.trapped _
        | ok loader deferred =>
            rcases ImageDownloads.handle_log hp with ⟨hcalls, hanswers, hcompletions⟩
            refine (h.call hmade view).lifted _ deferred hself ?_ ?_ hcompletions
            · intro c hc
              rw [hcalls] at hc
              rcases List.mem_append.1 hc with hc | hc
              · exact Or.inl hc
              · -- the new call, with the closure of the view
                have howner : (s.call view).owner s.loader.calls.length = view :=
                  Function.update_self _ _ _
                rw [List.mem_singleton.1 hc]
                right
                show _ = LoopStep.event
                  (Event.downloadImage ((s.call view).owner s.loader.calls.length) url)
                rw [howner]
            · intro u result hanswer
              rw [hanswers] at hanswer
              exact Or.inl ((List.append_nil s.loader.answers) ▸ hanswer)
    | finish call result =>
        rcases Option.map_eq_some_iff.1 ho with ⟨p, hp, rfl⟩
        cases p with
        | trap => exact h.trapped _
        | ok loader deferred =>
            rcases ImageDownloads.handle_log hp with ⟨hcalls, hanswers, hcompletions⟩
            refine h.lifted _ deferred hself ?_ ?_ hcompletions
            · intro c hc
              rw [hcalls] at hc
              exact Or.inl ((List.append_nil s.loader.calls) ▸ hc)
            · intro u r hanswer
              rw [hanswers] at hanswer
              rcases List.mem_append.1 hanswer with hanswer | hanswer
              · exact Or.inl hanswer
              · obtain ⟨rfl, rfl⟩ := Prod.mk.inj (List.mem_singleton.1 hanswer)
                exact Or.inr ⟨call, rfl, rfl⟩
    | evict url =>
        obtain rfl := Option.some.inj ho
        exact h.lifted _ [] hself (fun c hc => Or.inl hc) (fun u r hanswer => Or.inl hanswer)
          List.prefix_rfl
  · obtain rfl : trapped = false := htrapped
    obtain rfl : queue = b :: rest := hq
    cases b with
    | loader b =>
        show Routed image (MainLoop.absorb _ rest
          (s.lift ((ImageDownloads.handlers env).block s.loader b))) (past ++ [.block])
        cases hb : (ImageDownloads.handlers env).block s.loader b with
        | trap => exact h.trapped _
        | ok loader deferred =>
            rcases ImageDownloads.block_log hb with ⟨hcalls, hanswers, hcompletions⟩
            refine h.lifted _ deferred (fun c hc => List.mem_cons_of_mem _ hc) ?_ ?_ hcompletions
            · intro c hc
              rw [hcalls] at hc
              exact Or.inl hc
            · intro u r hanswer
              rw [hanswers] at hanswer
              exact Or.inl hanswer
    | setImage view i =>
        have hset := h.setImage (LoopStep.block : LoopStep (Event Data))
        rw [← List.append_nil rest] at hset
        exact hset

/-- In every run, a view shows the image it was made with or one that a 200
response brought for a URL asked for on this very view. -/
theorem shows_own_download {env : ImageDecoding Image Data}
    (hnamed : ∀ name, name ∉ imageSets → env.named name = none) {image : Nat → Image}
    {l : MainLoop (ImageViews Image Data) (Block Image)} {xs : List (LoopStep (Event Data))}
    (hrun : (machine env image).run (launched image) xs = some l) (view : Nat) :
    l.state.image view = image view ∨
      ∃ url call result, .event (.downloadImage view url) ∈ xs ∧ call.url = url ∧
        .event (.finish call result) ∈ xs ∧
        ImageDownloads.Decodes env result (l.state.image view) := by
  have hkeep : ∀ l x l' past, (machine env image).step l x = some l' →
      (ImageDownloads.Made (forget l) ∧ Routed image l past) →
      (ImageDownloads.Made (forget l') ∧ Routed image l' (past ++ [x])) := by
    rintro l x l' past hstep ⟨hmade, hrouted⟩
    have hmade' : ImageDownloads.Made (forget l') :=
      EventMachine.run_invariant (fun _ _ _ hs h => h.step hs) (forget_step hstep) hmade
    exact ⟨hmade', hrouted.step hstep hmade⟩
  have hinv := EventMachine.history_invariant hkeep hrun
    ⟨(ImageDownloads.Made.init : ImageDownloads.Made (forget (launched image))), Routed.init image⟩
  rw [List.nil_append] at hinv
  rcases hinv.2.shown view with hsame | ⟨c, hview, hc⟩
  · exact Or.inl hsame
  · -- the loader passed the image on for a call of this view
    have hcalled := hinv.2.called c (hinv.1.completed c _ hc)
    rcases (toLoader env image).run hrun rfl with ⟨t, ht, rfl⟩
    rcases ImageDownloads.reachable_downloaded hnamed ⟨_, _, rfl, ht⟩ c _ hc with
      ⟨result, hanswer, hdecodes⟩
    rcases hinv.2.answered c.url result hanswer with ⟨c', hurl, hfinish⟩
    rw [hview] at hcalled
    exact Or.inr ⟨c.url, c', result, hcalled, hurl, hfinish, hdecodes⟩

/-- The image set that `configure()` starts with. -/
def backgrounds : Nat → String := fun _ => "defaultBackground"

/-- The server delivers a picture. -/
def delivered (picture : String) : TaskResult String := ⟨some picture, some ⟨200⟩, none⟩

/-- Two views ask for a picture each, and the second picture comes first. -/
def twoPictures : List (LoopStep (Event String)) :=
  [.event (.downloadImage 1 "cake"), .block, .event (.downloadImage 2 "tea"), .block,
    .event (.finish ⟨1, "tea"⟩ (delivered "tea")), .event (.finish ⟨0, "cake"⟩ (delivered "cake")),
    .block, .block, .block, .block]

/-- The picture of the first view is its own. -/
theorem cake_shown_where_asked :
    (∀ name, name ∉ imageSets → ImageDownloads.server.named name = none) ∧
      ∃ l, (machine ImageDownloads.server backgrounds).run (launched backgrounds) twoPictures =
          some l ∧ l.state.image 1 = "cake" ∧
        (l.state.image 1 = backgrounds 1 ∨
          ∃ url call result, .event (.downloadImage 1 url) ∈ twoPictures ∧ call.url = url ∧
            .event (.finish call result) ∈ twoPictures ∧
            ImageDownloads.Decodes ImageDownloads.server result (l.state.image 1)) := by
  have hrun : ∃ l, (machine ImageDownloads.server backgrounds).run (launched backgrounds)
      twoPictures = some l ∧ l.state.image 1 = "cake" := ⟨_, rfl, rfl⟩
  rcases hrun with ⟨l, hrun, himage⟩
  exact ⟨ImageDownloads.server_named, l, hrun, himage,
    shows_own_download ImageDownloads.server_named hrun 1⟩

/-! ## One view by itself -/

/-- What a block is to a view. -/
def Block.forView (owner : Nat → Nat) (view : Nat) :
    Block Image → Option (FLRegularImageView.Block Image)
  | .loader (.start call) => if owner call.number = view then some (.start call.url) else none
  | .loader (.completed call image) =>
      if owner call.number = view then some (.completed image) else none
  | .setImage v image => if v = view then some (.setImage image) else none

/-- The URLs of the data tasks that run for a view. -/
def downloads (s : ImageViews Image Data) (view : Nat) : List String :=
  (s.loader.tasks.filter fun c => s.owner c.number = view).map DownloadCall.url

/-- The view with what is under way for it; the order of its data tasks is lost. -/
def ViewOf (view : Nat) (l : MainLoop (ImageViews Image Data) (Block Image))
    (t : MainLoop (FLRegularImageView Image) (FLRegularImageView.Block Image)) : Prop :=
  ∃ downloads : List String, downloads.Perm (l.state.downloads view) ∧
    t = ⟨⟨l.state.image view, l.state.loader.cache, downloads⟩,
      l.queue.filterMap (Block.forView l.state.owner view), false⟩

/-- What a step means to a view: its own calls, answers and blocks, and what
happens to the cache. -/
def viewStep (env : ImageDecoding Image Data) (view : Nat)
    (l : MainLoop (ImageViews Image Data) (Block Image)) :
    LoopStep (Event Data) → List (LoopStep (FLRegularImageView.Event Image))
  | .event (.downloadImage v url) => if v = view then [.event (.downloadImage url)] else []
  | .event (.finish call result) =>
      if l.state.owner call.number = view then
        [.event (.finish call.url (ImageDownloads.received env result))]
      else
        match ImageDownloads.received env result with
        | some image => [.event (.setObject image call.url)]
        | none => []
  | .event (.evict url) => [.event (.evict url)]
  | .block =>
      if (l.queue.head?.bind (Block.forView l.state.owner view)).isSome then [.block] else []

section Views

variable {s : ImageViews Image Data} {queue : List (Block Image)} {view : Nat}

theorem callbacks_of_eq {loader : ImageDownloads Image Data}
    (h : loader.completions = s.loader.completions) : s.callbacks loader = [] := by
  rw [callbacks, h, List.drop_length, List.map_nil]

theorem callbacks_complete {loader : ImageDownloads Image Data}
    (h : loader.completions = s.loader.completions) (call : DownloadCall) (image : Image) :
    s.callbacks (loader.complete call image) = [.setImage (s.owner call.number) image] := by
  have hnew : (loader.complete call image).completions =
      s.loader.completions ++ [(call, image)] := by
    rw [← h]
    rfl
  rw [callbacks, hnew, List.drop_left]
  rfl

/-- Blocks of earlier calls stay with their views. -/
theorem forView_call (hmade : ImageDownloads.Made (forget ⟨s, queue, false⟩)) (v : Nat) :
    queue.filterMap (Block.forView (s.call v).owner view) =
      queue.filterMap (Block.forView s.owner view) := by
  apply List.filterMap_congr
  intro b hb
  cases b with
  | setImage => rfl
  | loader b =>
      have hqueued : b ∈ queue.filterMap Block.loader? := List.mem_filterMap.2 ⟨_, hb, rfl⟩
      have howner := owner_call s v (hmade.numbered _ (hmade.queued b hqueued))
      cases b with
      | start call =>
          show (if (s.call v).owner call.number = view then _ else _) = _
          rw [show (s.call v).owner call.number = s.owner call.number from howner]
          rfl
      | completed call image =>
          show (if (s.call v).owner call.number = view then _ else _) = _
          rw [show (s.call v).owner call.number = s.owner call.number from howner]
          rfl

theorem downloads_call (hmade : ImageDownloads.Made (forget ⟨s, queue, false⟩)) (v : Nat) :
    (s.call v).downloads view = s.downloads view := by
  have hfilter : s.loader.tasks.filter (fun c => decide ((s.call v).owner c.number = view)) =
      s.loader.tasks.filter (fun c => decide (s.owner c.number = view)) := by
    apply List.filter_congr
    intro c hc
    rw [owner_call s v (hmade.numbered c (hmade.tasks c hc))]
  exact congrArg (List.map DownloadCall.url) hfilter

/-- A data task of the view has ended. -/
theorem downloads_erase_own {call : DownloadCall} (hcall : call ∈ s.loader.tasks)
    (hown : s.owner call.number = view) {downloads : List String}
    (hperm : downloads.Perm (s.downloads view)) :
    call.url ∈ downloads ∧ (downloads.erase call.url).Perm
      (((s.loader.tasks.erase call).filter fun c => s.owner c.number = view).map
        DownloadCall.url) := by
  have htasks : (s.downloads view).Perm (call.url ::
      ((s.loader.tasks.erase call).filter fun c => s.owner c.number = view).map
        DownloadCall.url) := by
    have herase := ((List.perm_cons_erase hcall).filter fun c => s.owner c.number = view).map
      DownloadCall.url
    rw [List.filter_cons, if_pos (decide_eq_true hown)] at herase
    exact herase
  have hmem : call.url ∈ downloads := (hperm.trans htasks).mem_iff.2 List.mem_cons_self
  have hboth := (List.perm_cons_erase hmem).symm.trans (hperm.trans htasks)
  exact ⟨hmem, hboth.cons_inv⟩

/-- A data task of another view has ended. -/
theorem downloads_erase_other {call : DownloadCall} (hcall : call ∈ s.loader.tasks)
    (hother : s.owner call.number ≠ view) :
    (s.downloads view).Perm (((s.loader.tasks.erase call).filter fun c =>
      s.owner c.number = view).map DownloadCall.url) := by
  have herase := ((List.perm_cons_erase hcall).filter fun c => s.owner c.number = view).map
    DownloadCall.url
  rw [List.filter_cons, if_neg (fun hview => hother (of_decide_eq_true hview))] at herase
  exact herase

end Views

section Steps

variable {env : ImageDecoding Image Data} {imageOf : String → Image} {view : Nat}
  {s : ImageViews Image Data} {queue : List (Block Image)}

/-- The machine of one view. -/
abbrev single (env : ImageDecoding Image Data) (imageOf : String → Image) :=
  FLRegularImageView.machine env.toImageLoading imageOf

/-- The loader has gone on, and the blocks it leaves are taken apart for the view. -/
theorem ViewOf.lifted {loader : ImageDownloads Image Data}
    {deferred : List (ImageDownloads.Block Image)} {l : MainLoop (ImageViews Image Data) _}
    {rest callbacks : List (Block Image)} {downloads : List String}
    {blocks : List (FLRegularImageView.Block Image)}
    (hcallbacks : s.callbacks loader = callbacks)
    (hperm : downloads.Perm (({ s with loader } : ImageViews Image Data).downloads view))
    (hblocks : (deferred.map Block.loader ++ callbacks).filterMap (Block.forView s.owner view) =
      blocks) :
    ViewOf view (l.absorb rest (s.lift (.ok loader deferred)))
      ⟨⟨s.image view, loader.cache, downloads⟩,
        rest.filterMap (Block.forView s.owner view) ++ blocks, false⟩ := by
  refine ⟨downloads, hperm, ?_⟩
  show _ = MainLoop.mk _ ((rest ++ (deferred.map Block.loader ++ s.callbacks loader)).filterMap
    (Block.forView s.owner view)) false
  rw [List.filterMap_append, hcallbacks, hblocks]
  rfl

/-- The loader has gone on, and the view has nothing of it. -/
theorem ViewOf.passed {loader : ImageDownloads Image Data}
    {deferred : List (ImageDownloads.Block Image)} {l : MainLoop (ImageViews Image Data) _}
    {rest callbacks : List (Block Image)} {downloads : List String}
    (hcallbacks : s.callbacks loader = callbacks)
    (hperm : downloads.Perm (({ s with loader } : ImageViews Image Data).downloads view))
    (hblocks : (deferred.map Block.loader ++ callbacks).filterMap (Block.forView s.owner view) =
      []) :
    ViewOf view (l.absorb rest (s.lift (.ok loader deferred)))
      ⟨⟨s.image view, loader.cache, downloads⟩,
        rest.filterMap (Block.forView s.owner view), false⟩ := by
  have hlifted : ViewOf view (l.absorb rest (s.lift (.ok loader deferred)))
      ⟨⟨s.image view, loader.cache, downloads⟩,
        rest.filterMap (Block.forView s.owner view) ++ [], false⟩ :=
    ViewOf.lifted hcallbacks hperm hblocks
  rw [List.append_nil] at hlifted
  exact hlifted

/-- A call on some view. -/
theorem ViewOf.downloadImage {v : Nat} {url : String} {o : Outcome _ (Block Image)}
    {t : MainLoop (FLRegularImageView Image) (FLRegularImageView.Block Image)}
    (h : ViewOf view ⟨s, queue, false⟩ t) (hmade : ImageDownloads.Made (forget ⟨s, queue, false⟩))
    (ho : (handlers env).handle s (.downloadImage v url) = some o) :
    ∃ t', (single env imageOf).run t
        (viewStep env view ⟨s, queue, false⟩ (.event (.downloadImage v url))) = some t' ∧
      ViewOf view (MainLoop.absorb ⟨s, queue, false⟩ queue o) t' := by
  rcases h with ⟨downloads, hperm, rfl⟩
  change downloads.Perm (s.downloads view) at hperm
  rw [← downloads_call hmade v] at hperm
  show ∃ t', (single env imageOf).run ⟨⟨s.image view, s.loader.cache, downloads⟩,
    queue.filterMap (Block.forView s.owner view), false⟩ _ = some t' ∧ _
  rw [← forView_call hmade v, viewStep]
  have howner : (s.call v).owner s.loader.calls.length = v := Function.update_self _ _ _
  -- one block, for the view that made the call
  have hcall : ∀ (b : ImageDownloads.Block Image) (a : FLRegularImageView.Block Image),
      (FLRegularImageView.handlers env.toImageLoading).handle
        ⟨s.image view, s.loader.cache, downloads⟩ (.downloadImage url) =
        some (.ok ⟨s.image view, s.loader.cache, downloads⟩ [a]) →
      (Block.loader b).forView (s.call v).owner view =
        (if (s.call v).owner s.loader.calls.length = view then some a else none) →
      some ((s.call v).lift (.ok { s.loader with
        calls := s.loader.calls ++ [⟨s.loader.calls.length, url⟩] } [b])) = some o →
      ∃ t', (single env imageOf).run ⟨⟨s.image view, s.loader.cache, downloads⟩,
          queue.filterMap (Block.forView (s.call v).owner view), false⟩
          (if v = view then [.event (.downloadImage url)] else []) = some t' ∧
        ViewOf view (MainLoop.absorb ⟨s, queue, false⟩ queue o) t' := by
    intro b a hhandle hb ho
    obtain rfl := Option.some.inj ho
    rw [howner] at hb
    by_cases hv : v = view
    · rw [if_pos hv]
      rw [if_pos hv] at hb
      refine ⟨_, MainLoop.run_event hhandle, ?_⟩
      exact ViewOf.lifted (callbacks_of_eq rfl) hperm (List.filterMap_cons_some hb)
    · rw [if_neg hv]
      rw [if_neg hv] at hb
      refine ⟨_, rfl, ?_⟩
      exact ViewOf.passed (callbacks_of_eq rfl) hperm (List.filterMap_cons_none hb)
  cases hcached : s.loader.cache url with
  | some image =>
      simp only [handlers, ImageDownloads.handlers, hcached] at ho
      refine hcall (.completed ⟨s.loader.calls.length, url⟩ image) (.completed image) ?_ rfl ho
      simp only [FLRegularImageView.handlers, hcached]
  | none =>
      simp only [handlers, ImageDownloads.handlers, hcached] at ho
      refine hcall (.start ⟨s.loader.calls.length, url⟩) (.start url) ?_ rfl ho
      simp only [FLRegularImageView.handlers, hcached]

/-- A call of the view gets the placeholder, or ends the program. -/
theorem ViewOf.placeholder_own {call : DownloadCall} {loader : ImageDownloads Image Data}
    {l : MainLoop (ImageViews Image Data) (Block Image)} {rest : List (Block Image)}
    {t : MainLoop (FLRegularImageView Image) (FLRegularImageView.Block Image)}
    {downloads : List String} (hown : s.owner call.number = view)
    (hcompletions : loader.completions = s.loader.completions)
    (hperm : downloads.Perm (({ s with loader } : ImageViews Image Data).downloads view))
    (hrunning : (l.absorb rest
      (s.lift (ImageDownloads.completePlaceholder env loader call))).trapped = false) :
    ViewOf view (l.absorb rest (s.lift (ImageDownloads.completePlaceholder env loader call)))
      (t.absorb (rest.filterMap (Block.forView s.owner view))
        (FLRegularImageView.placeholder env.toImageLoading
          ⟨s.image view, loader.cache, downloads⟩)) := by
  unfold ImageDownloads.completePlaceholder at hrunning ⊢
  unfold FLRegularImageView.placeholder
  cases hnamed : env.named "avatar-placeholder" with
  | none =>
      rw [hnamed] at hrunning
      cases hrunning
  | some image =>
      refine ViewOf.lifted (callbacks_complete hcompletions call image) hperm ?_
      exact List.filterMap_cons_some (if_pos hown)

/-- A call of another view gets the placeholder, or ends the program. -/
theorem ViewOf.placeholder_other {call : DownloadCall} {loader : ImageDownloads Image Data}
    {l : MainLoop (ImageViews Image Data) (Block Image)} {rest : List (Block Image)}
    {downloads : List String} (hother : s.owner call.number ≠ view)
    (hcompletions : loader.completions = s.loader.completions)
    (hperm : downloads.Perm (({ s with loader } : ImageViews Image Data).downloads view))
    (hrunning : (l.absorb rest
      (s.lift (ImageDownloads.completePlaceholder env loader call))).trapped = false) :
    ViewOf view (l.absorb rest (s.lift (ImageDownloads.completePlaceholder env loader call)))
      ⟨⟨s.image view, loader.cache, downloads⟩,
        rest.filterMap (Block.forView s.owner view), false⟩ := by
  unfold ImageDownloads.completePlaceholder at hrunning ⊢
  cases hnamed : env.named "avatar-placeholder" with
  | none =>
      rw [hnamed] at hrunning
      cases hrunning
  | some image =>
      refine ViewOf.passed (callbacks_complete hcompletions call image) hperm ?_
      exact List.filterMap_cons_none (if_neg hother)

/-- A data task of some view ends. -/
theorem ViewOf.finish {call : DownloadCall} {result : TaskResult Data}
    {o : Outcome _ (Block Image)}
    {t : MainLoop (FLRegularImageView Image) (FLRegularImageView.Block Image)}
    (h : ViewOf view ⟨s, queue, false⟩ t)
    (ho : (handlers env).handle s (.finish call result) = some o) :
    ∃ t', (single env imageOf).run t
        (viewStep env view ⟨s, queue, false⟩ (.event (.finish call result))) = some t' ∧
      ((MainLoop.absorb ⟨s, queue, false⟩ queue o).trapped = false →
        ViewOf view (MainLoop.absorb ⟨s, queue, false⟩ queue o) t') := by
  rcases h with ⟨downloads, hperm, rfl⟩
  change downloads.Perm (s.downloads view) at hperm
  rcases Option.map_eq_some_iff.1 ho with ⟨p, hp, rfl⟩
  by_cases hcall : call ∈ s.loader.tasks
  · rw [viewStep]
    simp only [ImageDownloads.handlers, if_pos hcall] at hp
    by_cases hown : s.owner call.number = view
    · have hdownloads := downloads_erase_own hcall hown hperm
      rw [if_pos hown]
      cases hreceived : ImageDownloads.received env result with
      | some image =>
          rw [hreceived] at hp
          obtain rfl := Option.some.inj hp
          refine ⟨_, MainLoop.run_event (if_pos hdownloads.1), fun _ => ?_⟩
          refine ViewOf.lifted (callbacks_of_eq rfl) hdownloads.2 ?_
          exact List.filterMap_cons_some (if_pos hown)
      | none =>
          rw [hreceived] at hp
          obtain rfl := Option.some.inj hp
          refine ⟨_, MainLoop.run_event (if_pos hdownloads.1), fun hrunning => ?_⟩
          exact ViewOf.placeholder_own hown rfl hdownloads.2 hrunning
    · have hdownloads := hperm.trans (downloads_erase_other hcall hown)
      rw [if_neg hown]
      cases hreceived : ImageDownloads.received env result with
      | some image =>
          rw [hreceived] at hp
          obtain rfl := Option.some.inj hp
          refine ⟨_, MainLoop.run_event rfl, fun _ => ?_⟩
          refine ViewOf.lifted (callbacks_of_eq rfl) hdownloads ?_
          exact List.filterMap_cons_none (if_neg hown)
      | none =>
          rw [hreceived] at hp
          obtain rfl := Option.some.inj hp
          refine ⟨_, rfl, fun hrunning => ?_⟩
          exact ViewOf.placeholder_other hown rfl hdownloads hrunning
  · simp only [ImageDownloads.handlers, if_neg hcall] at hp
    cases hp

/-- The oldest block is the view's own. -/
theorem single_run_own {b : Block Image} {a : FLRegularImageView.Block Image}
    {downloads : List String} (ha : b.forView s.owner view = some a) :
    (single env imageOf).run ⟨⟨s.image view, s.loader.cache, downloads⟩,
        (b :: queue).filterMap (Block.forView s.owner view), false⟩
        (viewStep env view ⟨s, b :: queue, false⟩ .block) =
      some (MainLoop.absorb ⟨⟨s.image view, s.loader.cache, downloads⟩,
        a :: queue.filterMap (Block.forView s.owner view), false⟩
        (queue.filterMap (Block.forView s.owner view))
        ((FLRegularImageView.handlers env.toImageLoading).block
          ⟨s.image view, s.loader.cache, downloads⟩ a)) := by
  have hsome : ((b :: queue).head?.bind (Block.forView s.owner view)).isSome = true := by
    show (b.forView s.owner view).isSome = true
    rw [ha]
    rfl
  rw [viewStep, if_pos hsome, List.filterMap_cons_some ha]
  exact MainLoop.run_block _ a _

/-- The oldest block belongs to another view. -/
theorem single_run_other {b : Block Image} {downloads : List String}
    (hnone : b.forView s.owner view = none) :
    (single env imageOf).run ⟨⟨s.image view, s.loader.cache, downloads⟩,
        (b :: queue).filterMap (Block.forView s.owner view), false⟩
        (viewStep env view ⟨s, b :: queue, false⟩ .block) =
      some ⟨⟨s.image view, s.loader.cache, downloads⟩,
        queue.filterMap (Block.forView s.owner view), false⟩ := by
  have hnot : ¬ ((b :: queue).head?.bind (Block.forView s.owner view)).isSome = true := by
    show ¬ (b.forView s.owner view).isSome = true
    rw [hnone]
    exact Bool.false_ne_true
  rw [viewStep, if_neg hnot, List.filterMap_cons_none hnone]
  rfl

/-- What the block of a call leaves in the downloads of the view. -/
theorem downloads_started (call : DownloadCall) :
    ({ s with loader := { s.loader with tasks := s.loader.tasks ++ [call] } } :
        ImageViews Image Data).downloads view = s.downloads view ++
      ([call].filter fun c => s.owner c.number = view).map DownloadCall.url := by
  show ((s.loader.tasks ++ [call]).filter _).map _ = _
  rw [List.filter_append, List.map_append]
  rfl

/-- The block of a call starts its data task, or the placeholder is delivered. -/
theorem ViewOf.start {call : DownloadCall} {downloads : List String}
    (hperm : downloads.Perm (s.downloads view)) :
    ∃ t', (single env imageOf).run ⟨⟨s.image view, s.loader.cache, downloads⟩,
          (.loader (.start call) :: queue).filterMap (Block.forView s.owner view), false⟩
          (viewStep env view ⟨s, .loader (.start call) :: queue, false⟩ .block) = some t' ∧
      ((MainLoop.absorb ⟨s, .loader (.start call) :: queue, false⟩ queue
          ((handlers env).block s (.loader (.start call)))).trapped = false →
        ViewOf view (MainLoop.absorb ⟨s, .loader (.start call) :: queue, false⟩ queue
          ((handlers env).block s (.loader (.start call)))) t') := by
  show ∃ t', _ ∧ ((MainLoop.absorb ⟨s, .loader (.start call) :: queue, false⟩ queue
    (s.lift (if env.validURL call.url then _ else _))).trapped = false → ViewOf view
      (MainLoop.absorb ⟨s, .loader (.start call) :: queue, false⟩ queue
        (s.lift (if env.validURL call.url then _ else _))) t')
  have htasks : ({ s with loader := { s.loader with tasks := s.loader.tasks ++ [call] } } :
      ImageViews Image Data).downloads view = _ := downloads_started call
  by_cases hview : s.owner call.number = view
  · rw [List.filter_cons, if_pos (decide_eq_true hview)] at htasks
    refine ⟨_, single_run_own (a := .start call.url) (if_pos hview), ?_⟩
    by_cases hvalid : env.validURL call.url = true
    · intro _
      rw [if_pos hvalid]
      simp only [FLRegularImageView.handlers, if_pos hvalid]
      refine ViewOf.lifted (callbacks_of_eq rfl) ?_ rfl
      rw [htasks]
      exact hperm.append_right _
    · rw [if_neg hvalid]
      simp only [FLRegularImageView.handlers, if_neg hvalid]
      intro hrunning
      exact ViewOf.placeholder_own hview rfl hperm hrunning
  · rw [List.filter_cons, if_neg (fun h => hview (of_decide_eq_true h))] at htasks
    refine ⟨_, single_run_other (if_neg hview), ?_⟩
    by_cases hvalid : env.validURL call.url = true
    · intro _
      rw [if_pos hvalid]
      refine ViewOf.passed (callbacks_of_eq rfl) ?_ rfl
      rw [htasks, List.filter_nil, List.map_nil, List.append_nil]
      exact hperm
    · rw [if_neg hvalid]
      intro hrunning
      exact ViewOf.placeholder_other hview rfl hperm hrunning

/-- The oldest block runs. -/
theorem ViewOf.block {b : Block Image}
    {t : MainLoop (FLRegularImageView Image) (FLRegularImageView.Block Image)}
    (h : ViewOf view ⟨s, b :: queue, false⟩ t) :
    ∃ t', (single env imageOf).run t (viewStep env view ⟨s, b :: queue, false⟩ .block) = some t' ∧
      ((MainLoop.absorb ⟨s, b :: queue, false⟩ queue ((handlers env).block s b)).trapped = false →
        ViewOf view (MainLoop.absorb ⟨s, b :: queue, false⟩ queue ((handlers env).block s b))
          t') := by
  rcases h with ⟨downloads, hperm, rfl⟩
  change downloads.Perm (s.downloads view) at hperm
  -- the step is the view's exactly when the block is
  cases b with
  | setImage v i =>
      by_cases hv : v = view
      · subst hv
        refine ⟨_, single_run_own (a := .setImage i) (if_pos rfl), fun _ => ⟨downloads, hperm, ?_⟩⟩
        show MainLoop.mk (FLRegularImageView.mk i _ _) (_ ++ []) _ =
          MainLoop.mk (FLRegularImageView.mk (Function.update s.image v i v) _ _)
            ((queue ++ []).filterMap _) _
        rw [Function.update_self, List.append_nil, List.append_nil]
        rfl
      · refine ⟨_, single_run_other (if_neg hv), fun _ => ⟨downloads, hperm, ?_⟩⟩
        show _ = MainLoop.mk (FLRegularImageView.mk (Function.update s.image v i view) _ _)
          ((queue ++ []).filterMap _) _
        rw [Function.update_of_ne (Ne.symm hv), List.append_nil]
        rfl
  | loader b =>
      cases b with
      | completed call i =>
          by_cases hview : s.owner call.number = view
          · refine ⟨_, single_run_own (a := .completed i) (if_pos hview), fun _ => ?_⟩
            refine ViewOf.lifted (callbacks_complete rfl call i) hperm ?_
            exact List.filterMap_cons_some (if_pos hview)
          · refine ⟨_, single_run_other (if_neg hview), fun _ => ?_⟩
            refine ViewOf.passed (callbacks_complete rfl call i) hperm ?_
            exact List.filterMap_cons_none (if_neg hview)
      | start call => exact ViewOf.start hperm

end Steps

/-- Every view by itself is a `FLRegularImageView`, as long as the app runs. -/
def toView (env : ImageDecoding Image Data) (image : Nat → Image) (imageOf : String → Image)
    (view : Nat) : Simulation (machine env image) (single env imageOf) where
  rel l t := ImageDownloads.Made (forget l) ∧ (l.trapped = false → ViewOf view l t)
  lift := viewStep env view
  init := by
    rintro l rfl
    refine ⟨⟨⟨image view, fun _ => none, []⟩, [], false⟩, ⟨rfl, rfl, rfl, ?_⟩,
      ImageDownloads.Made.init, fun _ => ⟨[], List.Perm.refl _, rfl⟩⟩
    intro url i h
    cases h
  step := by
    rintro ⟨s, queue, trapped⟩ x l' t hstep ⟨hmade, hview⟩
    have hmade' : ImageDownloads.Made (forget l') :=
      EventMachine.run_invariant (fun _ _ _ hs h => h.step hs) (forget_step hstep) hmade
    have hrunning : trapped = false := (MainLoop.step_cases hstep).1
    subst hrunning
    have h := hview rfl
    rcases MainLoop.step_cases hstep with ⟨-, ⟨e, o, rfl, ho, rfl⟩ | ⟨b, rest, rfl, hq, rfl⟩⟩
    · cases e with
      | downloadImage v url =>
          rcases h.downloadImage hmade ho with ⟨t', ht', h'⟩
          exact ⟨t', ht', hmade', fun _ => h'⟩
      | finish call result =>
          rcases h.finish ho with ⟨t', ht', h'⟩
          exact ⟨t', ht', hmade', h'⟩
      | evict url =>
          obtain rfl := Option.some.inj ho
          rcases h with ⟨downloads, hperm, rfl⟩
          refine ⟨_, MainLoop.run_event rfl, hmade', fun _ => ?_⟩
          exact ViewOf.lifted (callbacks_of_eq rfl) hperm rfl
    · obtain rfl : queue = b :: rest := hq
      rcases h.block with ⟨t', ht', h'⟩
      exact ⟨t', ht', hmade', h'⟩

/-- A view on its own screen, before any call. -/
def alone (image : Image) : MainLoop (FLRegularImageView Image) (FLRegularImageView.Block Image) :=
  .start ⟨image, fun _ => none, []⟩ []

theorem toView_launched (env : ImageDecoding Image Data) (image : Nat → Image)
    (imageOf : String → Image) (view : Nat) :
    (toView env image imageOf view).rel (launched image) (alone (image view)) :=
  ⟨ImageDownloads.Made.init, fun _ => ⟨[], List.Perm.refl _, rfl⟩⟩

/-- However the calls, answers and blocks of the views are mixed, each view goes
through a run of its own. -/
theorem view_refines_regularImageView {env : ImageDecoding Image Data} {image : Nat → Image}
    {l : MainLoop (ImageViews Image Data) (Block Image)} {xs : List (LoopStep (Event Data))}
    (hrun : (machine env image).run (launched image) xs = some l) (hrunning : l.trapped = false)
    (imageOf : String → Image) (view : Nat) :
    ∃ t, (FLRegularImageView.machine env.toImageLoading imageOf).run (alone (image view))
        ((machine env image).trace (viewStep env view) (launched image) xs) = some t ∧
      ViewOf view l t := by
  rcases (toView env image imageOf view).run hrun (toView_launched env image imageOf view) with
    ⟨t, ht, -, hview⟩
  exact ⟨t, ht, hview hrunning⟩

/-- The first of two views has a run of its own. -/
theorem cake_view_refines :
    ∃ l, (machine ImageDownloads.server backgrounds).run (launched backgrounds) twoPictures =
        some l ∧ l.trapped = false ∧
      ∃ t, (FLRegularImageView.machine ImageDownloads.server.toImageLoading id).run
          (alone "defaultBackground")
          ((machine ImageDownloads.server backgrounds).trace (viewStep ImageDownloads.server 1)
            (launched backgrounds) twoPictures) = some t ∧ ViewOf 1 l t := by
  have hrun : ∃ l, (machine ImageDownloads.server backgrounds).run (launched backgrounds)
      twoPictures = some l ∧ l.trapped = false := ⟨_, rfl, rfl⟩
  rcases hrun with ⟨l, hrun, hrunning⟩
  exact ⟨l, hrun, hrunning, view_refines_regularImageView hrun hrunning id 1⟩

/-! ## When everything has come to rest -/

/-- The app runs, and nothing is under way. -/
structure Settled (l : MainLoop (ImageViews Image Data) (Block Image)) : Prop where
  running : l.trapped = false
  tasks : l.state.loader.tasks = []
  drained : l.Drained

/-- URLs are valid, and a data task delivers the image of its URL. -/
def Succeeds (env : ImageDecoding Image Data) (imageOf : String → Image) :
    LoopStep (Event Data) → Prop
  | .event (.downloadImage _ url) => env.validURL url = true
  | .event (.finish call result) => ImageDownloads.received env result = some (imageOf call.url)
  | _ => True

/-- The calls and answers of one view. -/
def loggedOn (view : Nat) (l : MainLoop (ImageViews Image Data) (Block Image)) :
    LoopStep (Event Data) → List FLRegularImageView.Log
  | .event (.downloadImage v url) =>
      if v = view then
        if (l.state.loader.cache url).isSome then [.called url, .answered url] else [.called url]
      else []
  | .event (.finish call _) =>
      if l.state.owner call.number = view then [.answered call.url] else []
  | _ => []

section Settling

variable {env : ImageDecoding Image Data} {image : Nat → Image} {imageOf : String → Image}
  {view : Nat} {l : MainLoop (ImageViews Image Data) (Block Image)}
  {t : MainLoop (FLRegularImageView Image) (FLRegularImageView.Block Image)}

/-- What the view logs by itself is its part of the log. -/
theorem trace_logged (hview : ViewOf view l t) (x : LoopStep (Event Data)) :
    (single env imageOf).trace FLRegularImageView.logged t (viewStep env view l x) =
      loggedOn view l x := by
  rcases hview with ⟨downloads, -, rfl⟩
  cases x with
  | block =>
      rw [viewStep]
      split
      · exact EventMachine.trace_singleton _ _ _
      · rfl
  | event e =>
      cases e with
      | downloadImage v url =>
          rw [viewStep, loggedOn]
          by_cases hv : v = view
          · rw [if_pos hv, if_pos hv]
            exact EventMachine.trace_singleton _ _ _
          · rw [if_neg hv, if_neg hv]
            rfl
      | finish call result =>
          rw [viewStep, loggedOn]
          by_cases hown : l.state.owner call.number = view
          · rw [if_pos hown, if_pos hown]
            exact EventMachine.trace_singleton _ _ _
          · rw [if_neg hown, if_neg hown]
            split
            · exact EventMachine.trace_singleton _ _ _
            · rfl
      | evict url => exact EventMachine.trace_singleton _ _ _

/-- What succeeds, succeeds for the view. -/
theorem succeeds_viewStep {x : LoopStep (Event Data)} (hx : Succeeds env imageOf x) :
    ∀ y ∈ viewStep env view l x,
      FLRegularImageView.Succeeds env.toImageLoading imageOf y := by
  intro y hy
  cases x with
  | block =>
      rw [viewStep] at hy
      split at hy
      · rw [List.mem_singleton.1 hy]
        trivial
      · cases hy
  | event e =>
      cases e with
      | downloadImage v url =>
          rw [viewStep] at hy
          split at hy
          · rw [List.mem_singleton.1 hy]
            exact hx
          · cases hy
      | finish call result =>
          have hreceived : ImageDownloads.received env result = some (imageOf call.url) := hx
          rw [viewStep, hreceived] at hy
          split at hy
          · rw [List.mem_singleton.1 hy]
            rfl
          · rw [List.mem_singleton.1 hy]
            rfl
      | evict url =>
          rw [List.mem_singleton.1 hy]
          trivial

/-- When everything has come to rest, every view on which something was asked for
shows the image of the one of its own calls that was answered last, whatever the
other views asked for. -/
theorem settled_view_shows_own_answer {xs : List (LoopStep (Event Data))} {url : String}
    (hrun : (machine env image).run (launched image) xs = some l)
    (hxs : ∀ x ∈ xs, Succeeds env imageOf x) (hsettled : Settled l)
    (hlast : FLRegularImageView.lastCalled
      ((machine env image).trace (loggedOn view) (launched image) xs) = some url) :
    ∃ u, FLRegularImageView.lastAnswered
        ((machine env image).trace (loggedOn view) (launched image) xs) = some u ∧
      l.state.image view = imageOf u := by
  have hrel := toView_launched env image imageOf view
  rcases (toView env image imageOf view).run hrun hrel with ⟨t, ht, -, hview⟩
  rcases hview hsettled.running with ⟨downloads, hperm, rfl⟩
  -- the view's own run, with its part of the log
  have hlog := (toView env image imageOf view).trace
    (fun l x l' t hstep h => trace_logged (h.2 (MainLoop.step_cases hstep).1) x) hrun hrel
  have halong : (single env imageOf).Along
      (fun _ y _ => FLRegularImageView.Succeeds env.toImageLoading imageOf y) (alone (image view))
      ((machine env image).trace (viewStep env view) (launched image) xs) :=
    (toView env image imageOf view).along
      (fun l x l' t _ _ hx => EventMachine.along_of_forall (succeeds_viewStep hx)) hrun hrel
      (EventMachine.along_of_forall hxs)
  have hinit : FLRegularImageView.Initial imageOf (alone (image view)) := by
    refine ⟨rfl, rfl, rfl, ?_⟩
    intro u i h
    cases h
  have htracks : FLRegularImageView.Tracks env.toImageLoading imageOf _ ([] ++ _) :=
    EventMachine.trace_invariant
      (fun _ _ _ _ hstep hx h => FLRegularImageView.Tracks.step hstep hx h) ht halong
      (FLRegularImageView.Tracks.init hinit)
  rw [List.nil_append, hlog] at htracks
  -- nothing is under way for the view
  have hqueue : l.queue = [] := hsettled.drained
  have hdownloads : downloads = [] := by
    have hnone : l.state.downloads view = [] := by
      rw [ImageViews.downloads, hsettled.tasks]
      rfl
    rw [hnone] at hperm
    exact hperm.eq_nil
  have hanswered := htracks.answered url hlast
  have heventual := htracks.eventual
  rw [hqueue] at hanswered heventual
  rcases hanswered with hsome | hbusy | ⟨u, hu⟩
  · rcases Option.isSome_iff_exists.1 hsome with ⟨u, hu⟩
    exact ⟨u, hu, heventual u hu⟩
  · exact absurd hdownloads hbusy
  · cases hu

end Settling

theorem twoPictures_succeed : ∀ x ∈ twoPictures, Succeeds ImageDownloads.server id x := by
  intro x hx
  simp only [twoPictures, List.mem_cons, List.not_mem_nil, or_false] at hx
  rcases hx with rfl | rfl | rfl | rfl | rfl | rfl | rfl | rfl | rfl | rfl <;>
    first | exact trivial | exact rfl

/-- Both views have their pictures. -/
theorem two_pictures_settled :
    ∃ l, (machine ImageDownloads.server backgrounds).run (launched backgrounds) twoPictures =
        some l ∧ Settled l ∧
      ∃ u, FLRegularImageView.lastAnswered ((machine ImageDownloads.server backgrounds).trace
          (loggedOn 2) (launched backgrounds) twoPictures) = some u ∧ l.state.image 2 = id u := by
  have hrun : ∃ l, (machine ImageDownloads.server backgrounds).run (launched backgrounds)
      twoPictures = some l ∧ Settled l := ⟨_, rfl, rfl, rfl, rfl⟩
  have hlast : FLRegularImageView.lastCalled ((machine ImageDownloads.server backgrounds).trace
      (loggedOn 2) (launched backgrounds) twoPictures) = some "tea" := by decide
  rcases hrun with ⟨l, hrun, hsettled⟩
  exact ⟨l, hrun, hsettled,
    settled_view_shows_own_answer hrun twoPictures_succeed hsettled hlast⟩

end ImageViews

end FancyLife
