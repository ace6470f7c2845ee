import FancyLife.Lib.MainLoop

/-! # FLRegularImageView

A reused image view and the image cache behind it. Every image reaches the view
through one or two blocks on the main queue, and none of them remembers for
which call of `downloadImage(fromURL:)` it was made: the answer that comes last
stays on the screen.
-/

namespace FancyLife

/-- What the image loader asks the system for. -/
structure ImageLoading (Image : Type) where
  /-- `URL(string: url)` is not nil. -/
  validURL : String → Bool
  /-- `UIImage(named: name)`. -/
  named : String → Option Image

/-- A cache that is written with a right image stays right. -/
theorem cache_update {Image : Type} {Right : String → Image → Prop}
    {cache : String → Option Image} (h : ∀ url i, cache url = some i → Right url i) (url : String)
    (entry : Option Image) (hentry : ∀ i, entry = some i → Right url i) :
    ∀ u i, Function.update cache url entry u = some i → Right u i := by
  intro u i hu
  by_cases hurl : u = url
  · subst hurl
    rw [Function.update_self] at hu
    exact hentry i hu
  · rw [Function.update_of_ne hurl] at hu
    exact h u i hu

/-- One image view, the cache of `FirestoreManager.shared`, and the URLs of the
data tasks that run for the view. -/
structure FLRegularImageView (Image : Type) where
  image : Image
  cache : String → Option Image
  downloads : List String

namespace FLRegularImageView

variable {Image : Type}

/-- A call on the view; a data task ends, with the image that it decodes from a
200 response or with none; a data task of any view writes the cache; the cache
drops an entry. -/
inductive Event (Image : Type) where
  | downloadImage (url : String)
  | finish (url : String) (decoded : Option Image)
  | setObject (image : Image) (url : String)
  | evict (url : String)

/-- The blocks on the main queue: start a data task, call `completed`, and
`self.image = image`. -/
inductive Block (Image : Type) where
  | start (url : String)
  | completed (image : Image)
  | setImage (image : Image)

/-- `completed(UIImage(named: "avatar-placeholder")!)`. -/
def placeholder (env : ImageLoading Image) (s : FLRegularImageView Image) :
    Outcome (FLRegularImageView Image) (Block Image) :=
  match env.named "avatar-placeholder" with
  | some image => .ok s [.setImage image]
  | none => .trap

/-- `downloadImage(fromURL:)` on the view, with `downloadImage(from:)` of the
manager and the closures of both. -/
def handlers (env : ImageLoading Image) :
    Handlers (FLRegularImageView Image) (Event Image) (Block Image) where
  handle s
    | .downloadImage url =>
        match s.cache url with
        | some image => some (.ok s [.completed image])
        | none => some (.ok s [.start url])
    | .finish url decoded =>
        if url ∈ s.downloads then
          match decoded with
          | some image =>
              some (.ok { s with
                downloads := s.downloads.erase url
                cache := Function.update s.cache url (some image) } [.completed image])
          | none => some (placeholder env { s with downloads := s.downloads.erase url })
        else none
    | .setObject image url =>
        some (.ok { s with cache := Function.update s.cache url (some image) } [])
    | .evict url => some (.ok { s with cache := Function.update s.cache url none } [])
  block s
    | .start url =>
        if env.validURL url then .ok { s with downloads := s.downloads ++ [url] } []
        else placeholder env s
    | .completed image => .ok s [.setImage image]
    | .setImage image => .ok { s with image } []

/-! ## Calls and answers -/

/-- A call is answered at once when its URL is cached, and otherwise when its
download has finished. -/
inductive Log where
  | called (url : String)
  | answered (url : String)
deriving DecidableEq

def logged (l : MainLoop (FLRegularImageView Image) (Block Image)) :
    LoopStep (Event Image) → List Log
  | .event (.downloadImage url) =>
      if (l.state.cache url).isSome then [.called url, .answered url] else [.called url]
  | .event (.finish url _) => [.answered url]
  | _ => []

/-- The URL of the last call. -/
def lastCalled (log : List Log) : Option String :=
  (log.filterMap fun | .called url => some url | _ => none).getLast?

/-- The URL of the call that was answered last. -/
def lastAnswered (log : List Log) : Option String :=
  (log.filterMap fun | .answered url => some url | _ => none).getLast?

@[simp] theorem lastAnswered_answered (log : List Log) (url : String) :
    lastAnswered (log ++ [.answered url]) = some url := by
  simp [lastAnswered]

@[simp] theorem lastAnswered_called (log : List Log) (url : String) :
    lastAnswered (log ++ [.called url]) = lastAnswered log := by
  simp [lastAnswered]

/-! ## The image to come -/

/-- The image that the view shows when the queue has been drained: that of the
last `completed` block, or else of the last `setImage` block. -/
def eventual (image : Image) (queue : List (Block Image)) : Image :=
  ((queue.filterMap fun | .completed i => some i | _ => none).getLast?).getD
    (((queue.filterMap fun | .setImage i => some i | _ => none).getLast?).getD image)

variable (image a : Image) (url : String) (queue : List (Block Image))

@[simp] theorem eventual_start : eventual image (queue ++ [.start url]) = eventual image queue := by
  simp [eventual]

@[simp] theorem eventual_completed : eventual image (queue ++ [.completed a]) = a := by
  simp [eventual]

@[simp] theorem eventual_start_cons :
    eventual image (.start url :: queue) = eventual image queue := by
  simp [eventual]

@[simp] theorem eventual_setImage_cons :
    eventual image (.setImage a :: queue) = eventual a queue := by
  simp [eventual, List.getLast?_cons]

/-- Running a `completed` block moves its image to the end of the queue. -/
theorem eventual_completed_cons :
    eventual image (.completed a :: queue) = eventual image (queue ++ [.setImage a]) := by
  simp only [eventual, List.filterMap_cons, List.filterMap_append, List.filterMap_nil,
    List.append_nil, List.getLast?_cons, List.getLast?_append]
  cases (queue.filterMap fun | .completed i => some i | _ => none).getLast? <;> rfl

/-! ## Successful downloads -/

section Downloads

variable (env : ImageLoading Image) (imageOf : String → Image)

/-- A view with nothing under way, and a cache of images from their URLs. -/
def Initial (l : MainLoop (FLRegularImageView Image) (Block Image)) : Prop :=
  l.state.downloads = [] ∧ l.queue = [] ∧ l.trapped = false ∧
    ∀ url i, l.state.cache url = some i → i = imageOf url

def machine : EventMachine (MainLoop (FLRegularImageView Image) (Block Image))
    (LoopStep (Event Image)) :=
  MainLoop.machine (handlers env) (Initial imageOf)

/-- URLs are valid, and every download delivers the image of its URL. -/
def Succeeds : LoopStep (Event Image) → Prop
  | .event (.downloadImage url) => env.validURL url = true
  | .event (.finish url decoded) => decoded = some (imageOf url)
  | .event (.setObject i url) => i = imageOf url
  | _ => True

/-- All downloads have completed and the main queue is drained. -/
def Quiet (l : MainLoop (FLRegularImageView Image) (Block Image)) : Prop :=
  l.state.downloads = [] ∧ l.Drained

/-- What holds along successful runs: the image to come is the one of the call
that was answered last, and every call is answered or under way. -/
structure Tracks (l : MainLoop (FLRegularImageView Image) (Block Image)) (log : List Log) :
    Prop where
  trapped : l.trapped = false
  cache : ∀ url i, l.state.cache url = some i → i = imageOf url
  valid : ∀ url, .start url ∈ l.queue → env.validURL url = true
  eventual : ∀ url, lastAnswered log = some url →
    eventual l.state.image l.queue = imageOf url
  answered : ∀ url, lastCalled log = some url →
    (lastAnswered log).isSome ∨ l.state.downloads ≠ [] ∨ ∃ u, .start u ∈ l.queue

variable {env imageOf}

theorem Tracks.init {l : MainLoop (FLRegularImageView Image) (Block Image)}
    (h : Initial imageOf l) : Tracks env imageOf l [] := by
  rcases h with ⟨-, hqueue, htrapped, hcache⟩
  refine ⟨htrapped, hcache, ?_, ?_, ?_⟩
  · intro url hstart
    rw [hqueue] at hstart
    cases hstart
  · intro url h
    cases h
  · intro url h
    cases h

variable {s : FLRegularImageView Image} {queue : List (Block Image)} {log : List Log}

/-- An answer with the image of its URL decides the image to come, whatever was
called and answered before. -/
theorem Tracks.answer (hvalid : ∀ u, .start u ∈ queue → env.validURL u = true)
    (hcache : ∀ u i, s.cache u = some i → i = imageOf u) (url : String) :
    Tracks env imageOf ⟨s, queue ++ [.completed (imageOf url)], false⟩
      (log ++ [.answered url]) := by
  refine ⟨rfl, hcache, ?_, ?_, ?_⟩
  · intro u hu
    rcases List.mem_append.1 hu with hu | hu
    · exact hvalid u hu
    · cases List.mem_singleton.1 hu
  · intro u hu
    rw [lastAnswered_answered] at hu
    rw [← Option.some.inj hu]
    exact eventual_completed s.image (imageOf url) queue
  · intro u _
    left
    rw [lastAnswered_answered]
    rfl

/-- A call whose URL is not cached puts its download on the queue. -/
theorem Tracks.call (h : Tracks env imageOf ⟨s, queue, false⟩ log) {url : String}
    (hurl : env.validURL url = true) :
    Tracks env imageOf ⟨s, queue ++ [.start url], false⟩ (log ++ [.called url]) := by
  refine ⟨rfl, h.cache, ?_, ?_, ?_⟩
  · intro u hu
    rcases List.mem_append.1 hu with hu | hu
    · exact h.valid u hu
    · rw [Block.start.inj (List.mem_singleton.1 hu)]
      exact hurl
  · intro u hu
    rw [lastAnswered_called] at hu
    rw [eventual_start]
    exact h.eventual u hu
  · intro u _
    exact Or.inr (Or.inr ⟨url, List.mem_append_right _ (List.mem_singleton_self _)⟩)

/-- The oldest block runs. -/
theorem Tracks.block {b : Block Image} (h : Tracks env imageOf ⟨s, b :: queue, false⟩ log) :
    ∃ s' ds, (handlers env).block s b = .ok s' ds ∧
      Tracks env imageOf ⟨s', queue ++ ds, false⟩ log := by
  have hvalid : ∀ u, .start u ∈ queue → env.validURL u = true :=
    fun u hu => h.valid u (List.mem_cons_of_mem b hu)
  -- a call that waits for its download to start still waits, if another block runs
  have hanswered : (∀ url, b ≠ .start url) → ∀ u, lastCalled log = some u →
      (lastAnswered log).isSome ∨ s.downloads ≠ [] ∨ ∃ v, .start v ∈ queue := by
    intro hb u hu
    rcases h.answered u hu with hdone | hdownloads | ⟨v, hv⟩
    · exact Or.inl hdone
    · exact Or.inr (Or.inl hdownloads)
    · rcases List.mem_cons.1 hv with hv | hv
      · exact absurd hv.symm (hb v)
      · exact Or.inr (Or.inr ⟨v, hv⟩)
  cases b with
  | start url =>
      have hurl : env.validURL url = true := h.valid url List.mem_cons_self
      -- the call is now a download instead of a block
      refine ⟨{ s with downloads := s.downloads ++ [url] }, [], ?_, ?_⟩
      · simp [handlers, hurl]
      · rw [List.append_nil]
        refine ⟨rfl, h.cache, hvalid, ?_, ?_⟩
        · intro u hu
          rw [← h.eventual u hu]
          exact (eventual_start_cons s.image url queue).symm
        · intro u _
          exact Or.inr (Or.inl (List.append_ne_nil_of_right_ne_nil _ (List.cons_ne_nil _ _)))
  | completed i =>
      -- the image moves to the end of the queue, behind no later `completed`
      refine ⟨s, [.setImage i], rfl, rfl, h.cache, ?_, ?_, ?_⟩
      · intro u hu
        rcases List.mem_append.1 hu with hu | hu
        · exact hvalid u hu
        · cases List.mem_singleton.1 hu
      · intro u hu
        rw [← h.eventual u hu]
        exact (eventual_completed_cons s.image i queue).symm
      · intro u hu
        rcases hanswered (fun url heq => by cases heq) u hu with hdone | hdownloads | ⟨v, hv⟩
        · exact Or.inl hdone
        · exact Or.inr (Or.inl hdownloads)
        · exact Or.inr (Or.inr ⟨v, List.mem_append_left _ hv⟩)
  | setImage i =>
      refine ⟨{ s with image := i }, [], rfl, ?_⟩
      rw [List.append_nil]
      refine ⟨rfl, h.cache, hvalid, ?_, ?_⟩
      · intro u hu
        rw [← h.eventual u hu]
        exact (eventual_setImage_cons s.image i queue).symm
      · exact hanswered fun url heq => by cases heq

/-- A change of the cache alone. -/
theorem Tracks.cached (h : Tracks env imageOf ⟨s, queue, false⟩ log)
    {cache : String → Option Image} (hcache : ∀ u i, cache u = some i → i = imageOf u) :
    Tracks env imageOf ⟨{ s with cache }, queue, false⟩ log :=
  ⟨rfl, hcache, h.valid, h.eventual, h.answered⟩

/-- Step lemma. -/
theorem Tracks.step {l l' : MainLoop (FLRegularImageView Image) (Block Image)}
    {x : LoopStep (Event Image)} (hstep : (machine env imageOf).step l x = some l')
    (hx : Succeeds env imageOf x) (h : Tracks env imageOf l log) :
    Tracks env imageOf l' (log ++ logged l x) := by
  rcases l with ⟨s, queue, trapped⟩
  obtain rfl : trapped = false := h.trapped
  rcases MainLoop.step_cases hstep with ⟨-, ⟨e, o, rfl, ho, rfl⟩ | ⟨b, rest, rfl, hq, rfl⟩⟩
  · cases e with
    | downloadImage url =>
        simp only [handlers] at ho
        cases hcached : s.cache url with
        | some i =>
            -- answered from the cache
            rw [hcached] at ho
            obtain rfl := Option.some.inj ho
            obtain rfl := h.cache url i hcached
            have hlog : logged (⟨s, queue, false⟩ : MainLoop (FLRegularImageView Image) _)
                (.event (.downloadImage url)) = [.called url] ++ [.answered url] := by
              simp [logged, hcached]
            rw [hlog, ← List.append_assoc]
            exact Tracks.answer h.valid h.cache url
        | none =>
            -- not cached, so a download starts
            rw [hcached] at ho
            obtain rfl := Option.some.inj ho
            have hlog : logged (⟨s, queue, false⟩ : MainLoop (FLRegularImageView Image) _)
                (.event (.downloadImage url)) = [.called url] := by
              simp [logged, hcached]
            rw [hlog]
            exact h.call hx
    | finish url decoded =>
        -- the image is stored in the cache and handed on
        obtain rfl : decoded = some (imageOf url) := hx
        simp only [handlers] at ho
        split at ho
        · obtain rfl := Option.some.inj ho
          exact Tracks.answer h.valid
            (cache_update h.cache url _ fun i hi => (Option.some.inj hi).symm) url
        · cases ho
    | setObject i url =>
        obtain rfl : i = imageOf url := hx
        obtain rfl := Option.some.inj ho
        show Tracks env imageOf ⟨_, queue ++ [], false⟩ (log ++ [])
        rw [List.append_nil, List.append_nil]
        exact h.cached (cache_update h.cache url _ fun i hi => (Option.some.inj hi).symm)
    | evict url =>
        obtain rfl := Option.some.inj ho
        show Tracks env imageOf ⟨_, queue ++ [], false⟩ (log ++ [])
        rw [List.append_nil, List.append_nil]
        exact h.cached (cache_update h.cache url none fun i hi => by cases hi)
  · -- blocks are not logged
    obtain rfl : queue = b :: rest := hq
    rcases h.block with ⟨s', ds, hblock, htracks⟩
    show Tracks env imageOf (MainLoop.absorb _ rest ((handlers env).block s b)) (log ++ [])
    rw [hblock, List.append_nil]
    exact htracks

/-- Run lemma. -/
theorem Tracks.run {l₀ l : MainLoop (FLRegularImageView Image) (Block Image)}
    {xs : List (LoopStep (Event Image))} (hinit : Initial imageOf l₀)
    (hxs : ∀ x ∈ xs, Succeeds env imageOf x) (hrun : (machine env imageOf).run l₀ xs = some l) :
    Tracks env imageOf l ((machine env imageOf).trace logged l₀ xs) :=
  EventMachine.trace_invariant (fun _ _ _ _ hstep hx h => Tracks.step hstep hx h) hrun
    (EventMachine.along_of_forall hxs) (Tracks.init hinit)

/-- When all downloads have completed and the main queue is drained, the view
shows the image of the last call exactly when the call that was answered last
asked for that image. -/
theorem shows_last_call_iff {l₀ l : MainLoop (FLRegularImageView Image) (Block Image)}
    {xs : List (LoopStep (Event Image))} (hinit : Initial imageOf l₀)
    (hxs : ∀ x ∈ xs, Succeeds env imageOf x) (hrun : (machine env imageOf).run l₀ xs = some l)
    (hquiet : Quiet l) {u : String}
    (hlast : lastCalled ((machine env imageOf).trace logged l₀ xs) = some u) :
    l.state.image = imageOf u ↔
      ∃ v, lastAnswered ((machine env imageOf).trace logged l₀ xs) = some v ∧
        imageOf v = imageOf u := by
  have htracks := Tracks.run hinit hxs hrun
  rcases hquiet with ⟨hdownloads, hqueue⟩
  have hanswered : (lastAnswered ((machine env imageOf).trace logged l₀ xs)).isSome := by
    rcases htracks.answered u hlast with hdone | hbusy | ⟨v, hv⟩
    · exact hdone
    · exact absurd hdownloads hbusy
    · rw [show l.queue = [] from hqueue] at hv
      cases hv
  rcases Option.isSome_iff_exists.1 hanswered with ⟨v, hv⟩
  -- nothing is to come any more
  have himage : l.state.image = imageOf v := by
    have heventual := htracks.eventual v hv
    rw [show l.queue = [] from hqueue] at heventual
    exact heventual
  rw [himage, hv]
  constructor
  · intro h
    exact ⟨v, rfl, h⟩
  · rintro ⟨w, hw, h⟩
    rw [Option.some.inj hw]
    exact h

end Downloads

/-! ## Two rows share a view -/

/-- All URLs are valid, and an image is named by its URL. -/
def gallery : ImageLoading String := ⟨fun _ => true, some⟩

/-- A view with an empty cache. -/
def reused : MainLoop (FLRegularImageView String) (Block String) :=
  .start ⟨"default-background", fun _ => none, []⟩ []

theorem reused_initial : Initial id reused := by
  refine ⟨rfl, rfl, rfl, ?_⟩
  intro url i h
  cases h

/-- Two calls of a reused cell, whose downloads finish in the order `first`,
`second`. -/
def twoCalls (first second : String) : List (LoopStep (Event String)) :=
  [.event (.downloadImage "a"), .block, .event (.downloadImage "b"), .block,
    .event (.finish first (some first)), .event (.finish second (some second)),
    .block, .block, .block, .block]

theorem twoCalls_succeed (first second : String) :
    ∀ x ∈ twoCalls first second, Succeeds gallery id x := by
  intro x hx
  simp only [twoCalls, List.mem_cons, List.not_mem_nil, or_false] at hx
  rcases hx with rfl | rfl | rfl | rfl | rfl | rfl | rfl | rfl | rfl | rfl <;>
    first | exact rfl | exact trivial

/-- The first download finishes last, and its image stays in the second row. -/
theorem late_download_replaces_image :
    Initial id reused ∧ (∀ x ∈ twoCalls "b" "a", Succeeds gallery id x) ∧
      ∃ l, (machine gallery id).run reused (twoCalls "b" "a") = some l ∧ Quiet l ∧
        lastCalled ((machine gallery id).trace logged reused (twoCalls "b" "a")) = some "b" ∧
        l.state.image ≠ id "b" :=
  ⟨reused_initial, twoCalls_succeed "b" "a", _, rfl, ⟨by decide, rfl⟩, by decide, by decide⟩

/-- In the order of the calls, the view shows the second image. -/
theorem downloads_in_order_show_last :
    ∃ l, (machine gallery id).run reused (twoCalls "a" "b") = some l ∧
      l.state.image = id "b" := by
  have hrun : ∃ l, (machine gallery id).run reused (twoCalls "a" "b") = some l ∧ Quiet l :=
    ⟨_, rfl, by decide, rfl⟩
  rcases hrun with ⟨l, hrun, hquiet⟩
  refine ⟨l, hrun, ?_⟩
  apply (shows_last_call_iff reused_initial (twoCalls_succeed "a" "b") hrun hquiet
    (by decide)).2
  exact ⟨"b", by decide, rfl⟩

end FLRegularImageView

end FancyLife
