import FancyLife.ImageView
import Mathlib.Data.List.Nodup

/-! # FirestoreManager.downloadImage

The calls of all views on one loader with its cache. A call is answered from the
cache, after its download, or with a placeholder; the placeholder is looked up
under a name that the asset catalog does not have.
-/

namespace FancyLife

/-- The image sets of Assets.xcassets. -/
def imageSets : List String :=
  ["Email", "FB", "Google", "account", "addToCart", "addToCartClick",
    "addToCartClickWithSymbol", "addToCartSuccess", "addToCartWithSymbol", "back", "buy",
    "buyClick", "cart", "defaultBackground", "delete", "entry", "fooddrink", "fun", "getTicket",
    "get_disable", "heart", "home", "line", "location", "lock", "moreTicket", "person",
    "placeholderImage", "redHeart", "searchBackground", "searchBar", "searchCut", "share",
    "shengxian", "shop", "smallHeart", "smallRedHeart", "star", "ticket", "travel", "wallet"]

theorem placeholder_not_imageSet : "avatar-placeholder" ∉ imageSets := by decide

/-- What the loader asks the system for, `UIImage(data:)` included. -/
structure ImageDecoding (Image Data : Type) extends ImageLoading Image where
  decode : Data → Option Image

structure HTTPURLResponse where
  statusCode : Int
deriving DecidableEq

/-- What a data task calls its closure with; `response` is `nil` unless it is an
HTTP response. -/
structure TaskResult (Data : Type) where
  data : Option Data
  response : Option HTTPURLResponse
  error : Option String
deriving DecidableEq

/-- A call of `downloadImage(from:)`, numbered in the order of the calls. -/
structure DownloadCall where
  number : Nat
  url : String
deriving DecidableEq

/-- The cache, the data tasks that run, and what has happened so far: the calls,
the answers of the network, and the completions that were invoked. -/
structure ImageDownloads (Image Data : Type) where
  cache : String → Option Image
  tasks : List DownloadCall
  calls : List DownloadCall
  answers : List (String × TaskResult Data)
  completions : List (DownloadCall × Image)

namespace ImageDownloads

variable {Image Data : Type}

/-- A call; the data task of a call ends; the cache drops an entry. -/
inductive Event (Data : Type) where
  | downloadImage (url : String)
  | finish (call : DownloadCall) (result : TaskResult Data)
  | evict (url : String)

/-- The blocks on the main queue: start the data task of a call, and call
`completed`. -/
inductive Block (Image : Type) where
  | start (call : DownloadCall)
  | completed (call : DownloadCall) (image : Image)

/-- The guard of the data task's closure; `self` is the shared manager, which is
never released. -/
def received (env : ImageDecoding Image Data) (result : TaskResult Data) : Option Image :=
  match result.error, result.response, result.data with
  | none, some response, some data =>
      if response.statusCode = 200 then env.decode data else none
  | _, _, _ => none

/-- `completed(image)` for a call. -/
def complete (s : ImageDownloads Image Data) (call : DownloadCall) (image : Image) :
    ImageDownloads Image Data :=
  { s with completions := s.completions ++ [(call, image)] }

/-- `completed(UIImage(named: "avatar-placeholder")!)`. -/
def completePlaceholder (env : ImageDecoding Image Data) (s : ImageDownloads Image Data)
    (call : DownloadCall) : Outcome (ImageDownloads Image Data) (Block Image) :=
  match env.named "avatar-placeholder" with
  | some image => .ok (s.complete call image) []
  | none => .trap

/-- `downloadImage(from:completed:)` and its closures. -/
def handlers (env : ImageDecoding Image Data) :
    Handlers (ImageDownloads Image Data) (Event Data) (Block Image) where
  handle s
    | .downloadImage url =>
        let call : DownloadCall := ⟨s.calls.length, url⟩
        match s.cache url with
        | some image => some (.ok { s with calls := s.calls ++ [call] } [.completed call image])
        | none => some (.ok { s with calls := s.calls ++ [call] } [.start call])
    | .finish call result =>
        if call ∈ s.tasks then
          let s := { s with
            tasks := s.tasks.erase call
            answers := s.answers ++ [(call.url, result)] }
          match received env result with
          | some image =>
              some (.ok { s with cache := Function.update s.cache call.url (some image) }
                [.completed call image])
          | none => some (completePlaceholder env s call)
        else none
    | .evict url => some (.ok { s with cache := Function.update s.cache url none } [])
  block s
    | .start call =>
        if env.validURL call.url then .ok { s with tasks := s.tasks ++ [call] } []
        else completePlaceholder env s call
    | .completed call image => .ok (s.complete call image) []

/-- The app has been launched, and nothing has been downloaded yet. -/
def launched : MainLoop (ImageDownloads Image Data) (Block Image) :=
  .start ⟨fun _ => none, [], [], [], []⟩ []

def machine (env : ImageDecoding Image Data) :
    EventMachine (MainLoop (ImageDownloads Image Data) (Block Image)) (LoopStep (Event Data)) :=
  MainLoop.machine (handlers env) (· = launched)

/-! ## What callers may rely on -/

/-- The image of some image set. -/
def Fallback (env : ImageDecoding Image Data) (image : Image) : Prop :=
  ∃ name ∈ imageSets, env.named name = some image

/-- The result is a 200 response whose body decodes to the image. -/
def Decodes (env : ImageDecoding Image Data) (result : TaskResult Data) (image : Image) : Prop :=
  ∃ response data, result.response = some response ∧ response.statusCode = 200 ∧
    result.data = some data ∧ env.decode data = some image

/-- The network has answered a download of the URL with the image. -/
def Downloaded (env : ImageDecoding Image Data) (s : ImageDownloads Image Data) (url : String)
    (image : Image) : Prop :=
  ∃ result, (url, result) ∈ s.answers ∧ Decodes env result image

/-- How often the completion of a call was invoked. -/
def completionCount (s : ImageDownloads Image Data) (call : DownloadCall) : Nat :=
  (s.completions.map Prod.fst).count call

/-- No block is queued and no data task runs. -/
def Quiet (l : MainLoop (ImageDownloads Image Data) (Block Image)) : Prop :=
  l.state.tasks = [] ∧ l.Drained

/-- Nothing has trapped; every completion has been invoked once, or not yet while
work is under way; the images passed on and those in the cache are the right
ones. -/
structure Sound (env : ImageDecoding Image Data)
    (l : MainLoop (ImageDownloads Image Data) (Block Image)) : Prop where
  trapped : l.trapped = false
  once : ∀ call ∈ l.state.calls,
    l.state.completionCount call ≤ 1 ∧ (Quiet l → l.state.completionCount call = 1)
  images : ∀ call image, (call, image) ∈ l.state.completions →
    Fallback env image ∨ l.state.Downloaded env call.url image
  cache : ∀ url image, l.state.cache url = some image → l.state.Downloaded env url image

/-- The step asks for no placeholder: a data task is started with a valid URL, and
ends with an image. -/
def Succeeds (env : ImageDecoding Image Data)
    (l : MainLoop (ImageDownloads Image Data) (Block Image)) : LoopStep (Event Data) → Prop
  | .event (.finish _ result) => (received env result).isSome
  | .block => ∀ call rest, l.queue = .start call :: rest → env.validURL call.url = true
  | _ => True

/-- What one step does to a loader that has not trapped. -/
inductive Move (env : ImageDecoding Image Data) (s : ImageDownloads Image Data) :
    List (Block Image) → LoopStep (Event Data) →
      MainLoop (ImageDownloads Image Data) (Block Image) → Prop
  | hit {queue : List (Block Image)} {url : String} {image : Image}
      (hcached : s.cache url = some image) :
      Move env s queue (.event (.downloadImage url))
        ⟨{ s with calls := s.calls ++ [⟨s.calls.length, url⟩] },
          queue ++ [.completed ⟨s.calls.length, url⟩ image], false⟩
  | miss {queue : List (Block Image)} {url : String} (hcached : s.cache url = none) :
      Move env s queue (.event (.downloadImage url))
        ⟨{ s with calls := s.calls ++ [⟨s.calls.length, url⟩] },
          queue ++ [.start ⟨s.calls.length, url⟩], false⟩
  | received {queue : List (Block Image)} {call : DownloadCall} {result : TaskResult Data}
      {image : Image} (hcall : call ∈ s.tasks) (hreceived : received env result = some image) :
      Move env s queue (.event (.finish call result))
        ⟨{ s with
            tasks := s.tasks.erase call
            answers := s.answers ++ [(call.url, result)]
            cache := Function.update s.cache call.url (some image) },
          queue ++ [.completed call image], false⟩
  | failed {queue : List (Block Image)} {call : DownloadCall} {result : TaskResult Data}
      (hcall : call ∈ s.tasks) (hreceived : received env result = none) :
      Move env s queue (.event (.finish call result))
        (MainLoop.absorb ⟨s, queue, false⟩ queue (completePlaceholder env { s with
          tasks := s.tasks.erase call
          answers := s.answers ++ [(call.url, result)] } call))
  | evict {queue : List (Block Image)} (url : String) :
      Move env s queue (.event (.evict url))
        ⟨{ s with cache := Function.update s.cache url none }, queue, false⟩
  | start {rest : List (Block Image)} {call : DownloadCall}
      (hvalid : env.validURL call.url = true) :
      Move env s (.start call :: rest) .block ⟨{ s with tasks := s.tasks ++ [call] }, rest, false⟩
  | invalid {rest : List (Block Image)} {call : DownloadCall}
      (hvalid : ¬ env.validURL call.url = true) :
      Move env s (.start call :: rest) .block
        (MainLoop.absorb ⟨s, .start call :: rest, false⟩ rest (completePlaceholder env s call))
  | completed {rest : List (Block Image)} (call : DownloadCall) (image : Image) :
      Move env s (.completed call image :: rest) .block ⟨s.complete call image, rest, false⟩

theorem Move.of_step {env : ImageDecoding Image Data}
    {l l' : MainLoop (ImageDownloads Image Data) (Block Image)} {x : LoopStep (Event Data)}
    (hstep : (machine env).step l x = some l') :
    l.trapped = false ∧ Move env l.state l.queue x l' := by
  rcases l with ⟨s, queue, trapped⟩
  rcases MainLoop.step_cases hstep with ⟨htrapped, ⟨e, o, rfl, ho, rfl⟩ | ⟨b, rest, rfl, hq, rfl⟩⟩
  · obtain rfl : trapped = false := htrapped
    refine ⟨rfl, ?_⟩
    cases e with
    | downloadImage url =>
        simp only [handlers] at ho
        split at ho
        · rename_i image hcached
          obtain rfl := Option.some.inj ho
          exact .hit hcached
        · rename_i hcached
          obtain rfl := Option.some.inj ho
          exact .miss hcached
    | finish call result =>
        simp only [handlers] at ho
        split at ho
        · rename_i hcall
          split at ho
          · rename_i image hreceived
            obtain rfl := Option.some.inj ho
            exact .received hcall hreceived
          · rename_i hreceived
            obtain rfl := Option.some.inj ho
            exact .failed hcall hreceived
        · cases ho
    | evict url =>
        obtain rfl := Option.some.inj ho
        rw [MainLoop.absorb_ok, List.append_nil]
        exact .evict url
  · obtain rfl : trapped = false := htrapped
    obtain rfl : queue = b :: rest := hq
    refine ⟨rfl, ?_⟩
    cases b with
    | start call =>
        by_cases hvalid : env.validURL call.url = true
        · simp only [handlers, if_pos hvalid, MainLoop.absorb_ok, List.append_nil]
          exact .start hvalid
        · simp only [handlers, if_neg hvalid]
          exact .invalid hvalid
    | completed call image =>
        simp only [handlers, MainLoop.absorb_ok, List.append_nil]
        exact .completed call image

/-! ## Every call is under way or answered -/

def Block.call : Block Image → DownloadCall
  | .start call => call
  | .completed call _ => call

/-- The calls are numbered, and each is either at one place on the queue, or a
running data task, or completed. -/
structure Accounted (s : ImageDownloads Image Data) (queue : List (Block Image)) : Prop where
  numbered : s.calls.map DownloadCall.number = List.range s.calls.length
  account : ∀ call, (queue.map Block.call).count call + s.tasks.count call +
    s.completionCount call = s.calls.count call

section Accounts

variable {s : ImageDownloads Image Data} {queue : List (Block Image)}

theorem completionCount_complete (s : ImageDownloads Image Data) (call c : DownloadCall)
    (image : Image) :
    (s.complete call image).completionCount c = s.completionCount c + [call].count c := by
  simp only [completionCount, complete, List.map_append, List.count_append, List.map_cons,
    List.map_nil]

/-- No call is counted twice. -/
theorem Accounted.count_calls_le_one (h : Accounted s queue) (call : DownloadCall) :
    s.calls.count call ≤ 1 := by
  have hnodup : (s.calls.map DownloadCall.number).Nodup := by
    rw [h.numbered]
    exact List.nodup_range
  exact List.nodup_iff_count.1 (List.Nodup.of_map _ hnodup) call

/-- A new call waits in one block. -/
theorem Accounted.called (h : Accounted s queue) (url : String) {b : Block Image}
    (hb : b.call = ⟨s.calls.length, url⟩) :
    Accounted { s with calls := s.calls ++ [⟨s.calls.length, url⟩] } (queue ++ [b]) := by
  refine ⟨?_, ?_⟩
  · rw [List.map_append, h.numbered, List.length_append, List.length_singleton,
      List.range_succ]
    rfl
  · intro call
    have haccount := h.account call
    rw [List.map_append, List.count_append, List.count_append, List.map_singleton, hb]
    show _ + s.tasks.count call + s.completionCount call = _
    omega

/-- A data task that has ended gives its call back to the queue. -/
theorem Accounted.finished (h : Accounted s queue) {call : DownloadCall} (hcall : call ∈ s.tasks)
    (image : Image) (cache : String → Option Image) (answers : List (String × TaskResult Data)) :
    Accounted { s with tasks := s.tasks.erase call, answers, cache }
      (queue ++ [.completed call image]) := by
  refine ⟨h.numbered, ?_⟩
  intro c
  have haccount := h.account c
  have htasks : s.tasks.count c = (s.tasks.erase call).count c + [call].count c := by
    rw [(List.perm_cons_erase hcall).count_eq c, List.count_cons, List.count_singleton]
  rw [List.map_append, List.count_append]
  show _ + [call].count c + (s.tasks.erase call).count c + s.completionCount c = s.calls.count c
  omega

/-- A block that starts a data task. -/
theorem Accounted.started {call : DownloadCall} (h : Accounted s (.start call :: queue)) :
    Accounted { s with tasks := s.tasks ++ [call] } queue := by
  refine ⟨h.numbered, ?_⟩
  intro c
  have haccount := h.account c
  rw [List.map_cons, ← List.singleton_append, List.count_append] at haccount
  rw [List.count_append]
  show _ + (_ + [call].count c) + s.completionCount c = s.calls.count c
  change [call].count c + _ + _ + _ = _ at haccount
  omega

/-- A block that completes a call. -/
theorem Accounted.completed {call : DownloadCall} {image : Image}
    (h : Accounted s (.completed call image :: queue)) :
    Accounted (s.complete call image) queue := by
  refine ⟨h.numbered, ?_⟩
  intro c
  have haccount := h.account c
  rw [List.map_cons, ← List.singleton_append, List.count_append] at haccount
  rw [completionCount_complete]
  change [call].count c + _ + _ + _ = _ at haccount
  show _ + s.tasks.count c + _ = s.calls.count c
  omega

/-- At rest every call has been completed. -/
theorem Accounted.completed_of_quiet (h : Accounted s []) (htasks : s.tasks = [])
    {call : DownloadCall} (hcall : call ∈ s.calls) : s.completionCount call = 1 := by
  have haccount := h.account call
  have hone := h.count_calls_le_one call
  have hpos : 0 < s.calls.count call := List.count_pos_iff.2 hcall
  rw [htasks, List.map_nil, List.count_nil] at haccount
  omega

end Accounts

/-! ## The images come from the network -/

/-- The images in the cache, on the queue and passed on were downloaded from their
URLs. -/
structure Faithful (env : ImageDecoding Image Data) (s : ImageDownloads Image Data)
    (queue : List (Block Image)) : Prop where
  queued : ∀ call image, .completed call image ∈ queue → s.Downloaded env call.url image
  images : ∀ call image, (call, image) ∈ s.completions → s.Downloaded env call.url image
  cache : ∀ url image, s.cache url = some image → s.Downloaded env url image

/-- The guard lets through only what a 200 response decodes to. -/
theorem received_decodes {env : ImageDecoding Image Data} {result : TaskResult Data}
    {image : Image} (h : received env result = some image) : Decodes env result image := by
  unfold received at h
  split at h
  · rename_i response data _ hresponse hdata
    split at h
    · rename_i hstatus
      exact ⟨response, data, hresponse, hstatus, hdata, h⟩
    · cases h
  · cases h

section Images

variable {env : ImageDecoding Image Data} {s : ImageDownloads Image Data}
  {queue : List (Block Image)}

theorem Faithful.called (h : Faithful env s queue) (calls : List DownloadCall)
    (call : DownloadCall) : Faithful env { s with calls } (queue ++ [.start call]) := by
  refine ⟨?_, h.images, h.cache⟩
  intro c image hmem
  rcases List.mem_append.1 hmem with hmem | hmem
  · exact h.queued c image hmem
  · cases List.mem_singleton.1 hmem

/-- A call that the cache answers. -/
theorem Faithful.hit (h : Faithful env s queue) (calls : List DownloadCall) {call : DownloadCall}
    {image : Image} (hcached : s.cache call.url = some image) :
    Faithful env { s with calls } (queue ++ [.completed call image]) := by
  refine ⟨?_, h.images, h.cache⟩
  intro c i hmem
  rcases List.mem_append.1 hmem with hmem | hmem
  · exact h.queued c i hmem
  · obtain ⟨rfl, rfl⟩ := Block.completed.inj (List.mem_singleton.1 hmem)
    exact h.cache _ _ hcached

/-- A data task that brings an image. -/
theorem Faithful.finished (h : Faithful env s queue) (tasks : List DownloadCall)
    (call : DownloadCall) {result : TaskResult Data} {image : Image}
    (hreceived : received env result = some image) :
    Faithful env { s with
        tasks
        answers := s.answers ++ [(call.url, result)]
        cache := Function.update s.cache call.url (some image) }
      (queue ++ [.completed call image]) := by
  -- what was downloaded before still is
  have hkeep : ∀ url i, s.Downloaded env url i →
      ∃ r, (url, r) ∈ s.answers ++ [(call.url, result)] ∧ Decodes env r i := by
    rintro url i ⟨r, hr, hdecodes⟩
    exact ⟨r, List.mem_append_left _ hr, hdecodes⟩
  have hnew : ∃ r, (call.url, r) ∈ s.answers ++ [(call.url, result)] ∧ Decodes env r image :=
    ⟨result, List.mem_append_right _ (List.mem_singleton_self _), received_decodes hreceived⟩
  refine ⟨?_, ?_, ?_⟩
  · intro c i hmem
    rcases List.mem_append.1 hmem with hmem | hmem
    · exact hkeep _ _ (h.queued c i hmem)
    · obtain ⟨rfl, rfl⟩ := Block.completed.inj (List.mem_singleton.1 hmem)
      exact hnew
  · intro c i hmem
    exact hkeep _ _ (h.images c i hmem)
  · refine cache_update (fun url i hcached => hkeep url i (h.cache url i hcached)) call.url _ ?_
    intro i hi
    rw [← Option.some.inj hi]
    exact hnew

theorem Faithful.evicted (h : Faithful env s queue) (url : String) :
    Faithful env { s with cache := Function.update s.cache url none } queue := by
  refine ⟨h.queued, h.images, ?_⟩
  refine cache_update h.cache url none ?_
  intro image hnone
  cases hnone

theorem Faithful.tail {b : Block Image} (h : Faithful env s (b :: queue)) :
    Faithful env s queue :=
  ⟨fun call image hmem => h.queued call image (List.mem_cons_of_mem b hmem), h.images, h.cache⟩

theorem Faithful.completed {call : DownloadCall} {image : Image}
    (h : Faithful env s (.completed call image :: queue)) :
    Faithful env (s.complete call image) queue := by
  refine ⟨h.tail.queued, ?_, h.cache⟩
  intro c i hmem
  rcases List.mem_append.1 hmem with hmem | hmem
  · exact h.images c i hmem
  · obtain ⟨rfl, rfl⟩ := Prod.mk.inj (List.mem_singleton.1 hmem)
    exact h.queued _ _ List.mem_cons_self

end Images

/-! ## Runs -/

/-- What holds as long as no placeholder is asked for. -/
structure Tracks (env : ImageDecoding Image Data)
    (l : MainLoop (ImageDownloads Image Data) (Block Image)) : Prop where
  trapped : l.trapped = false
  accounted : Accounted l.state l.queue
  faithful : Faithful env l.state l.queue

theorem Tracks.init (env : ImageDecoding Image Data) : Tracks env launched := by
  refine ⟨rfl, ⟨rfl, fun _ => rfl⟩, ⟨?_, ?_, ?_⟩⟩
  · intro call image hmem
    cases hmem
  · intro call image hmem
    cases hmem
  · intro url image hcached
    cases hcached

theorem Tracks.sound {env : ImageDecoding Image Data}
    {l : MainLoop (ImageDownloads Image Data) (Block Image)} (h : Tracks env l) :
    Sound env l := by
  refine ⟨h.trapped, ?_, fun call image hmem => Or.inr (h.faithful.images call image hmem),
    h.faithful.cache⟩
  intro call hcall
  constructor
  · have haccount := h.accounted.account call
    have hone := h.accounted.count_calls_le_one call
    omega
  · rintro ⟨htasks, hqueue⟩
    have haccounted := h.accounted
    rw [show l.queue = [] from hqueue] at haccounted
    exact haccounted.completed_of_quiet htasks hcall

section Runs

variable {env : ImageDecoding Image Data}
  (hnamed : ∀ name, name ∉ imageSets → env.named name = none)

include hnamed

/-- The placeholder has no image set. -/
theorem completePlaceholder_traps (s : ImageDownloads Image Data) (call : DownloadCall) :
    completePlaceholder env s call = .trap := by
  rw [completePlaceholder, hnamed _ placeholder_not_imageSet]

/-- Step lemma: a step keeps everything, or traps because it asks for the
placeholder. -/
theorem Tracks.step {l l' : MainLoop (ImageDownloads Image Data) (Block Image)}
    {x : LoopStep (Event Data)} (hstep : (machine env).step l x = some l') (h : Tracks env l) :
    (Succeeds env l x ∧ Tracks env l') ∨ (¬ Succeeds env l x ∧ l'.trapped = true) := by
  rcases l with ⟨s, queue, trapped⟩
  have haccounted : Accounted s queue := h.accounted
  have hfaithful : Faithful env s queue := h.faithful
  cases (Move.of_step hstep).2 with
  | hit hcached =>
      left
      exact ⟨trivial, rfl, haccounted.called _ rfl, hfaithful.hit _ hcached⟩
  | miss hcached =>
      left
      exact ⟨trivial, rfl, haccounted.called _ rfl, hfaithful.called _ _⟩
  | @received _ call _ image hcall hreceived =>
      left
      refine ⟨?_, rfl, haccounted.finished hcall image _ _, hfaithful.finished _ call hreceived⟩
      exact Option.isSome_iff_exists.2 ⟨image, hreceived⟩
  | failed hcall hreceived =>
      right
      rw [completePlaceholder_traps hnamed]
      refine ⟨fun hsome => ?_, rfl⟩
      rcases Option.isSome_iff_exists.1 hsome with ⟨image, himage⟩
      rw [hreceived] at himage
      cases himage
  | evict url =>
      left
      exact ⟨trivial, rfl, ⟨haccounted.numbered, haccounted.account⟩, hfaithful.evicted url⟩
  | @start rest call hvalid =>
      left
      have htail := hfaithful.tail
      refine ⟨?_, rfl, haccounted.started, ⟨htail.queued, htail.images, htail.cache⟩⟩
      intro c rest' hc
      rw [← Block.start.inj (List.cons.inj hc).1]
      exact hvalid
  | @invalid rest call hvalid =>
      right
      rw [completePlaceholder_traps hnamed]
      exact ⟨fun hall => hvalid (hall call rest rfl), rfl⟩
  | completed call image =>
      left
      refine ⟨?_, rfl, haccounted.completed, hfaithful.completed⟩
      intro c rest' hc
      cases (List.cons.inj hc).1

/-- Along a run of calls, answers and evictions in any order, the loader does what
its callers rely on as long as data tasks are started with valid URLs and end with
an image, and no longer. -/
theorem downloads_sound_iff (xs : List (LoopStep (Event Data))) :
    (machine env).Along (fun _ _ l => Sound env l) launched xs ↔
      (machine env).Along (fun l x _ => Succeeds env l x) launched xs := by
  have hiff : ∀ l x l', (machine env).step l x = some l' → Tracks env l →
      (Sound env l' ↔ Succeeds env l x) := by
    intro l x l' hstep h
    rcases h.step hnamed hstep with ⟨hsucceeds, h'⟩ | ⟨hfails, htrapped⟩
    · exact iff_of_true h'.sound hsucceeds
    · refine iff_of_false (fun hsound => ?_) hfails
      rw [hsound.trapped] at htrapped
      cases htrapped
  refine EventMachine.along_iff hiff ?_ (Tracks.init env)
  intro l x l' hstep hsound h
  rcases h.step hnamed hstep with ⟨-, h'⟩ | ⟨-, htrapped⟩
  · exact h'
  · rw [hsound.trapped] at htrapped
    cases htrapped

end Runs

/-! ## Downloads come to rest -/

def Block.isStart : Block Image → Bool
  | .start _ => true
  | .completed _ _ => false

/-- How many steps the queue and the data tasks are good for at most; none after a
trap. -/
def work (l : MainLoop (ImageDownloads Image Data) (Block Image)) : Nat :=
  if l.trapped then 0
  else 2 * l.queue.countP Block.isStart + l.queue.length + 2 * l.state.tasks.length

/-- A block, or the end of a data task. -/
def Answers : LoopStep (Event Data) → Prop
  | .block => True
  | .event (.finish _ _) => True
  | _ => False

section Rest

variable {env : ImageDecoding Image Data}

@[simp] theorem work_running (s : ImageDownloads Image Data) (queue : List (Block Image)) :
    work ⟨s, queue, false⟩ =
      2 * queue.countP Block.isStart + queue.length + 2 * s.tasks.length := rfl

/-- The placeholder leaves no work behind, whether it is there or not. -/
theorem work_completePlaceholder (l : MainLoop (ImageDownloads Image Data) (Block Image))
    (s : ImageDownloads Image Data) (call : DownloadCall) (rest : List (Block Image)) :
    work (l.absorb rest (completePlaceholder env s call)) ≤
      2 * rest.countP Block.isStart + rest.length + 2 * s.tasks.length := by
  unfold completePlaceholder
  split
  · rw [MainLoop.absorb_ok, List.append_nil]
    exact Nat.le_refl _
  · exact Nat.zero_le _

/-- Step lemma: an answer uses up work. -/
theorem work_step {l l' : MainLoop (ImageDownloads Image Data) (Block Image)}
    {x : LoopStep (Event Data)} (hstep : (machine env).step l x = some l') (hx : Answers x) :
    work l' < work l := by
  rcases l with ⟨s, queue, trapped⟩
  obtain rfl : trapped = false := (Move.of_step hstep).1
  have hmove : Move env s queue x l' := (Move.of_step hstep).2
  rw [work_running]
  cases hmove with
  | hit => exact hx.elim
  | miss => exact hx.elim
  | evict => exact hx.elim
  | @received _ call _ image hcall _ =>
      -- the task becomes a block
      have htasks := List.length_erase_of_mem hcall
      have hpos := List.length_pos_of_mem hcall
      have hcount : (queue ++ [Block.completed call image]).countP Block.isStart =
          queue.countP Block.isStart := List.countP_append
      rw [work_running, hcount, List.length_append, List.length_singleton]
      show _ + _ + 2 * (s.tasks.erase call).length < _
      omega
  | @failed _ call result hcall _ =>
      have htasks := List.length_erase_of_mem hcall
      have hpos := List.length_pos_of_mem hcall
      refine Nat.lt_of_le_of_lt (work_completePlaceholder _ _ _ _) ?_
      show _ + _ + 2 * (s.tasks.erase call).length < _
      omega
  | @start rest call _ =>
      -- the block becomes a task
      have hcount : (Block.start call :: rest).countP Block.isStart =
          rest.countP Block.isStart + 1 := List.countP_cons_of_pos rfl
      rw [work_running, hcount, List.length_cons, List.length_append, List.length_singleton]
      omega
  | @invalid rest call _ =>
      have hcount : (Block.start call :: rest).countP Block.isStart =
          rest.countP Block.isStart + 1 := List.countP_cons_of_pos rfl
      refine Nat.lt_of_le_of_lt (work_completePlaceholder _ _ _ _) ?_
      rw [hcount, List.length_cons]
      omega
  | @completed rest call image =>
      have hcount : (Block.completed call image :: rest).countP Block.isStart =
          rest.countP Block.isStart := rfl
      rw [work_running, hcount, List.length_cons]
      show _ + _ + 2 * s.tasks.length < _
      omega

/-- Run lemma: without new calls there are at most `work l` answers. -/
theorem work_run {l l' : MainLoop (ImageDownloads Image Data) (Block Image)}
    {xs : List (LoopStep (Event Data))} (hrun : (machine env).run l xs = some l')
    (hxs : ∀ x ∈ xs, Answers x) : xs.length + work l' ≤ work l := by
  induction xs generalizing l with
  | nil =>
      obtain rfl := Option.some.inj hrun
      exact Nat.le_of_eq (Nat.zero_add _)
  | cons x xs ih =>
      rcases ((machine env).run_cons_eq_some).1 hrun with ⟨t, hstep, hrest⟩
      have hlt := work_step hstep (hxs x List.mem_cons_self)
      have hle := ih hrest fun y hy => hxs y (List.mem_cons_of_mem x hy)
      rw [List.length_cons]
      omega

/-- A loader that is not at rest can answer, whatever the network answers. -/
theorem answers_or_quiet (l : MainLoop (ImageDownloads Image Data) (Block Image))
    (htrapped : l.trapped = false) (hquiet : ¬ Quiet l) (result : TaskResult Data) :
    ∃ x, Answers x ∧ ((machine env).step l x).isSome := by
  rcases l with ⟨s, queue, trapped⟩
  obtain rfl : trapped = false := htrapped
  cases queue with
  | cons b rest => exact ⟨.block, trivial, rfl⟩
  | nil =>
      cases htasks : s.tasks with
      | nil => exact absurd ⟨htasks, rfl⟩ hquiet
      | cons call tasks =>
          have hcall : call ∈ s.tasks := by
            rw [htasks]
            exact List.mem_cons_self
          refine ⟨.event (.finish call result), trivial, ?_⟩
          simp only [machine, MainLoop.machine, MainLoop.step, handlers, if_pos hcall]
          cases received env result <;> rfl

end Rest

/-! ## A picture that is gone -/

/-- All URLs but the empty one are valid; images are named by their content. -/
def server : ImageDecoding String String where
  validURL url := url != ""
  named name := if name ∈ imageSets then some name else none
  decode data := if data.isEmpty then none else some data

theorem server_named : ∀ name, name ∉ imageSets → server.named name = none :=
  fun _ hname => if_neg hname

/-- A picture is asked for, and the server answers with a status code. -/
def pictureAnswered (statusCode : Int) : List (LoopStep (Event String)) :=
  [.event (.downloadImage "cake"), .block,
    .event (.finish ⟨0, "cake"⟩ ⟨some "a cake", some ⟨statusCode⟩, none⟩)]

/-- A 404 response ends the program, and the call is never answered. -/
theorem missing_picture_traps :
    (∀ name, name ∉ imageSets → server.named name = none) ∧
      ∃ l, (machine server).run launched (pictureAnswered 404) = some l ∧ l.trapped = true ∧
        ⟨0, "cake"⟩ ∈ l.state.calls ∧ l.state.completionCount ⟨0, "cake"⟩ = 0 := by
  refine ⟨server_named, _, rfl, ?_, ?_, ?_⟩ <;> decide

/-- A picture that is there. -/
theorem found_picture_sound :
    (machine server).Along (fun _ _ l => Sound server l) launched (pictureAnswered 200) := by
  refine (downloads_sound_iff server_named _).2 ?_
  refine (EventMachine.along_cons_of_some _ _ rfl).2 ⟨trivial, ?_⟩
  refine (EventMachine.along_cons_of_some _ _ rfl).2 ⟨?_, ?_⟩
  · rintro call rest hqueue
    obtain rfl := Block.start.inj (List.cons.inj hqueue).1
    rfl
  · refine (EventMachine.along_cons_of_some _ _ rfl).2 ⟨?_, trivial⟩
    show (received server ⟨some "a cake", some ⟨200⟩, none⟩).isSome = true
    decide

end ImageDownloads

end FancyLife
