import FancyLife.ImageDownloads

/-! # Calls, answers and completions of the loader

What one handler adds to the history of the loader, and what every reachable
state says about it: work is under way for calls that were made, and the images
passed on were downloaded.
-/

namespace FancyLife

namespace ImageDownloads

variable {Image Data : Type}

/-- The call that an event makes, numbered `n`. -/
def Event.called (n : Nat) : Event Data → List DownloadCall
  | .downloadImage url => [⟨n, url⟩]
  | _ => []

/-- The answer that an event brings. -/
def Event.answered : Event Data → List (String × TaskResult Data)
  | .finish call result => [(call.url, result)]
  | _ => []

theorem completePlaceholder_log {env : ImageDecoding Image Data} {s s' : ImageDownloads Image Data}
    {call : DownloadCall} {deferred : List (Block Image)}
    (h : completePlaceholder env s call = .ok s' deferred) :
    s'.calls = s.calls ∧ s'.answers = s.answers ∧ s.completions <+: s'.completions := by
  unfold completePlaceholder at h
  split at h
  · obtain ⟨rfl, -⟩ := Outcome.ok.inj h
    exact ⟨rfl, rfl, List.prefix_append _ _⟩
  · cases h

/-- An event adds its call and its answer to what has happened. -/
theorem handle_log {env : ImageDecoding Image Data} {s s' : ImageDownloads Image Data}
    {e : Event Data} {deferred : List (Block Image)}
    (h : (handlers env).handle s e = some (.ok s' deferred)) :
    s'.calls = s.calls ++ e.called s.calls.length ∧ s'.answers = s.answers ++ e.answered ∧
      s.completions <+: s'.completions := by
  cases e with
  | downloadImage url =>
      simp only [handlers] at h
      split at h <;>
      · obtain ⟨rfl, -⟩ := Outcome.ok.inj (Option.some.inj h)
        exact ⟨rfl, (List.append_nil _).symm, List.prefix_rfl⟩
  | finish call result =>
      simp only [handlers] at h
      split at h
      · split at h
        · obtain ⟨rfl, -⟩ := Outcome.ok.inj (Option.some.inj h)
          exact ⟨(List.append_nil _).symm, rfl, List.prefix_rfl⟩
        · have hlog := completePlaceholder_log (Option.some.inj h)
          rw [hlog.1, hlog.2.1]
          exact ⟨(List.append_nil _).symm, rfl, hlog.2.2⟩
      · cases h
  | evict url =>
      obtain ⟨rfl, -⟩ := Outcome.ok.inj (Option.some.inj h)
      exact ⟨(List.append_nil _).symm, (List.append_nil _).symm, List.prefix_rfl⟩

/-- A block makes no call and brings no answer. -/
theorem block_log {env : ImageDecoding Image Data} {s s' : ImageDownloads Image Data}
    {b : Block Image} {deferred : List (Block Image)}
    (h : (handlers env).block s b = .ok s' deferred) :
    s'.calls = s.calls ∧ s'.answers = s.answers ∧ s.completions <+: s'.completions := by
  cases b with
  | start call =>
      simp only [handlers] at h
      split at h
      · obtain ⟨rfl, -⟩ := Outcome.ok.inj h
        exact ⟨rfl, rfl, List.prefix_rfl⟩
      · exact completePlaceholder_log h
  | completed call image =>
      obtain ⟨rfl, -⟩ := Outcome.ok.inj h
      exact ⟨rfl, rfl, List.prefix_append _ _⟩

/-- What is under way or completed was called, and calls have their numbers. -/
structure Made (l : MainLoop (ImageDownloads Image Data) (Block Image)) : Prop where
  numbered : ∀ c ∈ l.state.calls, c.number < l.state.calls.length
  tasks : ∀ c ∈ l.state.tasks, c ∈ l.state.calls
  queued : ∀ b ∈ l.queue, b.call ∈ l.state.calls
  completed : ∀ c i, (c, i) ∈ l.state.completions → c ∈ l.state.calls

theorem Made.init : Made (launched : MainLoop (ImageDownloads Image Data) (Block Image)) := by
  constructor
  · intro c hc
    cases hc
  · intro c hc
    cases hc
  · intro b hb
    cases hb
  · intro c i hc
    cases hc

section Calls

variable {env : ImageDecoding Image Data} {s : ImageDownloads Image Data}
  {queue : List (Block Image)}

/-- A new call, in one block. -/
theorem Made.called (h : Made ⟨s, queue, false⟩) (url : String) {b : Block Image}
    (hb : b.call = ⟨s.calls.length, url⟩) :
    Made ⟨{ s with calls := s.calls ++ [⟨s.calls.length, url⟩] }, queue ++ [b], false⟩ := by
  have hlength : (s.calls ++ [DownloadCall.mk s.calls.length url]).length = s.calls.length + 1 :=
    List.length_append
  constructor
  · intro c hc
    show c.number < (s.calls ++ [DownloadCall.mk s.calls.length url]).length
    rw [hlength]
    rcases List.mem_append.1 hc with hc | hc
    · have hlt : c.number < s.calls.length := h.numbered c hc
      omega
    · rw [List.mem_singleton.1 hc]
      exact Nat.lt_succ_self _
  · intro c hc
    exact List.mem_append_left _ (h.tasks c hc)
  · intro d hd
    rcases List.mem_append.1 hd with hd | hd
    · exact List.mem_append_left _ (h.queued d hd)
    · rw [List.mem_singleton.1 hd, hb]
      exact List.mem_append_right _ (List.mem_singleton_self _)
  · intro c i hc
    exact List.mem_append_left _ (h.completed c i hc)

/-- The loader works on calls that were made. -/
theorem Made.worked (h : Made ⟨s, queue, false⟩) {s' : ImageDownloads Image Data}
    {queue' : List (Block Image)} (hcalls : s'.calls = s.calls)
    (htasks : ∀ c ∈ s'.tasks, c ∈ s.calls) (hqueue : ∀ b ∈ queue', b.call ∈ s.calls)
    (hcompletions : ∀ c i, (c, i) ∈ s'.completions → c ∈ s.calls) :
    Made ⟨s', queue', false⟩ := by
  constructor
  · show ∀ c ∈ s'.calls, c.number < s'.calls.length
    rw [hcalls]
    exact h.numbered
  · show ∀ c ∈ s'.tasks, c ∈ s'.calls
    rw [hcalls]
    exact htasks
  · show ∀ b ∈ queue', b.call ∈ s'.calls
    rw [hcalls]
    exact hqueue
  · show ∀ c i, (c, i) ∈ s'.completions → c ∈ s'.calls
    rw [hcalls]
    exact hcompletions

theorem mem_completions_complete {call c : DownloadCall} {image i : Image}
    (h : (c, i) ∈ (s.complete call image).completions) :
    (c, i) ∈ s.completions ∨ c = call := by
  rcases List.mem_append.1 h with h | h
  · exact Or.inl h
  · exact Or.inr (Prod.mk.inj (List.mem_singleton.1 h)).1

/-- After a trap the queue is gone. -/
theorem Made.trapped (h : Made ⟨s, queue, false⟩) : Made ⟨s, [], true⟩ := by
  constructor
  · exact h.numbered
  · exact h.tasks
  · intro b hb
    cases hb
  · exact h.completed

/-- A call that gets the placeholder, or ends the program. -/
theorem Made.placeholder {call : DownloadCall} (h : Made ⟨s, queue, false⟩)
    {s' : ImageDownloads Image Data} {rest : List (Block Image)} (hcall : call ∈ s.calls)
    (hcalls : s'.calls = s.calls) (htasks : ∀ c ∈ s'.tasks, c ∈ s.calls)
    (hrest : ∀ b ∈ rest, b.call ∈ s.calls) (hcompletions : s'.completions = s.completions) :
    Made (MainLoop.absorb ⟨s, queue, false⟩ rest (completePlaceholder env s' call)) := by
  unfold completePlaceholder
  split
  · rename_i image _
    rw [MainLoop.absorb_ok, List.append_nil]
    refine h.worked hcalls htasks hrest ?_
    intro c i hc
    rcases mem_completions_complete hc with hc | rfl
    · rw [hcompletions] at hc
      exact h.completed c i hc
    · exact hcall
  · exact h.trapped

end Calls

/-- Step lemma. -/
theorem Made.step {env : ImageDecoding Image Data}
    {l l' : MainLoop (ImageDownloads Image Data) (Block Image)} {x : LoopStep (Event Data)}
    (hstep : (machine env).step l x = some l') (h : Made l) : Made l' := by
  have hmove := Move.of_step hstep
  rcases l with ⟨s, queue, trapped⟩
  obtain rfl : trapped = false := hmove.1
  have hqueued : ∀ b ∈ queue, b.call ∈ s.calls := h.queued
  -- the tasks without the one that ended
  have herase : ∀ call, ∀ c ∈ s.tasks.erase call, c ∈ s.calls :=
    fun call c hc => h.tasks c (List.mem_of_mem_erase hc)
  cases hmove.2 with
  | hit => exact h.called _ rfl
  | miss => exact h.called _ rfl
  | @received _ call result image hcall hreceived =>
      refine h.worked rfl (herase call) ?_ h.completed
      intro b hb
      rcases List.mem_append.1 hb with hb | hb
      · exact hqueued b hb
      · rw [List.mem_singleton.1 hb]
        exact h.tasks call hcall
  | @failed _ call result hcall hreceived =>
      exact h.placeholder (h.tasks call hcall) rfl (herase call) hqueued rfl
  | evict url => exact h.worked rfl h.tasks hqueued h.completed
  | @start rest call hvalid =>
      refine h.worked rfl ?_ (fun b hb => hqueued b (List.mem_cons_of_mem _ hb)) h.completed
      intro c hc
      rcases List.mem_append.1 hc with hc | hc
      · exact h.tasks c hc
      · rw [List.mem_singleton.1 hc]
        exact hqueued _ List.mem_cons_self
  | @invalid rest call hvalid =>
      exact h.placeholder (hqueued _ List.mem_cons_self) rfl h.tasks
        (fun b hb => hqueued b (List.mem_cons_of_mem _ hb)) rfl
  | @completed rest call image =>
      refine h.worked rfl h.tasks (fun b hb => hqueued b (List.mem_cons_of_mem _ hb)) ?_
      intro c i hc
      rcases mem_completions_complete hc with hc | rfl
      · exact h.completed c i hc
      · exact hqueued _ List.mem_cons_self

/-- What was passed on was downloaded, also after a trap. -/
theorem reachable_downloaded {env : ImageDecoding Image Data}
    (hnamed : ∀ name, name ∉ imageSets → env.named name = none)
    {l : MainLoop (ImageDownloads Image Data) (Block Image)} (hl : (machine env).Reachable l) :
    ∀ call image, (call, image) ∈ l.state.completions → l.state.Downloaded env call.url image := by
  have hkeep : ∀ l x l', (machine env).step l x = some l' →
      (Faithful env l.state [] ∧ (l.trapped = false → Tracks env l)) →
      (Faithful env l'.state [] ∧ (l'.trapped = false → Tracks env l')) := by
    rintro l x l' hstep ⟨hfaithful, htracks⟩
    rcases (htracks (Move.of_step hstep).1).step hnamed hstep with ⟨-, h'⟩ | ⟨-, htrapped⟩
    · refine ⟨⟨?_, h'.faithful.images, h'.faithful.cache⟩, fun _ => h'⟩
      intro call image hmem
      cases hmem
    · refine ⟨?_, fun hrunning => ?_⟩
      · rcases MainLoop.step_deferred hstep with
          ⟨e, s', -, -, hl'⟩ | ⟨b, rest, s', -, -, -, hl'⟩ | ⟨-, hstate, -, -⟩
        · rw [hl'] at htrapped
          cases htrapped
        · rw [hl'] at htrapped
          cases htrapped
        · rw [hstate]
          exact hfaithful
      · rw [hrunning] at htrapped
        cases htrapped
  have hinit : ∀ l, (machine env).init l →
      (Faithful env l.state [] ∧ (l.trapped = false → Tracks env l)) := by
    rintro l rfl
    exact ⟨(Tracks.init env).faithful, fun _ => Tracks.init env⟩
  have hinv := EventMachine.reachable_invariant hinit hkeep hl
  exact hinv.1.images

end ImageDownloads

end FancyLife
