import Freenect.Sync.Wrapper

/-!
# The run loop thread

`thread_running` is to say that there is a run loop thread working on a live context. Two things go
wrong with it: `init_thread` sets it before `freenect_init` and `pthread_create`, and does not clear
it when one of them fails; and a thread that ends because `freenect_process_events` has failed does
not clear it either. `alive_iff` says that nothing else goes wrong.

An event is right or wrong by itself: only a call or `runloop_enter` may start a thread, and only an
exit ends one, so it is in these that the flag can come to say something that is not so. All other
events leave both the flag and the thread, or clear the flag.
-/

namespace Freenect.Wrapper

/-- The run loop thread has not terminated, and its context is live. -/
def Alive (s : Wrapper) : Prop :=
  (∃ t, s.thread = some t ∧ s.threads[t]? = some true) ∧ s.ctxLive = true

/-- **What `thread_running` is to say**, as long as `runloop_lock` is free; and no device has been
opened on a context that is not live. -/
structure Truthful (s : Wrapper) : Prop where
  alive : s.exiting = none → s.threadRunning = true → s.Alive
  opened : s.openedDead = false

/-- Nothing goes wrong in a step: a run loop thread that has to be started is, and one that ends
finds `thread_running` cleared. -/
def LoopOk (s : Wrapper) : Event → Prop
  | .call index _ a | .enter index a =>
    s.exiting = none → 0 ≤ index → index < maxKinects → s.Starts a
  | .exit i => s.exiting = some i → s.threadRunning = false
  | _ => True

variable {s : Wrapper} {index : ℤ} {m : Mode} {a : CallAnswers}

/-- A thread that is started is alive, and where one could not be, none is. -/
theorem looped_truthful_iff (h : s.Truthful) (hlock : s.exiting = none) :
    (s.looped a).1.Truthful ↔ s.Starts a := by
  rcases looped_cases s a with ⟨hrun, hloop⟩ | ⟨hrun, hinit, hloop⟩ |
    ⟨hrun, hinit, hcreate, hloop⟩ | ⟨hrun, hinit, hcreate, hloop⟩ <;> rw [hloop, Starts, hrun]
  · exact iff_of_true h (Or.inl rfl)
  · refine iff_of_false (fun h' ↦ ?_) fun h' ↦ h'.elim Bool.false_ne_true fun h' ↦ hinit h'.1
    exact Bool.false_ne_true (h'.alive hlock rfl).2
  · refine iff_of_false (fun h' ↦ ?_) fun h' ↦ h'.elim Bool.false_ne_true fun h' ↦ hcreate h'.2
    obtain ⟨⟨t, ht, -⟩, -⟩ := h'.alive hlock rfl
    cases ht
  · refine iff_of_true ⟨fun _ _ ↦ ⟨⟨_, rfl, ?_⟩, rfl⟩, h.opened⟩ (Or.inr ⟨hinit, hcreate⟩)
    exact List.getElem?_concat_length

/-- `setup_kinect` leaves the flag as true as it has made it in the beginning. -/
theorem setupKinect_truthful_iff (h : s.Truthful) (hlock : s.exiting = none) :
    (s.setupKinect index m a).1.Truthful ↔ s.Starts a := by
  have hloop := looped_truthful_iff (a := a) h hlock
  rcases setupKinect_eq s index m a with ⟨hno, hset⟩ | ⟨hstarts, hdead, hset⟩ |
    ⟨hstarts, -, -, hset⟩ | ⟨k, hstarts, -, -, hset⟩
  · rw [hset]
    exact hloop
  · -- the flag does not point to a context that is not live
    exact absurd (fun hrun _ ↦ (h.alive hlock hrun).2) hdead
  · rw [hset]
    refine iff_of_true ⟨fun hlock' hrun ↦ ?_, (hloop.2 hstarts).opened⟩ hstarts
    dsimp only at hrun
    split at hrun
    · exact (hloop.2 hstarts).alive hlock' hrun
    · cases hrun
  · rw [hset]
    refine iff_of_true ?_ hstarts
    split
    exacts [⟨(hloop.2 hstarts).alive, (hloop.2 hstarts).opened⟩,
      ⟨(hloop.2 hstarts).alive, (hloop.2 hstarts).opened⟩]

/-- **One event** keeps the flag true exactly if nothing goes wrong in it. -/
theorem next_truthful_iff (s : Wrapper) (e : Event) (h : s.Truthful) :
    (s.next e).Truthful ↔ s.LoopOk e := by
  cases e with
  | call index m a =>
    rw [next_call]
    split
    next hin =>
      obtain ⟨hlock, hpos, hlt⟩ := hin
      rw [setupKinect_truthful_iff h hlock]
      exact ⟨fun hstarts _ _ _ ↦ hstarts, fun hok ↦ hok hlock hpos hlt⟩
    next hout =>
      exact iff_of_true h fun hlock hpos hlt ↦ absurd ⟨hlock, hpos, hlt⟩ hout
  | enter index a =>
    rw [next_enter]
    split
    next hin =>
      obtain ⟨hlock, ⟨hpos, hlt⟩, -⟩ := hin
      rw [setupKinect_truthful_iff h hlock]
      exact ⟨fun hstarts _ _ _ ↦ hstarts, fun hok ↦ hok hlock hpos hlt⟩
    next hout =>
      refine iff_of_true h fun hlock hpos hlt ↦ Or.inl ?_
      -- nothing has to be set up, so the thread is said to run
      have hno := fun hneeds ↦ hout ⟨hlock, ⟨hpos, hlt⟩, hneeds⟩
      simpa using (not_or.1 hno).1
  | fetch | packet =>
    refine iff_of_true ?_ trivial
    unfold next
    dsimp only
    split
    · exact h
    · split
      · exact h
      · exact ⟨h.alive, h.opened⟩
  | stop => exact iff_of_true ⟨fun _ hrun ↦ (nomatch hrun), h.opened⟩ trivial
  | iterate i res =>
    refine iff_of_true ?_ trivial
    unfold next
    dsimp only
    split
    · exact h
    · split
      · exact h
      · exact ⟨fun hlock ↦ (nomatch hlock), h.opened⟩
  | exit i =>
    unfold next LoopOk
    dsimp only
    split
    next hne => exact iff_of_true h fun heq ↦ absurd heq hne
    next hexit =>
      have hexit := not_not.1 hexit
      constructor
      · -- the context has been shut down
        exact fun htrue _ ↦ Bool.eq_false_iff.2 fun hrun ↦
          Bool.false_ne_true (htrue.alive rfl hrun).2
      · intro hok
        exact ⟨fun _ hrun ↦ absurd ((hok hexit).symm.trans hrun) Bool.false_ne_true, h.opened⟩

/-- Before the first call there is no thread and the flag is clear. -/
theorem truthful_initial : initial.Truthful := ⟨fun _ hrun ↦ (nomatch hrun), rfl⟩

/-- **When `thread_running` can be relied on**: all along a run exactly if every run loop thread
that has to be started is, and `thread_running` is cleared whenever one ends. -/
theorem alive_iff (events : List Event) :
    (∀ k, (Mealy.run step initial (events.take k)).Truthful) ↔
      Mealy.Along step LoopOk initial events :=
  Mealy.always_iff_along next_truthful_iff truthful_initial events

/-- The answers to a call in which nothing fails, and which is about the first device. -/
def goodAnswers : CallAnswers where
  init := 0
  create := 0
  openDevice := 0
  videoJunk := .empty
  depthJunk := .empty
  format := {
    video := {
      ring := { ptr0 := 1, ptr1 := 2, ptr2 := 3, junk := videoMode .low .dummy 0 0 0 0 0 0 }
      junk := videoMode .low .dummy 0 0 0 0 0 0
      start := { libMalloc := 101, rawMalloc := 102, junk := videoMode .low .dummy 0 0 0 0 0 0 } }
    depth := {
      ring := { ptr0 := 4, ptr1 := 5, ptr2 := 6, junk := depthMode .dummy 0 0 0 }
      junk := depthMode .dummy 0 0 0
      start := { libMalloc := 103, rawMalloc := 104, junk := depthMode .dummy 0 0 0 } }
    tables := { raw := 105, shift := 106, table := 107 } }

/-- The device is unplugged: the run loop thread ends, and `thread_running` stays set. -/
theorem thread_running_after_unplug :
    ¬ ∀ k, Truthful (Mealy.run step initial
      (List.take k [.call 0 (.video .medium .rgb) goodAnswers, .iterate 0 (-1), .exit 0])) := by
  intro h
  exact Bool.false_ne_true ((h 3).alive rfl rfl).2

end Freenect.Wrapper
