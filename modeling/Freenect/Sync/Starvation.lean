import Freenect.Sync.PendingTasks
import Mathlib.Data.List.ReduceOption

/-!
# Clients are not starved by the run loop

From the moment a client is counted in `pending_runloop_tasks` no run loop thread gets past
`pending_runloop_tasks_wait_zero` any more, so only a thread that has already passed it (`armed`)
can still enter `freenect_process_events` before the client has `runloop_lock`, and only once. With
one run loop thread that is one round at most.

But there may be two: `setup_kinect` clears `thread_running` on its error path, and
`freenect_sync_stop` does, without waiting for the thread under a lock; the next client then starts
another thread and sets `thread_running` for both. `not_starved` is about runs in which a client
that starts a run loop thread finds the earlier ones out of their loop.

The invariant is that each lock is held by whoever the places in the code say (`Guarded`), and that
the count is that of the clients in between (`Threads.Inv`).

What a step can do is said once for a client (`ClientMove`) and once for a run loop thread
(`LoopMove`), by what it may change of the locks, of the count and of the places; the two lemmas
that go through the code are `clientStep_move` and `loopStep_move`, and nothing after them looks at
a line of it. While some task is pending, the round that a thread makes in a step is one that it was
armed for before, and no thread becomes armed (`step_armed`): that is the bound.
-/

namespace Freenect.Tasks

namespace Threads

open scoped Finset

variable {ι : Type}

/-! ### Who holds what -/

/-- A thread holds `pending_runloop_tasks_lock`. -/
def holdsPending (s : Threads ι) : Agent ι → Bool
  | .client i => (s.client i).holdsPending
  | .loop t => s.loops[t]?.any LoopPc.holdsPending

/-- A thread holds `runloop_lock`. -/
def holdsRunloop (s : Threads ι) : Agent ι → Bool
  | .client i => (s.client i).locked
  | .loop t => s.loops[t]?.any LoopPc.locked

/-- A run loop thread can enter `freenect_process_events` without waiting for the tasks again. -/
def armed (s : Threads ι) (t : ℕ) : Bool := s.loops[t]?.any LoopPc.armed

/-- A run loop thread is in its loop. -/
def looping (s : Threads ι) (t : ℕ) : Bool := s.loops[t]?.any LoopPc.looping

/-- What a step of client `i` does: it moves in its own code, takes or gives back the locks on the
way, and counts itself in or out. If a run loop thread is created, it is at its beginning. -/
structure ClientMove (s s' : Threads ι) (i : ι) (ok : Bool) : Prop where
  others : ∀ j, j ≠ i → s'.client j = s.client j
  loops : s'.loops = s.loops ∨
    (s.client i).creates = true ∧ ok = true ∧ s'.loops = s.loops ++ [.waitLock]
  pendingLock : LockMove (.client i) (s.client i).holdsPending (s'.client i).holdsPending
    s.pendingLock s'.pendingLock
  runloopLock : LockMove (.client i) (s.client i).locked (s'.client i).locked
    s.runloopLock s'.runloopLock
  pending : s'.pending + (s.client i).counted.toNat = s.pending + (s'.client i).counted.toNat

/-- It is thread `t` that is reported. -/
def isEntry (t : ℕ) (entered : Option ℕ) : Bool := decide (entered = some t)

/-- A thread that enters is reported. -/
@[simp] theorem isEntry_self (t : ℕ) : isEntry t (some t) = true := decide_eq_true rfl

/-- What a step of run loop thread `t` does. It gets past the wait only if no task is pending. -/
structure LoopMove (s s' : Threads ι) (t : ℕ) (entered : Option ℕ) : Prop where
  client : s'.client = s.client
  pending : s'.pending = s.pending
  others : ∀ u, u ≠ t → s'.loops[u]? = s.loops[u]?
  pendingLock : LockMove (.loop t) (s.holdsPending (.loop t)) (s'.holdsPending (.loop t))
    s.pendingLock s'.pendingLock
  runloopLock : LockMove (.loop t) (s.holdsRunloop (.loop t)) (s'.holdsRunloop (.loop t))
    s.runloopLock s'.runloopLock
  looping : s'.looping t = true → s.looping t = true
  enters : entered = none ∨ entered = some t
  armed : s.pending ≠ 0 → (s'.armed t).toNat + (isEntry t entered).toNat ≤ (s.armed t).toNat

variable {s s' : Threads ι} {i : ι} {t : ℕ} {call : ClientCall} {ok : Bool}

/-! ### The steps of a run loop thread -/

/-- A thread that stays where it is. -/
theorem LoopMove.refl (s : Threads ι) (t : ℕ) : LoopMove s s t none :=
  ⟨rfl, rfl, fun _ _ ↦ rfl, .keep _ _, .keep _ _, id, Or.inl rfl, fun _ ↦ Nat.le_refl _⟩

/-- A run loop thread goes from one place to another. -/
theorem LoopMove.goto {old new : LoopPc} {L R : Option (Agent ι)} {entered : Option ℕ}
    (hold : s.loops[t]? = some old)
    (hL : LockMove (.loop t) old.holdsPending new.holdsPending s.pendingLock L)
    (hR : LockMove (.loop t) old.locked new.locked s.runloopLock R)
    (hlooping : new.looping = true → old.looping = true)
    (henters : entered = none ∨ entered = some t)
    (harmed : s.pending ≠ 0 → new.armed.toNat + (isEntry t entered).toNat ≤ old.armed.toNat) :
    LoopMove s { s with loops := s.loops.set t new, pendingLock := L, runloopLock := R } t
      entered := by
  have hnew : (s.loops.set t new)[t]? = some new := by
    rw [List.getElem?_set_self (List.getElem?_eq_some_iff.1 hold).1]
  refine ⟨rfl, rfl, fun u hu ↦ List.getElem?_set_ne hu.symm, ?_, ?_, ?_, henters, ?_⟩
  · simpa only [holdsPending, hnew, hold, Option.any_some] using hL
  · simpa only [holdsRunloop, hnew, hold, Option.any_some] using hR
  · simpa only [Threads.looping, hnew, hold, Option.any_some] using hlooping
  · simpa only [Threads.armed, hnew, hold, Option.any_some] using harmed

/-- A run loop thread goes to a place where it is not armed. -/
theorem LoopMove.goto_unarmed {old new : LoopPc} {L R : Option (Agent ι)}
    (hold : s.loops[t]? = some old)
    (hL : LockMove (.loop t) old.holdsPending new.holdsPending s.pendingLock L)
    (hR : LockMove (.loop t) old.locked new.locked s.runloopLock R)
    (hlooping : new.looping = true → old.looping = true) (hnew : new.armed = false) :
    LoopMove s { s with loops := s.loops.set t new, pendingLock := L, runloopLock := R } t none :=
  .goto hold hL hR hlooping (Or.inl rfl) fun _ ↦ by
    rw [hnew]
    exact Nat.zero_le _

/-- A run loop thread takes `pending_runloop_tasks_lock`, or waits for it. -/
theorem LoopMove.lockPending (hold : s.loops[t]? = some .waitLock) :
    LoopMove s (s.lockPending (.loop t) (s.loopTo t .waitTest)) t none := by
  rw [Threads.lockPending]
  split
  next hfree =>
    exact .goto_unarmed hold (.take_of_isNone hfree) (.keep _ _) (fun _ ↦ rfl) rfl
  next => exact .refl s t

/-- An armed thread takes `runloop_lock`, or waits for it. -/
theorem LoopMove.lockRunloop (hold : s.loops[t]? = some .runloopLock) :
    LoopMove s (s.lockRunloop (.loop t) (s.loopTo t .testRunning)) t none := by
  rw [Threads.lockRunloop]
  split
  next hfree =>
    exact .goto hold (.keep _ _) (.take_of_isNone hfree) (fun _ ↦ rfl) (Or.inl rfl)
      fun _ ↦ Nat.le_refl _
  next => exact .refl s t

/-- **The steps of a run loop thread.** -/
theorem loopStep_move (s : Threads ι) (t : ℕ) (ok : Bool) :
    LoopMove s (s.loopStep t ok).1 t (s.loopStep t ok).2 := by
  rw [loopStep]
  cases hpc : s.loops[t]? with
  | none => exact .refl s t
  | some pc =>
    cases pc with
    | sleeping | dead => exact .refl s t
    | waitLock => exact .lockPending hpc
    | waitTest =>
      dsimp only
      split
      next => exact .goto_unarmed hpc (.give _) (.keep _ _) (fun _ ↦ rfl) rfl
      next hzero =>
        -- only here does a thread become armed
        exact .goto hpc (.keep _ _) (.keep _ _) (fun _ ↦ rfl) (Or.inl rfl)
          fun hpending ↦ absurd hpending hzero
    | waitUnlock =>
      exact .goto hpc (.give _) (.keep _ _) (fun _ ↦ rfl) (Or.inl rfl) fun _ ↦ Nat.le_refl _
    | runloopLock => exact .lockRunloop hpc
    | testRunning =>
      dsimp only
      split
      next =>
        exact .goto hpc (.keep _ _) (.keep _ _) (fun _ ↦ rfl) (Or.inr rfl)
          fun _ ↦ by simp [LoopPc.armed]
      next => exact .goto_unarmed hpc (.keep _ _) (.keep _ _) (fun _ ↦ rfl) rfl
    | processing =>
      cases ok <;> exact .goto_unarmed hpc (.keep _ _) (.keep _ _) (fun _ ↦ rfl) rfl
    | runloopUnlock => exact .goto_unarmed hpc (.keep _ _) (.give _) (fun _ ↦ rfl) rfl
    | cleanup => exact .goto_unarmed hpc (.keep _ _) (.keep _ _) (fun h ↦ h) rfl
    | lastUnlock => exact .goto_unarmed hpc (.keep _ _) (.give _) (fun h ↦ h) rfl

/-- A thread that wakes up has not moved in the loop. -/
theorem wakeStep_move (s : Threads ι) (t : ℕ) : LoopMove s (s.wakeStep t) t none := by
  rw [wakeStep]
  split
  next hpc => exact .goto_unarmed hpc (.keep _ _) (.keep _ _) (fun _ ↦ rfl) rfl
  next => exact .refl s t

/-! ### The steps of a client -/

/-- A new run loop thread, at its beginning, makes no difference to what is not true there. -/
theorem any_append_waitLock (loops : List LoopPc) (t : ℕ) {p : LoopPc → Bool}
    (hp : p .waitLock = false) : (loops ++ [.waitLock])[t]?.any p = loops[t]?.any p := by
  rcases Nat.lt_trichotomy t loops.length with h | rfl | h
  · rw [List.getElem?_append_left h]
  · rw [List.getElem?_concat_length, List.getElem?_eq_none (Nat.le_refl _)]
    exact hp
  · rw [List.getElem?_eq_none (Nat.le_of_lt h), List.getElem?_eq_none]
    rw [List.length_append]
    exact h

/-- What is not true at the beginning of `init` no client makes true of a run loop thread. -/
theorem ClientMove.any_loops (h : ClientMove s s' i ok) (t : ℕ) {p : LoopPc → Bool}
    (hp : p .waitLock = false) : s'.loops[t]?.any p = s.loops[t]?.any p := by
  rcases h.loops with heq | ⟨-, -, heq⟩
  · rw [heq]
  · rw [heq, any_append_waitLock s.loops t hp]

/-- A client that stays where it is. -/
theorem ClientMove.refl (s : Threads ι) (i : ι) (ok : Bool) : ClientMove s s i ok :=
  ⟨fun _ _ ↦ rfl, Or.inl rfl, .keep _ _, .keep _ _, rfl⟩

variable [DecidableEq ι]

/-- A client goes from one place to another, and may create a run loop thread. -/
theorem ClientMove.goto_loops {old new : ClientPc} {loops : List LoopPc} {L R : Option (Agent ι)}
    {p : ℤ} {running : Bool} {thread : Option ℕ} (hold : s.client i = old)
    (hL : LockMove (.client i) old.holdsPending new.holdsPending s.pendingLock L)
    (hR : LockMove (.client i) old.locked new.locked s.runloopLock R)
    (hp : p + old.counted.toNat = s.pending + new.counted.toNat)
    (hloops : loops = s.loops ∨
      old.creates = true ∧ ok = true ∧ loops = s.loops ++ [.waitLock]) :
    ClientMove s
      { client := Function.update s.client i new
        loops := loops
        pendingLock := L
        runloopLock := R
        pending := p
        threadRunning := running
        thread := thread } i ok := by
  subst hold
  have hnew : Function.update s.client i new i = new := Function.update_self i new s.client
  refine ⟨fun j hj ↦ Function.update_of_ne hj new s.client, hloops, ?_, ?_, ?_⟩
  · show LockMove _ _ (Function.update s.client i new i).holdsPending _ _
    rw [hnew]
    exact hL
  · show LockMove _ _ (Function.update s.client i new i).locked _ _
    rw [hnew]
    exact hR
  · show p + _ = s.pending + ((Function.update s.client i new i).counted.toNat : ℤ)
    rw [hnew]
    exact hp

/-- A client goes from one place to another. -/
theorem ClientMove.goto {old new : ClientPc} {L R : Option (Agent ι)} {p : ℤ} {running : Bool}
    {thread : Option ℕ} (hold : s.client i = old)
    (hL : LockMove (.client i) old.holdsPending new.holdsPending s.pendingLock L)
    (hR : LockMove (.client i) old.locked new.locked s.runloopLock R)
    (hp : p + old.counted.toNat = s.pending + new.counted.toNat) :
    ClientMove s
      { client := Function.update s.client i new
        loops := s.loops
        pendingLock := L
        runloopLock := R
        pending := p
        threadRunning := running
        thread := thread } i ok :=
  .goto_loops hold hL hR hp (Or.inl rfl)

/-- A client takes `pending_runloop_tasks_lock`, or waits for it. -/
theorem ClientMove.lockPending {old new : ClientPc} (hold : s.client i = old)
    (hfrom : old.holdsPending = false) (hto : new.holdsPending = true)
    (hR : new.locked = old.locked) (hp : new.counted = old.counted) :
    ClientMove s (s.lockPending (.client i) (s.goto i new)) i ok := by
  rw [Threads.lockPending]
  split
  next hfree =>
    refine .goto hold ?_ (hR ▸ .keep _ _) (congrArg _ (congrArg _ (congrArg _ hp.symm)))
    rw [hfrom, hto]
    exact .take_of_isNone hfree
  next => exact .refl s i ok

/-- A client takes `runloop_lock`, or waits for it. -/
theorem ClientMove.lockRunloop {old new : ClientPc} (hold : s.client i = old)
    (hfrom : old.locked = false) (hto : new.locked = true)
    (hL : new.holdsPending = old.holdsPending) (hp : new.counted = old.counted) :
    ClientMove s (s.lockRunloop (.client i) (s.goto i new)) i ok := by
  rw [Threads.lockRunloop]
  split
  next hfree =>
    refine .goto hold (hL ▸ .keep _ _) ?_ (congrArg _ (congrArg _ (congrArg _ hp.symm)))
    rw [hfrom, hto]
    exact .take_of_isNone hfree
  next => exact .refl s i ok

/-- **The steps of a client.** -/
theorem clientStep_move (s : Threads ι) (i : ι) (call : ClientCall) (ok : Bool) :
    ClientMove s (s.clientStep i call ok) i ok := by
  simp only [clientStep]
  -- at every place either no lock changes hands, or one does and the place says so
  cases hpc : s.client i with
  | idle => cases call <;> exact .goto hpc (.keep _ _) (.keep _ _) rfl
  | incLock setup => exact .lockPending hpc rfl rfl rfl rfl
  | incAdd setup => exact .goto hpc (.keep _ _) (.keep _ _) (Int.add_zero (s.pending + 1))
  | incUnlock setup => exact .goto hpc (.give _) (.keep _ _) rfl
  | runloopLock setup => cases setup <;> exact .lockRunloop hpc rfl rfl rfl rfl
  | inside => exact .goto hpc (.keep _ _) (.keep _ _) rfl
  | readPrev => exact .goto hpc (.keep _ _) (.keep _ _) rfl
  | testRunning prev =>
    dsimp only
    split
    · exact .goto hpc (.keep _ _) (.keep _ _) rfl
    · exact .goto hpc (.keep _ _) (.keep _ _) rfl
  | initThread prev =>
    dsimp only
    split
    · exact .goto hpc (.keep _ _) (.keep _ _) rfl
    · exact .goto hpc (.keep _ _) (.keep _ _) rfl
  | createThread prev =>
    dsimp only
    split
    next hok => exact .goto_loops hpc (.keep _ _) (.keep _ _) rfl (Or.inr ⟨rfl, hok, rfl⟩)
    next => exact .goto hpc (.keep _ _) (.keep _ _) rfl
  | allocKinect prev =>
    dsimp only
    split
    · exact .goto hpc (.keep _ _) (.keep _ _) rfl
    · split
      · exact .goto hpc (.keep _ _) (.keep _ _) rfl
      · exact .goto hpc (.keep _ _) (.keep _ _) rfl
  | setFormat => exact .goto hpc (.keep _ _) (.keep _ _) rfl
  | clearRunning => exact .goto hpc (.keep _ _) (.keep _ _) rfl
  | runloopUnlock join => exact .goto hpc (.keep _ _) (.give _) rfl
  | decLock join => exact .lockPending hpc rfl rfl rfl rfl
  | decSub join =>
    exact .goto hpc (.keep _ _) (.keep _ _)
      ((Int.sub_add_cancel s.pending 1).trans (Int.add_zero s.pending).symm)
  | decUnlock join =>
    dsimp only
    split
    · exact .goto hpc (.give _) (.keep _ _) rfl
    · exact .goto hpc (.give _) (.keep _ _) rfl
  | joinThread => exact .goto hpc (.keep _ _) (.keep _ _) rfl
  | joining thread =>
    dsimp only
    split
    · exact .goto hpc (.keep _ _) (.keep _ _) rfl
    · exact .refl s i ok
  | stopTest =>
    dsimp only
    split
    · exact .goto hpc (.keep _ _) (.keep _ _) rfl
    · exact .goto hpc (.keep _ _) (.keep _ _) rfl
  | stopClear => exact .goto hpc (.keep _ _) (.keep _ _) rfl

/-! ### While a task is pending -/

/-- **One step while a task is pending**: a run loop thread that enters `freenect_process_events`
was armed, and is not any more; none becomes armed. -/
theorem step_armed (s : Threads ι) (action : Action ι) (t : ℕ) (h : s.pending ≠ 0) :
    ((s.step action).1.armed t).toNat + (isEntry t (s.step action).2).toNat ≤
      (s.armed t).toNat := by
  have hloop : ∀ {s' : Threads ι} {u : ℕ} {entered : Option ℕ}, LoopMove s s' u entered →
      (s'.armed t).toNat + (isEntry t entered).toNat ≤ (s.armed t).toNat := by
    intro s' u entered hmove
    by_cases htu : t = u
    · subst htu
      exact hmove.armed h
    · have hentry : isEntry t entered = false := by
        rcases hmove.enters with rfl | rfl
        · rfl
        · exact decide_eq_false fun hu ↦ htu (Option.some.inj hu).symm
      rw [hentry, Threads.armed, hmove.others t htu]
      exact Nat.le_refl _
  -- a client makes no thread armed: a new one is at its beginning
  cases action with
  | client i call ok =>
    exact Nat.le_of_eq (congrArg Bool.toNat ((clientStep_move s i call ok).any_loops t rfl))
  | loop u ok => exact hloop (loopStep_move s u ok)
  | wake u => exact hloop (wakeStep_move s u)

/-! ### The invariant -/

variable [Fintype ι]

/-- The clients between `pending_runloop_tasks_inc` and `pending_runloop_tasks_dec`. -/
def tasks (s : Threads ι) : ℕ := #{i | (s.client i).counted = true}

/-- Both locks are held by who has them, and the tasks are counted. -/
structure Inv (s : Threads ι) : Prop where
  pendingLock : Guarded s.pendingLock s.holdsPending
  runloopLock : Guarded s.runloopLock s.holdsRunloop
  pending : s.pending = s.tasks

omit [DecidableEq ι] in
/-- Before the first call. -/
theorem Inv.initial : Inv (initial : Threads ι) := by
  have hfree : ∀ {holds : Agent ι → Bool}, (∀ a, holds a = false) → Guarded none holds :=
    fun hnot a ↦ iff_of_false (by rw [hnot a]; decide) fun h ↦ nomatch h
  refine ⟨hfree fun a ↦ ?_, hfree fun a ↦ ?_, ?_⟩
  · cases a <;> rfl
  · cases a <;> rfl
  · show (0 : ℤ) = (#{i : ι | false = true} : ℕ)
    simp

/-- What a client may do keeps the invariant. -/
theorem Inv.client (h : Inv s) (hmove : ClientMove s s' i ok) : Inv s' := by
  refine ⟨h.pendingLock.move hmove.pendingLock fun a ha ↦ ?_,
    h.runloopLock.move hmove.runloopLock fun a ha ↦ ?_, ?_⟩
  · cases a with
    | client j =>
      exact congrArg ClientPc.holdsPending (hmove.others j fun hj ↦ ha (congrArg _ hj))
    | loop t => exact hmove.any_loops t rfl
  · cases a with
    | client j => exact congrArg ClientPc.locked (hmove.others j fun hj ↦ ha (congrArg _ hj))
    | loop t => exact hmove.any_loops t rfl
  · have hcount : s'.tasks + (s.client i).counted.toNat = s.tasks + (s'.client i).counted.toNat :=
      card_filter_step fun j hj ↦ congrArg _ (hmove.others j hj)
    have hpending := hmove.pending
    have := h.pending
    omega

omit [DecidableEq ι] in
theorem Inv.loop {entered : Option ℕ} (h : Inv s) (hmove : LoopMove s s' t entered) : Inv s' := by
  refine ⟨h.pendingLock.move hmove.pendingLock fun a ha ↦ ?_,
    h.runloopLock.move hmove.runloopLock fun a ha ↦ ?_, ?_⟩
  · cases a with
    | client j => exact congrArg (fun c ↦ (c j).holdsPending) hmove.client
    | loop u =>
      exact congrArg (Option.any LoopPc.holdsPending)
        (hmove.others u fun hu ↦ ha (congrArg _ hu))
  · cases a with
    | client j => exact congrArg (fun c ↦ (c j).locked) hmove.client
    | loop u =>
      exact congrArg (Option.any LoopPc.locked) (hmove.others u fun hu ↦ ha (congrArg _ hu))
  · rw [hmove.pending, h.pending, tasks, tasks, hmove.client]

/-- **Every step** keeps the invariant. -/
theorem Inv.step (s : Threads ι) (action : Action ι) (h : Inv s) : Inv (s.step action).1 := by
  cases action with
  | client i call ok => exact h.client (clientStep_move s i call ok)
  | loop t ok => exact h.loop (loopStep_move s t ok)
  | wake t => exact h.loop (wakeStep_move s t)

/-- Along every run, both locks are held by who has them, and the tasks are counted. -/
theorem Inv.run (actions : List (Action ι)) :
    Inv (Mealy.run Threads.step Threads.initial actions) :=
  Mealy.run_invariant Inv.step .initial actions

omit [DecidableEq ι] in
/-- While a client waits for `runloop_lock`, some task is pending. -/
theorem Inv.pending_ne_zero (h : Inv s) (hi : (s.client i).waiting = true) : s.pending ≠ 0 := by
  have hcounted : (s.client i).counted = true := by
    simp only [ClientPc.counted, hi, Bool.true_or]
  have hpos : 0 < s.tasks :=
    Finset.card_pos.2 ⟨i, Finset.mem_filter.2 ⟨Finset.mem_univ i, hcounted⟩⟩
  rw [h.pending]
  exact_mod_cast hpos.ne'

omit [DecidableEq ι] in
/-- Nobody is inside a locked section while a run loop thread processes events. -/
theorem Inv.excluded (h : Inv s) (ht : s.loops[t]? = some .processing) :
    (s.client i).locked = false := by
  have hloop : s.holdsRunloop (.loop t) = true := by
    rw [holdsRunloop, ht]
    rfl
  refine Bool.eq_false_iff.2 fun hi ↦ ?_
  have hclient : s.holdsRunloop (.client i) = true := hi
  exact nomatch h.runloopLock.unique hclient hloop

/-! ### Rounds of the run loop -/

/-- The run loop threads that enter `freenect_process_events`, one after the other. -/
def entries (s : Threads ι) (actions : List (Action ι)) : List ℕ :=
  (Mealy.trace step s actions).reduceOption

/-- Client `i` waits for `runloop_lock` in front of every action. -/
def Waits (i : ι) (s : Threads ι) (actions : List (Action ι)) : Prop :=
  Mealy.Along step (fun s _ ↦ (s.client i).waiting = true) s actions

omit [DecidableEq ι] [Fintype ι] in
/-- The reports about a thread. -/
theorem countP_isEntry (t : ℕ) (reports : List (Option ℕ)) :
    reports.countP (isEntry t) = reports.reduceOption.count t := by
  induction reports with
  | nil => rfl
  | cons entered reports ih =>
    rw [List.countP_cons, ih]
    cases entered with
    | none => rw [List.reduceOption_cons_of_none]; rfl
    | some u =>
      rw [List.reduceOption_cons_of_some, List.count_cons]
      simp only [isEntry, Option.some.injEq, decide_eq_true_eq, beq_iff_eq]

/-- **While a client waits**, no thread enters `freenect_process_events` more than once, and only
threads do that were armed before. -/
theorem count_entries_le (h : Inv s) {actions : List (Action ι)} (hwaits : Waits i s actions)
    (t : ℕ) : (entries s actions).count t ≤ (s.armed t).toNat := by
  rw [entries, ← countP_isEntry]
  exact hwaits.countP_trace_le (fun s ↦ (s.armed t).toNat) (isEntry t)
    (fun s action hs _ ↦ hs.step s action)
    (fun s action hs hi ↦ step_armed s action t (hs.pending_ne_zero hi)) h

/-- At most one run loop thread is in its loop. -/
def Single (s : Threads ι) : Prop := ∀ t u, s.looping t = true → s.looping u = true → t = u

/-- A client that creates a run loop thread finds the earlier ones out of their loop. -/
def StartsAlone (s : Threads ι) : Action ι → Prop
  | .client i _ ok =>
    (s.client i).creates = true → ok = true → ∀ pc ∈ s.loops, pc.looping = false
  | .loop _ _ | .wake _ => True

instance (s : Threads ι) : (action : Action ι) → Decidable (StartsAlone s action)
  | .client i _ ok => inferInstanceAs (Decidable ((s.client i).creates = true → ok = true → _))
  | .loop _ _ | .wake _ => inferInstanceAs (Decidable True)

omit [DecidableEq ι] [Fintype ι] in
/-- An armed thread is in its loop. -/
theorem looping_of_armed (h : s.armed t = true) : s.looping t = true := by
  obtain ⟨pc, hpc, harmed⟩ := (Option.any_eq_true _ _).1 h
  refine (Option.any_eq_true _ _).2 ⟨pc, hpc, ?_⟩
  cases pc <;> first | rfl | exact nomatch harmed

omit [DecidableEq ι] [Fintype ι] in
/-- A run loop thread does not come back to its loop. -/
theorem Single.loop {entered : Option ℕ} (h : Single s) (hmove : LoopMove s s' t entered) :
    Single s' := by
  have hback : ∀ u, s'.looping u = true → s.looping u = true := by
    intro u hu
    by_cases hut : u = t
    · subst hut
      exact hmove.looping hu
    · rwa [Threads.looping, hmove.others u hut] at hu
  exact fun u v hu hv ↦ h u v (hback u hu) (hback v hv)

omit [DecidableEq ι] [Fintype ι] in
/-- A client starts one only where none is in its loop. -/
theorem Single.client (h : Single s) (hmove : ClientMove s s' i ok)
    (halone : (s.client i).creates = true → ok = true → ∀ pc ∈ s.loops, pc.looping = false) :
    Single s' := by
  rcases hmove.loops with heq | ⟨hcreates, hok, heq⟩
  · have hsame : ∀ u, s'.looping u = s.looping u := fun u ↦ by
      rw [Threads.looping, heq, Threads.looping]
    exact fun u v hu hv ↦ h u v (hsame u ▸ hu) (hsame v ▸ hv)
  · -- the new thread is the only one
    have hlast : ∀ u, s'.looping u = true → u = s.loops.length := by
      intro u hu
      obtain ⟨pc, hpc, hloop⟩ := (Option.any_eq_true _ _).1 hu
      rw [heq] at hpc
      have hlt : u < (s.loops ++ [LoopPc.waitLock]).length := (List.getElem?_eq_some_iff.1 hpc).1
      rw [List.length_append, List.length_singleton] at hlt
      refine Nat.le_antisymm (Nat.le_of_lt_succ hlt) (Nat.le_of_not_lt fun hu' ↦ ?_)
      rw [List.getElem?_append_left hu'] at hpc
      rw [halone hcreates hok pc (List.mem_of_getElem? hpc)] at hloop
      exact nomatch hloop
    exact fun u v hu hv ↦ (hlast u hu).trans (hlast v hv).symm

omit [Fintype ι] in
/-- **One run loop thread remains one**, if whoever creates another finds none. -/
theorem Single.step (s : Threads ι) (action : Action ι) (h : Single s)
    (halone : StartsAlone s action) : Single (s.step action).1 := by
  cases action with
  | client i call ok => exact h.client (clientStep_move s i call ok) halone
  | loop t ok => exact h.loop (loopStep_move s t ok)
  | wake t => exact h.loop (wakeStep_move s t)

/-- With one run loop thread there is one round, at most. -/
theorem length_entries_le (h : Inv s) (hsingle : Single s) {actions : List (Action ι)}
    (hwaits : Waits i s actions) : (entries s actions).length ≤ 1 := by
  have hcount := count_entries_le h hwaits
  have hlooping : ∀ t ∈ entries s actions, s.looping t = true := by
    intro t ht
    have hpos : 0 < (s.armed t).toNat := (List.count_pos_iff.2 ht).trans_le (hcount t)
    refine looping_of_armed (Bool.of_not_eq_false fun hnot ↦ ?_)
    rw [hnot] at hpos
    exact Nat.lt_irrefl 0 hpos
  have hnodup : (entries s actions).Nodup :=
    List.nodup_iff_count_le_one.2 fun t ↦ (hcount t).trans (Bool.toNat_le _)
  generalize entries s actions = threads at hlooping hnodup
  match threads with
  | [] | [_] => exact Nat.le_of_ble_eq_true rfl
  | t :: u :: _ =>
    have htu : t = u := hsingle t u (hlooping t (by simp)) (hlooping u (by simp))
    exact absurd (by simp [htu]) (List.nodup_cons.1 hnodup).1

end Threads

open Threads

variable {ι : Type} [DecidableEq ι] [Fintype ι]

/-- Clients are not starved in a run: the tasks are counted, `freenect_process_events` runs while no
client is inside its locked section, and from when a client is counted until it has `runloop_lock`,
it is entered once at most. -/
structure NotStarved (actions : List (Action ι)) : Prop where
  counted : ∀ k, (Mealy.run step initial (actions.take k)).pending =
    (Mealy.run step initial (actions.take k)).tasks
  nonneg : ∀ k, 0 ≤ (Mealy.run step initial (actions.take k)).pending
  excluded : ∀ k (t : ℕ) i,
    (Mealy.run step initial (actions.take k)).loops[t]? = some LoopPc.processing →
    ((Mealy.run step initial (actions.take k)).client i).locked = false
  once : ∀ i before during after, actions = before ++ during ++ after →
    Waits i (Mealy.run step initial before) during →
    (entries (Mealy.run step initial before) during).length ≤ 1

/-- **Clients are not starved** in any run in which whoever creates a run loop thread finds the
earlier ones out of their loop. -/
theorem not_starved (actions : List (Action ι))
    (h : Mealy.Along step StartsAlone initial actions) : NotStarved actions where
  counted k := (Inv.run (actions.take k)).pending
  nonneg k := (Inv.run (actions.take k)).pending ▸ Int.natCast_nonneg _
  excluded k t i ht := (Inv.run (actions.take k)).excluded ht
  once i before during after heq hwaits := by
    have hbefore : Mealy.Along step StartsAlone initial before := by
      have htake := h.take before.length
      rwa [heq, List.append_assoc, List.take_left] at htake
    have hnone : Single (initial : Threads ι) := fun t u ht ↦ nomatch ht
    exact length_entries_le (Inv.run before) (hbefore.run_invariant Single.step hnone) hwaits

/-- A client sets the device up, and the thread gets past the wait; it goes round once more while
another client waits. -/
theorem not_starved_one_thread :
    NotStarved (List.replicate 15 (.client 0 .setupKinect true) ++
      List.replicate 3 (.loop 0 true) ++ List.replicate 3 (.client 1 .runloopEnter true) ++
      List.replicate 4 (.loop 0 true) ++
      List.replicate 2 (.client 1 .runloopEnter true) : List (Action (Fin 2))) :=
  not_starved _ (by decide +kernel)

/-- There is no device 0, but the thread gets past the wait before it sees that it shall stop, and
the next client sets up device 1. Both threads go round while the third client waits. -/
theorem starved_by_two_threads : ¬ NotStarved (List.replicate 9 (.client 0 .setupKinect true) ++
    List.replicate 6 (.client 0 .setupKinect false) ++ List.replicate 3 (.loop 0 true) ++
    List.replicate 15 (.client 1 .setupKinect true) ++ List.replicate 3 (.loop 1 true) ++
    List.replicate 3 (.client 2 .runloopEnter true) ++
    (List.replicate 4 (.loop 0 true) ++ List.replicate 2 (.loop 1 true)) :
      List (Action (Fin 3))) := by
  intro h
  have honce := h.once 2 _ _ [] (List.append_nil _).symm (by rw [Waits]; decide +kernel)
  exact absurd honce (by decide +kernel)

end Freenect.Tasks
