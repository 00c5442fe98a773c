import Freenect.Sync.RunLoop
import Freenect.Sync.SessionSpec

/-!
# The three buffers of a ring

One client for each stream, so that the clients are the streams. Of the three buffers of a ring the
first is with the client: it stays as it is until the client calls again (`HeldOk`). With what holds
in every session this is all that the triple buffer is for (`triple_buffer`): libfreenect fills the
third buffer, a frame that it passes on can be fetched from then on, and a client that fetches gets
the newest one with its timestamp, and no frame twice.

The three buffers have three owners, and each event hands at most one over. A packet changes the
third buffer alone, the callback swaps the last two, a fetch the first two, and a change of format,
which the client itself asks for, gives up all three. So of a stream's own events only the next call
touches what its client holds, and those of the other stream have other buffers (`Inv.kind_eq`).
-/

namespace Freenect.Session

/-- The client of a stream asks for modes of the stream, and the changes of format succeed. -/
def OneClientEach (s : Session StreamKind) (e : Event StreamKind) : Prop :=
  s.ChangesSucceed e ∧
    match e with
    | .call i m _ => m.kind = i
    | _ => True

instance (s : Session StreamKind) : (e : Event StreamKind) → Decidable (s.OneClientEach e)
  | .call _ _ _ => inferInstanceAs (Decidable (_ ∧ _))
  | .fetch _ | .packet .. | .producer => inferInstanceAs (Decidable (_ ∧ True))

/-- **What a client has got stays as it is** in the first buffer. -/
structure HeldOk (s : Session StreamKind) : Prop where
  own : ∀ kind m, s.asked kind = some m → m.kind = kind
  held : ∀ kind b, s.held kind = some b → s.allocated kind ≠ none ∧
    b.buf = (s.kinect.ring kind).buf0 ∧ s.mem b.buf = b.data

variable {s : Session StreamKind}

/-- A packet does not write to a buffer that a client has. -/
theorem HeldOk.packet (h : s.HeldOk) (hinv : s.Inv) (kind : StreamKind)
    (convert : Option Conversion) (pkt : List UInt8) : (s.packet kind convert pkt).HeldOk := by
  obtain ⟨hasked, hheld, -, hallocated⟩ := s.packet_frame kind convert pkt
  refine ⟨hasked.symm ▸ h.own, fun i b hb ↦ ?_⟩
  rw [hheld] at hb
  obtain ⟨hk, hbuf, hdata⟩ := h.held i b hb
  have hview := s.packet_view kind convert pkt i
  have hmem : b.buf ∈ (s.kinect.ring i).bufs := BufferRing.mem_bufs.2 (Or.inl hbuf)
  have hne := hinv.ne_buf2 hmem (hinv.live_bufs hk hmem) (hbuf ▸ (hinv.bufs_ne hk).2.1) kind
  refine ⟨hallocated.symm ▸ hk, ?_, ?_⟩
  · exact hbuf.trans (congrArg (fun v ↦ v.ring.buf0) hview).symm
  · exact (hinv.packet_mem kind convert pkt (hinv.live_bufs hk hmem) hne).trans hdata

/-- The callback leaves the first buffers. -/
theorem HeldOk.producer (h : s.HeldOk) : s.producer.HeldOk := by
  obtain ⟨hasked, hheld, -, hmem, hallocated, hbuf0⟩ := s.producer_frame
  refine ⟨hasked.symm ▸ h.own, fun i b hb ↦ ?_⟩
  rw [hheld] at hb
  rw [hmem, hallocated, hbuf0]
  exact h.held i b hb

/-- A client that fetches has a new buffer, which is then the first one of its ring. -/
theorem HeldOk.fetch (h : s.HeldOk) (hinv : s.Inv) (i : StreamKind) : (s.fetch i).1.HeldOk := by
  rcases s.fetch_cases i with ⟨hno, -⟩ | ⟨m, hm, -, hfetch⟩
  · rw [hno]
    exact h
  rw [hfetch]
  obtain rfl := h.own i m hm
  refine ⟨fun j m' hm' ↦ ?_, fun j b hb ↦ ?_⟩
  · change Function.update s.asked m.kind none j = some m' at hm'
    by_cases hj : j = m.kind
    · rw [hj, Function.update_self] at hm'
      cases hm'
    · rw [Function.update_of_ne hj] at hm'
      exact h.own j m' hm'
  · change Function.update s.held m.kind _ j = some b at hb
    by_cases hj : j = m.kind
    · subst hj
      rw [Function.update_self] at hb
      obtain rfl := Option.some.inj hb
      have hself := congrArg (fun v ↦ v.ring.buf0) (s.fetched_view_self m.kind m)
      exact ⟨hinv.asked _ m hm, hself.symm, rfl⟩
    · rw [Function.update_of_ne hj] at hb
      have hview := s.fetched_view_of_ne m.kind hj
      obtain ⟨hk, hbuf, hdata⟩ := h.held j b hb
      exact ⟨hk, hbuf.trans (congrArg (fun v ↦ v.ring.buf0) hview).symm, hdata⟩

/-- A client that calls gives up its buffer, and the other one keeps its own. -/
theorem HeldOk.ask (h : s.HeldOk) (m : Mode) : (s.ask m.kind m).HeldOk := by
  refine ⟨fun j m' hm' ↦ ?_, fun j b hb ↦ ?_⟩
  · change Function.update s.asked m.kind (some m) j = some m' at hm'
    by_cases hj : j = m.kind
    · rw [hj, Function.update_self] at hm'
      obtain rfl := Option.some.inj hm'
      exact hj.symm
    · rw [Function.update_of_ne hj] at hm'
      exact h.own j m' hm'
  · change Function.update s.held m.kind none j = some b at hb
    by_cases hj : j = m.kind
    · rw [hj, Function.update_self] at hb
      cases hb
    · rw [Function.update_of_ne hj] at hb
      exact h.held j b hb

/-- A client whose call changes the format has no buffer any more. -/
theorem HeldOk.changed (h : s.HeldOk) (m : Mode) (a : FormatAnswers) :
    (s.changed m.kind m a).HeldOk := by
  refine ⟨(h.ask m).own, fun j b hb ↦ ?_⟩
  have hj : j ≠ m.kind := by
    rintro rfl
    change Function.update s.held m.kind none m.kind = some b at hb
    rw [Function.update_self] at hb
    cases hb
  obtain ⟨hk, hbuf, hdata⟩ := (h.ask m).held j b hb
  have hview := s.changed_view_of_ne m.kind a hj
  refine ⟨?_, hbuf.trans (congrArg (fun v ↦ v.ring.buf0) hview).symm, hdata⟩
  rw [show (s.changed m.kind m a).allocated j = s.allocated j from
    congrArg StreamView.allocated hview]
  exact hk

/-- **One event**, if there is one client for each stream. -/
theorem HeldOk.step (s : Session StreamKind) (e : Event StreamKind) (hinv : s.Inv) (h : s.HeldOk)
    (hok : s.OneClientEach e) : (s.step e).1.HeldOk := by
  cases e with
  | call i m a =>
    obtain rfl : m.kind = i := hok.2
    show (s.call m.kind m a).HeldOk
    rcases s.call_cases m.kind m a with hcall | ⟨-, -, hcall⟩ | ⟨-, -, -, hcall⟩
    · rw [hcall]
      exact h
    · rw [hcall]
      exact h.ask m
    · rw [hcall]
      exact h.changed m a
  | fetch i => exact h.fetch hinv i
  | packet kind convert pkt => exact h.packet hinv kind convert pkt
  | producer => exact h.producer

/-- In the beginning no client has a buffer. -/
theorem heldOk_initial (videoJunk depthJunk : BufferRing) (mem : Memory) :
    (initial videoJunk depthJunk mem : Session StreamKind).HeldOk :=
  ⟨fun _ _ hm ↦ (nomatch hm), fun _ _ hb ↦ (nomatch hb)⟩

/-! ### What the triple buffer is for -/

/-- **Triple buffer safety**: the buffers of a ring are the three that were allocated last,
libfreenect fills the third, no assertion has failed, and what a client has got is neither written
to nor freed. -/
structure TripleBuffered (s : Session StreamKind) : Prop where
  bufs : ∀ kind ps, s.allocated kind = some ps →
    (s.kinect.ring kind).bufs.Perm ps ∧ ps.Nodup ∧ ∀ p ∈ ps, s.heap.live p ≠ none
  fills : ∀ kind, (s.kinect.dev.stream kind).strm.running = true →
    (s.kinect.dev.stream kind).strm.procBuf = (s.kinect.ring kind).buf2
  notFailed : s.failed = false
  held : ∀ kind b, s.held kind = some b → s.heap.live b.buf ≠ none ∧ s.mem b.buf = b.data ∧
    ∀ i, (s.kinect.dev.stream i).strm.running = true →
      b.buf ≠ (s.kinect.dev.stream i).strm.procBuf ∧ b.buf ≠ (s.kinect.dev.stream i).strm.rawBuf

/-- **The two invariants together** are what the triple buffer is for. -/
theorem HeldOk.tripleBuffered (h : s.HeldOk) (hinv : s.Inv) : s.TripleBuffered := by
  refine ⟨fun kind ps hps ↦ ?_, fun kind hrun ↦ (hinv.fills hrun).1, hinv.notFailed,
    fun kind b hb ↦ ?_⟩
  · have hs := (hinv.streams kind).setUp ps hps
    exact ⟨hs.perm, hs.nodup, hs.live⟩
  · obtain ⟨hk, hbuf, hdata⟩ := h.held kind b hb
    have hmem : b.buf ∈ (s.kinect.ring kind).bufs := BufferRing.mem_bufs.2 (Or.inl hbuf)
    have hlive := hinv.live_bufs hk hmem
    refine ⟨hlive, hdata, fun i hrun ↦ ?_⟩
    have hne := hinv.ne_buf2 hmem hlive (hbuf ▸ (hinv.bufs_ne hk).2.1) i
    obtain ⟨hproc, hraw⟩ := hinv.fills hrun
    exact ⟨hproc.symm ▸ hne, hraw _ hlive hne⟩

/-- Two replies are about different frames: the later one is about a later frame of the stream. -/
def Later (o o' : Option SyncReply) : Prop :=
  ∀ r ∈ o, ∀ r' ∈ o', r.mode.kind = r'.mode.kind → r.number < r'.number

/-- **The triple buffer**: for one client for each stream, in any order of calls, fetches, packets
and callbacks, the buffers are safe in every state; what a client gets is the newest frame with its
own timestamp, and never a frame it has got before; and it does get one if a callback has passed a
frame on that nothing has taken since. -/
theorem triple_buffer (videoJunk depthJunk : BufferRing) (mem : Memory)
    (events : List (Event StreamKind))
    (h : Mealy.Along step OneClientEach (initial videoJunk depthJunk mem) events) :
    (∀ k, TripleBuffered
      (Mealy.run step (initial videoJunk depthJunk mem) (events.take k))) ∧
    Mealy.Along step GetsNewest (initial videoJunk depthJunk mem) events ∧
    (Mealy.trace step (initial videoJunk depthJunk mem) events).Pairwise Later ∧
    Mealy.Along step Replies (initial videoJunk depthJunk mem) events ∧
    FramesWait (initial videoJunk depthJunk mem) events := by
  -- both invariants are kept by every event, if there is one client for each stream
  have hstep : ∀ (s : Session StreamKind) e, s.Inv ∧ s.HeldOk → s.OneClientEach e →
      (s.step e).1.Inv ∧ (s.step e).1.HeldOk := fun s e hs hok ↦
    ⟨hs.1.step s e hok.1, hs.2.step s e hs.1 hok⟩
  have hs : (initial videoJunk depthJunk mem : Session StreamKind).Inv ∧ _ :=
    ⟨inv_initial videoJunk depthJunk mem, heldOk_initial videoJunk depthJunk mem⟩
  refine ⟨fun k ↦ ?_, ?_, ?_, h.imp hstep (fun s e hs _ ↦ hs.1.replies e) hs, framesWait _ _⟩
  · have hk := (h.take k).run_invariant hstep hs
    exact hk.2.tripleBuffered hk.1
  · exact h.imp hstep (fun s e hs _ ↦ hs.1.getsNewest e) hs
  · -- the state after a reply remembers how many frames have been handed out
    refine Mealy.Along.trace_pairwise (fun o s ↦ ∀ r ∈ o, r.number ≤ s.handedOut r.mode.kind)
      hstep (fun s e hs _ r hr ↦ ?_) (fun o s e hs _ ho r hr ↦ ?_)
      (fun o s e hs _ ho r hr r' hr' hkind ↦ ?_) hs h
    · obtain ⟨f, -, -, -, hnumber⟩ := hs.1.delivers e hr
      exact Nat.le_of_eq hnumber.symm
    · exact (ho r hr).trans (hs.1.handedOut_le e _)
    · obtain ⟨f, -, -, hlt, -⟩ := hs.1.delivers e hr'
      rw [← hkind] at hlt
      exact (ho r hr).trans_lt hlt

/-- Both clients call, a video frame comes in, and its client gets it. -/
def sparseRun : List (Event StreamKind) :=
  [.call .video (.video .medium .rgb) Wrapper.goodAnswers.format,
    .call .depth (.depth .medium .d11Bit) Wrapper.goodAnswers.format] ++
  sparseFrame.map (.packet .video none) ++ [.producer, .fetch .video]

/-- All of it holds along this run. -/
theorem triple_buffer_sparse :
    (∀ k, TripleBuffered
      (Mealy.run step (initial .empty .empty fun _ _ ↦ 0) (sparseRun.take k))) ∧
    Mealy.Along step GetsNewest (initial .empty .empty fun _ _ ↦ 0) sparseRun ∧
    (Mealy.trace step (initial .empty .empty fun _ _ ↦ 0) sparseRun).Pairwise Later ∧
    Mealy.Along step Replies (initial .empty .empty fun _ _ ↦ 0) sparseRun ∧
    FramesWait (initial .empty .empty fun _ _ ↦ 0) sparseRun :=
  triple_buffer .empty .empty (fun _ _ ↦ 0) sparseRun (by decide)

end Freenect.Session
