import Freenect.Sync.Labels
import Freenect.Sync.Owned

/-!
# What holds in a session

What holds in every state of a session in which all changes of format succeed, whatever the clients
do and in whatever order. A stream is as it was opened, or it is set up: its ring has the three
buffers that were allocated last, libfreenect fills the third, and the second holds the newest frame
if it is valid (`StreamView.SetUp`). `Session.Inv` adds what is between the streams, and between the
wrapper and the library; each event keeps it (`Session.Inv.step`).

There is a section for each event. What an event does is first brought into an equation about the
view of either stream, since most events concern one of the two, and leave the view of the other as
it is (`packet_view`, `producer_view_self`, `fetched_view_self`, `changed_view_of_ne`). With these
the parts of the invariant that are about a stream go through one by one:

* A packet changes memory only. libfreenect writes to the third buffer of the ring and to its own
  blocks (`Inv.fills`), so that the frame in the second stays what it is (`Inv.packet`).
* The callback makes the frame that was completed in the third buffer the newest one, by swapping it
  to the second (`Inv.producer_sound`). In the time between the two libfreenect may not write to it:
  that is why the state remembers that a callback is on its way.
* A fetch takes the newest frame away (`Inv.fetch`).
* A change of format frees three blocks and gets three others. All that is needed is that `malloc`
  has returned blocks that nobody has (`Inv.changed_distinct`).

Two more results say that clients get on: a fetch on a valid ring replies (`Inv.replies`), and a
ring is valid from the callback until a fetch or a change of format (`framesWait`).
-/

namespace Freenect

/-- What there is to one stream. -/
structure StreamView where
  ring : BufferRing
  mode : Mode
  running : Bool
  usrBuf : Ptr
  frames : List Frame
  allocated : Option (List Ptr)
  lastAsked : Option Mode
  handedOut : ℕ

namespace StreamView

/-- The stream has not been asked for yet. -/
structure Fresh (v : StreamView) : Prop where
  bufs : ∀ p ∈ v.ring.bufs, p = NULL
  fmt : v.ring.fmt = -1
  running : v.running = false
  usrBuf : v.usrBuf = NULL

/-- **The stream has been set up**, with the buffers `ps`. -/
structure SetUp (v : StreamView) (heap : Heap) (mem : Memory) (ps : List Ptr) : Prop where
  perm : v.ring.bufs.Perm ps
  nodup : ps.Nodup
  live : ∀ p ∈ ps, heap.live p ≠ none
  running : v.running = true
  usrBuf : v.usrBuf = v.ring.buf2
  label : v.ring.fmt = v.mode.fmt ∧ v.ring.res = v.mode.res
  last : v.lastAsked = some v.mode
  /-- A valid frame is the newest one, and no client has got it. -/
  newest : v.ring.valid = true → ∃ f, v.frames.getLast? = some f ∧ f.mode = v.mode ∧
    f.timestamp = v.ring.timestamp ∧ mem v.ring.buf1 = f.data ∧ v.handedOut < v.frames.length

/-- **What holds of a stream** in every state. -/
structure Sound (v : StreamView) (heap : Heap) (mem : Memory) : Prop where
  fresh : v.allocated = none → v.Fresh
  setUp : ∀ ps, v.allocated = some ps → v.SetUp heap mem ps
  handedOut : v.handedOut ≤ v.frames.length

variable {v : StreamView} {heap heap' : Heap} {mem mem' : Memory} {ps : List Ptr} {p : Ptr}

/-- The blocks that were allocated last are the buffers of the ring. -/
theorem SetUp.mem_bufs (h : v.SetUp heap mem ps) : p ∈ ps ↔ p ∈ v.ring.bufs :=
  h.perm.mem_iff.symm

/-- They are blocks of the heap. -/
theorem SetUp.live_bufs (h : v.SetUp heap mem ps) (hp : p ∈ v.ring.bufs) :
    heap.live p ≠ none :=
  h.live p (h.mem_bufs.2 hp)

/-- The three buffers are different. -/
theorem SetUp.ne (h : v.SetUp heap mem ps) :
    v.ring.buf0 ≠ v.ring.buf1 ∧ v.ring.buf0 ≠ v.ring.buf2 ∧ v.ring.buf1 ≠ v.ring.buf2 := by
  have hnodup := h.perm.nodup_iff.2 h.nodup
  simp only [BufferRing.bufs, List.nodup_cons, List.mem_cons, List.not_mem_nil, or_false,
    not_or] at hnodup
  exact ⟨hnodup.1.1, hnodup.1.2, hnodup.2.1⟩

/-- The blocks of a ring and the memory of its second buffer are all that matters. -/
theorem Sound.congr (h : v.Sound heap mem)
    (hlive : ∀ p ∈ v.ring.bufs, heap.live p ≠ none → heap'.live p ≠ none)
    (hmem : v.allocated ≠ none → mem' v.ring.buf1 = mem v.ring.buf1) :
    v.Sound heap' mem' := by
  refine ⟨h.fresh, fun ps hps ↦ ?_, h.handedOut⟩
  have hs := h.setUp ps hps
  refine ⟨hs.perm, hs.nodup, fun p hp ↦ hlive p (hs.mem_bufs.1 hp) (hs.live p hp), hs.running,
    hs.usrBuf, hs.label, hs.last, fun hvalid ↦ ?_⟩
  rw [hmem (by rw [hps]; exact Option.some_ne_none _)]
  exact hs.newest hvalid

end StreamView

/-- The rings are not part of the device. -/
theorem SyncKinect.ring_withDev (k : SyncKinect) (dev : CameraDevice) (i : StreamKind) :
    ring { k with dev := dev } i = k.ring i := by
  cases i with
  | video => rfl
  | depth => rfl

namespace Session

variable {ι : Type}

/-- One of the two streams. -/
def view (s : Session ι) (kind : StreamKind) : StreamView where
  ring := s.kinect.ring kind
  mode := s.kinect.dev.mode kind
  running := (s.kinect.dev.stream kind).strm.running
  usrBuf := (s.kinect.dev.stream kind).strm.usrBuf
  frames := s.frames kind
  allocated := s.allocated kind
  lastAsked := s.lastAsked kind
  handedOut := s.handedOut kind

/-- **What holds in every state.** -/
structure Inv (s : Session ι) : Prop where
  owned : s.kinect.dev.BuffersOwned
  modes : ∀ kind, (s.kinect.dev.mode kind).Supported
  null : s.heap.live NULL = none
  /-- The wrapper has no block of the library. -/
  apart : ∀ p, s.heap.live p ≠ none → ¬ s.kinect.dev.IsLive p
  streams : ∀ kind, (s.view kind).Sound s.heap s.mem
  /-- The rings share no buffer. -/
  distinct : ∀ kind kind' p, p ∈ (s.kinect.ring kind).bufs → p ∈ (s.kinect.ring kind').bufs →
    p ≠ NULL → kind = kind'
  asked : ∀ i m, s.asked i = some m → s.allocated m.kind ≠ none
  /-- A frame that is to be passed on is in the third buffer. -/
  pending : ∀ p, s.pending = some p → s.allocated p.kind ≠ none ∧
    p.buf = (s.kinect.ring p.kind).buf2 ∧ p.frame.mode = s.kinect.dev.mode p.kind ∧
    s.mem p.buf = p.frame.data
  notFailed : s.failed = false

variable {s : Session ι} {kind : StreamKind} {p : Ptr}

/-- A device that has just been opened. -/
theorem inv_initial (videoJunk depthJunk : BufferRing) (mem : Memory) :
    (initial videoJunk depthJunk mem : Session ι).Inv := by
  have hbufs : ∀ kind p, p ∈ ((SyncKinect.fresh videoJunk depthJunk).ring kind).bufs → p = NULL :=
    fun kind _ hp ↦ SyncKinect.fresh_bufs videoJunk depthJunk kind hp
  refine ⟨CameraDevice.buffersOwned_opened, SyncKinect.fresh_supported videoJunk depthJunk, rfl,
    fun p hp ↦ absurd rfl hp,
    fun kind ↦ ⟨fun _ ↦ ⟨hbufs kind, ?_, ?_, ?_⟩, fun ps hps ↦ (nomatch hps), le_refl _⟩,
    fun kind kind' p hp _ hne ↦ absurd (hbufs kind p hp) hne,
    fun i m hm ↦ (nomatch hm), fun p hp ↦ (nomatch hp), rfl⟩ <;> cases kind <;> rfl

/-- A stream with blocks is set up with them. -/
theorem Inv.setUp (h : s.Inv) (hk : s.allocated kind ≠ none) :
    ∃ ps, s.allocated kind = some ps ∧ (s.view kind).SetUp s.heap s.mem ps := by
  obtain ⟨ps, hps⟩ := Option.ne_none_iff_exists'.1 hk
  exact ⟨ps, hps, (h.streams kind).setUp ps hps⟩

/-- A stream that runs has been set up. -/
theorem Inv.allocated_of_running (h : s.Inv)
    (hrun : (s.kinect.dev.stream kind).strm.running = true) : s.allocated kind ≠ none :=
  fun hnone ↦ Bool.false_ne_true (((h.streams kind).fresh hnone).running.symm.trans hrun)

/-- The buffers of a ring are blocks of the heap. -/
theorem Inv.live_bufs (h : s.Inv) (hk : s.allocated kind ≠ none)
    (hp : p ∈ (s.kinect.ring kind).bufs) : s.heap.live p ≠ none := by
  obtain ⟨ps, -, hs⟩ := h.setUp hk
  exact hs.live_bufs hp

/-- The three buffers of a ring are different. -/
theorem Inv.bufs_ne (h : s.Inv) (hk : s.allocated kind ≠ none) :
    (s.kinect.ring kind).buf0 ≠ (s.kinect.ring kind).buf1 ∧
      (s.kinect.ring kind).buf0 ≠ (s.kinect.ring kind).buf2 ∧
      (s.kinect.ring kind).buf1 ≠ (s.kinect.ring kind).buf2 := by
  obtain ⟨ps, -, hs⟩ := h.setUp hk
  exact hs.ne

/-- A block of the wrapper is in one ring at most. -/
theorem Inv.kind_eq (h : s.Inv) {i : StreamKind} (hp : p ∈ (s.kinect.ring kind).bufs)
    (hp' : p ∈ (s.kinect.ring i).bufs) (hlive : s.heap.live p ≠ none) : kind = i := by
  refine h.distinct kind i p hp hp' ?_
  rintro rfl
  exact hlive h.null

/-- **libfreenect fills the third buffer**, and writes to no other block of the wrapper. -/
theorem Inv.fills (h : s.Inv) (hrun : (s.kinect.dev.stream kind).strm.running = true) :
    (s.kinect.dev.stream kind).strm.procBuf = (s.kinect.ring kind).buf2 ∧
      ∀ q, s.heap.live q ≠ none → q ≠ (s.kinect.ring kind).buf2 →
        q ≠ (s.kinect.dev.stream kind).strm.rawBuf := by
  have hk := h.allocated_of_running hrun
  obtain ⟨ps, -, hs⟩ := h.setUp hk
  have husr : (s.kinect.dev.stream kind).strm.usrBuf = (s.kinect.ring kind).buf2 := hs.usrBuf
  have huse := (h.owned.stream kind).inUse hrun
  have hne : (s.kinect.ring kind).buf2 ≠ NULL := by
    intro heq
    have hlive := h.live_bufs hk (BufferRing.mem_bufs.2 (Or.inr (Or.inr rfl)))
    rw [heq] at hlive
    exact hlive h.null
  have hproc : (s.kinect.dev.stream kind).strm.procBuf = (s.kinect.ring kind).buf2 := by
    rw [huse.procBuf, husr, if_neg hne]
  refine ⟨hproc, fun q hq hq2 ↦ ?_⟩
  cases hsplit : (s.kinect.dev.stream kind).strm.splitBufs with
  | false =>
    rw [huse.unsplit hsplit, hproc]
    exact hq2
  | true =>
    -- the raw buffer of a split stream is a block of the library
    rintro rfl
    refine h.apart _ hq (CameraDevice.isLive_of_stream kind ?_)
    rw [(huse.split hsplit).2.2]
    exact Option.some_ne_none _

/-- A buffer that is not the third one of its ring is not the third one of a ring. -/
theorem Inv.ne_buf2 (h : s.Inv) {i : StreamKind} (hp : p ∈ (s.kinect.ring i).bufs)
    (hlive : s.heap.live p ≠ none) (hne : p ≠ (s.kinect.ring i).buf2) (kind : StreamKind) :
    p ≠ (s.kinect.ring kind).buf2 := by
  intro heq
  have hmem : p ∈ (s.kinect.ring kind).bufs := BufferRing.mem_bufs.2 (Or.inr (Or.inr heq))
  obtain rfl := h.kind_eq hp hmem hlive
  exact hne heq

/-- The label of a ring is right. -/
theorem Inv.labelled_mode (h : s.Inv) {m : Mode} (hlabel : s.kinect.Labelled m) :
    s.allocated m.kind ≠ none ∧ s.kinect.dev.mode m.kind = m ∧ s.lastAsked m.kind = some m := by
  have hk : s.allocated m.kind ≠ none := fun hnone ↦
    m.fmt_ne (hlabel.1.symm.trans ((h.streams m.kind).fresh hnone).fmt)
  obtain ⟨ps, -, hs⟩ := h.setUp hk
  have hkind : (s.kinect.dev.mode m.kind).kind = m.kind := by cases m.kind <;> rfl
  have hmode : s.kinect.dev.mode m.kind = m := Mode.eq_of_codes hkind
    (hs.label.1.symm.trans hlabel.1) (hs.label.2.symm.trans hlabel.2)
  exact ⟨hk, hmode, hs.last.trans (congrArg some hmode)⟩

/-- The blocks of the other ring are not freed with those of a ring. -/
theorem Inv.live_freed (h : s.Inv) {i : StreamKind} (hi : i ≠ kind)
    (hp : p ∈ (s.kinect.ring i).bufs) (hlive : s.heap.live p ≠ none) :
    ((s.kinect.ring kind).free s.heap).live p = s.heap.live p :=
  (Heap.live_freeAll h.null p).trans (if_neg fun hmem ↦ hi (h.kind_eq hp hmem hlive))

/-- The client's buffer of a stream is of the wrapper. -/
theorem Inv.usrBuf (h : s.Inv) {i : StreamKind} (hi : i ≠ kind) :
    (s.kinect.dev.stream i).strm.usrBuf = NULL ∨
      ((s.kinect.ring kind).free s.heap).live (s.kinect.dev.stream i).strm.usrBuf ≠ none := by
  by_cases hk : s.allocated i = none
  · exact Or.inl ((h.streams i).fresh hk).usrBuf
  · obtain ⟨ps, -, hs⟩ := h.setUp hk
    have hmem : (s.kinect.ring i).buf2 ∈ (s.kinect.ring i).bufs :=
      BufferRing.mem_bufs.2 (Or.inr (Or.inr rfl))
    refine Or.inr ?_
    rw [show (s.kinect.dev.stream i).strm.usrBuf = (s.kinect.ring i).buf2 from hs.usrBuf,
      h.live_freed hi hmem (h.live_bufs hk hmem)]
    exact h.live_bufs hk hmem

/-! ### A packet -/

/-- A packet writes to no block of the wrapper but the one that is filled. -/
theorem Inv.packet_mem (h : s.Inv) (kind : StreamKind) (convert : Option Conversion)
    (pkt : List UInt8) {q : Ptr} (hq : s.heap.live q ≠ none) (hne : q ≠ (s.kinect.ring kind).buf2) :
    (s.packet kind convert pkt).mem q = s.mem q := by
  rw [packet]
  split
  · rfl
  · refine (frameProcess_mem convert _ s.mem pkt).2 q fun hrun ↦ ?_
    obtain ⟨hproc, hraw⟩ := h.fills hrun
    exact ⟨hproc.symm ▸ hne, hraw q hq hne⟩

/-- What a packet leaves to the clients. -/
theorem packet_frame (s : Session ι) (kind : StreamKind) (convert : Option Conversion)
    (pkt : List UInt8) : (s.packet kind convert pkt).asked = s.asked ∧
      (s.packet kind convert pkt).held = s.held ∧ (s.packet kind convert pkt).heap = s.heap ∧
      (s.packet kind convert pkt).allocated = s.allocated := by
  rw [packet]
  split
  · exact ⟨rfl, rfl, rfl, rfl⟩
  · exact ⟨rfl, rfl, rfl, rfl⟩

/-- Nothing of a stream but its memory changes. -/
theorem packet_view (s : Session ι) (kind : StreamKind) (convert : Option Conversion)
    (pkt : List UInt8) (i : StreamKind) : (s.packet kind convert pkt).view i = s.view i := by
  rw [packet]
  split
  · rfl
  · obtain ⟨hbufs, -, hrun⟩ := frameProcess_strm convert (s.kinect.dev.stream kind).strm s.mem pkt
    unfold view
    dsimp only
    rw [SyncKinect.ring_withDev, CameraDevice.withStrm_mode]
    by_cases hi : i = kind
    · subst hi
      rw [CameraDevice.withStrm_stream_self, hrun, hbufs]
    · rw [CameraDevice.withStrm_stream_of_ne hi]

/-- **A packet**: libfreenect writes to the third buffer, and a frame that it completes is there. -/
theorem Inv.packet (h : s.Inv) (kind : StreamKind) (convert : Option Conversion)
    (pkt : List UInt8) : (s.packet kind convert pkt).Inv := by
  have hview := s.packet_view kind convert pkt
  have hmem := fun q ↦ h.packet_mem kind convert pkt (q := q)
  have hring := fun i ↦ congrArg StreamView.ring (hview i)
  have hmode := fun i ↦ congrArg StreamView.mode (hview i)
  dsimp only [view] at hring hmode
  revert hview hmem hring hmode
  obtain ⟨hbufs, hgeometry, hrun⟩ :=
    frameProcess_strm convert (s.kinect.dev.stream kind).strm s.mem pkt
  obtain ⟨hframe, -⟩ := frameProcess_mem convert (s.kinect.dev.stream kind).strm s.mem pkt
  rw [Session.packet]
  split
  · exact fun _ _ _ _ ↦ h
  dsimp only
  intro hview hmem hring hmode
  refine ⟨h.owned.withStrm hbufs hgeometry hrun, fun i ↦ (hmode i).symm ▸ h.modes i, h.null,
    fun p hp hl ↦ h.apart p hp (CameraDevice.withStrm_isLive.1 hl), fun i ↦ ?_,
    fun i i' p hp hp' ↦ h.distinct i i' p (hring i ▸ hp) (hring i' ▸ hp'), h.asked, ?_, h.notFailed⟩
  -- the newest frame is in the second buffer, which is not written to
  · rw [hview i]
    refine (h.streams i).congr (fun _ _ hl ↦ hl) fun hk ↦ ?_
    obtain ⟨-, -, hne⟩ := h.bufs_ne hk
    have hmem1 : (s.kinect.ring i).buf1 ∈ (s.kinect.ring i).bufs :=
      BufferRing.mem_bufs.2 (Or.inr (Or.inl rfl))
    exact hmem _ (h.live_bufs hk hmem1) (h.ne_buf2 hmem1 (h.live_bufs hk hmem1) hne kind)
  -- a frame that is completed is in the buffer that libfreenect fills
  · intro p hp
    obtain ⟨f, hf, rfl⟩ := Option.map_eq_some_iff.1 hp
    obtain ⟨hrunning, hproc⟩ := hframe f hf
    refine ⟨h.allocated_of_running hrunning, ?_, (hmode kind).symm, rfl⟩
    rw [hring kind]
    exact hproc.trans (h.fills hrunning).1

/-! ### The producer callback -/

/-- What the callback leaves to the clients. -/
theorem producer_frame (s : Session ι) : s.producer.asked = s.asked ∧ s.producer.held = s.held ∧
    s.producer.heap = s.heap ∧ s.producer.mem = s.mem ∧ s.producer.allocated = s.allocated ∧
    ∀ i, (s.producer.kinect.ring i).buf0 = (s.kinect.ring i).buf0 := by
  rw [producer]
  cases s.pending with
  | none => exact ⟨rfl, rfl, rfl, rfl, rfl, fun _ ↦ rfl⟩
  | some q =>
    refine ⟨rfl, rfl, rfl, rfl, rfl, fun i ↦ ?_⟩
    dsimp only
    by_cases hi : i = q.kind
    · subst hi
      rw [SyncKinect.ring_withRing_self]
      rfl
    · rw [SyncKinect.ring_withRing_of_ne hi, SyncKinect.ring_withDev]

/-- The stream that the frame is not of. -/
theorem producer_view_of_ne (s : Session ι) {q : Pending} (hq : s.pending = some q)
    {i : StreamKind} (hi : i ≠ q.kind) : s.producer.view i = s.view i := by
  rw [producer]
  rw [hq]
  unfold view
  dsimp only
  rw [SyncKinect.ring_withRing_of_ne hi, SyncKinect.ring_withDev, SyncKinect.withRing_dev,
    CameraDevice.setBuffer_stream_of_ne hi, CameraDevice.setBuffer_mode,
    Function.update_of_ne hi]

/-- The stream that it is of: the buffers are swapped, libfreenect gets the other one, and the frame
is noted. -/
theorem producer_view_self (s : Session ι) {q : Pending} (hq : s.pending = some q)
    (hne : (s.kinect.ring q.kind).buf1 ≠ NULL) :
    s.producer.view q.kind = { s.view q.kind with
      ring := (s.kinect.ring q.kind).produce q.frame.timestamp
      usrBuf := (s.kinect.ring q.kind).buf1
      frames := s.frames q.kind ++ [q.frame] } := by
  have hset : (streamSetbuf (s.kinect.dev.stream q.kind).strm
      (s.kinect.ring q.kind).buf1).1.usrBuf = (s.kinect.ring q.kind).buf1 := by
    rcases streamSetbuf_cases (s.kinect.dev.stream q.kind).strm (s.kinect.ring q.kind).buf1 with
      ⟨-, hset⟩ | ⟨-, hnull, -⟩ | ⟨-, -, hset⟩
    · rw [hset]
    · exact absurd hnull hne
    · rw [hset]
  rw [producer]
  rw [hq]
  unfold view
  dsimp only
  rw [SyncKinect.ring_withRing_self, SyncKinect.withRing_dev, CameraDevice.setBuffer_stream_self,
    CameraDevice.setBuffer_mode, Function.update_self, hset, streamSetbuf_running]

/-- The second buffer of a stream that a frame is waiting for. -/
theorem Inv.live_buf1 (h : s.Inv) {q : Pending} (hq : s.pending = some q) :
    s.heap.live (s.kinect.ring q.kind).buf1 ≠ none :=
  h.live_bufs (h.pending q hq).1 (BufferRing.mem_bufs.2 (Or.inr (Or.inl rfl)))

/-- The same in a session, where the assertion of the callback holds. -/
theorem Inv.producer_view_self (h : s.Inv) {q : Pending} (hq : s.pending = some q) :
    s.producer.view q.kind = { s.view q.kind with
      ring := (s.kinect.ring q.kind).produce q.frame.timestamp
      usrBuf := (s.kinect.ring q.kind).buf1
      frames := s.frames q.kind ++ [q.frame] } :=
  s.producer_view_self hq fun heq ↦ h.live_buf1 hq (heq ▸ h.null)

/-- The callback leaves the buffers in their rings. -/
theorem Inv.producer_bufs (h : s.Inv) {q : Pending} (hq : s.pending = some q) {i : StreamKind}
    (hp : p ∈ (s.producer.kinect.ring i).bufs) : p ∈ (s.kinect.ring i).bufs := by
  by_cases hi : i = q.kind
  · subst hi
    have hring := congrArg StreamView.ring (h.producer_view_self hq)
    rw [show s.producer.kinect.ring q.kind = _ from hring] at hp
    exact (BufferRing.produce_bufs_perm _).mem_iff.1 hp
  · have hring := congrArg StreamView.ring (s.producer_view_of_ne hq hi)
    rwa [show s.producer.kinect.ring i = _ from hring] at hp

/-- The stream that the frame is of: the frame is the newest one, in the second buffer. -/
theorem Inv.producer_sound (h : s.Inv) {q : Pending} (hq : s.pending = some q) :
    (s.producer.view q.kind).Sound s.heap s.mem := by
  obtain ⟨hk, hbuf, hframe, hdata⟩ := h.pending q hq
  have hle := (h.streams q.kind).handedOut
  rw [h.producer_view_self hq]
  refine ⟨fun hnone ↦ absurd hnone hk, fun ps hps ↦ ?_, ?_⟩
  · have hs := (h.streams q.kind).setUp ps hps
    refine ⟨(BufferRing.produce_bufs_perm _).trans hs.perm, hs.nodup, hs.live, hs.running,
      rfl, hs.label, hs.last, fun _ ↦ ⟨q.frame, List.getLast?_concat, hframe, rfl, ?_, ?_⟩⟩
    · show s.mem (s.kinect.ring q.kind).buf2 = q.frame.data
      rw [← hbuf]
      exact hdata
    · rw [List.length_append]
      exact Nat.lt_succ_of_le hle
  · rw [List.length_append]
    exact Nat.le_succ_of_le hle

/-- **The producer callback**: the frame is what it is about, and goes to the second buffer. -/
theorem Inv.producer (h : s.Inv) : s.producer.Inv := by
  cases hq : s.pending with
  | none =>
    unfold Session.producer
    rw [hq]
    exact h
  | some q =>
    obtain ⟨hk, hbuf, -, -⟩ := h.pending q hq
    have hself := h.producer_sound hq
    have hother := fun i ↦ s.producer_view_of_ne hq (i := i)
    have hbufs := fun i p ↦ h.producer_bufs hq (p := p) (i := i)
    revert hself hother hbufs
    unfold Session.producer
    rw [hq]
    dsimp only
    intro hself hother hbufs
    refine ⟨?_, fun i ↦ ?_, h.null, fun p hp hl ↦ ?_, fun i ↦ ?_, fun i i' p hp hp' ↦
      h.distinct i i' p (hbufs i p hp) (hbufs i' p hp'), h.asked, fun p hp ↦ (nomatch hp), ?_⟩
    · rw [SyncKinect.withRing_dev]
      exact h.owned.setBuffer (h.apart _ (h.live_buf1 hq))
    · rw [SyncKinect.withRing_dev, CameraDevice.setBuffer_mode]
      exact h.modes i
    · rw [SyncKinect.withRing_dev] at hl
      exact h.apart p hp (CameraDevice.setBuffer_isLive.1 hl)
    · by_cases hi : i = q.kind
      · subst hi
        exact hself
      · rw [hother i hi]
        exact h.streams i
    · rw [h.notFailed, hbuf]
      simp

/-! ### A fetch -/

variable [DecidableEq ι]

/-- The state after a client has got a frame of a stream. -/
def fetched (s : Session ι) (i : ι) (m : Mode) : Session ι :=
  { s with
    kinect := s.kinect.withRing m.kind { s.kinect.ring m.kind with
      buf0 := (s.kinect.ring m.kind).buf1, buf1 := (s.kinect.ring m.kind).buf0, valid := false }
    asked := Function.update s.asked i none
    held := Function.update s.held i (some {
      buf := (s.kinect.ring m.kind).buf1, data := s.mem (s.kinect.ring m.kind).buf1 })
    handedOut := Function.update s.handedOut m.kind (s.frames m.kind).length }

/-- **What a fetch does**: a client that waits gets the frame in the second buffer, if it is
valid. -/
theorem fetch_cases (s : Session ι) (i : ι) :
    (s.fetch i = (s, none) ∧
      ∀ m, s.asked i = some m → (s.kinect.ring m.kind).valid = false) ∨
    ∃ m, s.asked i = some m ∧ (s.kinect.ring m.kind).valid = true ∧
      s.fetch i = (s.fetched i m, some {
        mode := m
        buf := (s.kinect.ring m.kind).buf1
        timestamp := (s.kinect.ring m.kind).timestamp
        number := (s.frames m.kind).length }) := by
  rw [fetch]
  cases hm : s.asked i with
  | none => exact Or.inl ⟨rfl, fun m hm' ↦ (nomatch hm')⟩
  | some m =>
    dsimp only
    cases ho : (s.kinect.ring m.kind).syncGet with
    | none =>
      refine Or.inl ⟨rfl, fun m' hm' ↦ ?_⟩
      obtain rfl := Option.some.inj hm'
      exact BufferRing.syncGet_eq_none ho
    | some o =>
      obtain ⟨hvalid, rfl⟩ := BufferRing.syncGet_eq_some ho
      exact Or.inr ⟨m, rfl, hvalid, rfl⟩

/-- The stream that nothing is fetched from. -/
theorem fetched_view_of_ne (s : Session ι) (j : ι) {m : Mode} {i : StreamKind} (hi : i ≠ m.kind) :
    (s.fetched j m).view i = s.view i := by
  unfold fetched view
  dsimp only
  rw [SyncKinect.ring_withRing_of_ne hi, SyncKinect.withRing_dev, Function.update_of_ne hi]

/-- The stream that the frame is of. -/
theorem fetched_view_self (s : Session ι) (j : ι) (m : Mode) :
    (s.fetched j m).view m.kind = { s.view m.kind with
      ring := { s.kinect.ring m.kind with
        buf0 := (s.kinect.ring m.kind).buf1, buf1 := (s.kinect.ring m.kind).buf0, valid := false }
      handedOut := (s.frames m.kind).length } := by
  unfold fetched view
  dsimp only
  rw [SyncKinect.ring_withRing_self, SyncKinect.withRing_dev, Function.update_self]

/-- **A fetch** swaps the first two buffers. -/
theorem Inv.fetch (h : s.Inv) (i : ι) : (s.fetch i).1.Inv := by
  rcases s.fetch_cases i with ⟨hno, -⟩ | ⟨m, hm, -, hfetch⟩
  · rw [hno]
    exact h
  rw [hfetch]
  have hself := s.fetched_view_self i m
  have hother := fun kind ↦ s.fetched_view_of_ne i (m := m) (i := kind)
  have hdev : (s.fetched i m).kinect.dev = s.kinect.dev := SyncKinect.withRing_dev _ _ _
  -- a fetch swaps the first two buffers of one ring, so the third stays
  have hring : ∀ kind, ((s.fetched i m).kinect.ring kind).bufs.Perm (s.kinect.ring kind).bufs ∧
      ((s.fetched i m).kinect.ring kind).buf2 = (s.kinect.ring kind).buf2 := by
    intro kind
    by_cases hkind : kind = m.kind
    · subst hkind
      rw [show (s.fetched i m).kinect.ring m.kind = _ from congrArg StreamView.ring hself]
      exact ⟨List.Perm.swap _ _ _, rfl⟩
    · rw [show (s.fetched i m).kinect.ring kind = _ from congrArg StreamView.ring (hother _ hkind)]
      exact ⟨List.Perm.refl _, rfl⟩
  refine ⟨hdev ▸ h.owned, fun kind ↦ hdev ▸ h.modes kind, h.null,
    fun p hp hl ↦ h.apart p hp (hdev ▸ hl), fun kind ↦ ?_, fun kind kind' p hp hp' ↦
      h.distinct kind kind' p ((hring kind).1.mem_iff.1 hp) ((hring kind').1.mem_iff.1 hp'),
    fun j m' hm' ↦ ?_, fun p hp ↦ ?_, h.notFailed⟩
  · by_cases hkind : kind = m.kind
    · subst hkind
      rw [hself]
      obtain ⟨ps, hps, hs⟩ := h.setUp (h.asked i m hm)
      refine ⟨fun hnone ↦ absurd hnone (h.asked i m hm), fun ps' hps' ↦ ?_, le_refl _⟩
      obtain rfl := Option.some.inj (hps.symm.trans hps')
      exact ⟨(List.Perm.swap _ _ _).trans hs.perm, hs.nodup, hs.live, hs.running, hs.usrBuf,
        hs.label, hs.last, fun hvalid ↦ absurd hvalid Bool.false_ne_true⟩
    · rw [hother kind hkind]
      exact h.streams kind
  · refine h.asked j m' ?_
    change Function.update s.asked i none j = some m' at hm'
    by_cases hj : j = i
    · subst hj
      rw [Function.update_self] at hm'
      cases hm'
    · rwa [Function.update_of_ne hj] at hm'
  · rw [(hring p.kind).2, hdev]
    exact h.pending p hp

/-! ### A call -/

/-- Whoever has asked for a mode has asked for one of a stream that is set up. -/
theorem Inv.asked_ask (h : s.Inv) (i : ι) {m : Mode} {allocated : StreamKind → Option (List Ptr)}
    (hself : allocated m.kind ≠ none) (hother : ∀ kind, kind ≠ m.kind →
      allocated kind = s.allocated kind) (j : ι) (m' : Mode)
    (hm' : (s.ask i m).asked j = some m') : allocated m'.kind ≠ none := by
  change Function.update s.asked i (some m) j = some m' at hm'
  by_cases hj : j = i
  · subst hj
    rw [Function.update_self] at hm'
    obtain rfl := Option.some.inj hm'
    exact hself
  · rw [Function.update_of_ne hj] at hm'
    by_cases hkind : m'.kind = m.kind
    · rwa [hkind]
    · rw [hother _ hkind]
      exact h.asked j m' hm'

/-- A client asks for the mode a stream is in. -/
theorem Inv.ask (h : s.Inv) (i : ι) {m : Mode} (hlabel : s.kinect.Labelled m) :
    (s.ask i m).Inv := by
  obtain ⟨hk, -, hlast⟩ := h.labelled_mode hlabel
  have hview : ∀ kind, (s.ask i m).view kind = s.view kind := by
    intro kind
    unfold Session.ask view
    dsimp only
    rw [← hlast, Function.update_eq_self]
  exact ⟨h.owned, h.modes, h.null, h.apart, fun kind ↦ (hview kind).symm ▸ h.streams kind,
    h.distinct, h.asked_ask i hk fun _ _ ↦ rfl, h.pending, h.notFailed⟩

/-- The state after a change of format. -/
def changed (s : Session ι) (i : ι) (m : Mode) (a : FormatAnswers) : Session ι :=
  { s.ask i m with
    kinect := (s.kinect.changeFormat s.heap a m).1
    heap := (s.kinect.changeFormat s.heap a m).2.1
    allocated := Function.update s.allocated m.kind
      (some ((s.kinect.changeFormat s.heap a m).1.ring m.kind).bufs) }

/-- The stream whose format is not changed. -/
theorem changed_view_of_ne (s : Session ι) (j : ι) {m : Mode} (a : FormatAnswers) {i : StreamKind}
    (hi : i ≠ m.kind) : (s.changed j m a).view i = s.view i := by
  obtain ⟨hring, hstream, hmode⟩ := changeFormat_apart s.kinect s.heap a m
  unfold changed Session.ask view
  dsimp only
  rw [hring i hi, hstream i hi, hmode i hi, Function.update_of_ne hi, Function.update_of_ne hi]

/-- A stream whose format has been changed is set up anew. -/
theorem Inv.changed_setUp (h : s.Inv) (j : ι) {m : Mode} {a : FormatAnswers}
    (hok : ChangeSucceeds s.kinect s.heap a m) :
    ((s.changed j m a).view m.kind).SetUp (s.changed j m a).heap (s.changed j m a).mem
      ((s.changed j m a).kinect.ring m.kind).bufs := by
  have hc := changeFormat_changed s.kinect s.heap a hok.allocated
  have hserves := (serves_iff a (h.modes m.kind) h.null).2 hok
  have hne := hc.bufs.2 hok.ring
  obtain ⟨sz, -, hgrown⟩ := hc.grown
  have hnodup := hgrown.distinct
  have hall : ((s.kinect.changeFormat s.heap a m).1.ring m.kind).bufs.filter (· ≠ 0) =
      ((s.kinect.changeFormat s.heap a m).1.ring m.kind).bufs :=
    List.filter_eq_self.2 fun p hp ↦ decide_eq_true (hne p hp)
  rw [hall] at hnodup
  refine ⟨List.Perm.refl _, hnodup, fun p hp ↦ ?_, hserves.running, hc.usrBuf, ?_, ?_,
    fun hvalid ↦ absurd (hc.notValid.symm.trans hvalid) Bool.false_ne_true⟩
  · show (s.kinect.changeFormat s.heap a m).2.1.live p ≠ none
    rw [(hgrown.new p hp (hne p hp)).1]
    exact Option.some_ne_none _
  · have hmode : ((s.changed j m a).view m.kind).mode = m := hserves.mode
    rw [hmode]
    exact hserves.label
  · have hmode : ((s.changed j m a).view m.kind).mode = m := hserves.mode
    rw [hmode]
    exact Function.update_self _ _ _

omit [DecidableEq ι] in
/-- A buffer of the new ring is in no old one. -/
theorem Inv.changed_bufs_ne (h : s.Inv) {m : Mode} {a : FormatAnswers} (hall : m.Allocated)
    {i : StreamKind} (hi : i ≠ m.kind) (hp : p ∈ (s.kinect.ring i).bufs)
    (hp' : p ∈ ((s.kinect.changeFormat s.heap a m).1.ring m.kind).bufs) : p = NULL := by
  obtain ⟨sz, -, hgrown⟩ := (changeFormat_changed s.kinect s.heap a hall).grown
  by_contra hne
  by_cases hk : s.allocated i = none
  · exact hne (((h.streams i).fresh hk).bufs p hp)
  · have hlive := h.live_bufs hk hp
    have hfreed := (hgrown.new p hp' hne).2
    rw [h.live_freed hi hp hlive] at hfreed
    exact hlive hfreed

omit [DecidableEq ι] in
/-- The null pointer is no block of the new heap. -/
theorem Inv.changed_null (h : s.Inv) {m : Mode} (a : FormatAnswers) (hall : m.Allocated) :
    (s.kinect.changeFormat s.heap a m).2.1.live NULL = none := by
  obtain ⟨sz, -, hgrown⟩ := (changeFormat_changed s.kinect s.heap a hall).grown
  refine not_not.1 fun hlive ↦ ?_
  rcases hgrown.only NULL hlive with hold | ⟨-, hne⟩
  · exact hold (Heap.live_freeAll_of_none h.null)
  · exact hne rfl

omit [DecidableEq ι] in
/-- The rings share no buffer after a change of format either. -/
theorem Inv.changed_distinct (h : s.Inv) {m : Mode} {a : FormatAnswers} (hall : m.Allocated)
    {i i' : StreamKind} (hp : p ∈ ((s.kinect.changeFormat s.heap a m).1.ring i).bufs)
    (hp' : p ∈ ((s.kinect.changeFormat s.heap a m).1.ring i').bufs) (hne : p ≠ NULL) : i = i' := by
  have hring := (changeFormat_apart s.kinect s.heap a m).ring
  by_cases hi : i = m.kind <;> by_cases hi' : i' = m.kind
  · exact hi.trans hi'.symm
  · subst hi
    rw [hring i' hi'] at hp'
    exact absurd (h.changed_bufs_ne hall hi' hp' hp) hne
  · subst hi'
    rw [hring i hi] at hp
    exact absurd (h.changed_bufs_ne hall hi hp hp') hne
  · rw [hring i hi] at hp
    rw [hring i' hi'] at hp'
    exact h.distinct i i' p hp hp' hne

/-- **A change of format** that succeeds. -/
theorem Inv.changed (h : s.Inv) (hpending : s.pending = none) (j : ι) {m : Mode} {a : FormatAnswers}
    (hok : ChangeSucceeds s.kinect s.heap a m) (hlib : LibrarySucceeds s.kinect s.heap a m) :
    (s.changed j m a).Inv := by
  have hother := fun i ↦ s.changed_view_of_ne j (m := m) a (i := i)
  obtain ⟨howned, hapart⟩ := changeFormat_owned h.owned h.apart (fun i hi ↦ h.usrBuf hi) hok hlib
  obtain ⟨sz, -, hgrown⟩ := (changeFormat_changed s.kinect s.heap a hok.allocated).grown
  refine ⟨howned, fun i ↦ ?_, h.changed_null a hok.allocated, hapart, fun i ↦ ?_,
    fun i i' p hp hp' hne ↦ h.changed_distinct hok.allocated hp hp' hne,
    h.asked_ask j ?_ fun kind hkind ↦ Function.update_of_ne hkind _ _, fun p hp ↦ ?_, h.notFailed⟩
  · exact Kinects.changeFormat_supported h.modes s.heap a m i
  · by_cases hi : i = m.kind
    · subst hi
      refine ⟨fun hnone ↦ ?_, fun ps hps ↦ ?_, (h.streams m.kind).handedOut⟩
      · cases (Function.update_self m.kind _ s.allocated).symm.trans hnone
      · obtain rfl := Option.some.inj
          ((Function.update_self m.kind _ s.allocated).symm.trans hps)
        exact h.changed_setUp j hok
    · rw [hother i hi]
      refine (h.streams i).congr (fun p hp hlive ↦ ?_) fun _ ↦ rfl
      -- the ring of the other stream keeps its blocks
      have hfreed := h.live_freed hi hp hlive
      rw [← hfreed] at hlive
      exact (hgrown.old p hlive).symm ▸ hlive
  · rw [show (s.changed j m a).allocated m.kind = _ from Function.update_self _ _ _]
    exact Option.some_ne_none _
  · cases hpending.symm.trans hp

/-! ### One event -/

/-- The format of a stream is changed in an event only with success. -/
def ChangesSucceed (s : Session ι) : Event ι → Prop
  | .call i m a => s.asked i = none → s.pending = none → ¬ s.kinect.Labelled m →
    ChangeSucceeds s.kinect s.heap a m ∧ LibrarySucceeds s.kinect s.heap a m
  | _ => True

instance (s : Session ι) : (e : Event ι) → Decidable (s.ChangesSucceed e)
  | .call _ _ _ =>
    have : Decidable (s.pending = none) := decidable_of_iff _ Option.isNone_iff_eq_none
    inferInstanceAs (Decidable (_ → _ → _ → _ ∧ _))
  | .fetch _ | .packet .. | .producer => isTrue trivial

/-- **What a call does**: nothing as long as it has to wait, and else it asks for the mode, with a
change of format if the label is another one. -/
theorem call_cases (s : Session ι) (i : ι) (m : Mode) (a : FormatAnswers) :
    s.call i m a = s ∨
    (s.asked i = none ∧ s.kinect.Labelled m ∧ s.call i m a = s.ask i m) ∨
    (s.asked i = none ∧ s.pending = none ∧ ¬ s.kinect.Labelled m ∧
      s.call i m a = s.changed i m a) := by
  rw [call]
  cases hasked : s.asked i with
  | some m' => exact Or.inl rfl
  | none =>
    rw [Option.isSome_none, if_neg Bool.false_ne_true]
    by_cases hlabel : s.kinect.Labelled m
    · rw [if_pos hlabel]
      exact Or.inr (Or.inl ⟨rfl, hlabel, rfl⟩)
    · rw [if_neg hlabel]
      cases hpending : s.pending with
      | some q => exact Or.inl rfl
      | none => exact Or.inr (Or.inr ⟨rfl, rfl, hlabel, rfl⟩)

/-- **One event** keeps what holds. -/
theorem Inv.step (s : Session ι) (e : Event ι) (h : s.Inv) (hok : s.ChangesSucceed e) :
    (s.step e).1.Inv := by
  cases e with
  | call i m a =>
    show (s.call i m a).Inv
    rcases s.call_cases i m a with hcall | ⟨-, hlabel, hcall⟩ | ⟨hasked, hpending, hlabel, hcall⟩
    · rw [hcall]
      exact h
    · rw [hcall]
      exact h.ask i hlabel
    · rw [hcall]
      obtain ⟨hchange, hlib⟩ := hok hasked hpending hlabel
      exact h.changed hpending i hchange hlib
  | fetch i => exact h.fetch i
  | packet kind convert pkt => exact h.packet kind convert pkt
  | producer => exact h.producer

/-! ### What a client gets -/

/-- **A reply is the newest frame** of its stream: the buffer holds it, and the timestamp is its
own. -/
structure Delivers (s : Session ι) (r : SyncReply) (f : Frame) : Prop where
  newest : (s.frames r.mode.kind).getLast? = some f
  timestamp : r.timestamp = f.timestamp
  data : s.mem r.buf = f.data
  number : r.number = (s.frames r.mode.kind).length

/-- If a client gets something in an event, it is the newest frame. -/
def GetsNewest (s : Session ι) (e : Event ι) : Prop :=
  ∀ r, (s.step e).2 = some r → ∃ f, s.Delivers r f

/-- **What a client gets** is the newest frame, captured in the mode that was asked for last, and no
client has got it before. -/
theorem Inv.delivers (h : s.Inv) (e : Event ι) {r : SyncReply} (hr : (s.step e).2 = some r) :
    ∃ f, s.Delivers r f ∧ s.lastAsked r.mode.kind = some f.mode ∧
      s.handedOut r.mode.kind < r.number ∧ (s.step e).1.handedOut r.mode.kind = r.number := by
  cases e with
  | call | packet | producer => cases hr
  | fetch i =>
    change (s.fetch i).2 = some r at hr
    show ∃ f, _ ∧ _ ∧ _ ∧ (s.fetch i).1.handedOut r.mode.kind = r.number
    rcases s.fetch_cases i with ⟨hno, -⟩ | ⟨m, hm, hvalid, hfetch⟩
    · rw [hno] at hr
      cases hr
    rw [hfetch] at hr ⊢
    obtain rfl := Option.some.inj hr
    obtain ⟨ps, -, hs⟩ := h.setUp (h.asked i m hm)
    obtain ⟨f, hlast, hmode, htimestamp, hdata, hlt⟩ := hs.newest hvalid
    exact ⟨f, ⟨hlast, htimestamp.symm, hdata, rfl⟩, hs.last.trans (congrArg some hmode.symm), hlt,
      Function.update_self _ _ _⟩

/-- **Every event** gives a client the newest frame, if it gives it one. -/
theorem Inv.getsNewest (h : s.Inv) (e : Event ι) : s.GetsNewest e := by
  intro r hr
  obtain ⟨f, hf, -⟩ := h.delivers e hr
  exact ⟨f, hf⟩

/-- **A client does not wait for a frame that is there**: `sync_get` on a valid ring replies, with
the newest frame. -/
def Replies (s : Session ι) : Event ι → Prop
  | .fetch i => ∀ m, s.asked i = some m → (s.kinect.ring m.kind).valid = true →
      ∃ r f, (s.step (.fetch i)).2 = some r ∧ r.mode = m ∧ s.Delivers r f
  | _ => True

/-- **Every fetch** of a client that waits for a frame that is there replies. -/
theorem Inv.replies (h : s.Inv) (e : Event ι) : s.Replies e := by
  cases e with
  | call | packet | producer => exact trivial
  | fetch i =>
    intro m hm hvalid
    rcases s.fetch_cases i with ⟨-, hwait⟩ | ⟨m', hm', -, hfetch⟩
    · exact absurd (hwait m hm) (Bool.not_eq_false _ ▸ hvalid)
    · obtain rfl := Option.some.inj (hm.symm.trans hm')
      have hr := congrArg Prod.snd hfetch
      obtain ⟨f, hf, -⟩ := h.delivers (.fetch i) hr
      exact ⟨_, f, hr, rfl, hf⟩

/-- The event takes the frame away that is in the ring of a stream: a client of the stream fetches
it, or its format is changed. -/
def Takes (s : Session ι) (kind : StreamKind) : Event ι → Prop
  | .call i m _ =>
    m.kind = kind ∧ s.asked i = none ∧ s.pending = none ∧ ¬ s.kinect.Labelled m
  | .fetch i => ∃ m, s.asked i = some m ∧ m.kind = kind
  | .packet .. | .producer => False

omit [DecidableEq ι] in
/-- **The callback makes the ring valid.** -/
theorem producer_valid {q : Pending} (hq : s.pending = some q) :
    (s.producer.kinect.ring q.kind).valid = true := by
  rw [Session.producer]
  rw [hq]
  dsimp only
  rw [SyncKinect.ring_withRing_self]
  rfl

/-- **A valid ring stays valid** in an event that does not take the frame. -/
theorem valid_step (s : Session ι) (e : Event ι) (hvalid : (s.kinect.ring kind).valid = true)
    (hkeep : ¬ s.Takes kind e) : ((s.step e).1.kinect.ring kind).valid = true := by
  -- most events leave the stream as it is, and with it the ring
  have hof {t : Session ι} (hview : t.view kind = s.view kind) :
      (t.kinect.ring kind).valid = true := by
    rw [show t.kinect.ring kind = s.kinect.ring kind from congrArg StreamView.ring hview]
    exact hvalid
  cases e with
  | call i m a =>
    show ((s.call i m a).kinect.ring kind).valid = true
    rcases s.call_cases i m a with hcall | ⟨-, -, hcall⟩ | ⟨hasked, hpending, hlabel, hcall⟩ <;>
      rw [hcall]
    · exact hvalid
    · exact hvalid
    · exact hof (s.changed_view_of_ne i a fun hkind ↦ hkeep ⟨hkind.symm, hasked, hpending, hlabel⟩)
  | fetch i =>
    show ((s.fetch i).1.kinect.ring kind).valid = true
    rcases s.fetch_cases i with ⟨hno, -⟩ | ⟨m, hm, -, hfetch⟩
    · rw [hno]
      exact hvalid
    · rw [hfetch]
      exact hof (s.fetched_view_of_ne i fun hkind ↦ hkeep ⟨m, hm, hkind.symm⟩)
  | packet kind' convert pkt => exact hof (s.packet_view kind' convert pkt kind)
  | producer =>
    show (s.producer.kinect.ring kind).valid = true
    cases hq : s.pending with
    | none =>
      rw [Session.producer]
      rw [hq]
      exact hvalid
    | some q =>
      by_cases hkind : kind = q.kind
      · rw [hkind]
        exact producer_valid hq
      · exact hof (s.producer_view_of_ne hq hkind)

/-- **A frame that is passed on waits to be fetched**: the ring of its stream is valid after the
callback, and in every state from there on as long as no event has taken the frame. -/
def FramesWait (s : Session ι) (events : List (Event ι)) : Prop :=
  ∀ before after rest q, events = before ++ .producer :: (after ++ rest) →
    (Mealy.run step s before).pending = some q →
    Mealy.Along step (fun s e ↦ ¬ s.Takes q.kind e)
      (Mealy.run step s (before ++ [.producer])) after →
    ((Mealy.run step s (before ++ .producer :: after)).kinect.ring q.kind).valid = true

/-- **Frames wait**, in any session. -/
theorem framesWait (s : Session ι) (events : List (Event ι)) : s.FramesWait events := by
  rintro before after rest q - hq hkeep
  rw [Mealy.run_append] at hkeep
  rw [Mealy.run_append]
  exact hkeep.run_invariant (I := fun s ↦ (s.kinect.ring q.kind).valid = true) valid_step
    (producer_valid hq)

/-- Frames are handed out in their order. -/
theorem Inv.handedOut_le (h : s.Inv) (e : Event ι) (kind : StreamKind) :
    s.handedOut kind ≤ (s.step e).1.handedOut kind := by
  cases e with
  | call i m a =>
    refine Nat.le_of_eq ?_
    show s.handedOut kind = (s.call i m a).handedOut kind
    rcases s.call_cases i m a with hcall | ⟨-, -, hcall⟩ | ⟨-, -, -, hcall⟩ <;> rw [hcall] <;> rfl
  | fetch i =>
    show s.handedOut kind ≤ (s.fetch i).1.handedOut kind
    rcases s.fetch_cases i with ⟨hno, -⟩ | ⟨m, -, -, hfetch⟩
    · rw [hno]
    · rw [hfetch]
      show s.handedOut kind ≤ Function.update s.handedOut m.kind (s.frames m.kind).length kind
      by_cases hkind : kind = m.kind
      · rw [hkind, Function.update_self]
        exact (h.streams m.kind).handedOut
      · rw [Function.update_of_ne hkind]
  | packet kind' convert pkt =>
    exact Nat.le_of_eq (congrArg StreamView.handedOut (s.packet_view kind' convert pkt kind)).symm
  | producer =>
    refine Nat.le_of_eq ?_
    show s.handedOut kind = s.producer.handedOut kind
    rw [Session.producer]
    cases s.pending <;> rfl

end Session

end Freenect
