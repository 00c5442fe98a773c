import Freenect.Device.Streaming

/-!
# Who owns the buffers

A stream works on up to two buffers of its own, the raw buffer of a split stream and the buffer it
falls back on without one of the client's, and on the client's. `OwnedStream.WellOwned` says which
of the five pointers is which, that the library's blocks are exactly the ones it would free, and
that none is left when the stream is stopped. `OwnedTables` are kept in the same way.

Assumed of the environment is that `malloc` returns new blocks (`CameraDevice.Grants`) and that the
client does not hand in a block of the library as its own. A start or stop that gets past its checks
returns zero (`OwnedStream.start`, `OwnedStream.stop`), so nothing is assumed of libusb.

The argument is by components. `WellOwned` is kept by each of the three operations on a stream, and
the tables go from `Absent` to `Allocated` and back. A device is in order (`BuffersOwned`) when both
streams and the tables are, and when no client's buffer is one of the library's blocks; this last
conjunct needs what no single component knows, namely that a call makes no block but those that
`malloc` returned for it (`IsLive.of_step`).
-/

namespace Freenect

/-! ### The set-up of the buffers

`stream_init` and `stream_setbuf`, pointer by pointer. -/

section StreamInit

variable {strm : PacketStream} {rlen plen : ℕ} {lib raw : Ptr}

/-- The buffer of the client stays. -/
theorem streamInit_usrBuf : (streamInit strm rlen plen lib raw).usrBuf = strm.usrBuf := by
  rw [streamInit_eq]

/-- The library allocates a buffer of its own where the client has set none. -/
theorem streamInit_libBuf :
    (streamInit strm rlen plen lib raw).libBuf = if strm.usrBuf = NULL then lib else NULL := by
  rw [streamInit_eq]

/-- Frames go to the buffer of the client, or to that one. -/
theorem streamInit_procBuf :
    (streamInit strm rlen plen lib raw).procBuf =
      if strm.usrBuf = NULL then lib else strm.usrBuf := by
  rw [streamInit_eq]

/-- A stream without raw frames of its own is not split. -/
theorem streamInit_unsplit (hr : rlen = 0) :
    (streamInit strm rlen plen lib raw).splitBufs = false ∧
      (streamInit strm rlen plen lib raw).rawBuf =
        (streamInit strm rlen plen lib raw).procBuf := by
  rw [streamInit_eq]
  exact ⟨if_pos hr, if_pos hr⟩

/-- A stream with raw frames of its own has a raw buffer for them. -/
theorem streamInit_split (strm : PacketStream) (plen : ℕ) (lib raw : Ptr) (hr : rlen ≠ 0) :
    (streamInit strm rlen plen lib raw).splitBufs = true ∧
      (streamInit strm rlen plen lib raw).rawBuf = raw ∧
        (streamInit strm rlen plen lib raw).frameSize = rlen := by
  rw [streamInit_eq]
  exact ⟨if_neg hr, if_neg hr, if_neg hr⟩

end StreamInit

/-- The client's buffer is the new one, or the old one if that was rejected. -/
theorem streamSetbuf_usrBuf (strm : PacketStream) (pbuf : Ptr) :
    (streamSetbuf strm pbuf).1.usrBuf = pbuf ∨
      (streamSetbuf strm pbuf).1.usrBuf = strm.usrBuf := by
  rcases streamSetbuf_cases strm pbuf with ⟨-, hset⟩ | ⟨-, -, -, hset⟩ | ⟨-, -, hset⟩ <;> rw [hset]
  exacts [Or.inl rfl, Or.inr rfl, Or.inl rfl]

/-- **A rejected buffer changes nothing.** -/
theorem streamSetbuf_rejected {strm : PacketStream} {pbuf : Ptr}
    (h : (streamSetbuf strm pbuf).2 < 0) : (streamSetbuf strm pbuf).1 = strm := by
  rcases streamSetbuf_cases strm pbuf with ⟨-, hset⟩ | ⟨-, -, -, hset⟩ | ⟨-, -, hset⟩
  · rw [hset] at h
    exact absurd h (Int.lt_irrefl 0)
  · rw [hset]
  · rw [hset] at h
    exact absurd h (Int.lt_irrefl 0)

/-! ### One stream

A running stream has one or two blocks, a stopped one none; the client's buffer is among neither. -/

namespace OwnedStream

/-- The blocks the library would free. -/
def blocks (s : OwnedStream) : List Ptr := (streamFreebufs s.strm).2

/-- **The buffers of a running stream.** -/
structure InUse (s : OwnedStream) : Prop where
  procBuf : s.strm.procBuf = if s.strm.usrBuf = NULL then s.strm.libBuf else s.strm.usrBuf
  libBuf_ne : s.strm.usrBuf = NULL → s.strm.libBuf ≠ NULL
  unsplit : s.strm.splitBufs = false → s.strm.rawBuf = s.strm.procBuf
  split : s.strm.splitBufs = true →
    s.strm.rawBuf ≠ s.strm.procBuf ∧ s.strm.rawBuf ≠ s.strm.libBuf ∧
      s.heap.live s.strm.rawBuf = some s.strm.frameSize
  libBuf_iff : s.strm.libBuf ≠ NULL ↔ s.startBuf = NULL
  live_iff : ∀ p, s.heap.live p ≠ none ↔ p ∈ s.blocks

/-- **The buffers of a stream**, running or not. -/
structure WellOwned (s : OwnedStream) : Prop where
  inUse : s.strm.running = true → s.InUse
  /-- Every block has been freed when the stream is stopped. -/
  freed : s.strm.running = false → ∀ p, s.heap.live p = none
  /-- What was freed was a block of the library that had not been freed before. -/
  noFault : s.heap.fault = false
  /-- The client's buffer is not one of the library's blocks. -/
  client : s.heap.live s.strm.usrBuf = none
  null : s.heap.live NULL = none

variable {φ : Type} {s : OwnedStream} {rlen plen : ℕ} {a : StartAnswers φ} {p pbuf : Ptr}

/-- A zeroed stream. -/
theorem wellOwned_zero : zero.WellOwned where
  inUse h := nomatch h
  freed _ _ := rfl
  noFault := rfl
  client := rfl
  null := rfl

/-- Which blocks these are. -/
theorem mem_blocks :
    p ∈ s.blocks ↔ (s.strm.splitBufs = true ∧ p = s.strm.rawBuf) ∨
      (s.strm.libBuf ≠ NULL ∧ p = s.strm.libBuf) := by
  rw [blocks, streamFreebufs]
  by_cases hlib : s.strm.libBuf = NULL <;> cases hsplit : s.strm.splitBufs <;> simp [hlib]

/-- They are different, so freeing them is no fault. -/
theorem InUse.nodup_blocks (h : s.InUse) : s.blocks.Nodup := by
  rw [blocks, streamFreebufs]
  by_cases hlib : s.strm.libBuf = NULL <;> cases hsplit : s.strm.splitBufs <;> simp [hlib]
  exact (h.split hsplit).2.1

/-- A running stream whose buffer is replaced. -/
theorem InUse.replace (h : s.InUse) (hnull : ¬ (pbuf = NULL ∧ s.strm.libBuf = NULL))
    (hclient : s.heap.live pbuf = none) :
    InUse { s with strm := { s.strm with
      usrBuf := pbuf
      procBuf := if pbuf = NULL then s.strm.libBuf else pbuf
      rawBuf := if s.strm.splitBufs then s.strm.rawBuf
        else if pbuf = NULL then s.strm.libBuf else pbuf } } := by
  -- a stream without a raw buffer of its own has nothing that the new one could coincide with
  cases hsplit : s.strm.splitBufs with
  | false =>
    refine ⟨rfl, fun hpbuf hlib ↦ hnull ⟨hpbuf, hlib⟩, fun _ ↦ rfl, ?_,
      h.libBuf_iff, fun p ↦ ?_⟩
    · exact fun h' ↦ absurd (hsplit.symm.trans h') (by decide)
    · rw [h.live_iff p, mem_blocks, mem_blocks]
      simp [hsplit]
  | true =>
    obtain ⟨-, hlib, hlive⟩ := h.split hsplit
    refine ⟨rfl, fun hpbuf hlib ↦ hnull ⟨hpbuf, hlib⟩, ?_, fun _ ↦ ⟨?_, hlib, hlive⟩,
      h.libBuf_iff, fun p ↦ ?_⟩
    · exact fun h' ↦ absurd (hsplit.symm.trans h') (by decide)
    · -- the raw buffer is live, the client's is none of the library's
      show s.strm.rawBuf ≠ if pbuf = NULL then s.strm.libBuf else pbuf
      split
      · exact hlib
      · rintro heq
        rw [heq, hclient] at hlive
        cases hlive
    · rw [h.live_iff p, mem_blocks, mem_blocks]
      simp

/-- A client's buffer is set. -/
theorem WellOwned.setbuf (h : s.WellOwned) (hclient : s.heap.live pbuf = none) :
    (s.setbuf pbuf).1.WellOwned := by
  rw [OwnedStream.setbuf]
  rcases streamSetbuf_cases s.strm pbuf with ⟨hrun, hset⟩ | ⟨-, -, -, hset⟩ | ⟨hrun, hnull, hset⟩
  · rw [hset]
    exact ⟨fun h' ↦ absurd (hrun.symm.trans h') (by decide), h.freed, h.noFault, hclient, h.null⟩
  · rw [hset]
    exact h
  · rw [hset]
    exact ⟨fun _ ↦ (h.inUse hrun).replace hnull hclient,
      fun h' ↦ absurd (hrun.symm.trans h') (by decide), h.noFault, hclient, h.null⟩

/-- A block `malloc` may return for this stream. -/
def Grants (s : OwnedStream) (p : Ptr) : Prop := s.heap.Fresh p ∧ p ≠ s.strm.usrBuf

/-- The live blocks after the set-up of a stopped stream. -/
theorem live_init (hempty : ∀ p, s.heap.live p = none) (rlen plen : ℕ) (a : StartAnswers φ)
    (p : Ptr) :
    (s.init rlen plen a).heap.live p =
      if rlen ≠ 0 ∧ p = a.rawMalloc then some rlen
      else if s.strm.usrBuf = NULL ∧ p = a.libMalloc then some plen
      else none := by
  have hheap : (s.init rlen plen a).heap.live p =
      (if rlen = 0 then if s.strm.usrBuf = NULL then s.heap.malloc a.libMalloc plen else s.heap
        else (if s.strm.usrBuf = NULL then s.heap.malloc a.libMalloc plen else s.heap).malloc
          a.rawMalloc rlen).live p := rfl
  rw [hheap]
  by_cases hr : rlen = 0 <;> by_cases hu : s.strm.usrBuf = NULL <;>
    simp [hr, hu, Heap.malloc, hempty]

/-- Allocating is no fault. -/
theorem fault_init : (s.init rlen plen a).heap.fault = s.heap.fault := by
  rw [OwnedStream.init]
  dsimp only
  split <;> split <;> rfl

/-- **A stream is set up**, on the client's buffer or on one of its own. -/
theorem WellOwned.inUse_init (h : s.WellOwned) (hrun : s.strm.running = false)
    (hlib : s.Grants a.libMalloc) (hraw : s.Grants a.rawMalloc) (hne : a.rawMalloc ≠ a.libMalloc) :
    (s.init rlen plen a).InUse := by
  have hstrm : (s.init rlen plen a).strm =
    streamInit s.strm rlen plen a.libMalloc a.rawMalloc := rfl
  have hlive := live_init (h.freed hrun) rlen plen a
  have husr : (s.init rlen plen a).strm.usrBuf = s.strm.usrBuf := streamInit_usrBuf
  have hlibBuf : (s.init rlen plen a).strm.libBuf = _ := streamInit_libBuf
  have hprocBuf : (s.init rlen plen a).strm.procBuf = _ := streamInit_procBuf
  have hlibNe : (s.init rlen plen a).strm.libBuf ≠ NULL ↔ s.strm.usrBuf = NULL := by
    rw [hlibBuf]
    split
    next hu => exact iff_of_true hlib.1.1 hu
    next hu => exact iff_of_false (fun h ↦ h rfl) hu
  refine ⟨?_, fun hu ↦ hlibNe.2 (husr ▸ hu), fun hsplit ↦ ?_, fun hsplit ↦ ?_, hlibNe,
    fun p ↦ ?_⟩
  · rw [husr, hlibBuf, hprocBuf]
    split
    · rfl
    · rfl
  · by_cases hr : rlen = 0
    · exact (streamInit_unsplit hr).2
    · rw [hstrm, (streamInit_split _ _ _ _ hr).1] at hsplit
      cases hsplit
  · have hr : rlen ≠ 0 := by
      intro hr
      rw [hstrm, (streamInit_unsplit hr).1] at hsplit
      cases hsplit
    obtain ⟨-, hrawBuf, hsize⟩ := streamInit_split s.strm plen a.libMalloc a.rawMalloc hr
    rw [hprocBuf, hlibBuf, hlive, hstrm, hrawBuf, hsize]
    refine ⟨?_, ?_, if_pos ⟨hr, rfl⟩⟩
    · split
      exacts [hne, hraw.2]
    · split
      exacts [hne, hraw.1.1]
  · rw [hlive, mem_blocks, hlibNe, hlibBuf, hstrm]
    -- which blocks there are, by whether the stream is split and whether the client has a buffer
    by_cases hr : rlen = 0
    · rw [(streamInit_unsplit hr).1]
      by_cases hu : s.strm.usrBuf = NULL <;> by_cases hp : p = a.libMalloc <;> simp [hr, hu, hp]
    · obtain ⟨hsplit, hrawBuf, -⟩ := streamInit_split s.strm plen a.libMalloc a.rawMalloc hr
      rw [hsplit, hrawBuf]
      by_cases hu : s.strm.usrBuf = NULL <;> by_cases hp : p = a.rawMalloc <;>
        by_cases hp' : p = a.libMalloc <;> simp [hr, hu, hp, hp', hne.symm]

/-- A stopped stream is started. -/
theorem WellOwned.start (h : s.WellOwned) (hrun : s.strm.running = false)
    (hlib : s.Grants a.libMalloc) (hraw : s.Grants a.rawMalloc)
    (hne : a.rawMalloc ≠ a.libMalloc) : (s.start rlen plen a).1.WellOwned := by
  rw [OwnedStream.start]
  have hinit : (s.init rlen plen a).InUse := h.inUse_init hrun hlib hraw hne
  have hlive := live_init (h.freed hrun) rlen plen a
  refine ⟨fun _ ↦ ⟨hinit.procBuf, hinit.libBuf_ne, hinit.unsplit, hinit.split, hinit.libBuf_iff,
    hinit.live_iff⟩, fun h' ↦ (nomatch h'), fault_init.trans h.noFault, ?_, ?_⟩
  · refine (congrArg _ streamInit_usrBuf).trans ((hlive _).trans ?_)
    rw [if_neg fun h' ↦ hraw.2 h'.2.symm, if_neg fun h' ↦ hlib.2 h'.2.symm]
  · refine (hlive NULL).trans ?_
    rw [if_neg fun h' ↦ hraw.1.1 h'.2.symm, if_neg fun h' ↦ hlib.1.1 h'.2.symm]

/-- A stream is stopped: its blocks are freed. -/
theorem WellOwned.stop (h : s.WellOwned) : s.stop.1.WellOwned := by
  rw [OwnedStream.stop]
  cases hrun : s.strm.running with
  | false =>
    exact h
  | true =>
    have hin := h.inUse hrun
    have hlive (p : Ptr) : (s.heap.freeAll s.blocks).live p = none := by
      rw [Heap.live_freeAll h.null]
      split
      · rfl
      · next hp => exact not_not.1 fun hne ↦ hp ((hin.live_iff p).1 hne)
    have hfault : (s.heap.freeAll s.blocks).fault = false :=
      (Heap.fault_freeAll hin.nodup_blocks fun p hp ↦ (hin.live_iff p).2 hp).trans h.noFault
    rw [if_neg (by simp)]
    exact ⟨fun h' ↦ absurd h' Bool.false_ne_true, fun _ ↦ hlive, hfault, hlive _, hlive _⟩

/-- The packet format does not concern the buffers. -/
theorem WellOwned.setPacketFormat (h : s.WellOwned) (hrun : s.strm.running = false) (pktSize : ℕ)
    (flag : UInt8) :
    WellOwned { s with strm := Freenect.setPacketFormat s.strm pktSize flag } :=
  ⟨fun h' ↦ absurd (hrun.symm.trans h') (by decide), h.freed, h.noFault, h.client, h.null⟩

end OwnedStream

/-! ### The tables

All three or none. -/

namespace OwnedTables

variable {t : OwnedTables} {raw shift table p : Ptr}

/-- There are no tables, and none has been left behind. -/
structure Absent (t : OwnedTables) : Prop where
  raw : t.rawToMmShift = NULL
  shift : t.depthToRgbShift = NULL
  table : t.registrationTable = NULL
  freed : ∀ p, t.heap.live p = none
  noFault : t.heap.fault = false

/-- All three tables are allocated, and nothing else. -/
structure Allocated (t : OwnedTables) : Prop where
  raw : t.rawToMmShift ≠ NULL ∧ t.heap.live t.rawToMmShift = some (2 * 2048)
  shift : t.depthToRgbShift ≠ NULL ∧ t.heap.live t.depthToRgbShift = some (4 * 10000)
  table : t.registrationTable ≠ NULL ∧ t.heap.live t.registrationTable = some (4 * 640 * 480 * 2)
  nodup : [t.rawToMmShift, t.depthToRgbShift, t.registrationTable].Nodup
  live_iff : ∀ p, t.heap.live p ≠ none ↔
    p ∈ [t.rawToMmShift, t.depthToRgbShift, t.registrationTable]
  noFault : t.heap.fault = false

/-- A device starts without tables. -/
theorem absent_zero : zero.Absent := ⟨rfl, rfl, rfl, fun _ ↦ rfl, rfl⟩

/-- Destroying none changes nothing. -/
theorem Absent.destroy (h : t.Absent) : t.destroy.Absent := by
  have hheap : t.destroy.heap = t.heap := by
    rw [OwnedTables.destroy]
    simp [h.raw, h.shift, h.table, NULL]
  exact ⟨rfl, rfl, rfl, fun p ↦ hheap ▸ h.freed p, hheap ▸ h.noFault⟩

/-- **The tables are destroyed**: each of them is freed, once. -/
theorem Allocated.destroy (h : t.Allocated) : t.destroy.Absent where
  raw := rfl
  shift := rfl
  table := rfl
  freed p := by
    have hnull : t.heap.live 0 = none := by
      refine not_not.1 fun hne ↦ ?_
      have hmem := (h.live_iff 0).1 hne
      simp only [List.mem_cons, List.not_mem_nil, or_false] at hmem
      rcases hmem with h' | h' | h'
      exacts [h.raw.1 h'.symm, h.shift.1 h'.symm, h.table.1 h'.symm]
    refine (Heap.live_freeAll hnull p).trans ?_
    split
    · rfl
    · next hp => exact not_not.1 fun hne ↦ hp ((h.live_iff p).1 hne)
  noFault := (Heap.fault_freeAll h.nodup fun p hp ↦ (h.live_iff p).2 hp).trans h.noFault

/-- **The tables are made** from three new blocks. -/
theorem Absent.init (h : t.Absent) (hnodup : [raw, shift, table].Nodup)
    (hne : ∀ p ∈ [raw, shift, table], p ≠ NULL) : (t.init raw shift table).Allocated := by
  obtain ⟨⟨hrs, hrt⟩, hst⟩ : (raw ≠ shift ∧ raw ≠ table) ∧ shift ≠ table := by simpa using hnodup
  have hfreed := h.destroy.freed
  have hlive : ∀ q, (t.init raw shift table).heap.live q = if q = table then _ else
      if q = shift then _ else if q = raw then _ else t.destroy.heap.live q := fun _ ↦ rfl
  refine ⟨⟨hne raw (by simp), ?_⟩, ⟨hne shift (by simp), ?_⟩, ⟨hne table (by simp), ?_⟩, hnodup,
    fun q ↦ ?_, h.destroy.noFault⟩
  · refine (hlive raw).trans ?_
    rw [if_neg hrt, if_neg hrs, if_pos rfl]
  · refine (hlive shift).trans ?_
    rw [if_neg hst, if_pos rfl]
  · exact (hlive table).trans (if_pos rfl)
  · rw [hlive, hfreed]
    show _ ↔ q ∈ [raw, shift, table]
    simp only [List.mem_cons, List.not_mem_nil, or_false]
    split
    next ht => simp [ht]
    next ht =>
      split
      next hs => simp [hs]
      next hs => simp [hs, ht]

/-- No block appears when tables are made but the three from `malloc`. -/
theorem live_init (h : (t.init raw shift table).heap.live p ≠ none) :
    t.heap.live p ≠ none ∨ p ∈ [raw, shift, table] := by
  by_contra hno
  obtain ⟨hlive, hmem⟩ := not_or.1 hno
  simp only [List.mem_cons, List.not_mem_nil, or_false, not_or] at hmem
  obtain ⟨hraw, hshift, htable⟩ := hmem
  refine h (Heap.live_malloc_eq_none_iff.2 ⟨htable, ?_⟩)
  refine Heap.live_malloc_eq_none_iff.2 ⟨hshift, Heap.live_malloc_eq_none_iff.2 ⟨hraw, ?_⟩⟩
  exact Heap.live_freeAll_of_none (not_not.1 hlive)

end OwnedTables

/-! ### The device

The hypotheses on a call are decidable, so that a run can be checked to meet them. -/

namespace CameraDevice

/-- A block of the library. -/
def IsLive (s : CameraDevice) (p : Ptr) : Prop :=
  s.video.heap.live p ≠ none ∨ s.depth.heap.live p ≠ none ∨ s.tables.heap.live p ≠ none

/-- What `malloc` returns during a call. -/
def Call.granted : Call → List Ptr
  | .startVideo a => [a.libMalloc, a.rawMalloc]
  | .startDepth a t => [t.raw, t.shift, t.table, a.libMalloc, a.rawMalloc]
  | _ => []

/-- `malloc` returns different new blocks, none of which is in use as a client's buffer. -/
def Grants (s : CameraDevice) (ps : List Ptr) : Prop :=
  ps.Nodup ∧ ∀ p ∈ ps,
    p ≠ NULL ∧ ¬ s.IsLive p ∧ p ≠ s.video.strm.usrBuf ∧ p ≠ s.depth.strm.usrBuf

/-- **What is assumed of a call**: `malloc` succeeds, and a client's buffer is not a block of the
library. -/
def Succeeds (s : CameraDevice) (call : Call) : Prop :=
  s.Grants call.granted ∧
    match call with
    | .setVideoBuffer buf | .setDepthBuffer buf => ¬ s.IsLive buf
    | _ => True

instance (s : CameraDevice) (p : Ptr) : Decidable (s.IsLive p) :=
  inferInstanceAs (Decidable (_ ∨ _ ∨ _))

instance (s : CameraDevice) (ps : List Ptr) : Decidable (s.Grants ps) :=
  inferInstanceAs (Decidable (_ ∧ _))

instance (s : CameraDevice) : (call : Call) → Decidable (s.Succeeds call)
  | .setVideoMode _ | .setDepthMode _ | .setVideoBuffer _ | .setDepthBuffer _ | .startVideo _
  | .startDepth _ _ | .stopVideo | .stopDepth => inferInstanceAs (Decidable (_ ∧ _))

/-- **The buffers of a device.** -/
structure BuffersOwned (s : CameraDevice) : Prop where
  video : s.video.WellOwned
  depth : s.depth.WellOwned
  registered : s.depth.strm.running = true → s.depthFormat.Registers → s.tables.Allocated
  absent : ¬ (s.depth.strm.running = true ∧ s.depthFormat.Registers) → s.tables.Absent
  /-- No client's buffer is a block of the library, so that none is ever freed. -/
  client : ∀ p, s.IsLive p → p ≠ s.video.strm.usrBuf ∧ p ≠ s.depth.strm.usrBuf

variable {s t : CameraDevice} {ps : List Ptr} {p : Ptr}

/-- What is granted to the device is granted to its video stream. -/
theorem Grants.video (h : s.Grants ps) (hp : p ∈ ps) : s.video.Grants p := by
  obtain ⟨hne, hlive, husr, -⟩ := h.2 p hp
  exact ⟨⟨hne, not_not.1 fun hl ↦ hlive (Or.inl hl)⟩, husr⟩

theorem Grants.depth (h : s.Grants ps) (hp : p ∈ ps) : s.depth.Grants p := by
  obtain ⟨hne, hlive, -, husr⟩ := h.2 p hp
  exact ⟨⟨hne, not_not.1 fun hl ↦ hlive (Or.inr (Or.inl hl))⟩, husr⟩

/-- **A device as it is opened.** -/
theorem buffersOwned_opened : opened.BuffersOwned := by
  rw [opened_eq]
  refine ⟨OwnedStream.wellOwned_zero, OwnedStream.wellOwned_zero, fun h ↦ (nomatch h),
    fun _ ↦ OwnedTables.absent_zero, fun p h ↦ ?_⟩
  rcases h with h | h | h <;> exact absurd rfl h

/-- The clients' buffers stay apart from the library's blocks if no block appears but a granted one
and no client's buffer changes. -/
theorem BuffersOwned.client_of_grants (h : s.BuffersOwned) (hps : s.Grants ps)
    (hlive : ∀ p, t.IsLive p → s.IsLive p ∨ p ∈ ps)
    (hvideo : t.video.strm.usrBuf = s.video.strm.usrBuf)
    (hdepth : t.depth.strm.usrBuf = s.depth.strm.usrBuf) (p : Ptr) (hp : t.IsLive p) :
    p ≠ t.video.strm.usrBuf ∧ p ≠ t.depth.strm.usrBuf := by
  rw [hvideo, hdepth]
  rcases hlive p hp with hp | hp
  · exact h.client p hp
  · exact (hps.2 p hp).2.2

end CameraDevice

namespace OwnedStream

variable {φ : Type} {s : OwnedStream} {rlen plen : ℕ} {a : StartAnswers φ} {p : Ptr}

/-- A start leaves the buffer of the client. -/
theorem start_usrBuf : (s.start rlen plen a).1.strm.usrBuf = s.strm.usrBuf := streamInit_usrBuf

theorem stop_usrBuf : s.stop.1.strm.usrBuf = s.strm.usrBuf := by
  rw [OwnedStream.stop]
  split
  · rfl
  · rfl

/-- No block appears in a start but the two from `malloc`. -/
theorem live_start (h : (s.start rlen plen a).1.heap.live p ≠ none) :
    s.heap.live p ≠ none ∨ p ∈ [a.libMalloc, a.rawMalloc] := by
  have hinit : (s.init rlen plen a).heap.live p ≠ none := h
  by_contra hno
  obtain ⟨hlive, hmem⟩ := not_or.1 hno
  simp only [List.mem_cons, List.not_mem_nil, or_false, not_or] at hmem
  refine hinit ?_
  have hlib : ∀ n, (s.heap.malloc a.libMalloc n).live p = none := fun n ↦
    Heap.live_malloc_eq_none_iff.2 ⟨hmem.1, not_not.1 hlive⟩
  rw [OwnedStream.init]
  dsimp only
  split <;> split <;>
    first
    | exact hlib _
    | exact not_not.1 hlive
    | exact Heap.live_malloc_eq_none_iff.2 ⟨hmem.2, hlib _⟩
    | exact Heap.live_malloc_eq_none_iff.2 ⟨hmem.2, not_not.1 hlive⟩

/-- Nor does one appear in a stop. -/
theorem live_stop (h : s.stop.1.heap.live p ≠ none) : s.heap.live p ≠ none := by
  rw [OwnedStream.stop] at h
  split at h
  · exact h
  · exact fun hnone ↦ h (Heap.live_freeAll_of_none hnone)

end OwnedStream

namespace CameraDevice

variable {s : CameraDevice}

/-- **No block appears in a call** but those that `malloc` returns. -/
theorem IsLive.of_step (call : Call) {p : Ptr} (h : (s.step call).1.IsLive p) :
    s.IsLive p ∨ p ∈ call.granted := by
  cases call with
  | setVideoMode reserved =>
    refine Or.inl ?_
    rw [step, CameraDevice.setVideoMode] at h
    split at h
    · exact h
    · split at h
      · exact h
      · exact h
  | setDepthMode reserved =>
    refine Or.inl ?_
    rw [step, CameraDevice.setDepthMode] at h
    split at h
    · exact h
    · split at h
      · exact h
      · exact h
  | setVideoBuffer buf => exact Or.inl h
  | setDepthBuffer buf => exact Or.inl h
  -- only the two start functions allocate
  | startVideo a =>
    rw [step, CameraDevice.startVideo] at h
    split at h
    · exact Or.inl h
    · dsimp only at h
      split at h
      · exact Or.inl h
      · rcases h with h | h
        exacts [(OwnedStream.live_start h).imp_left Or.inl, Or.inl (Or.inr h)]
  | startDepth a t =>
    have hmem : p ∈ (Call.startDepth a t).granted ↔
        p ∈ [t.raw, t.shift, t.table] ∨ p ∈ [a.libMalloc, a.rawMalloc] :=
      show p ∈ [t.raw, t.shift, t.table] ++ [a.libMalloc, a.rawMalloc] ↔ _ from List.mem_append
    rw [hmem]
    rw [step, CameraDevice.startDepth] at h
    split at h
    · exact Or.inl h
    · dsimp only at h
      split at h
      · exact Or.inl h
      · rcases h with h | h | h
        · exact Or.inl (Or.inl h)
        · exact (OwnedStream.live_start h).imp (fun h ↦ Or.inr (Or.inl h)) Or.inr
        · dsimp only at h
          split at h
          · exact (OwnedTables.live_init h).imp (fun h ↦ Or.inr (Or.inr h)) Or.inl
          · exact Or.inl (Or.inr (Or.inr h))
  | stopVideo => exact Or.inl (h.imp_left OwnedStream.live_stop)
  | stopDepth =>
    refine Or.inl (h.imp_right (Or.imp OwnedStream.live_stop fun h ↦ ?_))
    rw [step, CameraDevice.stopDepth] at h
    split at h
    · exact h
    · exact fun hnone ↦ h (Heap.live_freeAll_of_none hnone)

/-- A start leaves the clients' buffers. -/
theorem startVideo_usrBuf (a : StartAnswers VideoFormat) :
    (s.startVideo a).1.video.strm.usrBuf = s.video.strm.usrBuf ∧
      (s.startVideo a).1.depth.strm.usrBuf = s.depth.strm.usrBuf := by
  rw [CameraDevice.startVideo]
  split
  · exact ⟨rfl, rfl⟩
  · dsimp only
    split
    exacts [⟨rfl, rfl⟩, ⟨OwnedStream.start_usrBuf, rfl⟩]

/-- The same for the depth stream, whose tables are no client's buffer. -/
theorem startDepth_usrBuf (a : StartAnswers DepthFormat) (t : TableAnswers) :
    (s.startDepth a t).1.video.strm.usrBuf = s.video.strm.usrBuf ∧
      (s.startDepth a t).1.depth.strm.usrBuf = s.depth.strm.usrBuf := by
  rw [CameraDevice.startDepth]
  split
  · exact ⟨rfl, rfl⟩
  · dsimp only
    split
    exacts [⟨rfl, rfl⟩, ⟨rfl, OwnedStream.start_usrBuf⟩]

/-- Setting the video mode does not touch the buffers. -/
theorem BuffersOwned.setVideoMode (h : s.BuffersOwned) (reserved : ℕ) :
    (s.setVideoMode reserved).1.BuffersOwned := by
  rw [CameraDevice.setVideoMode]
  split
  · exact h
  · split
    exacts [h, ⟨h.video, h.depth, h.registered, h.absent, h.client⟩]

/-- The depth format is changed only while there are no tables. -/
theorem BuffersOwned.setDepthMode (h : s.BuffersOwned) (reserved : ℕ) :
    (s.setDepthMode reserved).1.BuffersOwned := by
  rw [CameraDevice.setDepthMode]
  split
  · exact h
  · next hrun =>
    split
    · exact h
    · exact ⟨h.video, h.depth, fun h' ↦ absurd h' hrun, fun _ ↦ h.absent fun h' ↦ hrun h'.1,
        h.client⟩

/-- The client sets a buffer for the video stream. -/
theorem BuffersOwned.setVideoBuffer (h : s.BuffersOwned) {buf : Ptr} (hbuf : ¬ s.IsLive buf) :
    (s.setVideoBuffer buf).1.BuffersOwned := by
  refine ⟨h.video.setbuf (not_not.1 fun hl ↦ hbuf (Or.inl hl)), h.depth, h.registered, h.absent,
    fun p hp ↦ ?_⟩
  obtain ⟨hvideo, hdepth⟩ := h.client p hp
  refine ⟨?_, hdepth⟩
  show p ≠ (streamSetbuf s.video.strm buf).1.usrBuf
  rcases streamSetbuf_usrBuf s.video.strm buf with husr | husr <;> rw [husr]
  · rintro rfl
    exact hbuf hp
  · exact hvideo

theorem BuffersOwned.setDepthBuffer (h : s.BuffersOwned) {buf : Ptr} (hbuf : ¬ s.IsLive buf) :
    (s.setDepthBuffer buf).1.BuffersOwned := by
  have hrun : (s.setDepthBuffer buf).1.depth.strm.running = s.depth.strm.running :=
    streamSetbuf_running s.depth.strm buf
  refine ⟨h.video, h.depth.setbuf (not_not.1 fun hl ↦ hbuf (Or.inr (Or.inl hl))),
    fun h' ↦ h.registered (hrun ▸ h'), fun h' ↦ h.absent (hrun ▸ h'), fun p hp ↦ ?_⟩
  obtain ⟨hvideo, hdepth⟩ := h.client p hp
  refine ⟨hvideo, ?_⟩
  show p ≠ (streamSetbuf s.depth.strm buf).1.usrBuf
  rcases streamSetbuf_usrBuf s.depth.strm buf with husr | husr <;> rw [husr]
  · rintro rfl
    exact hbuf hp
  · exact hdepth

/-- **The video stream is started.** -/
theorem BuffersOwned.startVideo (h : s.BuffersOwned) {a : StartAnswers VideoFormat}
    (hgrants : s.Grants [a.libMalloc, a.rawMalloc]) : (s.startVideo a).1.BuffersOwned := by
  have hclient := h.client_of_grants (t := (s.startVideo a).1) hgrants
    (fun p ↦ IsLive.of_step (.startVideo a)) (startVideo_usrBuf a).1 (startVideo_usrBuf a).2
  revert hclient
  rw [CameraDevice.startVideo]
  split
  · exact fun _ ↦ h
  · next hrun =>
    have hrun := Bool.eq_false_iff.2 hrun
    have hvideo := h.video.setPacketFormat hrun 1908 0x80
    dsimp only
    split
    · exact fun _ ↦ ⟨hvideo, h.depth, h.registered, h.absent, h.client⟩
    · have hne : a.rawMalloc ≠ a.libMalloc := fun heq ↦
        (List.nodup_cons.1 hgrants.1).1 (by simp [heq])
      refine fun hclient ↦ ⟨?_, h.depth, h.registered, h.absent, hclient⟩
      exact hvideo.start hrun (hgrants.video (by simp)) (hgrants.video (by simp)) hne

/-- **The depth stream is started**, with tables if its format needs them. -/
theorem BuffersOwned.startDepth (h : s.BuffersOwned) {a : StartAnswers DepthFormat}
    {t : TableAnswers} (hgrants : s.Grants [t.raw, t.shift, t.table, a.libMalloc, a.rawMalloc]) :
    (s.startDepth a t).1.BuffersOwned := by
  have hclient := h.client_of_grants (t := (s.startDepth a t).1) hgrants
    (fun p ↦ IsLive.of_step (.startDepth a t)) (startDepth_usrBuf a t).1
    (startDepth_usrBuf a t).2
  revert hclient
  rw [CameraDevice.startDepth]
  split
  · exact fun _ ↦ h
  · next hrun =>
    have habsent := h.absent fun h' ↦ hrun h'.1
    have hrun := Bool.eq_false_iff.2 hrun
    have hdepth := h.depth.setPacketFormat hrun 1748 0x70
    dsimp only
    split
    -- the format is rejected; the packet format has been set all the same
    · exact fun _ ↦ ⟨h.video, hdepth, fun h' ↦ absurd (hrun.symm.trans h') (by decide),
        fun _ ↦ habsent, h.client⟩
    · have hnodup : [t.raw, t.shift, t.table].Nodup ∧ a.libMalloc ≠ a.rawMalloc := by
        have := hgrants.1
        simp only [List.nodup_cons, List.mem_cons, not_or] at this ⊢
        tauto
      have hinit : (s.tables.init t.raw t.shift t.table).Allocated :=
        habsent.init hnodup.1 fun p hp ↦ (hgrants.2 p (by
          simp only [List.mem_cons, List.not_mem_nil, or_false] at hp ⊢
          tauto)).1
      refine fun hclient ↦ ⟨h.video, hdepth.start hrun (hgrants.depth (by simp))
        (hgrants.depth (by simp)) hnodup.2.symm, fun _ hreg ↦ ?_, fun hno ↦ ?_, hclient⟩
      · exact (if_pos hreg).symm ▸ hinit
      · have hreg : ¬ s.depthFormat.Registers := fun hreg ↦ hno ⟨rfl, hreg⟩
        exact (if_neg hreg).symm ▸ habsent

/-- The video stream is stopped. -/
theorem BuffersOwned.stopVideo (h : s.BuffersOwned) : s.stopVideo.1.BuffersOwned := by
  refine ⟨h.video.stop, h.depth, h.registered, h.absent, fun p hp ↦ ?_⟩
  obtain ⟨hvideo, hdepth⟩ := h.client p (hp.imp_left OwnedStream.live_stop)
  exact ⟨by rwa [show s.stopVideo.1.video.strm.usrBuf = _ from OwnedStream.stop_usrBuf], hdepth⟩

/-- With or without tables, there are none when they have been destroyed. -/
theorem BuffersOwned.destroy (h : s.BuffersOwned) : s.tables.destroy.Absent := by
  by_cases hreg : s.depth.strm.running = true ∧ s.depthFormat.Registers
  · exact (h.registered hreg.1 hreg.2).destroy
  · exact (h.absent hreg).destroy

/-- The depth stream is stopped, and its tables go. -/
theorem BuffersOwned.stopDepth (h : s.BuffersOwned) : s.stopDepth.1.BuffersOwned := by
  cases hrun : s.depth.strm.running with
  | false =>
    have hstop : s.stopDepth = (s, -1) := by
      simp [CameraDevice.stopDepth, OwnedStream.stop, hrun]
    rw [hstop]
    exact h
  | true =>
    have hret : s.depth.stop.2 = 0 := by
      rw [OwnedStream.stop, if_neg (by simp [hrun])]
    have htables : s.stopDepth.1.tables = s.tables.destroy := by
      refine if_neg ?_
      rw [hret]
      decide
    have hstopped : s.stopDepth.1.depth.strm.running ≠ true :=
      Bool.eq_false_iff.1 OwnedStream.stop_running
    refine ⟨h.video, h.depth.stop, fun h' ↦ absurd h' hstopped,
      fun _ ↦ htables ▸ h.destroy, fun p hp ↦ ?_⟩
    have hlive : s.IsLive p := (IsLive.of_step .stopDepth hp).resolve_right List.not_mem_nil
    obtain ⟨hvideo, hdepth⟩ := h.client p hlive
    exact ⟨hvideo, by rwa [show s.stopDepth.1.depth.strm.usrBuf = _ from OwnedStream.stop_usrBuf]⟩

/-- **One call keeps the buffers in order.** -/
theorem BuffersOwned.step (s : CameraDevice) (call : Call) (h : s.BuffersOwned)
    (hcall : s.Succeeds call) : (s.step call).1.BuffersOwned := by
  obtain ⟨hgrants, hcall⟩ := hcall
  cases call with
  | setVideoMode reserved => exact h.setVideoMode reserved
  | setDepthMode reserved => exact h.setDepthMode reserved
  | setVideoBuffer buf => exact h.setVideoBuffer hcall
  | setDepthBuffer buf => exact h.setDepthBuffer hcall
  | startVideo a => exact h.startVideo hgrants
  | startDepth a t => exact h.startDepth hgrants
  | stopVideo => exact h.stopVideo
  | stopDepth => exact h.stopDepth

/-- **The life of the buffers**: they are in order after any run from a freshly opened device, and
whatever buffer the client sets next, a rejected one changes nothing. -/
theorem buffers_lifecycle (calls : List Call) (h : Mealy.Along step Succeeds opened calls) :
    (Mealy.run step opened calls).BuffersOwned ∧
      ∀ strm pbuf, (streamSetbuf strm pbuf).2 < 0 → (streamSetbuf strm pbuf).1 = strm :=
  ⟨h.run_invariant BuffersOwned.step buffersOwned_opened, fun _ _ ↦ streamSetbuf_rejected⟩

/-- A registered depth stream that is started without a buffer, gets one and gives it back. -/
def registeredRun : List Call :=
  [.setDepthMode (makeReserved Resolution.medium.toNat DepthFormat.registered.toNat),
    .startDepth ⟨10, 11, depthMode .d11Bit 0 0 0⟩ ⟨12, 13, 14⟩,
    .setDepthBuffer 20, .setDepthBuffer NULL, .stopDepth]

/-- Each of the three calls leaves the buffers in order. -/
theorem buffers_lifecycle_registered : (Mealy.run step opened registeredRun).BuffersOwned :=
  (buffers_lifecycle registeredRun (by decide)).1

end CameraDevice

end Freenect
