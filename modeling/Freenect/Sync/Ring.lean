import Freenect.Camera.Modes
import Freenect.Camera.PacketStream
import Freenect.Library.Heap

/-!
# The buffer ring of the synchronous wrapper

`buffer_ring_t` of `libfreenect_sync.c` and the functions that work on it alone. Of the three
buffers the first is with the client, the second has the newest frame if `valid` is set, and the
third is the one libfreenect fills. A frame that is complete is passed on by swapping the last two,
and fetched by swapping the first two.

The ring belongs to a stream of either kind; its `fmt` and `res` are integers, `-1` for none.

Two facts about the ring are used again and again: each swap is a permutation of the three buffers
(`produce_bufs_perm`, `syncGet_bufs_perm`), so that the buffers of a ring are those it was allocated
with; and a ring that is allocated is labelled with its format, even if calls of `malloc` have
failed (`alloc_some`). The format has to be one that the allocation knows; that the device has it in
the resolution asked for is not looked at.
-/

namespace Freenect

/-- `buffer_ring_t`, without its lock and its condition. -/
structure BufferRing where
  buf0 : Ptr
  buf1 : Ptr
  buf2 : Ptr
  timestamp : UInt32
  valid : Bool
  fmt : ℤ
  res : ℤ
  deriving DecidableEq, Repr

/-- What the calls of `malloc` and the lookup of the mode answer while a ring is allocated. -/
structure RingAnswers (φ : Type) where
  ptr0 : Ptr
  ptr1 : Ptr
  ptr2 : Ptr
  junk : FrameMode φ

/-- The three calls of `malloc` have new blocks to return. -/
def RingAnswers.Succeeds {φ : Type} (a : RingAnswers φ) (heap : Heap) : Prop :=
  heap.Fresh a.ptr0 ∧ (a.ptr1 ≠ a.ptr0 ∧ heap.Fresh a.ptr1) ∧
    (a.ptr2 ≠ a.ptr1 ∧ a.ptr2 ≠ a.ptr0 ∧ heap.Fresh a.ptr2)

instance {φ : Type} (a : RingAnswers φ) (heap : Heap) : Decidable (a.Succeeds heap) :=
  inferInstanceAs (Decidable (_ ∧ (_ ∧ _) ∧ _ ∧ _ ∧ _))

namespace BufferRing

/-- `bufs`. -/
def bufs (buf : BufferRing) : List Ptr := [buf.buf0, buf.buf1, buf.buf2]

/-- The buffers of a ring have been allocated with the heap becoming `heap'`. -/
def alloc (buf : BufferRing) {φ : Type} (heap : Heap) (sz : Option ℕ) (res fmt : ℤ)
    (a : RingAnswers φ) : BufferRing × Heap × ℤ :=
  match sz with
  | none => (buf, heap, -1)
  | some sz =>
    let a0 := heap.allocate a.ptr0 sz
    let a1 := a0.1.allocate a.ptr1 sz
    let a2 := a1.1.allocate a.ptr2 sz
    ({ buf0 := a0.2, buf1 := a1.2, buf2 := a2.2, timestamp := 0, valid := false, fmt := fmt,
       res := res }, a2.1, 0)

end BufferRing

/-- `alloc_buffer_ring_video`. -/
def allocBufferRingVideo (res : Resolution) (fmt : VideoFormat) (buf : BufferRing) (heap : Heap)
    (a : RingAnswers VideoFormat) : BufferRing × Heap × ℤ :=
  buf.alloc heap
    (match fmt with
      | .rgb | .bayer | .ir8Bit | .ir10Bit | .ir10BitPacked =>
        some (findVideoMode a.junk res fmt).bytes
      | .yuvRgb | .yuvRaw | .dummy => none)
    res.toNat fmt.toNat a

/-- `alloc_buffer_ring_depth`. -/
def allocBufferRingDepth (res : Resolution) (fmt : DepthFormat) (buf : BufferRing) (heap : Heap)
    (a : RingAnswers DepthFormat) : BufferRing × Heap × ℤ :=
  buf.alloc heap
    (match fmt with
      | .d11Bit | .d10Bit | .d11BitPacked | .d10BitPacked | .registered | .mm =>
        some (findDepthMode a.junk res fmt).bytes
      | .dummy => none)
    res.toNat fmt.toNat a

namespace BufferRing

/-- A ring without buffers. -/
def empty : BufferRing where
  buf0 := NULL
  buf1 := NULL
  buf2 := NULL
  timestamp := 0
  valid := false
  fmt := -1
  res := -1

/-- `free_buffer_ring`: what becomes of the heap. The ring itself becomes `empty`. -/
def free (buf : BufferRing) (heap : Heap) : Heap := heap.freeAll buf.bufs

/-- What `producer_cb_inner` does to the ring; the buffer it gives to libfreenect is the new
`buf2`. -/
def produce (buf : BufferRing) (timestamp : UInt32) : BufferRing :=
  { buf with buf1 := buf.buf2, buf2 := buf.buf1, timestamp := timestamp, valid := true }

/-- What a packet does to the ring: the frame it completes, if it does, is passed on. -/
def pass (buf : BufferRing) : Option FrameOut → BufferRing
  | none => buf
  | some f => buf.produce f.timestamp

/-- `sync_get`, once there is a frame: the ring, the buffer and its timestamp. While there is none
it waits. -/
def syncGet (buf : BufferRing) : Option (BufferRing × Ptr × UInt32) :=
  if ¬ buf.valid then none
  else some ({ buf with buf0 := buf.buf1, buf1 := buf.buf0, valid := false }, buf.buf1,
    buf.timestamp)

variable {φ : Type} (buf : BufferRing) (heap : Heap) (sz : ℕ) (res fmt : ℤ) (a : RingAnswers φ)

/-- **Allocating a ring**: three blocks of the size, as far as `malloc` has them. -/
theorem alloc_some :
    (buf.alloc heap (some sz) res fmt a).2.2 = 0 ∧
      (buf.alloc heap (some sz) res fmt a).1.fmt = fmt ∧
      (buf.alloc heap (some sz) res fmt a).1.res = res ∧
      (buf.alloc heap (some sz) res fmt a).1.valid = false ∧
      heap.Grown (buf.alloc heap (some sz) res fmt a).2.1
        (buf.alloc heap (some sz) res fmt a).1.bufs sz :=
  ⟨rfl, rfl, rfl, rfl,
    (((Heap.Grown.nil heap sz).allocate a.ptr0).allocate a.ptr1).allocate a.ptr2⟩

/-- None of the calls of `malloc` fails exactly if each has a new block to return. -/
theorem alloc_bufs_iff :
    (∀ p ∈ (buf.alloc heap (some sz) res fmt a).1.bufs, p ≠ NULL) ↔ a.Succeeds heap := by
  have hbufs : (∀ p ∈ (buf.alloc heap (some sz) res fmt a).1.bufs, p ≠ NULL) ↔
      (heap.allocate a.ptr0 sz).2 ≠ 0 ∧ ((heap.allocate a.ptr0 sz).1.allocate a.ptr1 sz).2 ≠ 0 ∧
        (((heap.allocate a.ptr0 sz).1.allocate a.ptr1 sz).1.allocate a.ptr2 sz).2 ≠ 0 := by
    simp [alloc, bufs, NULL]
  rw [hbufs, Heap.allocate_ne_zero_iff, Heap.allocate_ne_zero_iff, Heap.allocate_ne_zero_iff]
  rw [RingAnswers.Succeeds]
  refine and_congr_right fun h₀ ↦ ?_
  rw [Heap.allocate_of_fresh h₀]
  dsimp only
  rw [Heap.fresh_malloc_iff]
  refine and_congr_right fun h₁ ↦ ?_
  rw [Heap.allocate_of_fresh (Heap.fresh_malloc_iff.2 h₁)]
  dsimp only
  rw [Heap.fresh_malloc_iff, Heap.fresh_malloc_iff]

variable {buf}

/-- A buffer of the ring is one of three. -/
theorem mem_bufs {p : Ptr} :
    p ∈ buf.bufs ↔ p = buf.buf0 ∨ p = buf.buf1 ∨ p = buf.buf2 := by
  simp [bufs]

/-- The two swaps keep the buffers. -/
theorem produce_bufs_perm (timestamp : UInt32) : (buf.produce timestamp).bufs.Perm buf.bufs :=
  (List.Perm.swap _ _ _).cons _

/-- Nothing is fetched only as long as there is no frame. -/
theorem syncGet_eq_none (h : buf.syncGet = none) : buf.valid = false := by
  rw [syncGet] at h
  split at h
  next hvalid => exact Bool.eq_false_iff.2 hvalid
  · cases h

/-- A frame that is fetched is the newest one, and the first two buffers are swapped. -/
theorem syncGet_eq_some {o : BufferRing × Ptr × UInt32} (h : buf.syncGet = some o) :
    buf.valid = true ∧ o = ({ buf with buf0 := buf.buf1, buf1 := buf.buf0, valid := false },
      buf.buf1, buf.timestamp) := by
  rw [syncGet] at h
  split at h
  · cases h
  next hvalid => exact ⟨not_not.1 hvalid, (Option.some.inj h).symm⟩

end BufferRing

end Freenect
