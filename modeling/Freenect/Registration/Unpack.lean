import Mathlib.Data.List.Basic

/-!
# Unpacking 11-bit depth

Eight 11-bit pixels are packed into eleven bytes. `unpack_8_pixels` and the loop body of
`convert_packed11_to_16bit` are the same unrolled text; the former feeds an eight-pixel cache that
the conversions of `registration.c` refill every eighth pixel (`Unpacker`), the latter writes a
whole frame. Both produce `packedPixel`, pixel `i` of the packed array.

The cache is a small state machine with an invariant, `Unpacker.At`: in front of pixel `i` either
all eight values have been used and the pointer stands behind them, or `i % 8` of the current eight
have. `Unpacker.At.next` is the step, and the only lemma that the conversion loops need.
-/

namespace Freenect

/-- A `uint8_t *`: the bytes from it on. -/
abbrev Bytes := ℕ → UInt8

/-- `p + n`. -/
def Bytes.advance (p : Bytes) (n : ℕ) : Bytes := fun k ↦ p (n + k)

/-- Two movements of a pointer are one. -/
theorem Bytes.advance_advance (p : Bytes) (m n : ℕ) :
    (p.advance m).advance n = p.advance (m + n) := by
  funext k
  simp only [advance, Nat.add_assoc]

/-- `unpack_8_pixels`, and the loop body of `convert_packed11_to_16bit`. -/
def unpack8Pixels (raw : Bytes) : List UInt16 :=
  let baseMask := 0x7FF
  let r (k : ℕ) : ℕ := (raw k).toNat
  [UInt16.ofNat (r 0 <<< 3 ||| r 1 >>> 5),
    UInt16.ofNat ((r 1 <<< 6 ||| r 2 >>> 2) &&& baseMask),
    UInt16.ofNat ((r 2 <<< 9 ||| r 3 <<< 1 ||| r 4 >>> 7) &&& baseMask),
    UInt16.ofNat ((r 4 <<< 4 ||| r 5 >>> 4) &&& baseMask),
    UInt16.ofNat ((r 5 <<< 7 ||| r 6 >>> 1) &&& baseMask),
    UInt16.ofNat ((r 6 <<< 10 ||| r 7 <<< 2 ||| r 8 >>> 6) &&& baseMask),
    UInt16.ofNat ((r 8 <<< 5 ||| r 9 >>> 3) &&& baseMask),
    UInt16.ofNat ((r 9 <<< 8 ||| r 10) &&& baseMask)]

/-- Pixel `i` of a packed frame. -/
def packedPixel (raw : Bytes) (i : ℕ) : UInt16 :=
  (unpack8Pixels (raw.advance (11 * (i / 8)))).getD (i % 8) 0

/-- Eight pixels further on are eleven bytes further on. -/
theorem packedPixel_add_eight (raw : Bytes) (i : ℕ) :
    packedPixel raw (8 + i) = packedPixel (raw.advance 11) i := by
  rw [packedPixel, packedPixel, Bytes.advance_advance, Nat.add_div_left i (by decide),
    Nat.add_mod_left, Nat.mul_succ, Nat.add_comm 11]

/-- `convert_packed11_to_16bit`: what it writes to `frame`. -/
def convertPacked11To16bit (raw : Bytes) : ℕ → List UInt16
  | n + 8 => unpack8Pixels raw ++ convertPacked11To16bit (raw.advance 11) n
  | _ => []

/-- A frame of a multiple of eight pixels is converted pixel by pixel. -/
theorem convertPacked11To16bit_eq (raw : Bytes) {n : ℕ} (hn : 8 ∣ n) :
    convertPacked11To16bit raw n = (List.range n).map (packedPixel raw) := by
  obtain ⟨k, rfl⟩ := hn
  induction k generalizing raw with
  | zero => rfl
  | succ k ih =>
    have hfirst : unpack8Pixels raw = (List.range 8).map (packedPixel raw) := by
      have hraw : raw.advance 0 = raw := by
        funext j
        simp [Bytes.advance]
      simp [List.range, List.range.loop, packedPixel, hraw, unpack8Pixels]
    rw [Nat.mul_succ, convertPacked11To16bit, ih, hfirst, Nat.add_comm, List.range_add,
      List.map_append, List.map_map]
    congr 1
    exact List.map_congr_left fun i _ ↦ (packedPixel_add_eight raw i).symm

/-! ### The eight-pixel cache -/

/-- The variables `input`, `unpack` and `source_index` of the conversion loops; `input` is how far
the pointer has moved. -/
structure Unpacker where
  input : ℕ
  unpack : List UInt16
  sourceIndex : ℕ
  deriving DecidableEq, Repr

/-- The cache before the first pixel. -/
def Unpacker.start : Unpacker where
  input := 0
  unpack := []
  sourceIndex := 8

/-- Get eight pixels from the packed frame if the cache is used up; then take the next one. -/
def Unpacker.next (raw : Bytes) (u : Unpacker) : Unpacker × UInt16 :=
  let u :=
    if u.sourceIndex = 8 then
      { input := u.input + 11, unpack := unpack8Pixels (raw.advance u.input), sourceIndex := 0 }
    else u
  ({ u with sourceIndex := u.sourceIndex + 1 }, u.unpack.getD u.sourceIndex 0)

/-- The cache in front of pixel `i`. -/
structure Unpacker.At (raw : Bytes) (i : ℕ) (u : Unpacker) : Prop where
  empty : i % 8 = 0 → u.sourceIndex = 8 ∧ u.input = 11 * (i / 8)
  full : i % 8 ≠ 0 → u.sourceIndex = i % 8 ∧ u.input = 11 * (i / 8 + 1) ∧
    u.unpack = unpack8Pixels (raw.advance (11 * (i / 8)))

variable {raw : Bytes} {i : ℕ} {u : Unpacker}

/-- Before the first pixel the cache is used up. -/
theorem Unpacker.at_start : Unpacker.start.At raw 0 :=
  ⟨fun _ ↦ ⟨rfl, rfl⟩, fun h ↦ absurd rfl h⟩

/-- A used-up cache is filled again. -/
theorem Unpacker.next_of_empty (h : u.sourceIndex = 8) :
    u.next raw =
      ({ input := u.input + 11, unpack := unpack8Pixels (raw.advance u.input), sourceIndex := 1 },
        (unpack8Pixels (raw.advance u.input)).getD 0 0) := by
  simp [Unpacker.next, h]

/-- Otherwise the next value is taken. -/
theorem Unpacker.next_of_full (h : u.sourceIndex ≠ 8) :
    u.next raw = ({ u with sourceIndex := u.sourceIndex + 1 }, u.unpack.getD u.sourceIndex 0) := by
  simp [Unpacker.next, h]

/-- **One pixel through the cache.** -/
theorem Unpacker.At.next (h : u.At raw i) :
    (u.next raw).2 = packedPixel raw i ∧ (u.next raw).1.At raw (i + 1) := by
  by_cases h0 : i % 8 = 0
  -- the first of eight pixels: the cache is refilled
  · obtain ⟨hidx, hinput⟩ := h.empty h0
    have hdiv : (i + 1) / 8 = i / 8 := by omega
    rw [next_of_empty hidx, packedPixel, h0, hinput]
    refine ⟨rfl, fun h1 ↦ (by omega), fun _ ↦ ⟨?_, ?_, ?_⟩⟩
    · show 1 = (i + 1) % 8
      omega
    · rw [hdiv, Nat.mul_succ]
    · rw [hdiv]
  -- one of the other seven, the last of which leaves the cache used up
  · obtain ⟨hidx, hinput, hunpack⟩ := h.full h0
    rw [next_of_full (by omega), packedPixel, hunpack, hidx]
    refine ⟨rfl, fun h1 ↦ ⟨?_, ?_⟩, fun h1 ↦ ⟨?_, ?_, ?_⟩⟩
    · show i % 8 + 1 = 8
      omega
    · show u.input = 11 * ((i + 1) / 8)
      omega
    · show i % 8 + 1 = (i + 1) % 8
      omega
    · show u.input = 11 * ((i + 1) / 8 + 1)
      omega
    · rw [show (i + 1) / 8 = i / 8 by omega]

/-! ### The generic unpacker

A buffer of bits that is refilled byte by byte, for any width. Its loops are defined here and
followed elsewhere, where the packed frame is a stream of bits. -/

/-- The variables of `convert_packed_to_16bit`: how far `src` has moved, the bits read ahead and how
many of them are left. -/
structure BitBuffer where
  src : ℕ
  buffer : UInt32
  bitsIn : ℕ
  deriving DecidableEq, Repr

/-- The inner loop: read bytes until there are `vw` bits. -/
def BitBuffer.refill (src : Bytes) (vw : ℕ) (b : BitBuffer) : BitBuffer :=
  if b.bitsIn < vw then
    BitBuffer.refill src vw
      { src := b.src + 1
        buffer := b.buffer <<< 8 ||| (src b.src).toUInt32
        bitsIn := b.bitsIn + 8 }
  else b
termination_by vw - b.bitsIn

/-- The outer loop of `convert_packed_to_16bit`. -/
def convertPackedLoop (src : Bytes) (vw : ℕ) : ℕ → BitBuffer → List UInt16
  | 0, _ => []
  | n + 1, b =>
    let b := b.refill src vw
    let b := { b with bitsIn := b.bitsIn - vw }
    ((b.buffer >>> UInt32.ofNat b.bitsIn) &&& (UInt32.ofNat (1 <<< vw) - 1)).toUInt16 ::
      convertPackedLoop src vw n b

/-- `convert_packed_to_16bit`: what it writes to `dest`. -/
def convertPackedTo16bit (src : Bytes) (vw n : ℕ) : List UInt16 :=
  convertPackedLoop src vw n { src := 0, buffer := 0, bitsIn := 0 }

end Freenect
