import Freenect.Library.BitStream
import Freenect.Library.Runs
import Freenect.Registration.Unpack
import Mathlib.Data.List.GetD

/-!
# The unpackers

`convert_packed_to_16bit`, `convert_packed_to_8bit` and `convert_packed11_to_16bit` against what
they are for: an array of `vw`-bit elements is a stream of bits, most significant first, and element
`i` is the number its bits form.

The generic loop shifts bytes into a buffer of 32 bits and never clears it, so the buffer is the
number all the bits read so far form, modulo `2 ^ 32`, and `bits_in` of them are not used yet
(`BitBuffer.At`). Less than 24 bits are ever looked at, so what is lost at the top does not matter.

**The generic loops** are runs of one round (`run_round`, `trace_round`), which differ only in what
a round writes. `BitBuffer.At src p b` says that `p` bits of the stream have been taken; the inner
loop keeps it, a round moves it on by `vw`, and what is written is read off it.

**The unrolled loop** has no state: each of its eight expressions puts together two or three bytes.
The lemmas about a number cut at a byte boundary (`packedField_two`, `packedField_three`) match
these expressions one by one, and `unpack8Pixels_eq` is the list of them.
-/

namespace Freenect

/-! ### Packed arrays

An array of bytes is a stream of bits, and an element is the number that `vw` of them form. -/

/-- The bits of an array of bytes. -/
def packedBits (raw : Bytes) : ℕ → Bool := BitStream.ofWords 8 fun k ↦ (raw k).toNat

/-- Element `i` of a packed array: the number that the bits from `i * vw` to `(i + 1) * vw` form. -/
def packedField (raw : Bytes) (vw i : ℕ) : ℕ := BitStream.number (packedBits raw) (i * vw) vw

/-- Pack a list of `vw`-bit values; behind the last one the bits are zero. -/
def packValues (vw : ℕ) (values : List ℕ) : Bytes := fun k ↦
  UInt8.ofNat (BitStream.words 8 (BitStream.ofWords vw fun i ↦ values.getD i 0) k)

/-- An element fits its width. -/
theorem packedField_lt (raw : Bytes) (vw i : ℕ) : packedField raw vw i < 2 ^ vw :=
  BitStream.number_lt _ _ vw

/-- The elements of a packed list are the list. -/
theorem packedField_packValues (vw i : ℕ) (values : List ℕ) :
    packedField (packValues vw values) vw i = values.getD i 0 % 2 ^ vw := by
  have hbits : packedBits (packValues vw values) =
      BitStream.ofWords vw fun i ↦ values.getD i 0 := by
    have hbytes : (fun k ↦ (packValues vw values k).toNat) =
        BitStream.words 8 (BitStream.ofWords vw fun i ↦ values.getD i 0) := by
      funext k
      rw [packValues, UInt8.toNat_ofNat', Nat.mod_eq_of_lt (BitStream.words_lt 8 _ k)]
    rw [packedBits, hbytes, BitStream.ofWords_words (by decide)]
  rw [packedField, hbits, BitStream.number_ofWords]

/-- One more byte of an array. -/
theorem number_packedBits_succ (raw : Bytes) (k : ℕ) :
    BitStream.number (packedBits raw) 0 (8 * (k + 1)) =
      BitStream.number (packedBits raw) 0 (8 * k) * 2 ^ 8 + (raw k).toNat := by
  rw [Nat.mul_succ, BitStream.number_add, Nat.zero_add, Nat.mul_comm 8 k, packedBits,
    BitStream.number_ofWords, Nat.mod_eq_of_lt (raw k).toNat_lt]

/-! ### The buffer of the generic unpackers

The buffer is a 32-bit word into which bytes are shifted at the bottom; nothing is ever shifted out
on purpose. -/

/-- Fill up the buffer and take `vw` bits: one round of the outer loop. -/
def BitBuffer.take (src : Bytes) (vw : ℕ) (b : BitBuffer) : BitBuffer :=
  { b.refill src vw with bitsIn := (b.refill src vw).bitsIn - vw }

/-- The buffer before the first round. -/
def BitBuffer.start : BitBuffer where
  src := 0
  buffer := 0
  bitsIn := 0

/-- `(buffer >> bitsIn) & mask`. -/
def BitBuffer.toWord (vw : ℕ) (b : BitBuffer) : UInt16 :=
  ((b.buffer >>> UInt32.ofNat b.bitsIn) &&& (UInt32.ofNat (1 <<< vw) - 1)).toUInt16

/-- `buffer >> (bitsIn + vw - 8)`, as a byte. -/
def BitBuffer.toByte (vw : ℕ) (b : BitBuffer) : UInt8 :=
  (b.buffer >>> UInt32.ofNat (b.bitsIn + vw - 8)).toUInt8

/-- A round of the outer loop, with what it writes. -/
def BitBuffer.round {α : Type} (out : BitBuffer → α) (src : Bytes) (vw : ℕ) (b : BitBuffer)
    (_ : Unit) : BitBuffer × α :=
  (b.take src vw, out (b.take src vw))

/-- `convert_packed_to_8bit`: what it writes to `dest`. -/
def convertPackedTo8bit (src : Bytes) (vw n : ℕ) : List UInt8 :=
  Mealy.trace (BitBuffer.round (BitBuffer.toByte vw) src vw) .start (List.replicate n ())

/-- How many bytes the loop that writes `out` reads, one after the other. -/
def packedBytesRead {α : Type} (out : BitBuffer → α) (src : Bytes) (vw n : ℕ) : ℕ :=
  (Mealy.run (BitBuffer.round out src vw) .start (List.replicate n ())).src

/-- The outer loop as a run with output. -/
theorem convertPackedLoop_eq (src : Bytes) (vw n : ℕ) (b : BitBuffer) :
    convertPackedLoop src vw n b =
      Mealy.trace (BitBuffer.round (BitBuffer.toWord vw) src vw) b (List.replicate n ()) := by
  induction n generalizing b with
  | zero => rfl
  | succ n ih => exact congrArg (_ :: ·) (ih _)

/-- The buffer when `p` bits have been taken. -/
structure BitBuffer.At (src : Bytes) (p : ℕ) (b : BitBuffer) : Prop where
  buffer : b.buffer.toNat = BitStream.number (packedBits src) 0 (8 * b.src) % 2 ^ 32
  bits : 8 * b.src = p + b.bitsIn

section Buffer

variable {src : Bytes} {vw p v s : ℕ} {b : BitBuffer}

/-- Before the first round nothing has been taken. -/
theorem BitBuffer.at_start : BitBuffer.start.At src 0 := ⟨rfl, rfl⟩

/-- A byte is shifted in. -/
theorem or_byte_mod (N : ℕ) {x : ℕ} (hx : x < 2 ^ 8) :
    (N % 2 ^ 32) <<< 8 % 2 ^ 32 ||| x = (N * 2 ^ 8 + x) % 2 ^ 32 := by
  have hlow : (N % 2 ^ 32) <<< 8 % 2 ^ 32 = (N % 2 ^ 24) <<< 8 := by
    rw [Nat.shiftLeft_eq, Nat.shiftLeft_eq]
    omega
  rw [hlow, ← Nat.shiftLeft_add_eq_or_of_lt hx, Nat.shiftLeft_eq]
  omega

/-- The inner loop keeps what the buffer is, and reads no more than it has to. -/
theorem BitBuffer.At.refill (h : b.At src p) (hbits : b.bitsIn < vw + 8) :
    (b.refill src vw).At src p ∧ vw ≤ (b.refill src vw).bitsIn ∧
      (b.refill src vw).bitsIn < vw + 8 := by
  induction b using BitBuffer.refill.induct src vw with
  | case1 b hlt ih =>
    rw [BitBuffer.refill, if_pos hlt]
    refine ih ⟨?_, ?_⟩ (by dsimp only; omega)
    · have hshift : (b.buffer <<< 8).toNat = b.buffer.toNat <<< 8 % 2 ^ 32 :=
        UInt32.toNat_shiftLeft _ _
      show (b.buffer <<< 8 ||| (src b.src).toUInt32).toNat = _
      rw [UInt32.toNat_or, UInt8.toNat_toUInt32, hshift, number_packedBits_succ, h.buffer]
      exact or_byte_mod _ (src b.src).toNat_lt
    · have := h.bits
      dsimp only
      omega
  | case2 b hge =>
    rw [BitBuffer.refill, if_neg hge]
    exact ⟨h, Nat.not_lt.1 hge, hbits⟩

/-- A round takes `vw` bits and leaves less than a byte. -/
theorem BitBuffer.At.take (vw : ℕ) (h : b.At src p) (hbits : b.bitsIn < 8) :
    (b.take src vw).At src (p + vw) ∧ (b.take src vw).bitsIn < 8 := by
  obtain ⟨hat, hge, hlt⟩ := h.refill (show b.bitsIn < vw + 8 by omega)
  refine ⟨⟨hat.buffer, ?_⟩, ?_⟩
  · have := hat.bits
    show 8 * (b.refill src vw).src = p + vw + ((b.refill src vw).bitsIn - vw)
    omega
  · show (b.refill src vw).bitsIn - vw < 8
    omega

/-- **The bits of the buffer** are bits of the array: `v` of them, from `a` on, behind which `s`
more have been read. -/
theorem BitBuffer.At.shift {a v s : ℕ} (h : b.At src p) (hread : p + b.bitsIn = a + v + s)
    (hs : v + s ≤ 32) :
    b.buffer.toNat / 2 ^ s % 2 ^ v = BitStream.number (packedBits src) a v := by
  have hpow : 2 ^ 32 = 2 ^ s * 2 ^ (32 - s) := by
    rw [← Nat.pow_add]
    congr 1
    omega
  calc b.buffer.toNat / 2 ^ s % 2 ^ v
      = BitStream.number (packedBits src) 0 (a + v + s) / 2 ^ s % 2 ^ (32 - s) % 2 ^ v := by
        rw [h.buffer, h.bits, hread, hpow, Nat.mod_mul_right_div_self]
    _ = BitStream.number (packedBits src) 0 (a + v + s) / 2 ^ s % 2 ^ v :=
        Nat.mod_mod_of_dvd _ (Nat.pow_dvd_pow 2 (by omega))
    _ = BitStream.number (packedBits src) a v := by
        rw [BitStream.number_div, BitStream.number_mod, Nat.zero_add]

/-- What a round of `convert_packed_to_16bit` writes. -/
theorem BitBuffer.At.toWord (h : b.At src (p + vw)) (hbits : b.bitsIn < 8) (hvw : vw ≤ 16) :
    (b.toWord vw).toNat = BitStream.number (packedBits src) p vw := by
  have hshift : (b.buffer >>> UInt32.ofNat b.bitsIn).toNat = b.buffer.toNat / 2 ^ b.bitsIn := by
    rw [UInt32.toNat_shiftRight, UInt32.toNat_ofNat', Nat.mod_eq_of_lt (by omega),
      Nat.mod_eq_of_lt (by omega), Nat.shiftRight_eq_div_pow]
  have hle : 2 ^ vw ≤ 2 ^ 16 := Nat.pow_le_pow_right Nat.two_pos hvw
  have hpos := Nat.two_pow_pos vw
  have hmask : (UInt32.ofNat (1 <<< vw) - 1).toNat = 2 ^ vw - 1 := by
    rw [Nat.shiftLeft_eq, Nat.one_mul, UInt32.toNat_sub, UInt32.toNat_ofNat',
      Nat.mod_eq_of_lt (a := 2 ^ vw) (by omega)]
    show (2 ^ 32 - 1 + 2 ^ vw) % 2 ^ 32 = 2 ^ vw - 1
    omega
  have hnumber := h.shift (a := p) (v := vw) (s := b.bitsIn) rfl (by omega)
  have hlt := BitStream.number_lt (packedBits src) p vw
  rw [BitBuffer.toWord, UInt32.toNat_toUInt16, UInt32.toNat_and, hshift, hmask,
    Nat.and_two_pow_sub_one_eq_mod, hnumber, Nat.mod_eq_of_lt (by omega)]

/-- What a round of `convert_packed_to_8bit` writes: the top eight bits. -/
theorem BitBuffer.At.toByte (h : b.At src (p + vw)) (hbits : b.bitsIn < 8) (h8 : 8 ≤ vw)
    (hvw : vw ≤ 16) :
    (b.toByte vw).toNat = BitStream.number (packedBits src) p vw / 2 ^ (vw - 8) := by
  have hshift : (b.buffer >>> UInt32.ofNat (b.bitsIn + vw - 8)).toNat =
      b.buffer.toNat / 2 ^ (b.bitsIn + vw - 8) := by
    rw [UInt32.toNat_shiftRight, UInt32.toNat_ofNat', Nat.mod_eq_of_lt (by omega),
      Nat.mod_eq_of_lt (by omega), Nat.shiftRight_eq_div_pow]
  have hnumber := h.shift (a := p) (v := 8) (s := b.bitsIn + vw - 8) (by omega) (by omega)
  have htop := BitStream.number_div (packedBits src) p 8 (vw - 8)
  rw [Nat.add_sub_of_le h8] at htop
  rw [BitBuffer.toByte, UInt32.toNat_toUInt8, hshift, hnumber, htop]

/-! ### The loops

Both loops take the same bits, whatever they write. -/

/-- **The run lemma of both loops**: after `n` rounds `n * vw` bits have been taken, and less than a
byte is left over. -/
theorem run_round {α : Type} (src : Bytes) (vw : ℕ) (out : BitBuffer → α) (n : ℕ)
    (h : b.At src p) (hbits : b.bitsIn < 8) :
    (Mealy.run (BitBuffer.round out src vw) b (List.replicate n ())).At src (p + n * vw) ∧
      (Mealy.run (BitBuffer.round out src vw) b (List.replicate n ())).bitsIn < 8 := by
  induction n generalizing p b with
  | zero => exact ⟨by rwa [Nat.zero_mul], hbits⟩
  | succ n ih =>
    obtain ⟨hat, hlt⟩ := h.take vw hbits
    rw [Nat.succ_mul, Nat.add_comm (n * vw), ← Nat.add_assoc]
    exact ih hat hlt

/-- What the rounds write, if a round that starts at bit `p` writes `f p`. -/
theorem trace_round {α : Type} {out : BitBuffer → α} {g : α → ℕ} {f : ℕ → ℕ}
    (hout : ∀ p b, BitBuffer.At src (p + vw) b → b.bitsIn < 8 → g (out b) = f p) (n : ℕ)
    (h : b.At src p) (hbits : b.bitsIn < 8) :
    (Mealy.trace (BitBuffer.round out src vw) b (List.replicate n ())).map g =
      (List.range n).map fun i ↦ f (p + i * vw) := by
  induction n generalizing p b with
  | zero => rfl
  | succ n ih =>
    obtain ⟨hat, hlt⟩ := h.take vw hbits
    rw [List.replicate_succ, Mealy.trace_cons, List.map_cons, List.range_succ_eq_map,
      List.map_cons, List.map_map]
    refine congrArg₂ _ ?_ ((ih hat hlt).trans (List.map_congr_left fun i _ ↦ ?_))
    · rw [Nat.zero_mul]
      exact hout p _ hat hlt
    · show f (p + vw + i * vw) = f (p + (i + 1) * vw)
      rw [Nat.succ_mul, Nat.add_comm (i * vw), Nat.add_assoc]

end Buffer

/-! ### The generic unpackers

What the source says the two functions do, and how many bytes they read for it. -/

section Generic

variable (src : Bytes) (vw n : ℕ)

/-- The loops read the bytes that have a bit of an element, and no others. -/
theorem packedBytesRead_eq {α : Type} (out : BitBuffer → α) :
    packedBytesRead out src vw n = (n * vw + 7) / 8 := by
  obtain ⟨hat, hlt⟩ := run_round src vw out n BitBuffer.at_start (by decide)
  have := hat.bits
  rw [packedBytesRead]
  omega

/-- **To words**: element by element. -/
theorem map_toNat_convertPackedTo16bit (hvw : vw ≤ 16) :
    (convertPackedTo16bit src vw n).map UInt16.toNat =
      (List.range n).map (packedField src vw) := by
  rw [convertPackedTo16bit, convertPackedLoop_eq]
  refine (trace_round (fun p b h hbits ↦ h.toWord hbits hvw) n BitBuffer.at_start
    (by decide)).trans (List.map_congr_left fun i _ ↦ ?_)
  rw [Nat.zero_add, packedField]

/-- **To bytes**: the top eight bits of each element. -/
theorem map_toNat_convertPackedTo8bit (h8 : 8 ≤ vw) (hvw : vw ≤ 16) :
    (convertPackedTo8bit src vw n).map UInt8.toNat =
      (List.range n).map fun i ↦ packedField src vw i / 2 ^ (vw - 8) := by
  refine (trace_round (fun p b h hbits ↦ h.toByte hbits h8 hvw) n BitBuffer.at_start
    (by decide)).trans (List.map_congr_left fun i _ ↦ ?_)
  rw [Nat.zero_add, packedField]

/-- Arrays with the same first bytes have the same first elements. -/
theorem packedField_congr {src src' : Bytes} {vw n i : ℕ} (hi : i < n)
    (h : ∀ k < (n * vw + 7) / 8, src k = src' k) :
    packedField src vw i = packedField src' vw i := by
  have hle : (i + 1) * vw ≤ n * vw := Nat.mul_le_mul_right vw hi
  rw [Nat.succ_mul] at hle
  refine BitStream.number_congr fun r hr ↦ ?_
  rw [packedBits, packedBits, BitStream.ofWords, BitStream.ofWords, h _ (by omega)]

/-- What was packed is unpacked. -/
theorem map_packedField_of_packed {values : List ℕ} (hlen : values.length = n)
    (hlt : ∀ x ∈ values, x < 2 ^ vw)
    (hsrc : ∀ k < (n * vw + 7) / 8, src k = packValues vw values k) :
    (List.range n).map (packedField src vw) = values := by
  subst hlen
  refine List.ext_getElem (by simp) fun i hi hi' ↦ ?_
  rw [List.getElem_map, List.getElem_range, packedField_congr hi' hsrc, packedField_packValues,
    List.getD_eq_getElem _ _ hi', Nat.mod_eq_of_lt (hlt _ (List.getElem_mem hi'))]

/-- What `convert_packed_to_16bit` is to do. -/
structure UnpacksTo16bit : Prop where
  /-- Element `i` is the number that the bits from `i * vw` to `(i + 1) * vw` form. -/
  fields : (convertPackedTo16bit src vw n).map UInt16.toNat =
    (List.range n).map (packedField src vw)
  /-- No byte is read behind the last bit. -/
  reads : packedBytesRead (BitBuffer.toWord vw) src vw n ≤ (n * vw + 7) / 8
  /-- Packing is undone. -/
  undoes : ∀ values : List ℕ, values.length = n → (∀ x ∈ values, x < 2 ^ vw) →
    (∀ k < (n * vw + 7) / 8, src k = packValues vw values k) →
    (convertPackedTo16bit src vw n).map UInt16.toNat = values

/-- What `convert_packed_to_8bit` is to do. -/
structure UnpacksTo8bit : Prop where
  /-- Element `i` is the top eight bits of the field. -/
  fields : (convertPackedTo8bit src vw n).map UInt8.toNat =
    (List.range n).map fun i ↦ packedField src vw i / 2 ^ (vw - 8)
  /-- No byte is read behind the last bit. -/
  reads : packedBytesRead (BitBuffer.toByte vw) src vw n ≤ (n * vw + 7) / 8

/-- **The generic unpackers extract bit fields, most significant bit first**, for every width up to
16, and from 8 on in the version that keeps the top bits. -/
theorem generic_unpackers (hvw : vw ≤ 16) :
    UnpacksTo16bit src vw n ∧ (8 ≤ vw → UnpacksTo8bit src vw n) := by
  have hfields := map_toNat_convertPackedTo16bit src vw n hvw
  refine ⟨⟨hfields, (packedBytesRead_eq src vw n _).le, fun values hlen hlt hsrc ↦ ?_⟩,
    fun h8 ↦ ⟨map_toNat_convertPackedTo8bit src vw n h8 hvw, (packedBytesRead_eq src vw n _).le⟩⟩
  exact hfields.trans (map_packedField_of_packed src vw n hlen hlt hsrc)

/-- Three bytes are two values of ten bits, and four bits are left over. -/
theorem generic_unpackers_ten :
    UnpacksTo16bit (fun k ↦ UInt8.ofNat (0xA5 + k)) 10 2 ∧
      (8 ≤ 10 → UnpacksTo8bit (fun k ↦ UInt8.ofNat (0xA5 + k)) 10 2) :=
  generic_unpackers (fun k ↦ UInt8.ofNat (0xA5 + k)) 10 2 (by decide)

end Generic

/-! ### The unrolled unpacker

Eight elements in eleven bytes, with a mask and shifts that are written out for each. -/

/-- The offsets at which `convert_packed11_to_16bit` reads, in order, once `raw` is there. -/
def packed11Reads (raw : ℕ) : ℕ → List ℕ
  | n + 8 => (List.range 11).map (raw + ·) ++ packed11Reads (raw + 11) n
  | _ => []

/-- Moving the pointer by bytes moves the stream by eight bits each. -/
theorem packedBits_advance (raw : Bytes) (m j : ℕ) :
    packedBits (raw.advance m) j = packedBits raw (8 * m + j) := by
  rw [packedBits, packedBits, BitStream.ofWords, BitStream.ofWords, Bytes.advance,
    Nat.mul_add_div (by decide), Nat.mul_add_mod]

/-- Eight elements of eleven bits are eleven bytes. -/
theorem packedField_advance (raw : Bytes) (q r : ℕ) :
    packedField (raw.advance (11 * q)) 11 r = packedField raw 11 (8 * q + r) := by
  refine BitStream.number_congr fun k _ ↦ ?_
  rw [packedBits_advance]
  congr 1
  omega

/-- The mask keeps eleven bits. -/
theorem and_baseMask (x : ℕ) : x &&& 0x7FF = x % 2 ^ 11 := Nat.and_two_pow_sub_one_eq_mod x 11

/-- An element as bytes: it starts `d` bits into byte `k` and ends `s` bits before byte `k + m`. -/
theorem packedField_eq_bytes (raw : Bytes) {i k m d s : ℕ} (hstart : i * 11 = 8 * k + d)
    (hend : d + 11 + s = 8 * m) :
    packedField raw 11 i = BitStream.number (packedBits raw) (8 * k) (8 * m) / 2 ^ s % 2 ^ 11 := by
  rw [packedField, hstart, ← hend, BitStream.number_div, BitStream.number_mod]

/-- A byte is the number its bits form. -/
theorem number_byte (raw : Bytes) (k : ℕ) :
    BitStream.number (packedBits raw) (8 * k) (8 * 1) = (raw k).toNat := by
  rw [Nat.mul_comm 8 k, packedBits]
  exact (BitStream.number_ofWords _ k 8).trans (Nat.mod_eq_of_lt (raw k).toNat_lt)

/-- One byte more. -/
theorem number_bytes_succ (raw : Bytes) (k m : ℕ) :
    BitStream.number (packedBits raw) (8 * k) (8 * (m + 1)) =
      BitStream.number (packedBits raw) (8 * k) (8 * m) * 2 ^ 8 + (raw (k + m)).toNat := by
  rw [Nat.mul_succ, BitStream.number_add, ← Nat.mul_add]
  congr 1
  exact number_byte raw (k + m)

/-- The top bits of a byte behind another number. -/
theorem shiftLeft_or_shiftRight {x y s : ℕ} (hs : s ≤ 8) (hy : y < 2 ^ 8) :
    x <<< (8 - s) ||| y >>> s = (x * 2 ^ 8 + y) / 2 ^ s := by
  have hpow : 2 ^ 8 = 2 ^ (8 - s) * 2 ^ s := by rw [← Nat.pow_add, Nat.sub_add_cancel hs]
  have hlow : y / 2 ^ s < 2 ^ (8 - s) := by
    rw [Nat.div_lt_iff_lt_mul (Nat.two_pow_pos s), ← hpow]
    exact hy
  rw [Nat.shiftRight_eq_div_pow, ← Nat.shiftLeft_add_eq_or_of_lt hlow, Nat.shiftLeft_eq, hpow,
    ← Nat.mul_assoc, Nat.add_comm (_ * 2 ^ s), Nat.add_mul_div_right _ _ (Nat.two_pow_pos s),
    Nat.add_comm]

/-- An element in two bytes. -/
theorem packedField_two (raw : Bytes) {i k d s : ℕ} (hstart : i * 11 = 8 * k + d)
    (hend : d + 11 + s = 16) (hs : s ≤ 8) :
    ((raw k).toNat <<< (8 - s) ||| (raw (k + 1)).toNat >>> s) &&& 0x7FF =
      packedField raw 11 i := by
  rw [and_baseMask, shiftLeft_or_shiftRight hs (raw (k + 1)).toNat_lt,
    packedField_eq_bytes raw (m := 2) hstart hend, number_bytes_succ, number_byte]

/-- An element in three bytes. -/
theorem packedField_three (raw : Bytes) {i k d s : ℕ} (hstart : i * 11 = 8 * k + d)
    (hend : d + 11 + s = 24) (hs : s ≤ 8) :
    ((raw k).toNat <<< (8 + (8 - s)) ||| (raw (k + 1)).toNat <<< (8 - s) |||
        (raw (k + 2)).toNat >>> s) &&& 0x7FF = packedField raw 11 i := by
  have hhigh : (raw k).toNat <<< 8 ||| (raw (k + 1)).toNat =
      (raw k).toNat * 2 ^ 8 + (raw (k + 1)).toNat := by
    rw [← Nat.shiftLeft_add_eq_or_of_lt (raw (k + 1)).toNat_lt, Nat.shiftLeft_eq]
  rw [and_baseMask, Nat.shiftLeft_add, ← Nat.shiftLeft_or_distrib, hhigh,
    shiftLeft_or_shiftRight hs (raw (k + 2)).toNat_lt,
    packedField_eq_bytes raw (m := 3) hstart hend, number_bytes_succ, number_bytes_succ,
    number_byte]

/-- The first element needs no mask. -/
theorem packedField_first (raw : Bytes) :
    (raw 0).toNat <<< 3 ||| (raw 1).toNat >>> 5 = packedField raw 11 0 := by
  have h0 : (raw 0).toNat < 2 ^ 8 := (raw 0).toNat_lt
  have h1 : (raw 1).toNat < 2 ^ 8 := (raw 1).toNat_lt
  have hbytes : (raw 0).toNat <<< 3 ||| (raw 1).toNat >>> 5 =
      ((raw 0).toNat * 2 ^ 8 + (raw 1).toNat) / 2 ^ 5 :=
    shiftLeft_or_shiftRight (s := 5) (by decide) h1
  rw [hbytes, packedField_eq_bytes raw (k := 0) (m := 2) (d := 0) (s := 5) rfl rfl,
    number_bytes_succ, number_byte, Nat.mod_eq_of_lt]
  show ((raw 0).toNat * 2 ^ 8 + (raw 1).toNat) / 2 ^ 5 < 2 ^ 11
  omega

/-- **The eight expressions of the unrolled unpacker** are the eight elements. -/
theorem unpack8Pixels_eq (raw : Bytes) :
    unpack8Pixels raw = (List.range 8).map fun r ↦ UInt16.ofNat (packedField raw 11 r) := by
  have h1 : ((raw 1).toNat <<< 6 ||| (raw 2).toNat >>> 2) &&& 0x7FF = packedField raw 11 1 :=
    packedField_two raw (d := 3) (s := 2) rfl rfl (by decide)
  have h2 : ((raw 2).toNat <<< 9 ||| (raw 3).toNat <<< 1 ||| (raw 4).toNat >>> 7) &&& 0x7FF =
    packedField raw 11 2 := packedField_three raw (d := 6) (s := 7) rfl rfl (by decide)
  have h3 : ((raw 4).toNat <<< 4 ||| (raw 5).toNat >>> 4) &&& 0x7FF = packedField raw 11 3 :=
    packedField_two raw (d := 1) (s := 4) rfl rfl (by decide)
  have h4 : ((raw 5).toNat <<< 7 ||| (raw 6).toNat >>> 1) &&& 0x7FF = packedField raw 11 4 :=
    packedField_two raw (d := 4) (s := 1) rfl rfl (by decide)
  have h5 : ((raw 6).toNat <<< 10 ||| (raw 7).toNat <<< 2 ||| (raw 8).toNat >>> 6) &&& 0x7FF =
    packedField raw 11 5 := packedField_three raw (d := 7) (s := 6) rfl rfl (by decide)
  have h6 : ((raw 8).toNat <<< 5 ||| (raw 9).toNat >>> 3) &&& 0x7FF = packedField raw 11 6 :=
    packedField_two raw (d := 2) (s := 3) rfl rfl (by decide)
  have h7 : ((raw 9).toNat <<< 8 ||| (raw 10).toNat) &&& 0x7FF = packedField raw 11 7 :=
    packedField_two raw (d := 5) (s := 0) rfl rfl (by decide)
  simp only [unpack8Pixels, packedField_first, h1, h2, h3, h4, h5, h6, h7]
  rfl

/-- A pixel is an element of eleven bits. -/
theorem packedPixel_eq (raw : Bytes) (i : ℕ) :
    packedPixel raw i = UInt16.ofNat (packedField raw 11 i) := by
  have hr : i % 8 < 8 := Nat.mod_lt i (by decide)
  rw [packedPixel, unpack8Pixels_eq, List.getD_eq_getElem _ _ (by simpa using hr),
    List.getElem_map, List.getElem_range, packedField_advance, Nat.div_add_mod]

/-- The generic unpacker with a width of eleven bits. -/
theorem convertPackedTo16bit_eleven (raw : Bytes) (n : ℕ) :
    convertPackedTo16bit raw 11 n = (List.range n).map (packedPixel raw) := by
  refine List.map_injective_iff.2 (fun _ _ ↦ UInt16.toNat_inj.1) ?_
  rw [map_toNat_convertPackedTo16bit raw 11 n (by decide), List.map_map]
  refine List.map_congr_left fun i _ ↦ ?_
  have hlt := packedField_lt raw 11 i
  rw [Function.comp_apply, packedPixel_eq, UInt16.toNat_ofNat_of_lt' (hlt.trans (by decide))]

/-- Less than eight elements are not converted. -/
theorem convertPacked11To16bit_of_lt (raw : Bytes) {n : ℕ} (hn : n < 8) :
    convertPacked11To16bit raw n = [] := by
  unfold convertPacked11To16bit
  split
  · omega
  · rfl

/-- What is left behind the last block of eight is not written. -/
theorem convertPacked11To16bit_add (raw : Bytes) (k : ℕ) {r : ℕ} (hr : r < 8) :
    convertPacked11To16bit raw (8 * k + r) = convertPacked11To16bit raw (8 * k) := by
  induction k generalizing raw with
  | zero =>
    rw [convertPacked11To16bit_of_lt raw (by omega), convertPacked11To16bit_of_lt raw (by omega)]
  | succ k ih =>
    rw [Nat.mul_succ, Nat.add_right_comm, convertPacked11To16bit, convertPacked11To16bit, ih]

/-- **The whole loop**: the elements of the complete blocks. -/
theorem convertPacked11To16bit_eq_map (raw : Bytes) (n : ℕ) :
    convertPacked11To16bit raw n = (List.range (n - n % 8)).map (packedPixel raw) := by
  have hsub : n - n % 8 = 8 * (n / 8) := by omega
  have hadd := convertPacked11To16bit_add raw (n / 8) (Nat.mod_lt n (by decide : 0 < 8))
  rw [Nat.div_add_mod] at hadd
  rw [hadd, hsub]
  exact convertPacked11To16bit_eq raw (Nat.dvd_mul_right 8 _)

/-- Nor is anything read for them. -/
theorem packed11Reads_of_lt (raw : ℕ) {n : ℕ} (hn : n < 8) : packed11Reads raw n = [] := by
  unfold packed11Reads
  split
  · omega
  · rfl

/-- Complete blocks are read from front to back. -/
theorem packed11Reads_mul_add (raw k : ℕ) {r : ℕ} (hr : r < 8) :
    packed11Reads raw (8 * k + r) = (List.range (11 * k)).map (raw + ·) := by
  induction k generalizing raw with
  | zero => exact packed11Reads_of_lt raw (by omega)
  | succ k ih =>
    rw [Nat.mul_succ, Nat.add_right_comm, packed11Reads, ih, Nat.mul_succ, Nat.add_comm (11 * k) 11,
      List.range_add, List.map_append, List.map_map]
    simp only [Nat.add_assoc, Function.comp_def]

/-- The loop reads eleven bytes for each complete block. -/
theorem packed11Reads_eq (raw n : ℕ) :
    packed11Reads raw n = (List.range (11 * (n / 8))).map (raw + ·) := by
  have h := packed11Reads_mul_add raw (n / 8) (Nat.mod_lt n (by decide : 0 < 8))
  rwa [Nat.div_add_mod] at h

/-! ### The blocks of the registration

The registration refills a cache of eight pixels as it goes along, with the same eight expressions.
-/

/-- The cache in front of pixel `n`, and the values it has handed out. -/
theorem run_unpacker_next (raw : Bytes) (n : ℕ) :
    (Mealy.run (fun u (_ : ℕ) ↦ u.next raw) Unpacker.start (List.range n)).At raw n ∧
      Mealy.trace (fun u (_ : ℕ) ↦ u.next raw) Unpacker.start (List.range n) =
        (List.range n).map (packedPixel raw) := by
  rw [← List.map_id (Mealy.trace _ _ _)]
  exact Mealy.run_range (I := fun i (u : Unpacker) ↦ u.At raw i) Unpacker.at_start
    fun i u _ h ↦ ⟨h.next.2, h.next.1⟩

/-- How far the cache has read. -/
theorem Unpacker.At.input_eq {raw : Bytes} {n : ℕ} {u : Unpacker} (h : u.At raw n) :
    u.input = 11 * ((n + 7) / 8) := by
  by_cases h0 : n % 8 = 0
  · rw [(h.empty h0).2]
    omega
  · rw [(h.full h0).2.1]
    omega

/-- What the unrolled unpackers are to do with `n` elements. -/
structure UnpacksEleven (raw : Bytes) (n : ℕ) : Prop where
  /-- The unrolled loop writes the elements of the whole blocks of eight. -/
  blocks : convertPacked11To16bit raw n = (convertPackedTo16bit raw 11 n).take (n - n % 8)
  /-- If there are no others, it writes all of them. -/
  all : 8 ∣ n → convertPacked11To16bit raw n = convertPackedTo16bit raw 11 n
  /-- Each byte of the blocks is read once, and nothing else is. -/
  reads : packed11Reads 0 n = List.range (11 * (n - n % 8) / 8)
  /-- The blocks of the conversions to millimetres hand out the same values. -/
  cache : Mealy.trace (fun u (_ : ℕ) ↦ u.next raw) Unpacker.start (List.range n) =
    convertPackedTo16bit raw 11 n
  /-- They have then read the same bytes, and the rest of the last block. -/
  cacheReads : (Mealy.run (fun u (_ : ℕ) ↦ u.next raw) Unpacker.start (List.range n)).input =
    11 * ((n + 7) / 8)

/-- **The unrolled unpackers agree with the generic one.** -/
theorem unrolled_unpackers (raw : Bytes) (n : ℕ) : UnpacksEleven raw n where
  blocks := by
    rw [convertPacked11To16bit_eq_map, convertPackedTo16bit_eleven, ← List.map_take,
      List.take_range, Nat.min_eq_left (Nat.sub_le n _)]
  all hn := by rw [convertPacked11To16bit_eq raw hn, convertPackedTo16bit_eleven]
  reads := by
    have hbytes : 11 * (n - n % 8) / 8 = 11 * (n / 8) := by omega
    rw [packed11Reads_eq, hbytes]
    simp
  cache := by rw [(run_unpacker_next raw n).2, convertPackedTo16bit_eleven]
  cacheReads := (run_unpacker_next raw n).1.input_eq

end Freenect
