import Freenect.Camera.Modes
import Freenect.Camera.PacketStream
import Freenect.Registration.Apply
import Mathlib.Data.List.GetD

/-!
# `depth_process`

The depth stream's packet callback: the body it shares with the video stream, with the `switch` on
the depth format. A conversion produces 16-bit words in the byte order of the host (`hostBytes`); a
frame is the bytes of the image it writes to `proc_buf`.

`freenect_apply_registration` may also write outside the image, which is the subject of
`Freenect.Registration.Bounds`; a frame does not depend on it (`registeredFrame_congr`).

The `switch` is a function from the format to the conversion, `none` for the formats that hand the
packed frame on as it is. Words are read back from the bytes they were written as
(`hostWord_hostFrame`), in either byte order, which is what lets a later module compare two frames
by their words.
-/

namespace Freenect

/-! ### Words in memory

A `uint16_t` is stored in the byte order of the host, which is a parameter everywhere. -/

/-- A `uint16_t` in memory. `big` is the byte order of the host. -/
def hostBytes (big : Bool) (w : UInt16) : List UInt8 :=
  let low := UInt8.ofNat (w.toNat % 2 ^ 8)
  let high := UInt8.ofNat (w.toNat / 2 ^ 8)
  if big then [high, low] else [low, high]

/-- The `i`-th `uint16_t` behind a pointer. -/
def hostWord (big : Bool) (p : ℕ → UInt8) (i : ℕ) : UInt16 :=
  let first := (p (2 * i)).toNat
  let second := (p (2 * i + 1)).toNat
  UInt16.ofNat (if big then first * 2 ^ 8 + second else first + second * 2 ^ 8)

/-- The bytes of several words. -/
def hostFrame (big : Bool) (ws : List UInt16) : List UInt8 := ws.flatMap (hostBytes big)

/-- A word has two bytes. -/
@[simp] theorem length_hostBytes (big : Bool) (w : UInt16) : (hostBytes big w).length = 2 := by
  cases big <;> rfl

/-- A frame has two bytes for each word. -/
@[simp] theorem length_hostFrame (big : Bool) (ws : List UInt16) :
    (hostFrame big ws).length = 2 * ws.length := by
  simp [hostFrame, List.length_flatMap, Nat.mul_comm]

/-- A word that was written is read back. -/
theorem hostWord_hostBytes {big : Bool} {w : UInt16} {p : ℕ → UInt8} {i : ℕ}
    (h₀ : p (2 * i) = (hostBytes big w).getD 0 0)
    (h₁ : p (2 * i + 1) = (hostBytes big w).getD 1 0) :
    hostWord big p i = w := by
  have hw : w.toNat < 2 ^ 16 := w.toNat_lt
  have hlow : (UInt8.ofNat (w.toNat % 2 ^ 8)).toNat = w.toNat % 2 ^ 8 := by
    rw [UInt8.toNat_ofNat', Nat.mod_mod]
  have hhigh : (UInt8.ofNat (w.toNat / 2 ^ 8)).toNat = w.toNat / 2 ^ 8 := by
    rw [UInt8.toNat_ofNat', Nat.mod_eq_of_lt (by omega)]
  rw [← UInt16.toNat_inj, hostWord, h₀, h₁, UInt16.toNat_ofNat']
  cases big with
  | true =>
    show ((UInt8.ofNat (w.toNat / 2 ^ 8)).toNat * 2 ^ 8 +
      (UInt8.ofNat (w.toNat % 2 ^ 8)).toNat) % 2 ^ 16 = w.toNat
    rw [hlow, hhigh]
    omega
  | false =>
    show ((UInt8.ofNat (w.toNat % 2 ^ 8)).toNat +
      (UInt8.ofNat (w.toNat / 2 ^ 8)).toNat * 2 ^ 8) % 2 ^ 16 = w.toNat
    rw [hlow, hhigh]
    omega

/-- The words of a frame are read back. -/
theorem hostWord_hostFrame (big : Bool) (ws : List UInt16) {i : ℕ} (hi : i < ws.length) :
    hostWord big (fun k ↦ (hostFrame big ws).getD k 0) i = ws[i] := by
  induction ws generalizing i with
  | nil => exact absurd hi (Nat.not_lt_zero _)
  | cons w ws ih =>
    have hcons : hostFrame big (w :: ws) = hostBytes big w ++ hostFrame big ws := rfl
    have hlen := length_hostBytes big w
    cases i with
    | zero =>
      refine hostWord_hostBytes ?_ ?_
      · simp only [hcons]
        rw [List.getD_append _ _ _ _ (by omega)]
        rfl
      · simp only [hcons]
        rw [List.getD_append _ _ _ _ (by omega)]
        rfl
    | succ i =>
      rw [List.getElem_cons_succ, ← ih (by simpa using hi)]
      simp only [hostWord, hcons]
      rw [List.getD_append_right _ _ _ _ (by omega), List.getD_append_right _ _ _ _ (by omega),
        hlen, show 2 * (i + 1) - 2 = 2 * i by omega, show 2 * (i + 1) + 1 - 2 = 2 * i + 1 by omega]

/-! ### The conversions

The formats of the depth stream. The registered frame needs the tables of the device and its
padding; the others need the raw buffer and, for millimetres, one table. -/

/-- The image in an output buffer. -/
def imageOf (out : ℕ → UInt16) : List UInt16 := (List.range pixelCount).map out

/-- The frame `freenect_apply_registration` makes in a buffer with previous content `out`. -/
def registeredFrame (pad : RegPadInfo) (t : RegistrationTables) (input : DepthInput)
    (out : ℕ → UInt16) : List UInt16 :=
  imageOf (applyRegistration pad t input out)

/-- The `switch` of `depth_process` on the depth format. -/
def depthConversion (big : Bool) (fmt : DepthFormat) (pad : RegPadInfo) (t : RegistrationTables) :
    Option Conversion :=
  match fmt with
  | .d11Bit => some fun raw _ ↦ hostFrame big (convertPacked11To16bit raw (640 * 480))
  | .registered => some fun raw proc ↦
    hostFrame big (registeredFrame pad t (.packed raw) (hostWord big proc))
  | .mm => some fun raw proc ↦ hostFrame big (imageOf (applyDepthToMm t raw (hostWord big proc)))
  | .d10Bit => some fun raw _ ↦ hostFrame big (convertPackedTo16bit raw 10 (640 * 480))
  | .d10BitPacked | .d11BitPacked | .dummy => none

/-- `depth_process`. -/
def depthProcess (big : Bool) (fmt : DepthFormat) (pad : RegPadInfo) (t : RegistrationTables)
    (strm : PacketStream) (mem : Memory) (pkt : List UInt8) (chunkCb : Bool)
    (newBuf : Option Ptr) : PacketStream × Memory × Option FrameOut :=
  frameProcess (depthConversion big fmt pad t) strm mem pkt chunkCb newBuf

/-- A registered frame depends on the raw values of the pixels alone: not on how they are packed,
and not on what the buffer held before. -/
theorem registeredFrame_congr {pad : RegPadInfo} {t : RegistrationTables}
    {input input' : DepthInput} {out out' : ℕ → UInt16}
    (h : ∀ i < pixelCount, input.rawAt i = input'.rawAt i) :
    registeredFrame pad t input out = registeredFrame pad t input' out' := by
  have hcon : contributions pad t input pixelCount = contributions pad t input' pixelCount := by
    refine List.filterMap_congr fun i hi ↦ ?_
    rw [contribution, contribution, h i (List.mem_range.1 hi)]
  simp only [registeredFrame, imageOf]
  refine List.map_congr_left fun i hi ↦ ?_
  have hi : i < pixelCount := List.mem_range.1 hi
  rw [applyRegistration_eq, applyRegistration_eq, outputAfter, outputAfter, hcon]
  refine DepthBuffer.fill_congr ?_
  rw [wipe, wipe, if_pos hi, if_pos hi]

end Freenect
