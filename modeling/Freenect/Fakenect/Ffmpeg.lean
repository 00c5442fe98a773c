import Freenect.Camera.DepthProcess
import Freenect.Camera.Modes

/-!
# Exporting depth frames to ffmpeg

With `-ffmpeg` the recorder writes every frame into a pipe, depth frames through
`dump_ffmpeg_pad16`, which makes 24 bits of the 16 of a sample. The function is handed the size of
the frame in bytes and adds it to a pointer to samples, and it advances that pointer by two: the
number of groups it writes is right, but they are those of every other sample of a frame of twice
the size (`padSamples_eq`).
-/

namespace Freenect

/-! ### The recorder -/

/-- The bytes of an `unsigned int`. -/
def hostIntBytes (big : Bool) (z : UInt32) : List UInt8 :=
  let bytes := [z.toUInt8, (z >>> 8).toUInt8, (z >>> 16).toUInt8, (z >>> 24).toUInt8]
  if big then bytes.reverse else bytes

/-- What is done with a sample: the offsets of the bytes that are read, and what is written. -/
structure PadStep where
  read : List ℕ
  written : List UInt8

/-- The body of the loop, `dataPtr` counting samples. -/
def padSample (big : Bool) (data : ℕ → UInt8) (dataPtr : ℕ) : PadStep where
  read := [2 * dataPtr, 2 * dataPtr + 1]
  written := (hostIntBytes big (hostWord big data dataPtr).toUInt32).take 3

/-- The loop. -/
def padSamples (big : Bool) (data : ℕ → UInt8) (endPtr dataPtr : ℕ) : List PadStep :=
  if dataPtr < endPtr then
    padSample big data dataPtr :: padSamples big data endPtr (dataPtr + 2)
  else []
  termination_by endPtr - dataPtr

/-- `dump_ffmpeg_pad16`. With a negative size nothing is done. -/
def dumpFfmpegPad16 (big : Bool) (data : ℕ → UInt8) (dataSize : ℤ) : List PadStep :=
  padSamples big data dataSize.toNat 0

/-- `depth_cb_ffmpeg`; the line that it prints into the index is left out. -/
def depthCbFfmpeg (big : Bool) (depth : ℕ → UInt8) (junk : FrameMode DepthFormat) : List PadStep :=
  dumpFfmpegPad16 big depth (findDepthMode junk .medium .d11Bit).bytes

/-! ### What it is for -/

/-- A sample in three bytes, the lowest first. -/
def paddedSample (w : UInt16) : List UInt8 := [w.toUInt8, (w >>> 8).toUInt8, 0]

/-- **Each sample is exported once**: a frame of `n` samples is `n` groups of three bytes, and
nothing outside of the frame is read. -/
structure ExportsFrame (big : Bool) (data : ℕ → UInt8) (n : ℕ) (steps : List PadStep) : Prop where
  written : steps.map PadStep.written =
    (List.range n).map fun i ↦ paddedSample (hostWord big data i)
  read : ∀ step ∈ steps, ∀ offset ∈ step.read, offset < 2 * n

/-! ### The loop -/

section Loop

variable {big : Bool} {data : ℕ → UInt8} {n : ℕ}

/-- **The run of the loop**: `n` groups, of every other sample. -/
theorem padSamples_eq (n dataPtr : ℕ) :
    padSamples big data (dataPtr + 2 * n) dataPtr =
      (List.range n).map fun i ↦ padSample big data (dataPtr + 2 * i) := by
  induction n generalizing dataPtr with
  | zero => rw [padSamples, if_neg (by omega), List.range_zero, List.map_nil]
  | succ n ih =>
    have hend : dataPtr + 2 * (n + 1) = dataPtr + 2 + 2 * n := by omega
    rw [padSamples, if_pos (by omega), hend, ih, List.range_succ_eq_map, List.map_cons,
      List.map_map]
    refine congrArg _ (List.map_congr_left fun i _ ↦ congrArg (padSample big data) ?_)
    rw [Nat.succ_eq_add_one]
    omega

/-- For a frame of `n` samples the loop makes `n` rounds, at every other sample. -/
theorem dumpFfmpegPad16_eq (n : ℕ) :
    dumpFfmpegPad16 big data (2 * n) = (List.range n).map fun i ↦ padSample big data (2 * i) := by
  have hsize : (2 * n : ℤ).toNat = 0 + 2 * n := by omega
  rw [dumpFfmpegPad16, hsize, padSamples_eq]
  simp only [Nat.zero_add]

/-- Of two samples and more the last one read is outside of the frame. -/
theorem not_exportsFrame (h : 2 ≤ n) :
    ¬ ExportsFrame big data n (dumpFfmpegPad16 big data (2 * n)) := by
  intro hexports
  have hlast : padSample big data (2 * (n - 1)) ∈ dumpFfmpegPad16 big data (2 * n) := by
    rw [dumpFfmpegPad16_eq]
    exact List.mem_map_of_mem (List.mem_range.2 (by omega))
  have hoffset : 2 * (2 * (n - 1)) < 2 * n := hexports.read _ hlast _ (List.mem_cons_self ..)
  omega

/-- The bytes of a sample that was widened. -/
theorem toUInt8_toUInt32 (w : UInt16) :
    w.toUInt32.toUInt8 = w.toUInt8 ∧ (w.toUInt32 >>> 8).toUInt8 = (w >>> 8).toUInt8 ∧
      (w.toUInt32 >>> 16).toUInt8 = 0 ∧ (w.toUInt32 >>> 24).toUInt8 = 0 := by
  have hlt : w.toNat < 2 ^ 16 := w.toNat_lt
  refine ⟨rfl, ?_, ?_, ?_⟩ <;> rw [← UInt8.toNat_inj] <;>
    simp [Nat.shiftRight_eq_div_pow] <;> omega

/-- A sample is zero if both of its bytes are. -/
theorem toUInt8_eq_zero_iff (w : UInt16) : w.toUInt8 = 0 ∧ (w >>> 8).toUInt8 = 0 ↔ w = 0 := by
  have hlt : w.toNat < 2 ^ 16 := w.toNat_lt
  rw [← UInt8.toNat_inj, ← UInt8.toNat_inj, ← UInt16.toNat_inj]
  simp [Nat.shiftRight_eq_div_pow]
  omega

/-- The first three bytes of the sample are the right ones if the lowest comes first in memory, or
if they are all zero. -/
theorem take_hostIntBytes_iff (w : UInt16) :
    (hostIntBytes big w.toUInt32).take 3 = paddedSample w ↔ big = false ∨ w = 0 := by
  obtain ⟨h₀, h₁, h₂, h₃⟩ := toUInt8_toUInt32 w
  rw [hostIntBytes, h₀, h₁, h₂, h₃]
  cases big with
  | false => exact iff_of_true rfl (Or.inl rfl)
  | true =>
    have hbytes : ([0, 0, (w >>> 8).toUInt8] : List UInt8) = paddedSample w ↔
        w.toUInt8 = 0 ∧ (w >>> 8).toUInt8 = 0 := by
      simp only [paddedSample, List.cons.injEq, and_true]
      constructor
      · rintro ⟨hlow, hhigh, -⟩
        exact ⟨hlow.symm, hhigh.symm⟩
      · rintro ⟨hlow, hhigh⟩
        exact ⟨hlow.symm, hhigh.symm, hhigh⟩
    refine hbytes.trans ((toUInt8_eq_zero_iff w).trans ?_)
    exact (or_iff_right (by decide)).symm

end Loop

/-- **The exact condition** for the export: there is no sample, or there is one, on a host that has
the lowest byte first, or it is zero. -/
theorem dumpFfmpegPad16_exportsFrame_iff (big : Bool) (data : ℕ → UInt8) (n : ℕ) :
    ExportsFrame big data n (dumpFfmpegPad16 big data (2 * n)) ↔
      n = 0 ∨ n = 1 ∧ (big = false ∨ hostWord big data 0 = 0) := by
  match n with
  | 0 =>
    refine iff_of_true ?_ (Or.inl rfl)
    rw [dumpFfmpegPad16_eq]
    exact ⟨rfl, nofun⟩
  | 1 =>
    rw [dumpFfmpegPad16_eq, ← take_hostIntBytes_iff]
    constructor
    · exact fun h ↦ Or.inr ⟨rfl, (List.cons.inj h.written).1⟩
    · intro h
      have hwritten := (h.resolve_left (by decide)).2
      refine ⟨congrArg (· :: []) hwritten, fun step hstep offset hoffset ↦ ?_⟩
      obtain rfl := List.mem_singleton.1 hstep
      have hcases : offset = 0 ∨ offset = 1 := by simpa [padSample] using hoffset
      omega
  | n + 2 =>
    refine iff_of_false (not_exportsFrame (Nat.le_add_left 2 n)) ?_
    omega

/-- The frame that the callback is handed: half of what is written is not in it. -/
theorem depthCbFfmpeg_not_exportsFrame :
    ¬ ExportsFrame false (fun _ ↦ 0) (640 * 480)
      (depthCbFfmpeg false (fun _ ↦ 0) (depthMode .d11Bit 0 0 0)) :=
  not_exportsFrame (by decide)

end Freenect
