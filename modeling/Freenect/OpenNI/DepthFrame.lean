import Freenect.Library.Blocks
import Freenect.OpenNI.VideoStream
import Mathlib.Algebra.Group.Int.Defs
import Mathlib.Data.List.Nodup
import Mathlib.Data.List.Perm.Basic
import Mathlib.Tactic.Ring

/-!
# The frames of the OpenNI depth stream

`DepthStream::populateFrame` copies the pixels of the crop window out of the picture of the camera,
row by row, with a pointer into the picture and one into the frame. Mirrored, the second goes down
along a row and is moved to the next row by hand.

The two pointers are followed exactly: their offsets are integers, in pixels, and the run of the
loops is the list of the copies they make (`depthCopies_eq`). A mirrored row is written one pixel
too far to the right (`depthCopies_mirrored_iff`). The rows are packed, but the stride that the
frame reports is that of the whole picture, so that a client finds the pixels where the frame says
only if the window is as wide as the picture (`pixelsLocated_iff`).

Both conditions are exact, so both have a half that finds an input on which the code goes wrong. For
mirroring it is the first pixel of the last row, which is copied behind the end of the frame
(`not_mirrors_of_mirroring`). For the stride it is a picture with one byte that is not zero, at the
first pixel of the second row of the window: in the frame that byte is where the row begins, and if
it is also where the stride says, then the two lengths are the same (`frameWidth_of_located`).
-/

namespace Freenect

/-! ### `populateFrame` -/

/-- Where the two pointers are, `target` in the frame and `source` in the picture; also the copy
that is made there. -/
structure PixelCopy where
  target : ℤ
  source : ℤ
  deriving DecidableEq, Repr

/-- The inner loop for `n` more pixels, with the step of `target`: the pointers afterwards, and the
copies. -/
def copyRow (step : ℤ) : ℕ → PixelCopy → PixelCopy × List PixelCopy
  | 0, p => (p, [])
  | n + 1, p =>
    let r := copyRow step n ⟨p.target + step, p.source + 1⟩
    (r.1, p :: r.2)

/-- The outer loop for `n` more rows, with what is added to the pointers after each. -/
def copyRows (step correction skipWidth : ℤ) (width : ℕ) : ℕ → PixelCopy → List PixelCopy
  | 0, _ => []
  | n + 1, p =>
    let r := copyRow step width p
    r.2 ++ copyRows step correction skipWidth width n
      ⟨r.1.target + correction, r.1.source + skipWidth⟩

namespace DepthStream

/-- What `populateFrame` sets in the frame before it copies. -/
def window (s : VideoStream) (frame : FrameContents) : FrameContents :=
  let frame := { frame with stride := Int32.ofInt (s.videoMode.resolutionX.toInt * 2) }
  if s.cropping.enabled then
    { frame with
      height := s.cropping.height
      width := s.cropping.width
      cropOriginX := s.cropping.originX
      cropOriginY := s.cropping.originY
      croppingEnabled := true }
  else { frame with cropOriginX := 0, cropOriginY := 0, croppingEnabled := false }

/-- The copies that `populateFrame` makes. -/
def copies (s : VideoStream) (frame : FrameContents) : List PixelCopy :=
  let source := frame.cropOriginX.toInt + frame.cropOriginY.toInt * s.videoMode.resolutionX.toInt
  let width := frame.width.toInt
  let skipWidth : ℤ := (s.videoMode.resolutionX - frame.width).toUInt32.toNat
  let height := frame.height.toInt.toNat
  if s.mirroring then copyRows (-1) (2 * width) skipWidth width.toNat height ⟨width, source⟩
  else copyRows 1 0 skipWidth width.toNat height ⟨0, source⟩

/-- The two bytes of a pixel are copied. No copy is made below the start of the frame. -/
def copyPixel (picture : ℤ → UInt8) (data : ℕ → UInt8) (p : PixelCopy) : ℕ → UInt8 :=
  let i := (2 * p.target).toNat
  Function.update (Function.update data i (picture (2 * p.source))) (i + 1)
    (picture (2 * p.source + 1))

/-- `DepthStream::populateFrame`. -/
def populateFrame : PopulateFrame (ℤ → UInt8) := fun s picture frame ↦
  let frame := window s frame
  { frame with data := (copies s frame).foldl (copyPixel picture) frame.data }

end DepthStream

/-! ### The loops

A row is a run of the inner loop, and the picture is a run of the outer one. Each is the list of its
copies as a function of the position, by induction on how many are left. -/

section Loops

variable {step correction skipWidth : ℤ} {width n : ℕ} {p : PixelCopy}

/-- **The run of the inner loop**: the pointers move on in step. -/
theorem copyRow_eq (n : ℕ) (p : PixelCopy) :
    copyRow step n p = (⟨p.target + n * step, p.source + n⟩,
      (List.range n).map fun x : ℕ ↦ ⟨p.target + x * step, p.source + x⟩) := by
  induction n generalizing p with
  | zero => simp [copyRow]
  | succ n ih =>
    rw [copyRow, ih, List.range_succ_eq_map, List.map_cons, List.map_map]
    dsimp only
    refine Prod.ext ?_ (congrArg₂ _ ?_ (List.map_congr_left fun x _ ↦ ?_))
    · rw [PixelCopy.mk.injEq]
      push_cast
      constructor
      · ring
      · ring
    · simp
    · rw [Function.comp_apply, PixelCopy.mk.injEq]
      push_cast
      constructor
      · ring
      · ring

/-- **The run of the loops.** -/
theorem copyRows_eq (n : ℕ) (p : PixelCopy) :
    copyRows step correction skipWidth width n p = (List.range n).flatMap fun y : ℕ ↦
      (List.range width).map fun x : ℕ ↦
        ⟨p.target + y * (width * step + correction) + x * step,
          p.source + y * (width + skipWidth) + x⟩ := by
  induction n generalizing p with
  | zero => rfl
  | succ n ih =>
    rw [copyRows, copyRow_eq, ih, List.range_succ_eq_map, List.flatMap_cons, List.flatMap_map]
    dsimp only
    refine congrArg₂ _ (List.map_congr_left fun x _ ↦ ?_)
      (List.flatMap_congr fun y _ ↦ List.map_congr_left fun x _ ↦ ?_) <;>
    · simp only [PixelCopy.mk.injEq, Nat.succ_eq_add_one]
      push_cast
      constructor
      · ring
      · ring

end Loops

/-! ### Windows -/

namespace VideoStream

variable (s : VideoStream)

/-- A frame as `buildFrame` gives it to `populateFrame`. -/
def sized (frame : FrameContents) : FrameContents :=
  { frame with width := s.videoMode.resolutionX, height := s.videoMode.resolutionY }

/-- The width of the window: that of the crop window, or of the picture. -/
def frameWidth : ℕ :=
  (if s.cropping.enabled then s.cropping.width else s.videoMode.resolutionX).toInt.toNat

/-- The height of the window. -/
def frameHeight : ℕ :=
  (if s.cropping.enabled then s.cropping.height else s.videoMode.resolutionY).toInt.toNat

/-- The pixel of the picture for column `x` and row `y` of the window. -/
def sourcePixel (x y : ℕ) : ℤ :=
  let originX := if s.cropping.enabled then s.cropping.originX else 0
  let originY := if s.cropping.enabled then s.cropping.originY else 0
  (originY.toInt + y) * s.videoMode.resolutionX.toInt + (originX.toInt + x)

/-- The crop window, if there is one, is inside the picture. -/
structure CropInside : Prop where
  resolutionX : 0 ≤ s.videoMode.resolutionX.toInt
  resolutionY : 0 ≤ s.videoMode.resolutionY.toInt
  originX : s.cropping.enabled = true → 0 ≤ s.cropping.originX.toInt
  originY : s.cropping.enabled = true → 0 ≤ s.cropping.originY.toInt
  width : s.cropping.enabled = true → 0 ≤ s.cropping.width.toInt
  height : s.cropping.enabled = true → 0 ≤ s.cropping.height.toInt
  right : s.cropping.enabled = true →
    s.cropping.originX.toInt + s.cropping.width.toInt ≤ s.videoMode.resolutionX.toInt
  bottom : s.cropping.enabled = true →
    s.cropping.originY.toInt + s.cropping.height.toInt ≤ s.videoMode.resolutionY.toInt

end VideoStream

namespace DepthStream

variable {s : VideoStream} {frame : FrameContents}

/-- The window in the terms of the stream. -/
theorem window_sized (h : s.CropInside) (frame : FrameContents) :
    let f := window s (s.sized frame)
    f.width.toInt = s.frameWidth ∧ f.height.toInt = s.frameHeight ∧
      f.cropOriginX.toInt + f.cropOriginY.toInt * s.videoMode.resolutionX.toInt =
        s.sourcePixel 0 0 ∧
      f.width.toInt ≤ s.videoMode.resolutionX.toInt := by
  rw [window, VideoStream.frameWidth, VideoStream.frameHeight, VideoStream.sourcePixel]
  dsimp only
  split
  next hcrop =>
    have hwidth := h.width hcrop
    have hheight := h.height hcrop
    have horigin := h.originX hcrop
    have hright := h.right hcrop
    simp only
    exact ⟨by omega, by omega, by push_cast; ring, by omega⟩
  next hcrop =>
    have hwidth := h.resolutionX
    have hheight := h.resolutionY
    simp only [VideoStream.sized]
    exact ⟨by omega, by omega, by push_cast; ring, le_rfl⟩

/-- What is skipped between two rows. -/
theorem skipWidth_eq {a b : Int32} (hb : 0 ≤ b.toInt) (hba : b.toInt ≤ a.toInt) :
    ((a - b).toUInt32.toNat : ℤ) = a.toInt - b.toInt := by
  have hlt := Int32.toInt_lt a
  have hsub : (a - b).toInt = a.toInt - b.toInt := by
    rw [Int32.toInt_sub]
    exact Int.bmod_eq_of_le (by omega) (by omega)
  have hnonneg : 0 ≤ a - b := by
    rw [Int32.le_iff_toInt_le, hsub]
    show 0 ≤ a.toInt - b.toInt
    omega
  rw [Int32.toNat_toUInt32_of_le hnonneg]
  show ((a - b).toInt.toNat : ℤ) = _
  omega

/-- **The copies that are made**: the pixels of the window in order, in packed rows. Mirrored, each
row is written from the right, and one pixel too far. -/
theorem copies_eq (h : s.CropInside) (frame : FrameContents) :
    copies s (window s (s.sized frame)) = (List.range s.frameHeight).flatMap fun y : ℕ ↦
      (List.range s.frameWidth).map fun x : ℕ ↦
        ⟨y * s.frameWidth + if s.mirroring then (s.frameWidth - x : ℤ) else x,
          s.sourcePixel x y⟩ := by
  obtain ⟨hwidth, hheight, hsource, hle⟩ := window_sized h frame
  have hskip := skipWidth_eq (by omega) hle
  unfold copies
  dsimp only
  rw [hskip, hwidth, hheight, hsource, Int.toNat_natCast, Int.toNat_natCast]
  have hpixel (x y : ℕ) : s.sourcePixel 0 0 + y * (s.frameWidth +
      (s.videoMode.resolutionX.toInt - s.frameWidth)) + x = s.sourcePixel x y := by
    simp only [VideoStream.sourcePixel]
    push_cast
    ring
  split <;> rw [copyRows_eq] <;>
  · refine List.flatMap_congr fun y _ ↦ List.map_congr_left fun x _ ↦ ?_
    rw [PixelCopy.mk.injEq]
    exact ⟨by push_cast; ring, hpixel x y⟩

/-! ### Mirroring -/

/-- The copies are those of a frame, mirrored if the stream is: every pixel goes to its place, and a
mirrored frame is written once and nothing else is. -/
structure Mirrors (s : VideoStream) (copies : List PixelCopy) : Prop where
  placed : ∀ x < s.frameWidth, ∀ y < s.frameHeight,
    { target := y * s.frameWidth + if s.mirroring then (s.frameWidth - 1 - x : ℤ) else x
      source := s.sourcePixel x y } ∈ copies
  once : s.mirroring = true →
    (copies.map (·.target)).Perm
      ((List.range (s.frameWidth * s.frameHeight)).map fun i : ℕ ↦ (i : ℤ))

/-- A mirrored frame is written behind its end. -/
theorem not_mirrors_of_mirroring (h : s.CropInside) (hmirroring : s.mirroring = true)
    (hwidth : 0 < s.frameWidth) (hheight : 0 < s.frameHeight) :
    ¬ Mirrors s (copies s (window s (s.sized frame))) := by
  rintro ⟨-, honce⟩
  have honce := honce hmirroring
  rw [copies_eq h] at honce
  -- the first pixel of the last row
  have hmem : (s.frameWidth * s.frameHeight : ℤ) ∈
      (List.range (s.frameWidth * s.frameHeight)).map fun i : ℕ ↦ (i : ℤ) := by
    refine honce.mem_iff.1 (List.mem_map.2 ⟨_, List.mem_flatMap.2
      ⟨s.frameHeight - 1, List.mem_range.2 (by omega),
        List.mem_map.2 ⟨0, List.mem_range.2 hwidth, rfl⟩⟩, ?_⟩)
    dsimp only
    rw [if_pos hmirroring]
    push_cast [Nat.cast_sub hheight]
    ring
  obtain ⟨i, hi, heq⟩ := List.mem_map.1 hmem
  have hi := List.mem_range.1 hi
  have heq : i = s.frameWidth * s.frameHeight := by exact_mod_cast heq
  omega

/-- **When a frame is mirrored as it should be**: if it is not to be mirrored, or has no pixels. -/
theorem copies_mirrored_iff (s : VideoStream) (h : s.CropInside) (frame : FrameContents) :
    Mirrors s (copies s (window s (s.sized frame))) ↔
      s.mirroring = false ∨ s.frameWidth = 0 ∨ s.frameHeight = 0 := by
  constructor
  · intro hmirrors
    by_contra hnot
    simp only [not_or, Bool.not_eq_false] at hnot
    obtain ⟨hmirroring, hwidth, hheight⟩ := hnot
    exact not_mirrors_of_mirroring h hmirroring (Nat.pos_of_ne_zero hwidth)
      (Nat.pos_of_ne_zero hheight) hmirrors
  -- without mirroring every pixel is copied to its place; without pixels there is nothing to copy
  · rintro (hmirroring | hempty)
    · refine ⟨fun x hx y hy ↦ ?_, fun hon ↦ absurd (hmirroring.symm.trans hon) Bool.false_ne_true⟩
      rw [copies_eq h, hmirroring]
      exact List.mem_flatMap.2
        ⟨y, List.mem_range.2 hy, List.mem_map.2 ⟨x, List.mem_range.2 hx, rfl⟩⟩
    · refine ⟨fun x hx y hy ↦ ?_, fun _ ↦ ?_⟩
      · omega
      · rw [copies_eq h]
        rcases hempty with hwidth | hheight
        · rw [hwidth, Nat.zero_mul]
          simp
        · rw [hheight, Nat.mul_zero]
          rfl

end DepthStream

/-- A depth stream in its one video mode. -/
def depthStream (cropping : OniCropping) (mirroring : Bool) : VideoStream :=
  { VideoStream.new with
    running := true
    videoMode := ⟨100, 640, 480, 30⟩
    cropping := cropping
    mirroring := mirroring }

namespace DepthStream

variable {s : VideoStream} {frame : FrameContents} {picture : ℤ → UInt8} {data : ℕ → UInt8}
  {cs : List PixelCopy} {c : PixelCopy} {k x y : ℕ}

/-- The window is inside. -/
theorem cropInside_depthStream (mirroring : Bool) :
    (depthStream ⟨true, 10, 10, 2, 2⟩ mirroring).CropInside := by
  cases mirroring <;> constructor <;> decide

/-- A window that is not mirrored. -/
theorem copies_mirrored_off :
    Mirrors (depthStream ⟨true, 10, 10, 2, 2⟩ false)
      (copies (depthStream ⟨true, 10, 10, 2, 2⟩ false)
        (window (depthStream ⟨true, 10, 10, 2, 2⟩ false)
          ((depthStream ⟨true, 10, 10, 2, 2⟩ false).sized acquiredFrame.toFrameContents))) :=
  (copies_mirrored_iff (depthStream ⟨true, 10, 10, 2, 2⟩ false) (cropInside_depthStream false)
    acquiredFrame.toFrameContents).2 (.inl rfl)

/-- The same window mirrored: element 4 of a frame of four is written, and element 0 is not. -/
theorem copies_not_mirrored :
    (depthStream ⟨true, 10, 10, 2, 2⟩ true).CropInside ∧
      ¬ Mirrors (depthStream ⟨true, 10, 10, 2, 2⟩ true)
        (copies (depthStream ⟨true, 10, 10, 2, 2⟩ true)
          (window (depthStream ⟨true, 10, 10, 2, 2⟩ true)
            ((depthStream ⟨true, 10, 10, 2, 2⟩ true).sized acquiredFrame.toFrameContents))) :=
  ⟨cropInside_depthStream true,
    not_mirrors_of_mirroring (cropInside_depthStream true) rfl (by decide) (by decide)⟩

/-! ### What a frame holds -/

/-- A copy replaces the two bytes of its pixel. -/
theorem copyPixel_apply (hnonneg : 0 ≤ c.target) {b : ℕ} (hb : b < 2) :
    copyPixel picture data c (2 * k + b) =
      if c.target = k then picture (2 * c.source + b) else data (2 * k + b) := by
  have hb : b = 0 ∨ b = 1 := by omega
  rw [copyPixel, Function.update_apply, Function.update_apply]
  by_cases hk : c.target = k
  · rw [if_pos hk]
    rcases hb with rfl | rfl
    · rw [if_neg (by omega), if_pos (by omega), Nat.cast_zero, Int.add_zero]
    · rw [if_pos (by omega), Nat.cast_one]
  · rw [if_neg (by omega), if_neg (by omega), if_neg hk]

/-- A pixel that is not copied to stays as it is. -/
theorem foldl_copyPixel_of_not_mem (hcs : ∀ c ∈ cs, 0 ≤ c.target ∧ c.target ≠ k) {b : ℕ}
    (hb : b < 2) : cs.foldl (copyPixel picture) data (2 * k + b) = data (2 * k + b) := by
  induction cs generalizing data with
  | nil => rfl
  | cons c cs ih =>
    obtain ⟨hnonneg, hne⟩ := hcs c List.mem_cons_self
    rw [List.foldl_cons, ih fun c hc ↦ hcs c (List.mem_cons_of_mem _ hc),
      copyPixel_apply hnonneg hb, if_neg hne]

/-- A pixel that is copied to once holds what was copied. -/
theorem foldl_copyPixel_of_mem (hnonneg : ∀ c ∈ cs, 0 ≤ c.target)
    (hnodup : (cs.map (·.target)).Nodup) (hc : c ∈ cs) (hk : c.target = k) {b : ℕ} (hb : b < 2) :
    cs.foldl (copyPixel picture) data (2 * k + b) = picture (2 * c.source + b) := by
  induction cs generalizing data with
  | nil => cases hc
  | cons d cs ih =>
    rw [List.map_cons, List.nodup_cons] at hnodup
    have hrest := fun e he ↦ hnonneg e (List.mem_cons_of_mem _ he)
    rw [List.foldl_cons]
    rcases List.mem_cons.1 hc with rfl | hc
    · have hafter : ∀ e ∈ cs, 0 ≤ e.target ∧ e.target ≠ k := fun e he ↦
        ⟨hrest e he, fun heq ↦ hnodup.1 (List.mem_map.2 ⟨e, he, heq.trans hk.symm⟩)⟩
      rw [foldl_copyPixel_of_not_mem hafter hb, copyPixel_apply (hnonneg c List.mem_cons_self) hb,
        if_pos hk]
    · exact ih hrest hnodup.2 hc

/-- The frame that `populateFrame` makes of what `buildFrame` gives it. -/
def populated (s : VideoStream) (frame : FrameContents) (picture : ℤ → UInt8) : FrameContents :=
  populateFrame s picture (s.sized frame)

/-- Without mirroring the targets are the pixels of the frame in order. -/
theorem targets_eq (h : s.CropInside) (hmirroring : s.mirroring = false) (frame : FrameContents) :
    (copies s (window s (s.sized frame))).map (·.target) =
      (List.range (s.frameHeight * s.frameWidth)).map fun i : ℕ ↦ (i : ℤ) := by
  rw [copies_eq h, hmirroring, ← ListBlocks.flatMap_range, List.map_flatMap, List.map_flatMap]
  refine List.flatMap_congr fun y _ ↦ ?_
  rw [List.map_map, List.map_map]
  refine List.map_congr_left fun x _ ↦ ?_
  show (y * s.frameWidth + x : ℤ) = (y * s.frameWidth + x : ℕ)
  push_cast
  rfl

/-- **The rows are packed**: what a frame holds that is not mirrored. -/
theorem populated_data (h : s.CropInside) (hmirroring : s.mirroring = false)
    (frame : FrameContents) (picture : ℤ → UInt8) (hx : x < s.frameWidth)
    (hy : y < s.frameHeight) {b : ℕ} (hb : b < 2) :
    (populated s frame picture).data (2 * (y * s.frameWidth + x) + b) =
      picture (2 * s.sourcePixel x y + b) := by
  have htargets := targets_eq h hmirroring frame
  have hmem : { target := y * s.frameWidth + x, source := s.sourcePixel x y } ∈
      copies s (window s (s.sized frame)) := by
    rw [copies_eq h, hmirroring]
    exact List.mem_flatMap.2
      ⟨y, List.mem_range.2 hy, List.mem_map.2 ⟨x, List.mem_range.2 hx, rfl⟩⟩
  refine foldl_copyPixel_of_mem (c := ⟨y * s.frameWidth + x, s.sourcePixel x y⟩) ?_ ?_ hmem ?_ hb
  · intro c hc
    obtain ⟨i, -, hi⟩ := List.mem_map.1 (htargets ▸ List.mem_map.2 ⟨c, hc, rfl⟩)
    exact hi ▸ Int.natCast_nonneg i
  · rw [htargets]
    exact List.Nodup.map Int.ofNat_injective List.nodup_range
  · push_cast
    rfl

/-- Nothing is written behind the frame. -/
theorem populated_data_behind (h : s.CropInside) (hmirroring : s.mirroring = false)
    (frame : FrameContents) (picture : ℤ → UInt8)
    (hk : s.frameHeight * s.frameWidth ≤ k) {b : ℕ} (hb : b < 2) :
    (populated s frame picture).data (2 * k + b) = frame.data (2 * k + b) := by
  have htargets := targets_eq h hmirroring frame
  have hdata : (window s (s.sized frame)).data = frame.data := by
    rw [window]
    dsimp only
    split
    · rfl
    · rfl
  refine (foldl_copyPixel_of_not_mem (fun c hc ↦ ?_) hb).trans (congrFun hdata _)
  obtain ⟨i, hi, heq⟩ := List.mem_map.1 (htargets ▸ List.mem_map.2 ⟨c, hc, rfl⟩)
  have hi := List.mem_range.1 hi
  have heq : (i : ℤ) = c.target := heq
  omega

/-! ### What a frame says -/

/-- The frames of a stream say where their pixels are: column `x` of row `y` is at byte
`y * stride + 2 * x`, and is the pixel of the picture at the origin of the window, `x` to the right
and `y` down. -/
def PixelsLocated (s : VideoStream) : Prop :=
  ∀ (picture : ℤ → UInt8) (acquired : OniFrame) (timestamp : UInt32) (f : OniFrame),
    (s.buildFrame populateFrame acquired picture timestamp).2 = some f →
    ∀ x y : ℕ, x < f.width.toInt → y < f.height.toInt →
      let source := (f.cropOriginY.toInt + y) * s.videoMode.resolutionX.toInt +
        (f.cropOriginX.toInt + x)
      ∃ i : ℕ, (i : ℤ) = y * f.stride.toInt + 2 * x ∧
        f.data i = picture (2 * source) ∧ f.data (i + 1) = picture (2 * source + 1)

/-- The frame that is raised. -/
theorem buildFrame_eq (hrunning : s.running = true) (picture : ℤ → UInt8) (acquired : OniFrame)
    (timestamp : UInt32) :
    ∃ f, (s.buildFrame populateFrame acquired picture timestamp).2 = some f ∧
      f.toFrameContents = populated s acquired.toFrameContents picture := by
  rw [VideoStream.buildFrame, if_neg (by simp [hrunning])]
  exact ⟨_, rfl, rfl⟩

/-- Its fields. -/
theorem populated_fields (h : s.CropInside) (frame : FrameContents) (picture : ℤ → UInt8) :
    let f := populated s frame picture
    f.width.toInt = s.frameWidth ∧ f.height.toInt = s.frameHeight ∧
      f.stride = Int32.ofInt (s.videoMode.resolutionX.toInt * 2) ∧
      ∀ x y : ℕ, (f.cropOriginY.toInt + y) * s.videoMode.resolutionX.toInt +
        (f.cropOriginX.toInt + x) = s.sourcePixel x y := by
  obtain ⟨hwidth, hheight, -⟩ := window_sized h frame
  refine ⟨hwidth, hheight, ?_, fun x y ↦ ?_⟩
  · show (window s (s.sized frame)).stride = _
    rw [window]
    dsimp only
    split
    · rfl
    · rfl
  · show ((window s (s.sized frame)).cropOriginY.toInt + y) * _ +
      ((window s (s.sized frame)).cropOriginX.toInt + x) = _
    rw [window, VideoStream.sourcePixel]
    dsimp only
    split
    · rfl
    · rfl

/-- The property in the terms of the stream. -/
theorem pixelsLocated_iff_populated (hrunning : s.running = true) (h : s.CropInside) :
    PixelsLocated s ↔
      ∀ (picture : ℤ → UInt8) (frame : FrameContents), ∀ x < s.frameWidth, ∀ y < s.frameHeight,
        ∃ i : ℕ, (i : ℤ) = y * (Int32.ofInt (s.videoMode.resolutionX.toInt * 2)).toInt + 2 * x ∧
          ∀ b < 2, (populated s frame picture).data (i + b) =
            picture (2 * s.sourcePixel x y + b) := by
  constructor
  -- from the property to the frame that is raised for a given picture
  · intro hlocated picture frame x hx y hy
    obtain ⟨hwidth, hheight, hstride, hsource⟩ := populated_fields h frame picture
    obtain ⟨f, hf, hcontents⟩ :=
      buildFrame_eq hrunning picture { acquiredFrame with toFrameContents := frame } 0
    have hcontents : f.toFrameContents = populated s frame picture := hcontents
    have hpixel := hlocated picture _ 0 f hf x y
    simp only [hcontents, hwidth, hheight, hstride, hsource] at hpixel
    obtain ⟨i, hi, hdata₀, hdata₁⟩ := hpixel (by omega) (by omega)
    refine ⟨i, hi, fun b hb ↦ ?_⟩
    have hb : b = 0 ∨ b = 1 := by omega
    rcases hb with rfl | rfl
    · simpa using hdata₀
    · simpa using hdata₁
  · intro hpopulated picture acquired timestamp f hf x y hx hy
    obtain ⟨f', hf', hcontents⟩ := buildFrame_eq hrunning picture acquired timestamp
    obtain rfl := Option.some.inj (hf'.symm.trans hf)
    obtain ⟨hwidth, hheight, hstride, hsource⟩ :=
      populated_fields h acquired.toFrameContents picture
    simp only [hcontents, hwidth, hheight, hstride, hsource] at hx hy ⊢
    obtain ⟨i, hi, hdata⟩ :=
      hpopulated picture acquired.toFrameContents x (by omega) y (by omega)
    refine ⟨i, hi, ?_, ?_⟩
    · simpa using hdata 0 (by decide)
    · simpa using hdata 1 (by decide)

/-- The stride fits an `int` if a row has less than `2 ^ 31` bytes, and is negative otherwise. -/
theorem toInt_stride {r : Int32} (hr : 0 ≤ r.toInt) :
    (Int32.ofInt (r.toInt * 2)).toInt =
      if r.toInt * 2 < 2 ^ 31 then r.toInt * 2 else r.toInt * 2 - 2 ^ 32 := by
  have hlt := Int32.toInt_lt r
  have hsize : Int32.size = 2 ^ 32 := rfl
  rw [Int32.toInt_ofInt, hsize]
  split
  next hfits => exact Int.bmod_eq_of_le (by omega) (by omega)
  next hwraps =>
    rw [← Int.sub_bmod_right]
    exact Int.bmod_eq_of_le (by omega) (by omega)

/-- A row of the picture is as long as the picture is wide. -/
theorem sourcePixel_eq (s : VideoStream) (x y : ℕ) :
    s.sourcePixel x y = s.sourcePixel 0 0 + (y * s.videoMode.resolutionX.toInt + x) := by
  simp only [VideoStream.sourcePixel]
  push_cast
  ring

/-- In a window that is not wider than the picture, the first pixel of the second row is at the
length of a row of the picture only if that is the length of a row of the window. -/
theorem eq_of_second_row {r w x y : ℕ} (hle : w ≤ r) (hx : x < w) (hdiv : w * y + x = r)
    (hrow : y * r + x = r) : w = r := by
  rcases Nat.lt_trichotomy y 1 with hlt | rfl | hgt
  · obtain rfl : y = 0 := by omega
    omega
  · omega
  · have hmul : 2 * r ≤ y * r := Nat.mul_le_mul_right r hgt
    omega

/-- In a picture with a single byte that is not zero, the frame has it where it has the pixel. -/
theorem exists_pixel_of_data (h : s.CropInside) (hmirroring : s.mirroring = false) {p : ℤ} {k : ℕ}
    (hdata : (populated s acquiredFrame.toFrameContents
      fun i ↦ if i = 2 * p then 1 else 0).data (2 * k) = 1) :
    ∃ x < s.frameWidth, ∃ y, s.frameWidth * y + x = k ∧ s.sourcePixel x y = p := by
  have hlt : k < s.frameHeight * s.frameWidth := by
    by_contra hle
    have hbehind := populated_data_behind h hmirroring acquiredFrame.toFrameContents
      (fun i ↦ if i = 2 * p then 1 else 0) (Nat.not_lt.1 hle) (b := 0) (by decide)
    have hzero : (0 : UInt8) = 1 := hbehind.symm.trans hdata
    exact absurd hzero (by decide)
  have hwidth : 0 < s.frameWidth := by
    refine Nat.pos_of_ne_zero fun hzero ↦ ?_
    rw [hzero] at hlt
    exact absurd hlt (Nat.not_lt_zero _)
  have hx := Nat.mod_lt k hwidth
  have hy : k / s.frameWidth < s.frameHeight := Nat.div_lt_of_lt_mul (Nat.mul_comm _ _ ▸ hlt)
  have hpixel := populated_data h hmirroring acquiredFrame.toFrameContents
    (fun i ↦ if i = 2 * p then 1 else 0) hx hy (b := 0) (by decide)
  rw [Nat.mul_comm (k / s.frameWidth), Nat.div_add_mod, Nat.add_zero, hdata] at hpixel
  refine ⟨_, hx, _, Nat.div_add_mod k s.frameWidth, ?_⟩
  by_contra hne
  exact absurd (hpixel.trans (if_neg (by omega))) (by decide)

/-- If the first pixel of the second row is where the frame says, the rows are as long as the
stride. -/
theorem frameWidth_of_located (hrunning : s.running = true) (hmirroring : s.mirroring = false)
    (h : s.CropInside) (hlocated : PixelsLocated s) (hwidth : 0 < s.frameWidth)
    (hheight : 1 < s.frameHeight) :
    s.frameWidth = s.videoMode.resolutionX.toInt ∧ s.videoMode.resolutionX.toInt * 2 < 2 ^ 31 := by
  have hlt := Int32.toInt_lt s.videoMode.resolutionX
  obtain ⟨hframe, -, -, hle⟩ := window_sized h acquiredFrame.toFrameContents
  -- a picture with that pixel alone
  obtain ⟨i, hi, hdata⟩ := (pixelsLocated_iff_populated hrunning h).1 hlocated
    (fun i ↦ if i = 2 * s.sourcePixel 0 1 then 1 else 0) acquiredFrame.toFrameContents
    0 hwidth 1 hheight
  -- the byte is found where the stride puts the second row
  have hone := (hdata 0 (by decide)).trans (if_pos (Int.add_zero _))
  rw [toInt_stride h.resolutionX] at hi
  split at hi
  next hfits =>
    obtain ⟨r, hr⟩ := Int.eq_ofNat_of_zero_le h.resolutionX
    have hi : i = 2 * r := by omega
    subst hi
    obtain ⟨x, hx, y, hdiv, hsource⟩ := exists_pixel_of_data h hmirroring hone
    rw [sourcePixel_eq s x y, sourcePixel_eq s 0 1, hr] at hsource
    push_cast at hsource
    have hrow : (y * r + x : ℤ) = r := by omega
    refine ⟨?_, hfits⟩
    rw [hr, eq_of_second_row (by omega) hx hdiv (by exact_mod_cast hrow)]
  -- a stride that wraps is negative, and no pixel is there
  next hwraps => omega

/-- **When the pixels are where the frame says**: if the window has no column or at most one row,
or if it has all the columns of the picture, and the stride fits. -/
theorem pixelsLocated_iff (s : VideoStream) (hrunning : s.running = true)
    (hmirroring : s.mirroring = false) (h : s.CropInside) :
    PixelsLocated s ↔ s.frameWidth = 0 ∨ s.frameHeight ≤ 1 ∨
      (s.frameWidth = s.videoMode.resolutionX.toInt ∧
        s.videoMode.resolutionX.toInt * 2 < 2 ^ 31) := by
  have hstride := toInt_stride h.resolutionX
  constructor
  · intro hlocated
    by_cases hwidth : s.frameWidth = 0
    · exact .inl hwidth
    · by_cases hheight : s.frameHeight ≤ 1
      · exact .inr (.inl hheight)
      · exact .inr (.inr (frameWidth_of_located hrunning hmirroring h hlocated
          (Nat.pos_of_ne_zero hwidth) (Nat.not_le.1 hheight)))
  -- every pixel is where the rows are packed, and that is where the stride puts it
  · intro hwindow
    rw [pixelsLocated_iff_populated hrunning h]
    intro picture frame x hx y hy
    refine ⟨2 * (y * s.frameWidth + x), ?_, fun b hb ↦
      populated_data h hmirroring frame picture hx hy hb⟩
    rcases hwindow with hwidth | hheight | ⟨hwidth, hfits⟩
    · omega
    · obtain rfl : y = 0 := by omega
      push_cast
      ring
    · rw [hstride, if_pos hfits, ← hwidth]
      push_cast
      ring

/-- The whole picture. -/
theorem pixelsLocated_full : PixelsLocated (depthStream ⟨false, 0, 0, 0, 0⟩ false) :=
  have hinside : (depthStream ⟨false, 0, 0, 0, 0⟩ false).CropInside := by constructor <;> decide
  (pixelsLocated_iff (depthStream ⟨false, 0, 0, 0, 0⟩ false) rfl rfl hinside).2
    (.inr (.inr ⟨by decide, by decide⟩))

/-- A window of two by two pixels: the second row is at byte 4, and the stride is 1280. -/
theorem not_pixelsLocated_cropped :
    (depthStream ⟨true, 10, 10, 2, 2⟩ false).CropInside ∧
      ¬ PixelsLocated (depthStream ⟨true, 10, 10, 2, 2⟩ false) := by
  refine ⟨cropInside_depthStream false, fun hlocated ↦ ?_⟩
  have hwidth := (frameWidth_of_located rfl rfl (cropInside_depthStream false) hlocated (by decide)
    (by decide)).1
  exact absurd hwidth (by decide)

end DepthStream

end Freenect
