import Freenect.Registration.RgbToDepth
import Freenect.Registration.ZBuffer

/-!
# Occlusion agrees with the registered depth

`freenect_map_rgb_to_depth` builds a depth buffer of its own to find out which pixels are hidden. On
a frame that `freenect_apply_depth_to_mm` has made, and without padding, that buffer is the image
that `freenect_apply_registration` makes: both hold the least depth of the same pixels in every
cell. So a pixel gets the colour of its cell exactly if its depth is the registered one
(`occlusion_agrees`).

There are two buffers with one content. Both are depth buffers in the sense of the library, filled
in the order of the pixels; the pixels that compete for a cell are the same because both functions
compute the column and the row of a pixel in the same way (`DepthImage.mem_depthsAt`), once the
padding, which they take off differently, is none. A least element is unique, so the two buffers
agree cell by cell (`DepthImage.nearest_iff`).
-/

namespace Freenect

/-! ### The second loop as a whole

Each round writes one pixel of the image, and the pixels do not overlap, so a pixel of the result is
what its own round has written, or what was there before. -/

section Copy

variable {depthMm : ℕ → UInt16} {m : RgbMap} {rgbRaw rgb : ℕ → UInt8} {i j n : ℕ}

/-- The bytes of a pixel of the image. -/
theorem toNat_rgb_addresses (hi : i < pixelCount) :
    (UInt32.ofNat i * 3).toNat = 3 * i ∧ (UInt32.ofNat i * 3 + 1).toNat = 3 * i + 1 ∧
      (UInt32.ofNat i * 3 + 2).toNat = 3 * i + 2 := by
  simp only [pixelCount, depthYRes, depthXRes] at hi
  have hmul : (UInt32.ofNat i * 3).toNat = 3 * i := by
    have hlt : i < UInt32.size := by
      rw [UInt32.size]
      omega
    rw [UInt32.toNat_mul, UInt32.toNat_ofNat_of_lt' hlt]
    show i * 3 % 2 ^ 32 = 3 * i
    omega
  refine ⟨hmul, ?_, ?_⟩ <;>
  · rw [UInt32.toNat_add, hmul]
    exact Nat.mod_eq_of_lt (by simp; omega)

/-- Writing one pixel leaves the others. -/
theorem rgbAt_setRgb (hi : i < pixelCount) (hj : j < pixelCount) (v : UInt8 × UInt8 × UInt8) :
    rgbAt (setRgb rgb (UInt32.ofNat i) v) (UInt32.ofNat j) =
      if j = i then v else rgbAt rgb (UInt32.ofNat j) := by
  obtain ⟨hi₀, hi₁, hi₂⟩ := toNat_rgb_addresses hi
  obtain ⟨hj₀, hj₁, hj₂⟩ := toNat_rgb_addresses hj
  simp only [rgbAt, setRgb, hi₀, hi₁, hi₂, hj₀, hj₁, hj₂, Function.update_apply]
  by_cases h : j = i
  · subst h
    simp
  · rw [if_neg h]
    refine Prod.ext ?_ (Prod.ext ?_ ?_) <;>
    · dsimp only
      rw [if_neg (by omega), if_neg (by omega), if_neg (by omega)]

/-- What the second loop writes for a pixel, if anything. -/
def written (depthMm : ℕ → UInt16) (m : RgbMap) (rgbRaw : ℕ → UInt8) (index : ℕ) :
    Option (UInt8 × UInt8 × UInt8) :=
  if m.map index = noCell then some (0, 0, 0)
  else if depthMm index ≤ m.zBuffer (m.map index).toNat then some (rgbAt rgbRaw (m.map index))
  else none

/-- One pixel of the second loop, as seen from another. -/
theorem rgbAt_copyPixel (hi : i < pixelCount) (hj : j < pixelCount) :
    rgbAt (copyPixel depthMm m rgbRaw rgb i).1 (UInt32.ofNat j) =
      if j = i then (written depthMm m rgbRaw i).getD (rgbAt rgb (UInt32.ofNat j))
      else rgbAt rgb (UInt32.ofNat j) := by
  unfold copyPixel written
  dsimp only
  split
  · rw [rgbAt_setRgb hi hj, Option.getD_some]
  · split
    · rw [rgbAt_setRgb hi hj, Option.getD_some]
    · rw [Option.getD_none, ite_self]

/-- The run lemma of the second loop: after `n` pixels. -/
theorem rgbAt_run_copyPixel (hn : n ≤ pixelCount) (hj : j < pixelCount) :
    rgbAt (Mealy.run (copyPixel depthMm m rgbRaw) rgb (List.range n)) (UInt32.ofNat j) =
      if j < n then (written depthMm m rgbRaw j).getD (rgbAt rgb (UInt32.ofNat j))
      else rgbAt rgb (UInt32.ofNat j) := by
  induction n with
  | zero => rfl
  | succ n ih =>
    rw [List.range_succ, Mealy.run_append, Mealy.run_cons, Mealy.run_nil,
      rgbAt_copyPixel (by omega) hj, ih (by omega)]
    rcases Nat.lt_trichotomy j n with hlt | rfl | hgt
    · rw [if_neg hlt.ne, if_pos hlt, if_pos (Nat.lt_succ_of_lt hlt)]
    · rw [if_pos rfl, if_neg (Nat.lt_irrefl j), if_pos (Nat.lt_succ_self j)]
    · rw [if_neg hgt.ne', if_neg hgt.le.not_gt, if_neg (by omega)]

end Copy

/-! ### The two depth buffers

The depth image is the input of the one function and was made by the other from the same frame. -/

section Occlusion

variable {pad : RegPadInfo} {t : RegistrationTables} {input : DepthInput} {out : ℕ → UInt16}
  {depthMm : ℕ → UInt16} {allocated : RgbMap} {rgbRaw rgbRegistered : ℕ → UInt8} {i : ℕ}

/-- The depth image holds the metric depths of the pixels, all of them in range. -/
def DepthImage (t : RegistrationTables) (input : DepthInput) (depthMm : ℕ → UInt16) : Prop :=
  ∀ i < pixelCount, depthMm i = depthAt t input i ∧ depthMm i < depthMaxMetricValue

/-- `freenect_apply_depth_to_mm` makes a depth image if nothing is out of range. -/
theorem depthImage_applyDepthToMm {raw : Bytes} (out : ℕ → UInt16)
    (hdepth : ∀ i < pixelCount, t.rawToMmShift (packedPixel raw i).toNat < depthMaxMetricValue) :
    DepthImage t (.packed raw) (applyDepthToMm t raw out) := by
  intro i hi
  rw [applyDepthToMm_eq]
  dsimp only
  rw [if_pos hi, clampMm, if_pos (hdepth i hi)]
  exact ⟨rfl, hdepth i hi⟩

/-- A pixel has a cell in the one exactly if it contributes to the other. -/
theorem DepthImage.hasCell_iff (h : DepthImage t input depthMm) (hi : i < pixelCount) :
    HasCell t i (depthMm i) ↔ Contributes t i (depthAt t input i) := by
  obtain ⟨heq, hlt⟩ := h i hi
  rw [← heq]
  exact ⟨fun hc ↦ ⟨hc.1, hlt, hc.2⟩, fun hc ↦ ⟨hc.1, hc.2.2⟩⟩

/-- **The same pixels compete for a cell** in both functions. -/
theorem DepthImage.mem_depthsAt (h : DepthImage t input depthMm) (hpad : pad.startLines = 0)
    {c : UInt32} {d : UInt16} :
    d ∈ depthsAt pad t input c.toNat ↔
      ∃ i < pixelCount, HasCell t i (depthMm i) ∧ rgbIndex pad t i (depthMm i) = c ∧
        depthMm i = d := by
  refine exists_congr fun i ↦ and_congr_right fun hi ↦ ?_
  rw [h.hasCell_iff hi, ← (h i hi).1, rgbIndex_eq_iff.2 hpad, UInt32.toNat_inj]

/-- A pixel is the nearest of its cell exactly if its depth is the registered one. -/
theorem DepthImage.nearest_iff (out : ℕ → UInt16) (h : DepthImage t input depthMm)
    (hpad : pad.startLines = 0) (hi : i < pixelCount) (hcell : HasCell t i (depthMm i))
    (hin : (rgbIndex pad t i (depthMm i)).toNat < pixelCount) :
    (∀ j < pixelCount, HasCell t j (depthMm j) →
        rgbIndex pad t j (depthMm j) = rgbIndex pad t i (depthMm i) → depthMm i ≤ depthMm j) ↔
      depthMm i = applyRegistration pad t input out (rgbIndex pad t i (depthMm i)).toNat := by
  have hmem := (h.mem_depthsAt hpad).2 ⟨i, hi, hcell, rfl, rfl⟩
  have hleast : IsLeast (depthsAt pad t input (rgbIndex pad t i (depthMm i)).toNat)
      (applyRegistration pad t input out (rgbIndex pad t i (depthMm i)).toNat) :=
    isLeast_applyRegistration hin ⟨_, hmem⟩
  constructor
  · intro hnearest
    refine le_antisymm ?_ (hleast.2 hmem)
    obtain ⟨j, hj, hcellj, hsame, hd⟩ := (h.mem_depthsAt hpad).1 hleast.1
    exact (hnearest j hj hcellj hsame).trans_eq hd
  · intro heq j hj hcellj hsame
    exact heq.trans_le (hleast.2 ((h.mem_depthsAt hpad).2 ⟨j, hj, hcellj, hsame, rfl⟩))

/-- Every cell that is used is inside the image. -/
def TargetsInImage (pad : RegPadInfo) (t : RegistrationTables) (input : DepthInput) : Prop :=
  ∀ i < pixelCount, Contributes t i (depthAt t input i) →
    (targetIndex pad t i (depthAt t input i)).toNat < pixelCount

/-- Its cell is inside the image. -/
theorem DepthImage.rgbIndex_lt (h : DepthImage t input depthMm) (hpad : pad.startLines = 0)
    (hin : TargetsInImage pad t input) (hi : i < pixelCount) (hcell : HasCell t i (depthMm i)) :
    (rgbIndex pad t i (depthMm i)).toNat < pixelCount := by
  have hlt := hin i hi ((h.hasCell_iff hi).1 hcell)
  rwa [← (h i hi).1, ← rgbIndex_eq_iff.2 hpad] at hlt

/-- A cell of the image is not the mark of having none. -/
theorem rgbIndex_ne_noCell (hin : (rgbIndex pad t i (depthMm i)).toNat < pixelCount) :
    rgbIndex pad t i (depthMm i) ≠ noCell := by
  intro h
  rw [h] at hin
  exact absurd hin (by decide)

/-- The pixel of the mapped image. -/
theorem rgbAt_mapRgbToDepth (hi : i < pixelCount) :
    rgbAt (mapRgbToDepth pad t depthMm allocated rgbRaw rgbRegistered) (UInt32.ofNat i) =
      (written depthMm (buildRgbMap pad t depthMm allocated) rgbRaw i).getD
        (rgbAt rgbRegistered (UInt32.ofNat i)) := by
  rw [mapRgbToDepth, pixels_eq, rgbAt_run_copyPixel (Nat.le_refl pixelCount) hi, if_pos hi]

/-- A pixel without a cell becomes black. -/
theorem written_of_not_hasCell (hi : i < pixelCount) (hcell : ¬ HasCell t i (depthMm i)) :
    written depthMm (buildRgbMap pad t depthMm allocated) rgbRaw i = some (0, 0, 0) := by
  rw [written, buildRgbMap_map hi, mapEntry, if_neg hcell, if_pos rfl]

/-- A pixel with a cell is copied if the cell is read for it, and left alone otherwise. -/
theorem written_of_hasCell (rgbRegistered : ℕ → UInt8) (hi : i < pixelCount)
    (hcell : HasCell t i (depthMm i))
    (hin : (rgbIndex pad t i (depthMm i)).toNat < pixelCount) :
    written depthMm (buildRgbMap pad t depthMm allocated) rgbRaw i =
      if ({ pixel := i, cell := rgbIndex pad t i (depthMm i) } : RgbRead) ∈
          rgbReads pad t depthMm allocated rgbRaw rgbRegistered then
        some (rgbAt rgbRaw (rgbIndex pad t i (depthMm i)))
      else none := by
  have hentry : mapEntry pad t depthMm i = rgbIndex pad t i (depthMm i) := if_pos hcell
  have hnone := rgbIndex_ne_noCell hin
  rw [written, buildRgbMap_map hi, hentry, if_neg hnone]
  refine if_congr ?_ rfl rfl
  rw [mem_rgbReads]
  dsimp only
  rw [hentry]
  exact ⟨fun hle ↦ ⟨hi, rfl, hnone, hle⟩, fun hread ↦ hread.2.2.2⟩

end Occlusion

/-- What the mapping makes of a pixel, in terms of the registered image: `m` is the frame in
millimetres and `r` the registered one. -/
structure Occluded (pad : RegPadInfo) (t : RegistrationTables) (m r : ℕ → UInt16)
    (allocated : RgbMap) (rgbRaw rgbRegistered : ℕ → UInt8) (i : ℕ) : Prop where
  /-- Colour is copied to the pixel from its target alone, and exactly if the depth of the pixel is
  the registered one. -/
  copied_iff : ∀ c : UInt32,
    { pixel := i, cell := c } ∈ rgbReads pad t m allocated rgbRaw rgbRegistered ↔
      c = targetIndex pad t i (m i) ∧ HasCell t i (m i) ∧ 0 < m i ∧ m i = r c.toNat
  /-- What is copied. -/
  copied : HasCell t i (m i) → m i = r (targetIndex pad t i (m i)).toNat →
    rgbAt (mapRgbToDepth pad t m allocated rgbRaw rgbRegistered) (UInt32.ofNat i) =
      rgbAt rgbRaw (targetIndex pad t i (m i))
  /-- A pixel without depth, or with its column outside, becomes black. -/
  black : m i = depthNoMmValue ∨ UInt32.ofNat depthXRes ≤ registeredX t i (m i) →
    rgbAt (mapRgbToDepth pad t m allocated rgbRaw rgbRegistered) (UInt32.ofNat i) = (0, 0, 0)
  /-- A hidden pixel is left as it was. -/
  hidden : HasCell t i (m i) → m i ≠ r (targetIndex pad t i (m i)).toNat →
    rgbAt (mapRgbToDepth pad t m allocated rgbRaw rgbRegistered) (UInt32.ofNat i) =
      rgbAt rgbRegistered (UInt32.ofNat i)

/-- **Occlusion agrees with the registered depth.** -/
theorem occlusion_agrees (pad : RegPadInfo) (t : RegistrationTables) (raw : Bytes)
    (outM outR : ℕ → UInt16) (allocated : RgbMap) (rgbRaw rgbRegistered : ℕ → UInt8)
    (hpad : pad.startLines = 0) (hin : TargetsInImage pad t (.packed raw))
    (hdepth : ∀ i < pixelCount, t.rawToMmShift (packedPixel raw i).toNat < depthMaxMetricValue) :
    ∀ i < pixelCount,
      Occluded pad t (applyDepthToMm t raw outM) (applyRegistration pad t (.packed raw) outR)
        allocated rgbRaw rgbRegistered i := by
  intro i hi
  have himage := depthImage_applyDepthToMm outM hdepth
  generalize applyDepthToMm t raw outM = m at himage ⊢
  have hindex : targetIndex pad t i (m i) = rgbIndex pad t i (m i) := (rgbIndex_eq_iff.2 hpad).symm
  -- a pixel with a cell is read for exactly if it has the registered depth
  have hread : ∀ hcell : HasCell t i (m i),
      ({ pixel := i, cell := rgbIndex pad t i (m i) } : RgbRead) ∈
          rgbReads pad t m allocated rgbRaw rgbRegistered ↔
        m i = applyRegistration pad t (.packed raw) outR (rgbIndex pad t i (m i)).toNat :=
    fun hcell ↦
      have hlt := himage.rgbIndex_lt hpad hin hi hcell
      (rgbRead_iff_nearest hi hcell hlt).trans (himage.nearest_iff outR hpad hi hcell hlt)
  refine ⟨fun c ↦ ?_, fun hcell heq ↦ ?_, fun hblack ↦ ?_, fun hcell hne ↦ ?_⟩
  · rw [hindex]
    constructor
    · intro hmem
      obtain ⟨-, hentry, hnone, -⟩ := mem_rgbReads.1 hmem
      have hcell : HasCell t i (m i) := by
        by_contra hno
        exact hnone (hentry.trans (if_neg hno))
      obtain rfl : c = rgbIndex pad t i (m i) := hentry.trans (if_pos hcell)
      exact ⟨rfl, hcell, UInt16.pos_iff_ne_zero.2 hcell.1, (hread hcell).1 hmem⟩
    · rintro ⟨rfl, hcell, -, heq⟩
      exact (hread hcell).2 heq
  · rw [hindex] at heq ⊢
    rw [rgbAt_mapRgbToDepth hi, written_of_hasCell rgbRegistered hi hcell
      (himage.rgbIndex_lt hpad hin hi hcell), if_pos ((hread hcell).2 heq), Option.getD_some]
  · have hcell : ¬ HasCell t i (m i) := fun hc ↦
      hblack.elim hc.1 fun hx ↦ UInt32.not_le.2 hc.2 hx
    rw [rgbAt_mapRgbToDepth hi, written_of_not_hasCell hi hcell, Option.getD_some]
  · rw [hindex] at hne
    rw [rgbAt_mapRgbToDepth hi, written_of_hasCell rgbRegistered hi hcell
      (himage.rgbIndex_lt hpad hin hi hcell), if_neg fun hr ↦ hne ((hread hcell).1 hr),
      Option.getD_none]

/-- All pixels have one target, and the first one is among the nearest. -/
theorem occlusion_agrees_corner :
    Occluded ⟨0, 0, 0⟩ cornerTables (applyDepthToMm cornerTables (fun _ ↦ 0) fun _ ↦ 0)
      (applyRegistration ⟨0, 0, 0⟩ cornerTables (.packed fun _ ↦ 0) fun _ ↦ 0)
      ⟨fun _ ↦ 0, fun _ ↦ 0⟩ (fun _ ↦ 1) (fun _ ↦ 0) 0 := by
  have htarget : (targetIndex ⟨0, 0, 0⟩ cornerTables 0 1000).toNat < pixelCount := by decide
  have hdepth : (1000 : UInt16) < depthMaxMetricValue := by decide
  exact occlusion_agrees ⟨0, 0, 0⟩ cornerTables (fun _ ↦ 0) (fun _ ↦ 0) (fun _ ↦ 0) _ _ _ rfl
    (fun _ _ _ ↦ htarget) (fun _ _ ↦ hdepth) 0 (by decide)

end Freenect
