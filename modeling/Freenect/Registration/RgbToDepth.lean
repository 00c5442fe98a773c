import Freenect.Registration.Apply

/-!
# Mapping the colour image to the depth image

`freenect_map_rgb_to_depth`, which is to be the inverse of the mapping that
`freenect_apply_registration` makes. The first loop computes for each depth pixel the cell of the
colour image it belongs to, and fills a depth buffer over these cells; the second copies the cell to
the pixel, unless a nearer pixel belongs to it too.

Both functions take the padding off a cell, but not in the same way: `freenect_apply_registration`
subtracts `target_offset` from the index and `freenect_map_rgb_to_depth` from the row, which is only
then multiplied by the width. They agree for no padding and for no other (`rgbIndex_eq_iff`).

The first loop skips a pixel without a depth, but not one whose depth is out of range. Since
`freenect_apply_depth_to_mm` clamps to the length of `depth_to_rgb_shift`, a saturated pixel is read
behind it (`shift_reads_inside_iff`).
-/

namespace Freenect

/-- The entry of `map` for a pixel without a cell: `-1`, read as unsigned. -/
def noCell : UInt32 := 0xFFFFFFFF

/-- `cindex`, in 32-bit unsigned arithmetic. The column is computed as in
`freenect_apply_registration`. -/
def rgbIndex (pad : RegPadInfo) (t : RegistrationTables) (index : ℕ) (wz : UInt16) : UInt32 :=
  let cx := registeredX t index wz
  let cy := registeredY t index - targetOffset pad
  cy * UInt32.ofNat depthXRes + cx

/-- `map` and `zBuffer`. -/
structure RgbMap where
  map : ℕ → UInt32
  zBuffer : ℕ → UInt16

/-- The body of the first loop. -/
def mapPixel (pad : RegPadInfo) (t : RegistrationTables) (depthMm : ℕ → UInt16) (s : RgbMap)
    (index : ℕ) : RgbMap :=
  let wz := depthMm index
  if wz = depthNoMmValue then { s with map := Function.update s.map index noCell }
  else if UInt32.ofNat depthXRes ≤ registeredX t index wz then
    { s with map := Function.update s.map index noCell }
  else
    let cindex := rgbIndex pad t index wz
    { map := Function.update s.map index cindex
      zBuffer :=
        if s.zBuffer cindex.toNat = depthNoMmValue ∨ wz < s.zBuffer cindex.toNat then
          setCell s.zBuffer cindex.toNat wz
        else s.zBuffer }

/-- The first loop, over the buffers as they were allocated. -/
def buildRgbMap (pad : RegPadInfo) (t : RegistrationTables) (depthMm : ℕ → UInt16)
    (allocated : RgbMap) : RgbMap :=
  pixels.foldl (mapPixel pad t depthMm) { allocated with zBuffer := wipe allocated.zBuffer }

/-- The pixel of an RGB image, whose bytes are addressed with 32-bit unsigned numbers. -/
def rgbAt (rgb : ℕ → UInt8) (cell : UInt32) : UInt8 × UInt8 × UInt8 :=
  (rgb (cell * 3).toNat, rgb (cell * 3 + 1).toNat, rgb (cell * 3 + 2).toNat)

/-- The same for writing. -/
def setRgb (rgb : ℕ → UInt8) (cell : UInt32) (v : UInt8 × UInt8 × UInt8) : ℕ → UInt8 :=
  Function.update
    (Function.update (Function.update rgb (cell * 3).toNat v.1) (cell * 3 + 1).toNat v.2.1)
    (cell * 3 + 2).toNat v.2.2

/-- A cell of the colour image that is read for a pixel. -/
structure RgbRead where
  pixel : ℕ
  cell : UInt32
  deriving DecidableEq, Repr

/-- The body of the second loop. -/
def copyPixel (depthMm : ℕ → UInt16) (m : RgbMap) (rgbRaw rgbRegistered : ℕ → UInt8) (index : ℕ) :
    (ℕ → UInt8) × Option RgbRead :=
  let cindex := m.map index
  if cindex = noCell then (setRgb rgbRegistered (UInt32.ofNat index) (0, 0, 0), none)
  else if depthMm index ≤ m.zBuffer cindex.toNat then
    (setRgb rgbRegistered (UInt32.ofNat index) (rgbAt rgbRaw cindex),
      some { pixel := index, cell := cindex })
  else (rgbRegistered, none)

/-- `freenect_map_rgb_to_depth`: `rgb_registered` afterwards. -/
def mapRgbToDepth (pad : RegPadInfo) (t : RegistrationTables) (depthMm : ℕ → UInt16)
    (allocated : RgbMap) (rgbRaw rgbRegistered : ℕ → UInt8) : ℕ → UInt8 :=
  Mealy.run (copyPixel depthMm (buildRgbMap pad t depthMm allocated) rgbRaw) rgbRegistered pixels

/-- The cells of the colour image that `freenect_map_rgb_to_depth` reads. -/
def rgbReads (pad : RegPadInfo) (t : RegistrationTables) (depthMm : ℕ → UInt16)
    (allocated : RgbMap) (rgbRaw rgbRegistered : ℕ → UInt8) : List RgbRead :=
  (Mealy.trace (copyPixel depthMm (buildRgbMap pad t depthMm allocated) rgbRaw) rgbRegistered
    pixels).filterMap id

/-! ### What the loops compute

The first loop fills a depth buffer like the registration does, and remembers the cell of every
pixel. The second one looks both up again. `foldl_mapPixel` is the run lemma of the first; the
second changes only its own pixel in each round. -/

section Loops

variable {pad : RegPadInfo} {t : RegistrationTables} {depthMm : ℕ → UInt16} {allocated : RgbMap}
  {rgbRaw rgbRegistered : ℕ → UInt8} {index n : ℕ}

/-- A pixel with a depth whose column is inside the image has a cell. -/
def HasCell (t : RegistrationTables) (index : ℕ) (wz : UInt16) : Prop :=
  wz ≠ depthNoMmValue ∧ registeredX t index wz < UInt32.ofNat depthXRes

instance (wz : UInt16) : Decidable (HasCell t index wz) := inferInstanceAs (Decidable (_ ∧ _))

/-- The entry of `map` for a pixel. -/
def mapEntry (pad : RegPadInfo) (t : RegistrationTables) (depthMm : ℕ → UInt16) (index : ℕ) :
    UInt32 :=
  if HasCell t index (depthMm index) then rgbIndex pad t index (depthMm index) else noCell

/-- What the first `n` pixels put into the depth buffer. -/
def mapped (pad : RegPadInfo) (t : RegistrationTables) (depthMm : ℕ → UInt16) (n : ℕ) :
    List (ℕ × UInt16) :=
  ((List.range n).filter fun i ↦ HasCell t i (depthMm i)).map fun i ↦
    ((rgbIndex pad t i (depthMm i)).toNat, depthMm i)

/-- **One pixel of the first loop.** -/
theorem mapPixel_eq (s : RgbMap) (index : ℕ) :
    mapPixel pad t depthMm s index =
      { map := Function.update s.map index (mapEntry pad t depthMm index)
        zBuffer :=
          if HasCell t index (depthMm index) then
            DepthBuffer.put depthNoMmValue s.zBuffer
              ((rgbIndex pad t index (depthMm index)).toNat, depthMm index)
          else s.zBuffer } := by
  rw [mapPixel, mapEntry]
  dsimp only
  split
  next hdepth => rw [if_neg fun h ↦ h.1 hdepth, if_neg fun h ↦ h.1 hdepth]
  next hdepth =>
    split
    next hx =>
      have hnot : ¬ HasCell t index (depthMm index) := fun h ↦ UInt32.not_lt.2 hx h.2
      rw [if_neg hnot, if_neg hnot]
    next hx =>
      have hcell : HasCell t index (depthMm index) := ⟨hdepth, UInt32.not_le.1 hx⟩
      rw [if_pos hcell, if_pos hcell]
      rfl

/-- The run lemma of the first loop: after `n` pixels. -/
theorem foldl_mapPixel (s : RgbMap) (n : ℕ) :
    (List.range n).foldl (mapPixel pad t depthMm) s =
      { map := fun i ↦ if i < n then mapEntry pad t depthMm i else s.map i
        zBuffer := DepthBuffer.fill depthNoMmValue s.zBuffer (mapped pad t depthMm n) } := by
  induction n with
  | zero => rfl
  | succ n ih =>
    rw [List.range_succ, List.foldl_append, ih, List.foldl_cons, List.foldl_nil, mapPixel_eq]
    refine congrArg₂ RgbMap.mk (funext fun i ↦ ?_) ?_
    · rcases Nat.lt_trichotomy i n with hlt | rfl | hgt
      · simp [hlt.ne, hlt, Nat.lt_succ_of_lt hlt]
      · simp
      · simp [hgt.ne', Nat.not_lt.2 hgt.le, Nat.not_lt.2 (Nat.succ_le_of_lt hgt)]
    · simp only [mapped]
      rw [List.range_succ, List.filter_append, List.map_append, DepthBuffer.fill_append]
      by_cases hcell : HasCell t n (depthMm n) <;> simp [hcell]

/-- **The first loop**: each pixel has its entry, and the depth buffer holds the depths of those
with a cell. -/
theorem buildRgbMap_eq :
    buildRgbMap pad t depthMm allocated =
      { map := fun i ↦ if i < pixelCount then mapEntry pad t depthMm i else allocated.map i
        zBuffer :=
          DepthBuffer.fill depthNoMmValue (wipe allocated.zBuffer)
            (mapped pad t depthMm pixelCount) } := by
  rw [buildRgbMap, pixels_eq, foldl_mapPixel]

/-- The entry of a pixel. -/
theorem buildRgbMap_map (hindex : index < pixelCount) :
    (buildRgbMap pad t depthMm allocated).map index = mapEntry pad t depthMm index := by
  rw [buildRgbMap_eq]
  exact if_pos hindex

/-- The read that the second loop makes for a pixel. -/
def readOf (depthMm : ℕ → UInt16) (m : RgbMap) (index : ℕ) : Option RgbRead :=
  if m.map index ≠ noCell ∧ depthMm index ≤ m.zBuffer (m.map index).toNat then
    some { pixel := index, cell := m.map index }
  else none

/-- What the second loop reads for a pixel does not depend on what it has written. -/
theorem trace_copyPixel (m : RgbMap) (ps : List ℕ) :
    Mealy.trace (copyPixel depthMm m rgbRaw) rgbRegistered ps = ps.map (readOf depthMm m) := by
  induction ps generalizing rgbRegistered with
  | nil => rfl
  | cons index ps ih =>
    rw [Mealy.trace_cons, ih, List.map_cons]
    refine congrArg (· :: _) ?_
    unfold copyPixel readOf
    dsimp only
    split
    next hcell => rw [if_neg fun h ↦ h.1 hcell]
    next hcell =>
      split
      next hle => rw [if_pos ⟨hcell, hle⟩]
      next hle => rw [if_neg fun h ↦ hle h.2]

/-- The reads of its first `n` rounds. -/
theorem mem_trace_copyPixel {m : RgbMap} {r : RgbRead} :
    r ∈ (Mealy.trace (copyPixel depthMm m rgbRaw) rgbRegistered (List.range n)).filterMap id ↔
      r.pixel < n ∧ r.cell = m.map r.pixel ∧ r.cell ≠ noCell ∧
        depthMm r.pixel ≤ m.zBuffer r.cell.toNat := by
  rw [trace_copyPixel, List.filterMap_map, List.mem_filterMap]
  simp only [List.mem_range, Function.comp_apply, id]
  constructor
  · rintro ⟨index, hindex, hread⟩
    obtain ⟨⟨hcell, hle⟩, hr⟩ := Option.ite_none_right_eq_some.1 hread
    obtain rfl := Option.some.inj hr
    exact ⟨hindex, rfl, hcell, hle⟩
  · rintro ⟨hindex, hentry, hcell, hle⟩
    refine ⟨r.pixel, hindex, ?_⟩
    rw [readOf, ← hentry, if_pos ⟨hcell, hle⟩]

/-- **The second loop** reads for a pixel the cell that the first has entered for it. -/
theorem mem_rgbReads {r : RgbRead} :
    r ∈ rgbReads pad t depthMm allocated rgbRaw rgbRegistered ↔
      r.pixel < pixelCount ∧ r.cell = mapEntry pad t depthMm r.pixel ∧ r.cell ≠ noCell ∧
        depthMm r.pixel ≤ (buildRgbMap pad t depthMm allocated).zBuffer r.cell.toNat := by
  rw [rgbReads, pixels_eq, mem_trace_copyPixel]
  refine and_congr_right fun hindex ↦ ?_
  rw [buildRgbMap_map hindex]

/-- What the first `n` pixels have put into the depth buffer. -/
theorem mem_mapped {p : ℕ × UInt16} :
    p ∈ mapped pad t depthMm n ↔
      ∃ i < n, HasCell t i (depthMm i) ∧ ((rgbIndex pad t i (depthMm i)).toNat, depthMm i) = p := by
  simp only [mapped, List.mem_map, List.mem_filter, List.mem_range, decide_eq_true_eq, and_assoc]

/-- **Occluded pixels are filtered out**: a cell inside the image is read for a pixel exactly if no
pixel that belongs to it is nearer. -/
theorem rgbRead_iff_nearest (hindex : index < pixelCount)
    (hcell : HasCell t index (depthMm index))
    (hin : (rgbIndex pad t index (depthMm index)).toNat < pixelCount) :
    { pixel := index, cell := rgbIndex pad t index (depthMm index) } ∈
        rgbReads pad t depthMm allocated rgbRaw rgbRegistered ↔
      ∀ i < pixelCount, HasCell t i (depthMm i) →
        rgbIndex pad t i (depthMm i) = rgbIndex pad t index (depthMm index) →
        depthMm index ≤ depthMm i := by
  have hdepths : ∀ q ∈ mapped pad t depthMm pixelCount, q.2 ≠ depthNoMmValue := by
    intro q hq
    obtain ⟨i, -, hi, rfl⟩ := mem_mapped.1 hq
    exact hi.1
  have hmem : ((rgbIndex pad t index (depthMm index)).toNat, depthMm index) ∈
      mapped pad t depthMm pixelCount := mem_mapped.2 ⟨index, hindex, hcell, rfl⟩
  -- the buffer holds the least depth of the pixels with this cell
  have hleast := DepthBuffer.isLeast_fill (b := wipe allocated.zBuffer) hdepths (if_pos hin) hmem
  have hnone : rgbIndex pad t index (depthMm index) ≠ noCell := by
    intro h
    rw [h] at hin
    exact absurd hin (by decide)
  have hentry : mapEntry pad t depthMm index = rgbIndex pad t index (depthMm index) := if_pos hcell
  rw [mem_rgbReads, buildRgbMap_eq]
  dsimp only
  generalize DepthBuffer.fill depthNoMmValue (wipe allocated.zBuffer)
    (mapped pad t depthMm pixelCount) (rgbIndex pad t index (depthMm index)).toNat = least
    at hleast ⊢
  constructor
  -- the second loop compares with that least depth
  · rintro ⟨-, -, -, hle⟩ i hi hcelli hsame
    exact hle.trans (hleast.2 (mem_mapped.2 ⟨i, hi, hcelli, by rw [hsame]⟩))
  · intro hnearest
    refine ⟨hindex, hentry.symm, hnone, ?_⟩
    obtain ⟨i, hi, hcelli, heq⟩ := mem_mapped.1 hleast.1
    obtain ⟨htarget, hdepth⟩ := Prod.ext_iff.1 heq
    exact (hnearest i hi hcelli (UInt32.toNat_inj.1 htarget)).trans_eq hdepth

end Loops

/-! ### What the first loop reads

The shift table has one entry for each metric depth below its length, and the depth is the index.
The loop with a report of its reads is the loop (`run_mapStep`). -/

/-- What the first loop does with the tables for a pixel: the index it uses into
`depth_to_rgb_shift`, and the cell it enters if the column is inside the image. -/
structure ShiftRead where
  pixel : ℕ
  entry : ℕ
  cell : Option UInt32
  deriving DecidableEq, Repr

section Reads

variable {pad : RegPadInfo} {t : RegistrationTables} {depthMm : ℕ → UInt16} {allocated : RgbMap}

/-- The read that the first loop makes for a pixel. -/
def shiftReadOf (pad : RegPadInfo) (t : RegistrationTables) (depthMm : ℕ → UInt16) (index : ℕ) :
    Option ShiftRead :=
  let wz := depthMm index
  if wz = depthNoMmValue then none
  else
    some
      { pixel := index
        entry := wz.toNat
        cell :=
          if UInt32.ofNat depthXRes ≤ registeredX t index wz then none
          else some (rgbIndex pad t index wz) }

/-- The body of the first loop, with its report. -/
def mapStep (pad : RegPadInfo) (t : RegistrationTables) (depthMm : ℕ → UInt16) (s : RgbMap)
    (index : ℕ) : RgbMap × Option ShiftRead :=
  (mapPixel pad t depthMm s index, shiftReadOf pad t depthMm index)

/-- The reads of the first loop. -/
def shiftReads (pad : RegPadInfo) (t : RegistrationTables) (depthMm : ℕ → UInt16)
    (allocated : RgbMap) : List ShiftRead :=
  (Mealy.trace (mapStep pad t depthMm) { allocated with zBuffer := wipe allocated.zBuffer }
    pixels).filterMap id

/-- The reporting loop is the first loop. -/
theorem run_mapStep (s : RgbMap) (ps : List ℕ) :
    Mealy.run (mapStep pad t depthMm) s ps = ps.foldl (mapPixel pad t depthMm) s := by
  induction ps generalizing s with
  | nil => rfl
  | cons index ps ih => exact ih _

/-- The reads, pixel by pixel. -/
theorem trace_mapStep (s : RgbMap) (ps : List ℕ) :
    Mealy.trace (mapStep pad t depthMm) s ps = ps.map (shiftReadOf pad t depthMm) := by
  induction ps generalizing s with
  | nil => rfl
  | cons index ps ih => exact congrArg (_ :: ·) (ih _)

/-- Every pixel with a depth reads its entry. -/
theorem mem_shiftReads {r : ShiftRead} :
    r ∈ shiftReads pad t depthMm allocated ↔
      ∃ i < pixelCount, shiftReadOf pad t depthMm i = some r := by
  rw [shiftReads, pixels_eq, trace_mapStep, List.filterMap_map, List.mem_filterMap]
  simp only [List.mem_range, Function.comp_apply, id]

/-- What holds of every index that is read, in terms of the depths. -/
theorem forall_entries_iff {P : ℕ → Prop} :
    (∀ r ∈ shiftReads pad t depthMm allocated, P r.entry) ↔
      ∀ i < pixelCount, depthMm i ≠ depthNoMmValue → P (depthMm i).toNat := by
  constructor
  · intro h i hi hne
    exact h _ (mem_shiftReads.2 ⟨i, hi, if_neg hne⟩)
  · intro h r hr
    obtain ⟨i, hi, hread⟩ := mem_shiftReads.1 hr
    by_cases hne : depthMm i = depthNoMmValue
    · rw [shiftReadOf, if_pos hne] at hread
      cases hread
    · rw [shiftReadOf, if_neg hne] at hread
      obtain rfl := Option.some.inj hread
      exact h i hi hne

/-- The clamp keeps a depth below its bound only if it was below. -/
theorem clampMm_lt_iff {d : UInt16} :
    clampMm d < depthMaxMetricValue ↔ d < depthMaxMetricValue := by
  rw [clampMm]
  split
  next h => exact Iff.rfl
  next h => exact iff_of_false (lt_irrefl _) h

/-- **When the depth table suffices**: on a frame that `freenect_apply_depth_to_mm` has made, the
mapping stays inside `depth_to_rgb_shift` exactly if no pixel was clamped, since the clamp is to the
length of the table. -/
theorem shift_reads_inside_iff (pad : RegPadInfo) (t : RegistrationTables) (raw : Bytes)
    (out : ℕ → UInt16) (allocated : RgbMap) :
    (∀ r ∈ shiftReads pad t (applyDepthToMm t raw out) allocated,
      r.entry < depthMaxMetricValue.toNat) ↔
    ∀ i < pixelCount, t.rawToMmShift (packedPixel raw i).toNat < depthMaxMetricValue := by
  rw [forall_entries_iff (P := fun n ↦ n < depthMaxMetricValue.toNat), applyDepthToMm_eq]
  refine forall₂_congr fun i hi ↦ ?_
  dsimp only
  rw [if_pos hi, ← UInt16.lt_iff_toNat_lt, clampMm_lt_iff]
  refine ⟨fun h ↦ ?_, fun h _ ↦ h⟩
  by_cases hne : clampMm (t.rawToMmShift (packedPixel raw i).toNat) = depthNoMmValue
  · -- a pixel without a depth is below the bound
    exact clampMm_lt_iff.1 (hne ▸ by decide)
  · exact h hne

/-- Tables that put every raw value at the greatest metric depth. -/
def saturatedTables : RegistrationTables where
  rawToMmShift _ := 10000
  depthToRgbShift _ := 0
  registrationTable _ := (0, 0)

/-- A saturated pixel reads behind the table. -/
theorem shift_reads_outside :
    ¬ ∀ r ∈ shiftReads ⟨0, 0, 0⟩ saturatedTables
      (applyDepthToMm saturatedTables (fun _ ↦ 0) fun _ ↦ 0) ⟨fun _ ↦ 0, fun _ ↦ 0⟩,
      r.entry < depthMaxMetricValue.toNat := by
  intro h
  rw [forall_entries_iff (P := fun n ↦ n < depthMaxMetricValue.toNat), applyDepthToMm_eq] at h
  exact absurd (h 0 (by decide) (by decide)) (by decide)

end Reads

/-! ### The two mappings

The index of a pixel in the registered image, and the entry of the same pixel in `map`: two
expressions of the source that are meant to be equal. -/

section Mappings

variable {pad : RegPadInfo} {t : RegistrationTables} {depthMm : ℕ → UInt16} {allocated : RgbMap}
  {input : DepthInput} {out : ℕ → UInt16} {index : ℕ} {wz : UInt16}

/-- **The two indices are the same only without padding**: what is taken off the row is multiplied
by the width. -/
theorem rgbIndex_eq_iff : rgbIndex pad t index wz = targetIndex pad t index wz ↔
    pad.startLines = 0 := by
  have hoffset : rgbIndex pad t index wz = targetIndex pad t index wz ↔
      targetOffset pad * 639 = 0 := by
    rw [rgbIndex, targetIndex]
    constructor <;> intro h <;> grind
  have hlt := pad.startLines.toNat_lt
  have hnat : (targetOffset pad * 639).toNat = 480 * pad.startLines.toNat * 639 % 2 ^ 32 := by
    rw [UInt32.toNat_mul, targetOffset, UInt32.toNat_ofNat', Nat.mod_mul_mod]
    rfl
  rw [hoffset, ← UInt32.toNat_inj, ← UInt16.toNat_inj, hnat]
  show _ = 0 ↔ _ = 0
  omega

/-- The pixel's one access to the registered image. -/
theorem mem_accesses_pixel (hindex : index < pixelCount)
    (hc : Contributes t index (t.rawToMmShift (input.rawAt index).toNat)) {c : ℕ} :
    (∀ a ∈ registrationAccesses pad t input out, a.pixel = index → a.target = c) ↔
      (targetIndex pad t index (t.rawToMmShift (input.rawAt index).toNat)).toNat = c := by
  have hcon : contribution pad t input index =
      some ((targetIndex pad t index (t.rawToMmShift (input.rawAt index).toNat)).toNat,
        t.rawToMmShift (input.rawAt index).toNat) := if_pos hc
  constructor
  · intro h
    -- a contributing pixel makes an access, to its own target
    have haccess : ∃ a, accessOf pad t input out index = some a ∧ a.pixel = index ∧ a.target =
        (targetIndex pad t index (t.rawToMmShift (input.rawAt index).toNat)).toNat := by
      rw [accessOf, hcon]
      exact ⟨_, rfl, rfl, rfl⟩
    obtain ⟨a, ha, hpixel, htarget⟩ := haccess
    exact htarget.symm.trans (h a (mem_registrationAccesses.2 ⟨index, hindex, ha⟩) hpixel)
  · intro h a ha hpixel
    obtain ⟨n, -, hn⟩ := mem_registrationAccesses.1 ha
    obtain ⟨p, hp, rfl⟩ := Option.map_eq_some_iff.1 hn
    obtain rfl : n = index := hpixel
    rw [hcon] at hp
    obtain rfl := Option.some.inj hp
    exact h

/-- **When the mappings agree on a pixel**: exactly if there is no padding. -/
theorem map_eq_access_iff (hindex : index < pixelCount)
    (hdepth : depthMm index = t.rawToMmShift (input.rawAt index).toNat)
    (hc : Contributes t index (depthMm index)) :
    (∀ a ∈ registrationAccesses pad t input out, a.pixel = index →
      a.target = ((buildRgbMap pad t depthMm allocated).map index).toNat) ↔
    pad.startLines = 0 := by
  have hagree : rgbIndex pad t index (depthMm index) = targetIndex pad t index (depthMm index) ↔
      pad.startLines = 0 := rgbIndex_eq_iff
  rw [← hagree, buildRgbMap_map hindex, mapEntry, if_pos ⟨hc.1, hc.2.2⟩, eq_comm,
    ← UInt32.toNat_inj]
  rw [hdepth] at hc ⊢
  exact mem_accesses_pixel hindex hc

/-- Tables that put every pixel into the first column of the second row. -/
def cornerTables : RegistrationTables where
  rawToMmShift _ := 1000
  depthToRgbShift _ := 0
  registrationTable _ := (0, 1)

/-- Without padding the two agree, on a pixel that contributes. -/
theorem map_eq_access_unpadded :
    (∀ a ∈ registrationAccesses ⟨0, 0, 0⟩ cornerTables (.unpacked fun _ ↦ 1) (fun _ ↦ 0),
      a.pixel = 0 → a.target =
        ((buildRgbMap ⟨0, 0, 0⟩ cornerTables (fun _ ↦ 1000) ⟨fun _ ↦ 0, fun _ ↦ 0⟩).map 0).toNat) ↔
    (0 : UInt16) = 0 :=
  map_eq_access_iff (by decide) rfl (by decide)

/-- With one line of padding, cell 160 of the image is written and a cell far outside is read. -/
theorem map_ne_access_padded :
    ¬ ∀ a ∈ registrationAccesses ⟨1, 0, 0⟩ cornerTables (.unpacked fun _ ↦ 1) (fun _ ↦ 0),
      a.pixel = 0 →
        a.target = ((buildRgbMap ⟨1, 0, 0⟩ cornerTables (fun _ ↦ 1000)
          ⟨fun _ ↦ 0, fun _ ↦ 0⟩).map 0).toNat := by
  rw [buildRgbMap_map (by decide), mem_accesses_pixel (by decide) (by decide)]
  decide

end Mappings

end Freenect
