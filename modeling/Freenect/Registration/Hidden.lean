import Freenect.Registration.Occlusion

/-!
# What the mapped colour image depends on

`freenect_map_rgb_to_depth` makes a pixel without a cell black, and copies the colour of its cell to
a pixel that is the nearest of the cell. The bytes of any other pixel, one that is hidden, are not
written. So what the caller had in `rgb_registered` shows through, and the image is a function of
the tables, the depth and the colours exactly if no pixel is hidden
(`mapRgbToDepth_determined_iff`). The two buffers that the function allocates itself do not matter.

The second loop decides for each pixel from the finished depth buffer, so what it writes can be said
pixel by pixel (`written`): black, a colour, or nothing. The image is determined if it writes
something for every pixel, and where it writes nothing two images to begin with give two results
(`mapDetermined_iff_written`). Hence only the case of nothing has to be described, which is that of
a pixel with a cell that a nearer pixel has too (`written_ne_none_iff`).
-/

namespace Freenect

section Hidden

variable {pad : RegPadInfo} {t : RegistrationTables} {depthMm : ℕ → UInt16}
  {rgbRaw rgbRegistered rgb₁ rgb₂ : ℕ → UInt8} {allocated : RgbMap} {i j : ℕ}

/-- Every pixel that belongs to a cell belongs to one inside the image. -/
def CellsInImage (pad : RegPadInfo) (t : RegistrationTables) (depthMm : ℕ → UInt16) : Prop :=
  ∀ i < pixelCount, HasCell t i (depthMm i) → (rgbIndex pad t i (depthMm i)).toNat < pixelCount

/-- Two pixels that belong to the same cell. -/
structure SameCell (pad : RegPadInfo) (t : RegistrationTables) (depthMm : ℕ → UInt16) (i j : ℕ) :
    Prop where
  left : HasCell t i (depthMm i)
  right : HasCell t j (depthMm j)
  cell : rgbIndex pad t j (depthMm j) = rgbIndex pad t i (depthMm i)

/-- The relation is symmetric. -/
theorem SameCell.symm (h : SameCell pad t depthMm i j) : SameCell pad t depthMm j i where
  left := h.right
  right := h.left
  cell := h.cell.symm

/-- A pixel is written if it has no cell, or if no other pixel of its cell is nearer. -/
theorem written_ne_none_iff (hin : CellsInImage pad t depthMm) (hi : i < pixelCount) :
    written depthMm (buildRgbMap pad t depthMm allocated) rgbRaw i ≠ none ↔
      ∀ j < pixelCount, SameCell pad t depthMm i j → depthMm i ≤ depthMm j := by
  by_cases hcell : HasCell t i (depthMm i)
  · rw [written_of_hasCell (fun _ ↦ 0) hi hcell (hin i hi hcell), ite_ne_right_iff,
      rgbRead_iff_nearest hi hcell (hin i hi hcell)]
    constructor
    · rintro ⟨hnearest, -⟩ j hj hsame
      exact hnearest j hj hsame.right hsame.cell
    · intro hnearest
      exact ⟨fun j hj hcellj heq ↦ hnearest j hj ⟨hcell, hcellj, heq⟩, Option.some_ne_none _⟩
  · rw [written_of_not_hasCell hi hcell]
    exact iff_of_true (Option.some_ne_none _) fun j _ hsame ↦ absurd hsame.left hcell

/-- What is written does not depend on the buffers as they were allocated. -/
theorem written_eq_written (hin : CellsInImage pad t depthMm) (hi : i < pixelCount)
    (allocated₁ allocated₂ : RgbMap) :
    written depthMm (buildRgbMap pad t depthMm allocated₁) rgbRaw i =
      written depthMm (buildRgbMap pad t depthMm allocated₂) rgbRaw i := by
  by_cases hcell : HasCell t i (depthMm i)
  · rw [written_of_hasCell (fun _ ↦ 0) hi hcell (hin i hi hcell),
      written_of_hasCell (fun _ ↦ 0) hi hcell (hin i hi hcell)]
    refine if_congr ?_ rfl rfl
    rw [rgbRead_iff_nearest hi hcell (hin i hi hcell),
      rgbRead_iff_nearest hi hcell (hin i hi hcell)]
  · rw [written_of_not_hasCell hi hcell, written_of_not_hasCell hi hcell]

/-- An image is its pixels. -/
theorem forall_bytes_iff_forall_rgbAt :
    (∀ b < 3 * pixelCount, rgb₁ b = rgb₂ b) ↔
      ∀ i < pixelCount, rgbAt rgb₁ (UInt32.ofNat i) = rgbAt rgb₂ (UInt32.ofNat i) := by
  constructor
  · intro h i hi
    obtain ⟨h₀, h₁, h₂⟩ := toNat_rgb_addresses hi
    simp only [rgbAt, h₀, h₁, h₂]
    rw [h (3 * i) (by omega), h (3 * i + 1) (by omega), h (3 * i + 2) (by omega)]
  · intro h b hb
    have hi : b / 3 < pixelCount := by omega
    obtain ⟨h₀, h₁, h₂⟩ := toNat_rgb_addresses hi
    have hpixel := h (b / 3) hi
    simp only [rgbAt, h₀, h₁, h₂, Prod.mk.injEq] at hpixel
    obtain ⟨heq₀, heq₁, heq₂⟩ := hpixel
    have hb₃ : b = 3 * (b / 3) ∨ b = 3 * (b / 3) + 1 ∨ b = 3 * (b / 3) + 2 := by omega
    rcases hb₃ with hb | hb | hb <;> rw [hb] <;> assumption

/-- The image after a call is a function of the tables, the depth and the colours: two calls that
find different bytes in `rgb_registered`, and get different buffers allocated, leave the same
bytes. -/
def MapDetermined (pad : RegPadInfo) (t : RegistrationTables) (depthMm : ℕ → UInt16)
    (rgbRaw : ℕ → UInt8) : Prop :=
  ∀ (allocated₁ allocated₂ : RgbMap) (previous₁ previous₂ : ℕ → UInt8), ∀ b < 3 * pixelCount,
    mapRgbToDepth pad t depthMm allocated₁ rgbRaw previous₁ b =
      mapRgbToDepth pad t depthMm allocated₂ rgbRaw previous₂ b

/-- The image is determined if every pixel is written, and a pixel that is not shows what was there
before. -/
theorem mapDetermined_iff_written (hin : CellsInImage pad t depthMm) :
    MapDetermined pad t depthMm rgbRaw ↔
      ∀ i < pixelCount,
        written depthMm (buildRgbMap pad t depthMm ⟨fun _ ↦ 0, fun _ ↦ 0⟩) rgbRaw i ≠ none := by
  constructor
  · intro h i hi hnone
    have hbytes := forall_bytes_iff_forall_rgbAt.1
      (h ⟨fun _ ↦ 0, fun _ ↦ 0⟩ ⟨fun _ ↦ 0, fun _ ↦ 0⟩ (fun _ ↦ 0) (fun _ ↦ 1)) i hi
    rw [rgbAt_mapRgbToDepth hi, rgbAt_mapRgbToDepth hi, hnone] at hbytes
    have hred : (0 : UInt8) = 1 := congrArg Prod.fst hbytes
    exact absurd hred (by decide)
  · intro h allocated₁ allocated₂ previous₁ previous₂
    refine forall_bytes_iff_forall_rgbAt.2 fun i hi ↦ ?_
    obtain ⟨v, hv⟩ := Option.ne_none_iff_exists'.1 (h i hi)
    rw [rgbAt_mapRgbToDepth hi, rgbAt_mapRgbToDepth hi,
      written_eq_written hin hi allocated₁ ⟨fun _ ↦ 0, fun _ ↦ 0⟩,
      written_eq_written hin hi allocated₂ ⟨fun _ ↦ 0, fun _ ↦ 0⟩, hv]
    rfl

/-- **When the mapped image is determined**: exactly if no pixel is hidden behind another, that is
if all the pixels of a cell have one depth. -/
theorem mapRgbToDepth_determined_iff (pad : RegPadInfo) (t : RegistrationTables)
    (depthMm : ℕ → UInt16) (rgbRaw : ℕ → UInt8) (hin : CellsInImage pad t depthMm) :
    MapDetermined pad t depthMm rgbRaw ↔
      ∀ i < pixelCount, ∀ j < pixelCount, SameCell pad t depthMm i j → depthMm i = depthMm j := by
  rw [mapDetermined_iff_written hin]
  have hwritten : ∀ i < pixelCount,
      written depthMm (buildRgbMap pad t depthMm ⟨fun _ ↦ 0, fun _ ↦ 0⟩) rgbRaw i ≠ none ↔
        ∀ j < pixelCount, SameCell pad t depthMm i j → depthMm i ≤ depthMm j :=
    fun i hi ↦ written_ne_none_iff hin hi
  constructor
  · intro h i hi j hj hsame
    exact le_antisymm ((hwritten i hi).1 (h i hi) j hj hsame)
      ((hwritten j hj).1 (h j hj) i hi hsame.symm)
  · intro h i hi
    exact (hwritten i hi).2 fun j hj hsame ↦ (h i hi j hj hsame).le

/-- With all pixels at one depth nothing is hidden. -/
theorem mapRgbToDepth_determined_corner :
    MapDetermined ⟨0, 0, 0⟩ cornerTables (fun _ ↦ 1000) (fun _ ↦ 1) ↔
      ∀ i < pixelCount, ∀ j < pixelCount,
        SameCell ⟨0, 0, 0⟩ cornerTables (fun _ ↦ 1000) i j → (1000 : UInt16) = 1000 :=
  have hcell : (rgbIndex ⟨0, 0, 0⟩ cornerTables 0 1000).toNat < pixelCount := by decide
  mapRgbToDepth_determined_iff ⟨0, 0, 0⟩ cornerTables (fun _ ↦ 1000) (fun _ ↦ 1) fun _ _ _ ↦ hcell

/-- The first pixel is nearer than the others of its cell: the second keeps what it held. -/
theorem mapRgbToDepth_not_determined :
    CellsInImage ⟨0, 0, 0⟩ cornerTables (fun i ↦ if i = 0 then 500 else 1000) ∧
      ¬ MapDetermined ⟨0, 0, 0⟩ cornerTables (fun i ↦ if i = 0 then 500 else 1000) fun _ ↦ 1 := by
  have hnear : (rgbIndex ⟨0, 0, 0⟩ cornerTables 0 500).toNat < pixelCount := by decide
  have hfar : (rgbIndex ⟨0, 0, 0⟩ cornerTables 1 1000).toNat < pixelCount := by decide
  have hin : CellsInImage ⟨0, 0, 0⟩ cornerTables fun i ↦ if i = 0 then 500 else 1000 := by
    intro i _ _
    dsimp only
    split
    · exact hnear
    · exact hfar
  refine ⟨hin, fun h ↦ ?_⟩
  have hwritten := (mapDetermined_iff_written hin).1 h 1 (by decide)
  have hle := (written_ne_none_iff hin (by decide)).1 hwritten 0 (by decide)
    ⟨by decide, by decide, by decide⟩
  exact absurd hle (by decide)

end Hidden

end Freenect
