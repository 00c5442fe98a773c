import Freenect.Registration.Bounds
import Freenect.Registration.RgbToDepth

/-!
# The column of a pixel

Both mappings divide the corrected position of a pixel by 256 and read the quotient as unsigned, so
that whatever is left of the image should have a huge column and be ignored. But the division
truncates towards zero: a position between `-255` and `-1`, less than a column left of the image,
lands in column 0. `columns_iff` says that this is all that goes wrong, as long as the sum of the
two table entries fits its 32 bits.

`Misplaced` names the positions that pass the bounds check without being inside the image: those
from `-255` to `-1`, and those whose 32-bit sum wraps around into the image. That a pixel is used
only where it belongs exactly if its position is none of them (`inImage_of_used_iff`) is a statement
about a single pixel; the two mappings make the same check, so it carries over to both loops.
-/

namespace Freenect

section Column

variable {t : RegistrationTables} {index : ℕ} {d : UInt16}

/-- The position as the code computes it, a sum of 32 bits. -/
def wrappedPosition (t : RegistrationTables) (index : ℕ) (d : UInt16) : ℤ :=
  ((t.registrationTable index).1 + t.depthToRgbShift d.toNat).toInt

/-- The position of a pixel is inside the image. -/
def InImage (t : RegistrationTables) (index : ℕ) (d : UInt16) : Prop :=
  0 ≤ position t index d ∧ position t index d < 640 * 256

/-- The column of a position, rounded down. -/
def floorColumn (t : RegistrationTables) (index : ℕ) (d : UInt16) : UInt32 :=
  UInt32.ofNat (position t index d / 256).toNat

/-- A position just left of the image, or one that does not fit 32 bits and wraps into the image. -/
def Misplaced (t : RegistrationTables) (index : ℕ) (d : UInt16) : Prop :=
  -256 < wrappedPosition t index d ∧ wrappedPosition t index d < 640 * 256 ∧
    (wrappedPosition t index d < 0 ∨ wrappedPosition t index d ≠ position t index d)

instance : Decidable (Misplaced t index d) := inferInstanceAs (Decidable (_ ∧ _ ∧ _))

/-- It is the position modulo `2 ^ 32`, as a signed number. -/
theorem wrappedPosition_eq : wrappedPosition t index d = (position t index d).bmod (2 ^ 32) :=
  Int32.toInt_add _ _

/-- A position inside the image does not wrap. -/
theorem wrappedPosition_of_inImage (h : InImage t index d) :
    wrappedPosition t index d = position t index d := by
  obtain ⟨h₀, h₁⟩ := h
  rw [wrappedPosition_eq]
  exact Int.bmod_eq_of_le (by omega) (by omega)

/-- What the bounds check lets pass, for any table. -/
theorem registeredX_lt_iff_wrapped :
    registeredX t index d < UInt32.ofNat depthXRes ↔
      -256 < wrappedPosition t index d ∧ wrappedPosition t index d < 640 * 256 := by
  have hnat := toNat_toUInt32
    (((t.registrationTable index).1 + t.depthToRgbShift d.toNat) / 256)
  have h₀ : -2 ^ 31 ≤ wrappedPosition t index d := Int32.le_toInt _
  have h₁ : wrappedPosition t index d < 2 ^ 31 := Int32.toInt_lt _
  rw [toInt_quotient, ← wrappedPosition_eq, tdiv_256] at hnat
  rw [UInt32.lt_iff_toNat_lt]
  show (registeredX t index d).toNat < 640 ↔ _
  rw [registeredX]
  generalize (((t.registrationTable index).1 +
    t.depthToRgbShift d.toNat) / 256).toUInt32.toNat = n at hnat ⊢
  split at hnat <;> split at hnat <;> omega

/-- Inside the image the truncated quotient is the floor. -/
theorem registeredX_of_inImage (h : InImage t index d) :
    registeredX t index d = floorColumn t index d := by
  obtain ⟨h₀, h₁⟩ := h
  have hx : ((registeredX t index d).toNat : ℤ) = (position t index d).tdiv 256 :=
    toNat_registeredX (by omega) h₁
  rw [Int.tdiv_eq_ediv_of_nonneg h₀] at hx
  have hlt : (position t index d / 256).toNat < 2 ^ 32 := by omega
  rw [← UInt32.toNat_inj, floorColumn, UInt32.toNat_ofNat_of_lt' hlt]
  omega

/-- **When a pixel is used only where it belongs**: a pixel that passes the bounds check is inside
the image exactly if it is not misplaced. -/
theorem inImage_of_used_iff :
    (registeredX t index d < UInt32.ofNat depthXRes → InImage t index d) ↔
      ¬ Misplaced t index d := by
  rw [registeredX_lt_iff_wrapped]
  constructor
  · rintro h ⟨h₀, h₁, hwrong⟩
    have hin := h ⟨h₀, h₁⟩
    have heq := wrappedPosition_of_inImage hin
    exact hwrong.elim (fun hneg ↦ absurd hin.1 (by omega)) fun hne ↦ hne heq
  · rintro hplaced ⟨h₀, h₁⟩
    have hright := fun hwrong ↦ hplaced ⟨h₀, h₁, hwrong⟩
    obtain ⟨hnonneg, heq⟩ := not_or.1 hright
    have heq := not_not.1 heq
    exact ⟨by omega, by omega⟩

end Column

/-! ### The two mappings

Each mapping uses a pixel at most once. That it uses it in the right column is asked of every access
of the first and of every cell that the second enters. -/

/-- A metric depth that the registration uses. -/
def ValidDepth (d : UInt16) : Prop := d ≠ depthNoMmValue ∧ d < depthMaxMetricValue

instance (d : UInt16) : Decidable (ValidDepth d) := inferInstanceAs (Decidable (_ ∧ _))

/-- `freenect_apply_registration` uses a pixel only if its position is inside the image, and then in
the column of the position. -/
def RegistersInColumns (pad : RegPadInfo) (t : RegistrationTables) (input : DepthInput)
    (out : ℕ → UInt16) : Prop :=
  ∀ a ∈ registrationAccesses pad t input out,
    InImage t a.pixel (depthAt t input a.pixel) ∧
      a.target = (registeredY t a.pixel * UInt32.ofNat depthXRes +
        floorColumn t a.pixel (depthAt t input a.pixel) - targetOffset pad).toNat

/-- The same for `freenect_map_rgb_to_depth`. -/
def MapsInColumns (pad : RegPadInfo) (t : RegistrationTables) (depthMm : ℕ → UInt16)
    (allocated : RgbMap) : Prop :=
  ∀ r ∈ shiftReads pad t depthMm allocated, ValidDepth (depthMm r.pixel) → ∀ c ∈ r.cell,
    InImage t r.pixel (depthMm r.pixel) ∧
      c = (registeredY t r.pixel - targetOffset pad) * UInt32.ofNat depthXRes +
        floorColumn t r.pixel (depthMm r.pixel)

section Mappings

variable {pad : RegPadInfo} {t : RegistrationTables} {input : DepthInput} {out : ℕ → UInt16}
  {depthMm : ℕ → UInt16} {allocated : RgbMap}

/-- The test of the first mapping, taken apart. -/
theorem contributes_iff {i : ℕ} {d : UInt16} :
    Contributes t i d ↔ ValidDepth d ∧ registeredX t i d < UInt32.ofNat depthXRes :=
  (and_assoc).symm

/-- The access of a pixel that contributes. -/
theorem accessOf_of_contributes (pad : RegPadInfo) (out : ℕ → UInt16) {i : ℕ}
    (hc : Contributes t i (depthAt t input i)) :
    ∃ write, accessOf pad t input out i =
      some
        { pixel := i
          target := (targetIndex pad t i (depthAt t input i)).toNat
          write := write } := by
  have hcon : contribution pad t input i =
    some ((targetIndex pad t i (depthAt t input i)).toNat, depthAt t input i) := if_pos hc
  rw [accessOf, hcon]
  exact ⟨_, rfl⟩

/-- Only a pixel that contributes makes an access. -/
theorem contributes_of_accessOf {i : ℕ} {a : Access} (h : accessOf pad t input out i = some a) :
    a.pixel = i ∧ a.target = (targetIndex pad t i (depthAt t input i)).toNat ∧
      Contributes t i (depthAt t input i) := by
  by_cases hc : Contributes t i (depthAt t input i)
  · obtain ⟨write, haccess⟩ := accessOf_of_contributes pad out hc
    rw [haccess] at h
    obtain rfl := Option.some.inj h
    exact ⟨rfl, rfl, hc⟩
  · have hcon : contribution pad t input i = none := if_neg hc
    rw [accessOf, hcon] at h
    cases h

/-- **The first mapping** uses pixels where they belong unless one with a valid depth is misplaced.
-/
theorem registersInColumns_iff :
    RegistersInColumns pad t input out ↔
      ∀ i < pixelCount, ValidDepth (depthAt t input i) → ¬ Misplaced t i (depthAt t input i) := by
  constructor
  · intro h i hi hvalid
    refine inImage_of_used_iff.1 fun hx ↦ ?_
    obtain ⟨write, haccess⟩ := accessOf_of_contributes pad out (contributes_iff.2 ⟨hvalid, hx⟩)
    exact (h _ (mem_registrationAccesses.2 ⟨i, hi, haccess⟩)).1
  · intro h a ha
    obtain ⟨i, hi, haccess⟩ := mem_registrationAccesses.1 ha
    obtain ⟨rfl, htarget, hc⟩ := contributes_of_accessOf haccess
    obtain ⟨hvalid, hx⟩ := contributes_iff.1 hc
    have hin := inImage_of_used_iff.2 (h _ hi hvalid) hx
    refine ⟨hin, ?_⟩
    rw [htarget, targetIndex, registeredX_of_inImage hin]

/-- **The second mapping**, in the same way. -/
theorem mapsInColumns_iff :
    MapsInColumns pad t depthMm allocated ↔
      ∀ i < pixelCount, ValidDepth (depthMm i) → ¬ Misplaced t i (depthMm i) := by
  constructor
  · intro h i hi hvalid
    refine inImage_of_used_iff.1 fun hx ↦ ?_
    have hread : shiftReadOf pad t depthMm i =
        some
          { pixel := i
            entry := (depthMm i).toNat
            cell := some (rgbIndex pad t i (depthMm i)) } := by
      rw [shiftReadOf, if_neg hvalid.1, if_neg (UInt32.not_le.2 hx)]
    exact (h _ (mem_shiftReads.2 ⟨i, hi, hread⟩) hvalid _ rfl).1
  · intro h r hr hvalid c hc
    obtain ⟨i, hi, hread⟩ := mem_shiftReads.1 hr
    obtain ⟨-, hread⟩ := Option.ite_none_left_eq_some.1 hread
    obtain rfl := Option.some.inj hread
    obtain ⟨hx, hcell⟩ := Option.ite_none_left_eq_some.1 hc
    have hin := inImage_of_used_iff.2 (h i hi hvalid) (UInt32.not_le.1 hx)
    refine ⟨hin, ?_⟩
    rw [← Option.some.inj hcell, rgbIndex, registeredX_of_inImage hin]

end Mappings

/-- **When what is left of the image is ignored**: both mappings use the pixels with a valid depth
only inside the image, and there in the right column, exactly if none of them is misplaced. -/
theorem columns_iff (pad : RegPadInfo) (t : RegistrationTables) (input : DepthInput)
    (out depthMm : ℕ → UInt16) (allocated : RgbMap) :
    RegistersInColumns pad t input out ∧ MapsInColumns pad t depthMm allocated ↔
      ∀ i < pixelCount,
        (ValidDepth (depthAt t input i) → ¬ Misplaced t i (depthAt t input i)) ∧
          (ValidDepth (depthMm i) → ¬ Misplaced t i (depthMm i)) := by
  rw [registersInColumns_iff, mapsInColumns_iff]
  constructor
  · exact fun h i hi ↦ ⟨h.1 i hi, h.2 i hi⟩
  · exact fun h ↦ ⟨fun i hi ↦ (h i hi).1, fun i hi ↦ (h i hi).2⟩

/-- Tables that shift every pixel left by one 256th of a column. -/
def nudgedTables : RegistrationTables where
  rawToMmShift _ := 1000
  depthToRgbShift _ := -1
  registrationTable _ := (0, 0)

/-- A pixel at position `-1` is registered in column 0, and mapped there. -/
theorem columns_left_of_image :
    ¬ RegistersInColumns ⟨0, 0, 0⟩ nudgedTables (.unpacked fun _ ↦ 0) (fun _ ↦ 0) ∧
      ¬ MapsInColumns ⟨0, 0, 0⟩ nudgedTables (fun _ ↦ 1000) ⟨fun _ ↦ 0, fun _ ↦ 0⟩ := by
  rw [registersInColumns_iff, mapsInColumns_iff]
  exact ⟨fun h ↦ absurd (h 0 (by decide) (by decide)) (by decide),
    fun h ↦ absurd (h 0 (by decide) (by decide)) (by decide)⟩

end Freenect
