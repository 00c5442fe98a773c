import Freenect.Registration.Rationals
import Mathlib.Algebra.Field.Rat
import Mathlib.Algebra.Order.Field.Basic
import Mathlib.Algebra.Order.Ring.Unbundled.Rat
import Mathlib.Tactic.FieldSimp
import Mathlib.Tactic.Linarith
import Mathlib.Tactic.NormNum
import Mathlib.Tactic.Ring

/-!
# The range of the metric depth

`freenect_raw_to_mm` in exact arithmetic. It is a hyperbola: with `m` the disparity of a raw value
on the sensor, the depth is `10 * f * e / (e - m)` for the focal length `f` and the distance `e` of
camera and emitter. `m` grows with the raw value, so the depth grows too until `m` reaches `e`, and
is negative from there on. Which raw value that is depends on the calibration, and the code does not
look for it: the value goes to `uint16_t` whatever it is.

So the conversion stays in range for all raw values exactly if the last one does
(`rawToMm_inRange_iff`). It does not for a `const_shift` of 200 and the lengths of a common Kinect.

Exact arithmetic is used so that the pole of the hyperbola can be located. The lengths are positive,
which a calibration of a real device fulfils; of the shift nothing is assumed.
-/

namespace Freenect

section Generic

variable {F D : Type} [Mul F] [IntCast F] [Add D] [Sub D] [Mul D] [Div D] [IntCast D]
  [OfScientific D] [LT D] [DecidableLT D] [LE D] [DecidableLE D] [FloatConversions F D]

open FloatConversions

/-- `metric` in `freenect_raw_to_mm`. -/
def rawMetric (raw : UInt16) (reg : RegistrationData F D) : D :=
  ((((raw.toNat : ℤ) : D) - parameterCoefficient * reg.constShift / pixelSizeFactor) /
      parameterCoefficient - s2dConstOffset) *
    widen reg.zeroPlaneInfo.referencePixelSize * pixelSizeFactor

/-- What `freenect_raw_to_mm` divides by. -/
def rawDivisor (raw : UInt16) (reg : RegistrationData F D) : D :=
  widen reg.zeroPlaneInfo.dcmosEmitterDist - rawMetric raw reg

/-- What `freenect_raw_to_mm` converts to `uint16_t`. -/
def rawMillimetres (raw : UInt16) (reg : RegistrationData F D) : D :=
  shiftScale * (rawMetric raw reg * widen reg.zeroPlaneInfo.referenceDistance /
    rawDivisor raw reg + widen reg.zeroPlaneInfo.referenceDistance)

omit [Mul F] [IntCast F] [LT D] [DecidableLT D] [LE D] [DecidableLE D] in
theorem rawToMm_eq (raw : UInt16) (reg : RegistrationData F D) :
    rawToMm raw reg = toUInt16 F (rawMillimetres raw reg) := rfl

end Generic

/-- A calibration with positive lengths. -/
structure PositiveLengths (zpi : ZeroPlaneInfo ℚ) : Prop where
  dcmosEmitterDist : 0 < zpi.dcmosEmitterDist
  referenceDistance : 0 < zpi.referenceDistance
  referencePixelSize : 0 < zpi.referencePixelSize

section Range

variable {reg : RegistrationData ℚ ℚ} {raw : UInt16}

/-- The raw value is converted without a division by zero and without leaving `uint16_t`, so that
only the fraction is lost. -/
structure RawInRange (reg : RegistrationData ℚ ℚ) (raw : UInt16) : Prop where
  divisor_ne_zero : rawDivisor raw reg ≠ 0
  nonneg : 0 ≤ rawMillimetres raw reg
  lt : rawMillimetres raw reg < 65536
  converted : ((rawToMm raw reg).toNat : ℤ) = towardZero (rawMillimetres raw reg)

theorem rawMetric_eq (raw : UInt16) (reg : RegistrationData ℚ ℚ) :
    rawMetric raw reg =
      (raw.toNat / 4 - 3 / 8 - reg.constShift) * reg.zeroPlaneInfo.referencePixelSize := by
  show ((((raw.toNat : ℤ) : ℚ) - ((4 : ℤ) : ℚ) * reg.constShift / ((1 : ℤ) : ℚ)) / ((4 : ℤ) : ℚ) -
    0.375) * reg.zeroPlaneInfo.referencePixelSize * ((1 : ℤ) : ℚ) = _
  push_cast
  ring

theorem rawDivisor_eq (raw : UInt16) (reg : RegistrationData ℚ ℚ) :
    rawDivisor raw reg = reg.zeroPlaneInfo.dcmosEmitterDist - rawMetric raw reg := rfl

/-- The hyperbola. -/
theorem rawMillimetres_eq (h : rawDivisor raw reg ≠ 0) :
    rawMillimetres raw reg =
      10 * reg.zeroPlaneInfo.referenceDistance * reg.zeroPlaneInfo.dcmosEmitterDist /
        rawDivisor raw reg := by
  have hvalue : rawMillimetres raw reg =
      10 * (rawMetric raw reg * reg.zeroPlaneInfo.referenceDistance / rawDivisor raw reg +
        reg.zeroPlaneInfo.referenceDistance) := rfl
  have hdist : reg.zeroPlaneInfo.dcmosEmitterDist = rawDivisor raw reg + rawMetric raw reg := by
    rw [rawDivisor_eq, sub_add_cancel]
  rw [hvalue, hdist]
  field_simp
  ring

/-- A number in the range of `uint16_t` loses its fraction and nothing else. -/
theorem toNat_toUInt16 {x : ℚ} (hnonneg : 0 ≤ x) (hlt : x < 65536) :
    ((FloatConversions.toUInt16 ℚ x : UInt16).toNat : ℤ) = towardZero x := by
  have hlow : 0 ≤ ⌊x⌋ := Int.floor_nonneg.2 hnonneg
  have hhigh : ⌊x⌋ < 65536 := Int.floor_lt.2 (by exact_mod_cast hlt)
  show ((UInt16.ofInt (towardZero x)).toNat : ℤ) = towardZero x
  rw [towardZero_of_nonneg hnonneg, UInt16.ofInt, UInt16.toNat_ofNat']
  omega

/-- A raw value is in range exactly if it is before the pole, and far enough from it. -/
theorem rawInRange_iff (hpos : PositiveLengths reg.zeroPlaneInfo) :
    RawInRange reg raw ↔
      10 * reg.zeroPlaneInfo.referenceDistance * reg.zeroPlaneInfo.dcmosEmitterDist <
        65536 * rawDivisor raw reg := by
  have hnum : 0 < 10 * reg.zeroPlaneInfo.referenceDistance * reg.zeroPlaneInfo.dcmosEmitterDist :=
    mul_pos (mul_pos (by norm_num) hpos.referenceDistance) hpos.dcmosEmitterDist
  constructor
  · rintro ⟨hne, hnonneg, hlt, -⟩
    rw [rawMillimetres_eq hne] at hnonneg hlt
    have hdiv : 0 < rawDivisor raw reg := by
      rcases lt_or_gt_of_ne hne with hneg | hdiv
      · exact absurd hnonneg (not_le.2 (div_neg_of_pos_of_neg hnum hneg))
      · exact hdiv
    exact (div_lt_iff₀ hdiv).1 hlt
  · intro h
    have hdiv : 0 < rawDivisor raw reg := by linarith
    have hvalue := rawMillimetres_eq hdiv.ne'
    have hnonneg : 0 ≤ rawMillimetres raw reg := hvalue ▸ (div_pos hnum hdiv).le
    have hlt : rawMillimetres raw reg < 65536 := hvalue ▸ (div_lt_iff₀ hdiv).2 h
    exact ⟨hdiv.ne', hnonneg, hlt, toNat_toUInt16 hnonneg hlt⟩

/-- The divisor falls with the raw value. -/
theorem rawDivisor_anti (hpos : PositiveLengths reg.zeroPlaneInfo) {raw₁ raw₂ : UInt16}
    (h : raw₁ ≤ raw₂) : rawDivisor raw₂ reg ≤ rawDivisor raw₁ reg := by
  have hraw : (raw₁.toNat : ℚ) ≤ raw₂.toNat := by exact_mod_cast UInt16.le_iff_toNat_le.1 h
  rw [rawDivisor_eq, rawDivisor_eq, rawMetric_eq, rawMetric_eq]
  refine sub_le_sub_left (mul_le_mul_of_nonneg_right ?_ hpos.referencePixelSize.le) _
  linarith

/-- **When the conversion stays in range**: exactly if it does for the last raw value, 2046. -/
theorem rawToMm_inRange_iff (reg : RegistrationData ℚ ℚ)
    (hpos : PositiveLengths reg.zeroPlaneInfo) :
    (∀ raw ≤ 2046, RawInRange reg raw) ↔
      10 * reg.zeroPlaneInfo.referenceDistance * reg.zeroPlaneInfo.dcmosEmitterDist <
        65536 * (reg.zeroPlaneInfo.dcmosEmitterDist -
          (511.125 - reg.constShift) * reg.zeroPlaneInfo.referencePixelSize) := by
  have hlast : rawDivisor 2046 reg = reg.zeroPlaneInfo.dcmosEmitterDist -
      (511.125 - reg.constShift) * reg.zeroPlaneInfo.referencePixelSize := by
    rw [rawDivisor_eq, rawMetric_eq]
    show _ - (((2046 : ℕ) : ℚ) / 4 - 3 / 8 - reg.constShift) * _ = _
    norm_num
  rw [← hlast]
  constructor
  · intro h
    exact (rawInRange_iff hpos).1 (h 2046 (UInt16.le_refl 2046))
  · intro h raw hraw
    refine (rawInRange_iff hpos).2 (h.trans_le ?_)
    linarith [rawDivisor_anti hpos hraw]

/-- The calibration of a Kinect with a given `const_shift`: camera and emitter 7.5 cm apart, a focal
length of 120 mm and pixels of about 0.104 mm. -/
def kinectCalibration (constShift : UInt16) : RegistrationData ℚ ℚ where
  regInfo := ⟨0, 0, 0, 0, 0, 0, 0, 0, 0, 0, 0, 0, 0, 0, 0, 0, 0, 0, 0, 0, 0, 0, 0, 0, 0, 0, 0, 0, 0⟩
  regPadInfo := ⟨0, 0, 0⟩
  zeroPlaneInfo := ⟨7.5, 2.4, 120, 427 / 4096⟩
  constShift := (constShift.toNat : ℤ)

theorem positiveLengths_kinect (constShift : UInt16) :
    PositiveLengths (kinectCalibration constShift).zeroPlaneInfo := by
  constructor <;> norm_num [kinectCalibration]

/-- With a shift of 500 the pole is behind the last raw value. -/
theorem rawToMm_inRange_shifted :
    (∀ raw ≤ 2046, RawInRange (kinectCalibration 500) raw) ↔
      (10 : ℚ) * 120 * 7.5 < 65536 * (7.5 - (511.125 - ((500 : ℕ) : ℤ)) * (427 / 4096)) :=
  rawToMm_inRange_iff (kinectCalibration 500) (positiveLengths_kinect 500)

/-- With a shift of 200 it is between 1089 and 1090, and the depth that goes to `uint16_t` for 1090
is negative. -/
theorem rawToMm_not_inRange :
    PositiveLengths (kinectCalibration 200).zeroPlaneInfo ∧
      ¬ ∀ raw ≤ 2046, RawInRange (kinectCalibration 200) raw := by
  refine ⟨positiveLengths_kinect 200, fun h ↦ ?_⟩
  have hlt := (rawInRange_iff (positiveLengths_kinect 200)).1 (h 1090 (by decide))
  have hraw : (1090 : UInt16).toNat = 1090 := rfl
  have hshift : (200 : UInt16).toNat = 200 := rfl
  rw [rawDivisor_eq, rawMetric_eq] at hlt
  simp only [kinectCalibration, hraw, hshift] at hlt
  norm_num at hlt

end Range

end Freenect
