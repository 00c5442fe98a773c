import Mathlib.Data.Int.Notation
import Mathlib.Data.Nat.Notation
import Mathlib.Logic.Function.Iterate

/-!
# Registration data and its tables

`freenect_registration` and the functions of `registration.c` that compute its tables from what the
device reports: `freenect_raw_to_mm`, `freenect_init_depth_to_rgb`, `freenect_create_dxdy_tables`,
`freenect_init_registration_table` and `complete_tables`.

Nothing here depends on how `float` and `double` round, so the definitions are generic in the two
types. `F` is `float` and `D` is `double`; `FloatConversions` are C's conversions between them and
the integers, with the two facts that are used of them: widening a `float` loses nothing, and the
`double` of an integer of at most 32 bits converts back to it.

The tables are functions of the index; the code uses them only below the sizes it allocates.

The tables are computed with the operations of the source in its order, so that the same text can be
read with rounding or without. What does depend on the arithmetic is left to the modules that choose
one: `Rationals` is exact arithmetic, in which the accumulators and the metric depths are bounded.
Agreement of two computations, as between a device and its replay, needs no choice at all.
-/

namespace Freenect

/-! ### Constants -/

/-- `DEPTH_X_RES`. -/
abbrev depthXRes : ℕ := 640

/-- `DEPTH_Y_RES`. -/
abbrev depthYRes : ℕ := 480

/-- `DEPTH_SENSOR_X_RES`. -/
def depthSensorXRes : ℕ := 1280

/-- `DEPTH_X_OFFSET`. -/
def depthXOffset : ℤ := 1

/-- `DEPTH_Y_OFFSET`. -/
def depthYOffset : ℤ := 1

/-- `REG_X_VAL_SCALE`, the fixed-point precision of the tables. -/
abbrev regXValScale : ℕ := 256

/-- `S2D_PIXEL_CONST`. -/
def s2dPixelConst : ℤ := 10

/-- `DEPTH_NO_MM_VALUE`. -/
abbrev depthNoMmValue : UInt16 := 0

/-- `DEPTH_MAX_METRIC_VALUE`. -/
abbrev depthMaxMetricValue : UInt16 := 10000

/-- `DEPTH_MAX_RAW_VALUE`. -/
def depthMaxRawValue : ℕ := 2048

/-- `DEPTH_NO_RAW_VALUE`. -/
def depthNoRawValue : ℕ := 2047

/-! ### Floating point

The arithmetic itself comes from the instances of the two types; only the conversions need laws. -/

/-- C's conversions between `float`, `double` and the integers. -/
class FloatConversions (F D : Type) [IntCast D] where
  /-- `float` to `double`. -/
  widen : F → D
  /-- `double` to `float`. -/
  narrow : D → F
  /-- `double` to `int32_t`. -/
  toInt32 : D → Int32
  /-- `double` to `uint16_t`. -/
  toUInt16 : D → UInt16
  narrow_widen : ∀ x, narrow (widen x) = x
  toInt32_intCast : ∀ i : Int32, toInt32 ((i.toInt : ℤ) : D) = i
  toUInt16_intCast : ∀ i : UInt16, toUInt16 (((i.toNat : ℕ) : ℤ) : D) = i

/-! ### The data

What the device reports, in the structures of `libfreenect_registration.h`. -/

/-- `freenect_reg_info`, with the fields the mapping algorithm does not use. -/
structure RegInfo where
  dxCenter : Int32
  ax : Int32
  bx : Int32
  cx : Int32
  dx : Int32
  dxStart : Int32
  ay : Int32
  by' : Int32
  cy : Int32
  dy : Int32
  dyStart : Int32
  dxBetaStart : Int32
  dyBetaStart : Int32
  rolloutBlank : Int32
  rolloutSize : Int32
  dxBetaInc : Int32
  dyBetaInc : Int32
  dxdxStart : Int32
  dxdyStart : Int32
  dydxStart : Int32
  dydyStart : Int32
  dxdxdxStart : Int32
  dydxdxStart : Int32
  dxdxdyStart : Int32
  dydxdyStart : Int32
  backComp1 : Int32
  dydydxStart : Int32
  backComp2 : Int32
  dydydyStart : Int32
  deriving DecidableEq, Repr

/-- `freenect_reg_pad_info`. -/
structure RegPadInfo where
  startLines : UInt16
  endLines : UInt16
  croppingLines : UInt16
  deriving DecidableEq, Repr

/-- `freenect_zero_plane_info`. -/
structure ZeroPlaneInfo (F : Type) where
  dcmosEmitterDist : F
  dcmosRcmosDist : F
  referenceDistance : F
  referencePixelSize : F
  deriving DecidableEq, Repr

/-- What the device reports for the registration. -/
structure RegistrationData (F D : Type) where
  regInfo : RegInfo
  regPadInfo : RegPadInfo
  zeroPlaneInfo : ZeroPlaneInfo F
  constShift : D
  deriving DecidableEq, Repr

/-- The tables of `freenect_registration`. -/
structure RegistrationTables where
  rawToMmShift : ℕ → UInt16
  depthToRgbShift : ℕ → Int32
  registrationTable : ℕ → Int32 × Int32

/-! ### Raw depth to millimetres, and depth to the shift in x -/

section Tables

variable {F D : Type} [Mul F] [IntCast F] [Add D] [Sub D] [Mul D] [Div D] [IntCast D]
  [OfScientific D] [LT D] [DecidableLT D] [LE D] [DecidableLE D] [FloatConversions F D]

open FloatConversions

/-- `S2D_CONST_OFFSET`. -/
def s2dConstOffset : D := 0.375

/-- `parameter_coefficient`. -/
def parameterCoefficient : D := ((4 : ℤ) : D)

/-- `shift_scale`. -/
def shiftScale : D := ((10 : ℤ) : D)

/-- `pixel_size_factor`. -/
def pixelSizeFactor : D := ((1 : ℤ) : D)

/-- `freenect_raw_to_mm`. -/
def rawToMm (raw : UInt16) (reg : RegistrationData F D) : UInt16 :=
  let zpi := reg.zeroPlaneInfo
  let fixedRefX : D :=
    (((raw.toNat : ℤ) : D) - parameterCoefficient * reg.constShift / pixelSizeFactor) /
      parameterCoefficient - s2dConstOffset
  let metric : D := fixedRefX * widen zpi.referencePixelSize * pixelSizeFactor
  toUInt16 F (shiftScale * (metric * widen zpi.referenceDistance /
    (widen zpi.dcmosEmitterDist - metric) + widen zpi.referenceDistance))

/-- `freenect_init_depth_to_rgb`: entry `i` of the table. -/
def initDepthToRgb (D : Type) [Sub D] [Mul D] [Div D] [Add D] [IntCast D] [OfScientific D]
    [FloatConversions F D] (zpi : ZeroPlaneInfo F) (i : ℕ) : Int32 :=
  let xScale : ℤ := depthSensorXRes / depthXRes
  let pixelSize : D :=
    (1.0 : D) / widen (zpi.referencePixelSize * (xScale : F) * (s2dPixelConst : F))
  let pixelsBetweenRgbAndIrCmos : D := widen zpi.dcmosRcmosDist * pixelSize * (s2dPixelConst : D)
  let referenceDistanceInPixels : D :=
    widen zpi.referenceDistance * pixelSize * (s2dPixelConst : D)
  let currentDepthInPixels : D := ((i : ℤ) : D) * pixelSize
  toInt32 F ((pixelsBetweenRgbAndIrCmos * (currentDepthInPixels - referenceDistanceInPixels) /
    currentDepthInPixels + s2dConstOffset) * ((regXValScale : ℤ) : D))

/-! ### The rectification table

A cubic polynomial in two variables for each coordinate, evaluated by forward differences. The two
coordinates differ in their coefficients and in nothing else, so there is one loop. -/

/-- The accumulators of `freenect_create_dxdy_tables` for one of the two coordinates. -/
structure Differences where
  d0 : Int64
  dXd : Int64
  dYd : Int64
  dXdXd : Int64
  dYdXd : Int64
  dYdYd : Int64
  deriving DecidableEq, Repr

/-- The coefficients added to the accumulators, `AX6`, `BX6`, `CX2`, `DX2` or their `Y` twins. -/
structure Coefficients where
  a6 : Int64
  b6 : Int64
  c2 : Int64
  d2 : Int64
  deriving DecidableEq, Repr

/-- The shifts are not merged, for the 32-bit clamping of the extracted values. -/
def initialX (r : RegInfo) : Differences where
  d0 := (r.dxStart <<< 13 >>> 4).toInt64
  dXd := (r.dxdxStart <<< 11 >>> 3).toInt64
  dYd := (r.dydxStart <<< 11 >>> 3).toInt64
  dXdXd := (r.dxdxdxStart <<< 5 <<< 3).toInt64
  dYdXd := (r.dydxdxStart <<< 5 <<< 3).toInt64
  dYdYd := (r.dydydxStart <<< 5 <<< 3).toInt64

/-- The twin for the `y` coordinate. -/
def initialY (r : RegInfo) : Differences where
  d0 := (r.dyStart <<< 13 >>> 4).toInt64
  dXd := (r.dxdyStart <<< 11 >>> 3).toInt64
  dYd := (r.dydyStart <<< 11 >>> 3).toInt64
  dXdXd := (r.dxdxdyStart <<< 5 <<< 3).toInt64
  dYdXd := (r.dydxdyStart <<< 5 <<< 3).toInt64
  dYdYd := (r.dydydyStart <<< 5 <<< 3).toInt64

/-- The coefficients for the `x` coordinate. -/
def coefficientsX (r : RegInfo) : Coefficients where
  a6 := r.ax.toInt64
  b6 := r.bx.toInt64
  c2 := r.cx.toInt64
  d2 := r.dx.toInt64

/-- The coefficients for the `y` coordinate. -/
def coefficientsY (r : RegInfo) : Coefficients where
  a6 := r.ay.toInt64
  b6 := r.by'.toInt64
  c2 := r.cy.toInt64
  d2 := r.dy.toInt64

/-- What the outer loop does to the accumulators at the start of a row. -/
def Differences.nextRow (c : Coefficients) (s : Differences) : Differences where
  dXdXd := s.dXdXd + c.c2
  dXd := s.dXd + (s.dYdXd >>> 8)
  dYdXd := s.dYdXd + c.d2
  d0 := s.d0 + (s.dYd >>> 6)
  dYd := s.dYd + (s.dYdYd >>> 8)
  dYdYd := s.dYdYd + c.b6

/-- What the inner loop does to its copies `col*` of the accumulators after a column. -/
def Differences.nextCol (c : Coefficients) (s : Differences) : Differences where
  d0 := s.d0 + (s.dXd >>> 6)
  dXd := s.dXd + (s.dXdXd >>> 8)
  dXdXd := s.dXdXd + c.a6
  dYd := s.dYd
  dYdXd := s.dYdXd
  dYdYd := s.dYdYd

/-- `freenect_create_dxdy_tables`: entry `tOffs` of one of the two tables. -/
def createDxdyTable (D : Type) [Mul D] [Div D] [IntCast D] [OfScientific D]
    (c : Coefficients) (initial : Differences) (resolutionX tOffs : ℕ) : D :=
  let row := (Differences.nextRow c)^[tOffs / resolutionX + 1] initial
  let col := (Differences.nextCol c)^[tOffs % resolutionX] row
  (col.d0.toInt : D) * ((1.0 : D) / (((1 <<< 17 : ℕ) : ℤ) : D))

/-- `freenect_init_registration_table`: entry `index` of the table. A position outside the image is
marked by an `x` outside it; its `y` stays what it is. -/
def initRegistrationTable (F D : Type) [Add D] [Mul D] [Div D] [IntCast D] [OfScientific D] [LT D]
    [DecidableLT D] [LE D] [DecidableLE D] [FloatConversions F D] (r : RegInfo) (index : ℕ) :
    Int32 × Int32 :=
  let x : ℤ := (index % depthXRes : ℕ)
  let y : ℤ := (index / depthXRes : ℕ)
  let newX : D :=
    (x : D) + createDxdyTable D (coefficientsX r) (initialX r) depthXRes index + (depthXOffset : D)
  let newY : D :=
    (y : D) + createDxdyTable D (coefficientsY r) (initialY r) depthXRes index + (depthYOffset : D)
  let zero : D := ((0 : ℤ) : D)
  let newX : D :=
    if newX < zero ∨ newY < zero ∨ ((depthXRes : ℤ) : D) ≤ newX ∨ ((depthYRes : ℤ) : D) ≤ newY then
      ((2 * depthXRes : ℤ) : D)
    else newX
  (toInt32 F (newX * ((regXValScale : ℤ) : D)), toInt32 F newY)

/-- `complete_tables`. -/
def completeTables (reg : RegistrationData F D) : RegistrationTables where
  rawToMmShift i := if i = depthNoRawValue then depthNoMmValue else rawToMm (UInt16.ofNat i) reg
  depthToRgbShift := initDepthToRgb D reg.zeroPlaneInfo
  registrationTable := initRegistrationTable F D reg.regInfo

end Tables

end Freenect
