import Freenect.Registration.Tables
import Mathlib.Data.Rat.Floor

/-!
# Floating point as rational numbers

The conversions of `FloatConversions` for exact arithmetic: `float` and `double` are both `ℚ`. C
converts to an integer by truncating towards zero; what happens to values outside its range, which C
leaves open, is reduction modulo its width.
-/

namespace Freenect

/-- Truncation towards zero. -/
def towardZero (x : ℚ) : ℤ := x.num.tdiv x.den

/-- Of an integer it is the integer. -/
theorem towardZero_intCast (i : ℤ) : towardZero (i : ℚ) = i := Int.tdiv_one i

/-- Of a number that is not negative it is the integral part. -/
theorem towardZero_of_nonneg {x : ℚ} (hx : 0 ≤ x) : towardZero x = ⌊x⌋ := by
  rw [Rat.floor_def', towardZero]
  exact Int.tdiv_eq_ediv_of_nonneg (Rat.num_nonneg.2 hx)

instance rationalConversions : FloatConversions ℚ ℚ where
  widen x := x
  narrow x := x
  toInt32 x := Int32.ofInt (towardZero x)
  toUInt16 x := UInt16.ofInt (towardZero x)
  narrow_widen _ := rfl
  toInt32_intCast i := by
    rw [towardZero_intCast]
    exact Int32.ofInt_toInt i
  toUInt16_intCast i := by
    have hlt : i.toNat < 2 ^ 16 := i.toNat_lt
    have hmod : ((i.toNat : ℤ) % 2 ^ 16).toNat = i.toNat := by omega
    rw [towardZero_intCast, UInt16.ofInt, hmod]
    exact UInt16.ofNat_toNat

end Freenect
