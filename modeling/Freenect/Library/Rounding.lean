import Mathlib.Data.Rat.Floor
import Mathlib.Tactic.Linarith

/-!
# Conversions that round down

A count `w` is converted to another unit by multiplying with `q`, and back by dividing. Both results
are rounded down. If the other unit is the finer one, what comes back is `w` if the product was
whole, and one less otherwise (`floor_div_floor_mul`). For a rational `q` the product is whole for
the multiples of its denominator, so that repeated conversions descend to the next one below
(`iterate_decrease`).
-/

section Floor

variable {K : Type*} [Field K] [LinearOrder K] [IsStrictOrderedRing K] [FloorRing K] {q : K}

/-- **There and back**: rounding down twice loses at most one. -/
theorem floor_div_floor_mul (hq : 1 ≤ q) (w : ℤ) :
    ⌊(⌊w * q⌋ : K) / q⌋ = if (⌊w * q⌋ : K) = w * q then w else w - 1 := by
  have hpos : 0 < q := zero_lt_one.trans_le hq
  have hle : (⌊w * q⌋ : K) ≤ w * q := Int.floor_le _
  have hlt : w * q < ⌊w * q⌋ + 1 := Int.lt_floor_add_one _
  split
  next h => rw [h, mul_div_cancel_right₀ _ hpos.ne', Int.floor_intCast]
  next h =>
    rw [Int.floor_eq_iff, le_div_iff₀ hpos, div_lt_iff₀ hpos]
    push_cast
    constructor
    · linarith
    · linarith [lt_of_le_of_ne hle h]

end Floor

/-- A multiple of a rational number is whole if the denominator divides it. -/
theorem floor_mul_eq_iff (w : ℤ) (q : ℚ) : (⌊w * q⌋ : ℚ) = w * q ↔ (q.den : ℤ) ∣ w := by
  have hden : (q.den : ℚ) ≠ 0 := Nat.cast_ne_zero.2 q.den_nz
  have hq : q * q.den = q.num := Rat.mul_den_eq_num q
  constructor
  · intro h
    have hnum : ⌊w * q⌋ * q.den = w * q.num := by
      have hcast : (⌊w * q⌋ : ℚ) * q.den = w * q.num := by rw [h, mul_assoc, hq]
      exact_mod_cast hcast
    refine Int.dvd_of_dvd_mul_left_of_gcd_one (Dvd.intro_left _ hnum) ?_
    rw [Int.gcd_comm]
    exact q.reduced
  · rintro ⟨c, rfl⟩
    have hwhole : ((q.den * c : ℤ) : ℚ) * q = (c * q.num : ℤ) := by
      push_cast
      rw [← hq]
      ring
    rw [hwhole, Int.floor_intCast]

/-- One less, modulo `e`, where there is no borrow. -/
theorem pred_mod {e w : ℕ} (he : 0 < e) (h : w % e ≠ 0) : (w - 1) % e = w % e - 1 := by
  have hw : w / e * e + w % e = w := Nat.div_add_mod' w e
  have hlt : w % e < e := Nat.mod_lt w he
  calc (w - 1) % e
      = (w / e * e + (w % e - 1)) % e := by congr 1; omega
    _ = w % e - 1 := Nat.mul_add_mod_of_lt (by omega)

/-- What is lost is lost once in each round, until a multiple of `e` is reached. -/
theorem iterate_decrease {e : ℕ} (he : 0 < e) (w k : ℕ) :
    (fun v ↦ if e ∣ v then v else v - 1)^[k] w = w - min k (w % e) := by
  induction k generalizing w with
  | zero => simp
  | succ k ih =>
    rw [Function.iterate_succ_apply, ih]
    split
    next h => rw [Nat.mod_eq_zero_of_dvd h, Nat.min_zero, Nat.min_zero]
    next h =>
      have hmod : w % e ≠ 0 := fun hmod ↦ h (Nat.dvd_of_mod_eq_zero hmod)
      have hle : w % e ≤ w := Nat.mod_le w e
      rw [pred_mod he hmod]
      omega
