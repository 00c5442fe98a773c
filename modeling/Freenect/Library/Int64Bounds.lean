import Mathlib.Data.Int.Notation
import Mathlib.Data.Nat.Notation
import Mathlib.Algebra.Group.Int.Defs

/-!
# Bounds on 64-bit integers

`Within b x` says that the signed number `x` has at most the absolute value `b`. The rules follow
the operations: a sum of numbers that are bounded is bounded by the sum of the bounds and, while
that is less than `2 ^ 63`, it is the sum of the integers; an arithmetic shift to the right divides
the bound.

Nothing here depends on the rest of the development.

A loop with an accumulator is then followed by its bound instead of its value: `Within.accumulate`
is one round of it, `Within.accumulate_shiftRight` a round that also shifts. Each gives the new
bound together with the fact that the machine's sum is the sum of the integers, so that the same
induction shows that nothing overflows and what is computed.
-/

namespace Int64Bounds

variable {x y k : Int64} {a b c : ℤ} {n : ℕ}

/-- The absolute value is at most `b`. -/
structure Within (b : ℤ) (x : Int64) : Prop where
  lower : -b ≤ x.toInt
  upper : x.toInt ≤ b

/-- A weaker bound. -/
theorem Within.mono (h : Within a x) (hab : a ≤ b) : Within b x where
  lower := by
    have := h.lower
    omega
  upper := Int.le_trans h.upper hab

/-- A 32-bit number. -/
theorem within_toInt64 (i : Int32) : Within (2 ^ 31) i.toInt64 where
  lower := by
    rw [Int32.toInt_toInt64]
    exact Int32.le_toInt i
  upper := by
    rw [Int32.toInt_toInt64]
    exact Int.le_of_lt (Int32.toInt_lt i)

/-- A sum with bounded summands does not overflow. -/
theorem Within.toInt_add (hx : Within a x) (hy : Within b y) (hlt : a + b < 2 ^ 63) :
    (x + y).toInt = x.toInt + y.toInt := by
  obtain ⟨hx₀, hx₁⟩ := hx
  obtain ⟨hy₀, hy₁⟩ := hy
  rw [Int64.toInt_add]
  exact Int.bmod_eq_of_le (by omega) (by omega)

/-- The bound of a sum. -/
theorem Within.add (hx : Within a x) (hy : Within b y) (hlt : a + b < 2 ^ 63) :
    Within (a + b) (x + y) := by
  have hsum := hx.toInt_add hy hlt
  obtain ⟨hx₀, hx₁⟩ := hx
  obtain ⟨hy₀, hy₁⟩ := hy
  exact ⟨by omega, by omega⟩

/-- An arithmetic shift. The machine takes the distance modulo 64. -/
theorem toInt_shiftRight (h : (k.toBitVec.smod 64).toNat = n) :
    (x >>> k).toInt = x.toInt >>> n := by
  rw [← Int64.toInt_toBitVec, Int64.toBitVec_shiftRight, BitVec.toInt_sshiftRight', h,
    Int64.toInt_toBitVec]

/-- The bound of a shifted number. The shift rounds down, so a negative number may come out one
lower, hence the `+ 1`. -/
theorem Within.shiftRight (hx : Within b x) (h : (k.toBitVec.smod 64).toNat = n) :
    Within (b / 2 ^ n + 1) (x >>> k) := by
  obtain ⟨hx₀, hx₁⟩ := hx
  have hpos : (0 : ℤ) < 2 ^ n := Int.pow_pos (by decide)
  have hdiv : (x >>> k).toInt = x.toInt / 2 ^ n := by
    rw [toInt_shiftRight h, Int.shiftRight_eq_div_pow]
    rfl
  have hhigh : x.toInt / 2 ^ n ≤ b / 2 ^ n := Int.ediv_le_ediv hpos hx₁
  have hlow : -(b / 2 ^ n + 1) ≤ x.toInt / 2 ^ n := by
    have hb : b < (b / 2 ^ n + 1) * 2 ^ n := Int.lt_ediv_add_one_mul_self b hpos
    refine Int.le_ediv_of_mul_le hpos ?_
    rw [Int.neg_mul]
    omega
  exact ⟨by omega, by omega⟩

/-- One step of an accumulator: the bound grows, and nothing overflows. -/
theorem Within.accumulate (hx : Within a x) (hy : Within b y) (hle : a + b ≤ c) (hlt : c < 2 ^ 63) :
    Within c (x + y) ∧ (x + y).toInt = x.toInt + y.toInt :=
  ⟨(hx.add hy (by omega)).mono hle, hx.toInt_add hy (by omega)⟩

/-- The same for a step that is shifted. -/
theorem Within.accumulate_shiftRight (hx : Within a x) (hy : Within b y)
    (h : (k.toBitVec.smod 64).toNat = n) (hle : a + (b / 2 ^ n + 1) ≤ c) (hlt : c < 2 ^ 63) :
    Within c (x + (y >>> k)) ∧ (x + (y >>> k)).toInt = x.toInt + (y.toInt >>> n) := by
  rw [← toInt_shiftRight h]
  exact hx.accumulate (hy.shiftRight h) hle hlt

end Int64Bounds
