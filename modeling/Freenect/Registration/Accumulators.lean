import Freenect.Library.Int64Bounds
import Freenect.Registration.Rationals
import Mathlib.Algebra.Group.Int.Defs
import Mathlib.Algebra.Order.Ring.Unbundled.Rat
import Mathlib.Tactic.Linarith
import Mathlib.Tactic.NormNum

/-!
# The accumulators of the rectification table

`freenect_create_dxdy_tables` evaluates two cubic polynomials by forward differences, in 64 bits and
with coefficients that the device reports. With 480 rows and 640 columns nothing overflows, whatever
the 32-bit coefficients are: the loop does what the same loop on integers without a bound does
(`tables_fit`). The bounds are multiples of `2 ^ 31`, and each grows by a constant in every step: a
first difference by a little more than the greatest second one, divided by 256, and a value by a
little more than the greatest first one, divided by 64.

All values stay below `2 ^ 53`, so a `double` holds them exactly. The positions that
`freenect_init_registration_table` makes of them fit 32 bits, marked or not.

The bounds are invariants of the two loops, `RowBound` of the outer and `ColBound` of the inner one,
and each is kept by a step lemma that at the same time says that the step did not overflow. So one
induction gives both the size of the accumulators at every cell and the equality with the exact
loop. What is used of the report is
that the coefficients and the initial values have 32 bits.
-/

namespace Freenect

open Int64Bounds

/-! ### The same loop without a bound

The loop on integers is the one to compare with. It is never run; it only says what the sums would
be. -/

/-- The accumulators as integers. -/
structure ExactDifferences where
  d0 : ℤ
  dXd : ℤ
  dYd : ℤ
  dXdXd : ℤ
  dYdXd : ℤ
  dYdYd : ℤ
  deriving DecidableEq, Repr

/-- What the accumulators hold. -/
def Differences.exact (s : Differences) : ExactDifferences where
  d0 := s.d0.toInt
  dXd := s.dXd.toInt
  dYd := s.dYd.toInt
  dXdXd := s.dXdXd.toInt
  dYdXd := s.dYdXd.toInt
  dYdYd := s.dYdYd.toInt

/-- `Differences.nextRow` without overflow. -/
def ExactDifferences.nextRow (c : Coefficients) (s : ExactDifferences) : ExactDifferences where
  dXdXd := s.dXdXd + c.c2.toInt
  dXd := s.dXd + (s.dYdXd >>> (8 : ℕ))
  dYdXd := s.dYdXd + c.d2.toInt
  d0 := s.d0 + (s.dYd >>> (6 : ℕ))
  dYd := s.dYd + (s.dYdYd >>> (8 : ℕ))
  dYdYd := s.dYdYd + c.b6.toInt

/-- `Differences.nextCol` without overflow. -/
def ExactDifferences.nextCol (c : Coefficients) (s : ExactDifferences) : ExactDifferences where
  d0 := s.d0 + (s.dXd >>> (6 : ℕ))
  dXd := s.dXd + (s.dXdXd >>> (8 : ℕ))
  dXdXd := s.dXdXd + c.a6.toInt
  dYd := s.dYd
  dYdXd := s.dYdXd
  dYdYd := s.dYdYd

/-! ### The bounds

Third differences are constant, second ones grow by them in every step, and so on up to the values.
Within 480 rows and 640 columns the polynomial bounds stay far below `2 ^ 63`. -/

section Bounds

variable {c : Coefficients} {s : Differences} {n m : ℕ}

/-- Coefficients of 32 bits. -/
structure Coefficients.Narrow (c : Coefficients) : Prop where
  a6 : Within (2 ^ 31) c.a6
  b6 : Within (2 ^ 31) c.b6
  c2 : Within (2 ^ 31) c.c2
  d2 : Within (2 ^ 31) c.d2

/-- The accumulators after `n` rows. -/
structure Differences.RowBound (n : ℕ) (s : Differences) : Prop where
  d0 : Within ((16 * n + 1) * 2 ^ 31) s.d0
  dXd : Within ((2 * n + 1) * 2 ^ 31) s.dXd
  dYd : Within ((2 * n + 1) * 2 ^ 31) s.dYd
  dXdXd : Within ((n + 1) * 2 ^ 31) s.dXdXd
  dYdXd : Within ((n + 1) * 2 ^ 31) s.dYdXd
  dYdYd : Within ((n + 1) * 2 ^ 31) s.dYdYd

/-- The copies of the inner loop after `m` columns of any row. -/
structure Differences.ColBound (m : ℕ) (s : Differences) : Prop where
  d0 : Within ((66 * m + 7681) * 2 ^ 31) s.d0
  dXd : Within ((5 * m + 961) * 2 ^ 31) s.dXd
  dXdXd : Within ((m + 481) * 2 ^ 31) s.dXdXd

/-- The start of a row: the bounds grow, and nothing overflows. -/
theorem Differences.RowBound.next (h : s.RowBound n) (hc : c.Narrow) (hn : n < depthYRes) :
    (s.nextRow c).RowBound (n + 1) ∧ (s.nextRow c).exact = s.exact.nextRow c := by
  have hn : n < 480 := hn
  obtain ⟨hd0, hd0'⟩ := h.d0.accumulate_shiftRight (k := 6) (n := 6)
    (c := (16 * (n + 1 : ℕ) + 1) * 2 ^ 31) h.dYd rfl (by omega) (by omega)
  obtain ⟨hdXd, hdXd'⟩ := h.dXd.accumulate_shiftRight (k := 8) (n := 8)
    (c := (2 * (n + 1 : ℕ) + 1) * 2 ^ 31) h.dYdXd rfl (by omega) (by omega)
  obtain ⟨hdYd, hdYd'⟩ := h.dYd.accumulate_shiftRight (k := 8) (n := 8)
    (c := (2 * (n + 1 : ℕ) + 1) * 2 ^ 31) h.dYdYd rfl (by omega) (by omega)
  obtain ⟨hdXdXd, hdXdXd'⟩ := h.dXdXd.accumulate
    (c := ((n + 1 : ℕ) + 1) * 2 ^ 31) hc.c2 (by omega) (by omega)
  obtain ⟨hdYdXd, hdYdXd'⟩ := h.dYdXd.accumulate
    (c := ((n + 1 : ℕ) + 1) * 2 ^ 31) hc.d2 (by omega) (by omega)
  obtain ⟨hdYdYd, hdYdYd'⟩ := h.dYdYd.accumulate
    (c := ((n + 1 : ℕ) + 1) * 2 ^ 31) hc.b6 (by omega) (by omega)
  refine ⟨⟨hd0, hdXd, hdYd, hdXdXd, hdYdXd, hdYdYd⟩, ?_⟩
  unfold Differences.exact Differences.nextRow ExactDifferences.nextRow
  dsimp only
  rw [hd0', hdXd', hdYd', hdXdXd', hdYdXd', hdYdYd']

/-- The end of a column: the bounds grow, and nothing overflows. -/
theorem Differences.ColBound.next (h : s.ColBound m) (hc : c.Narrow) (hm : m < depthXRes) :
    (s.nextCol c).ColBound (m + 1) ∧ (s.nextCol c).exact = s.exact.nextCol c := by
  have hm : m < 640 := hm
  obtain ⟨hd0, hd0'⟩ := h.d0.accumulate_shiftRight (k := 6) (n := 6)
    (c := (66 * (m + 1 : ℕ) + 7681) * 2 ^ 31) h.dXd rfl (by omega) (by omega)
  obtain ⟨hdXd, hdXd'⟩ := h.dXd.accumulate_shiftRight (k := 8) (n := 8)
    (c := (5 * (m + 1 : ℕ) + 961) * 2 ^ 31) h.dXdXd rfl (by omega) (by omega)
  obtain ⟨hdXdXd, hdXdXd'⟩ := h.dXdXd.accumulate
    (c := ((m + 1 : ℕ) + 481) * 2 ^ 31) hc.a6 (by omega) (by omega)
  refine ⟨⟨hd0, hdXd, hdXdXd⟩, ?_⟩
  unfold Differences.exact Differences.nextCol ExactDifferences.nextCol
  dsimp only
  rw [hd0', hdXd', hdXdXd']

/-- Between two rows the bounds of the columns start over. -/
theorem Differences.RowBound.colBound (h : s.RowBound n) (hn : n ≤ depthYRes) : s.ColBound 0 := by
  have hn : n ≤ 480 := hn
  exact ⟨h.d0.mono (by omega), h.dXd.mono (by omega), h.dXdXd.mono (by omega)⟩

/-- The run lemma of the outer loop. -/
theorem rowBound_iterate (hs : s.RowBound 0) (hc : c.Narrow) (hn : n ≤ depthYRes) :
    ((Differences.nextRow c)^[n] s).RowBound n := by
  induction n with
  | zero => exact hs
  | succ n ih =>
    rw [Function.iterate_succ_apply']
    exact ((ih (Nat.le_of_succ_le hn)).next hc hn).1

/-- The run lemma of the inner loop. -/
theorem colBound_iterate (hs : s.ColBound 0) (hc : c.Narrow) (hm : m ≤ depthXRes) :
    ((Differences.nextCol c)^[m] s).ColBound m := by
  induction m with
  | zero => exact hs
  | succ m ih =>
    rw [Function.iterate_succ_apply']
    exact ((ih (Nat.le_of_succ_le hm)).next hc hm).1

/-- The accumulators of a cell of the table. -/
def Differences.atCell (c : Coefficients) (initial : Differences) (row col : ℕ) : Differences :=
  (Differences.nextCol c)^[col] ((Differences.nextRow c)^[row + 1] initial)

/-- The bounds at any cell of the table. -/
theorem colBound_atCell (hs : s.RowBound 0) (hc : c.Narrow) (hn : n < depthYRes)
    (hm : m ≤ depthXRes) : (s.atCell c n m).ColBound m :=
  colBound_iterate ((rowBound_iterate hs hc hn).colBound hn) hc hm

/-- No step of the two loops overflows: each does what it does to integers. -/
structure Differences.NoOverflow (c : Coefficients) (initial : Differences) : Prop where
  row : ∀ n < depthYRes, let s := (Differences.nextRow c)^[n] initial
    (s.nextRow c).exact = s.exact.nextRow c
  col : ∀ n < depthYRes, ∀ m < depthXRes, let s := initial.atCell c n m
    (s.nextCol c).exact = s.exact.nextCol c

/-- **No step of the two loops overflows.** -/
theorem noOverflow (hs : s.RowBound 0) (hc : c.Narrow) : s.NoOverflow c where
  row _ hn := ((rowBound_iterate hs hc (Nat.le_of_lt hn)).next hc hn).2
  col _ hn _ hm := ((colBound_atCell hs hc hn (Nat.le_of_lt hm)).next hc hm).2

end Bounds

/-! ### What the device reports

The coefficients are fields of the info; the initial values are such fields, shifted in 32 bits. -/

section Reported

variable (r : RegInfo)

/-- The coefficients for `x` have 32 bits. -/
theorem narrow_coefficientsX : (coefficientsX r).Narrow :=
  ⟨within_toInt64 _, within_toInt64 _, within_toInt64 _, within_toInt64 _⟩

theorem narrow_coefficientsY : (coefficientsY r).Narrow :=
  ⟨within_toInt64 _, within_toInt64 _, within_toInt64 _, within_toInt64 _⟩

/-- The shifts leave 32 bits. -/
theorem rowBound_initialX : (initialX r).RowBound 0 where
  d0 := (within_toInt64 _).mono (by omega)
  dXd := (within_toInt64 _).mono (by omega)
  dYd := (within_toInt64 _).mono (by omega)
  dXdXd := (within_toInt64 _).mono (by omega)
  dYdXd := (within_toInt64 _).mono (by omega)
  dYdYd := (within_toInt64 _).mono (by omega)

/-- The same for the `y` coordinate. -/
theorem rowBound_initialY : (initialY r).RowBound 0 where
  d0 := (within_toInt64 _).mono (by omega)
  dXd := (within_toInt64 _).mono (by omega)
  dYd := (within_toInt64 _).mono (by omega)
  dXdXd := (within_toInt64 _).mono (by omega)
  dYdXd := (within_toInt64 _).mono (by omega)
  dYdYd := (within_toInt64 _).mono (by omega)

end Reported

/-! ### The positions

From the accumulators to the entries of the table: a scaling by a power of two, the row and the
column of the pixel, and a conversion to 32 bits. Here the exact arithmetic of `Rationals` is used.
-/

section Positions

variable (D : Type) [Add D] [Mul D] [Div D] [IntCast D] [OfScientific D] [LT D] [DecidableLT D]
  [LE D] [DecidableLE D]

/-- `new_x` as it is computed. -/
def computedX (r : RegInfo) (index : ℕ) : D :=
  (((index % depthXRes : ℕ) : ℤ) : D) +
    createDxdyTable D (coefficientsX r) (initialX r) depthXRes index + (depthXOffset : D)

/-- `new_y`. -/
def newY (r : RegInfo) (index : ℕ) : D :=
  (((index / depthXRes : ℕ) : ℤ) : D) +
    createDxdyTable D (coefficientsY r) (initialY r) depthXRes index + (depthYOffset : D)

/-- `new_x`, with the mark of a position outside the image. -/
def newX (r : RegInfo) (index : ℕ) : D :=
  if computedX D r index < ((0 : ℤ) : D) ∨ newY D r index < ((0 : ℤ) : D) ∨
      ((depthXRes : ℤ) : D) ≤ computedX D r index ∨ ((depthYRes : ℤ) : D) ≤ newY D r index then
    ((2 * depthXRes : ℤ) : D)
  else computedX D r index

/-- An entry of the table, from its two positions. -/
theorem initRegistrationTable_eq {F : Type} [FloatConversions F D] (r : RegInfo) (index : ℕ) :
    initRegistrationTable F D r index =
      (FloatConversions.toInt32 F (newX D r index * ((regXValScale : ℤ) : D)),
        FloatConversions.toInt32 F (newY D r index)) := rfl

end Positions

/-- A value that `int32_t` has room for. -/
def FitsInt32 (x : ℚ) : Prop := -2 ^ 31 ≤ x ∧ x < 2 ^ 31

section Fits

variable {c : Coefficients} {s : Differences} {r : RegInfo} {index : ℕ}

/-- What a `double` of the temporary tables holds. -/
theorem createDxdyTable_bounds (hs : s.RowBound 0) (hc : c.Narrow)
    (hindex : index < depthXRes * depthYRes) :
    -817905664 ≤ createDxdyTable ℚ c s depthXRes index ∧
      createDxdyTable ℚ c s depthXRes index ≤ 817905664 := by
  have hrow : index / 640 < depthYRes := Nat.div_lt_of_lt_mul hindex
  have hcol : index % 640 < depthXRes := Nat.mod_lt _ (by decide)
  obtain ⟨hlow, hhigh⟩ := (colBound_atCell hs hc hrow (Nat.le_of_lt hcol)).d0
  have hcol : index % 640 < 640 := hcol
  have hentry : createDxdyTable ℚ c s depthXRes index =
      ((s.atCell c (index / 640) (index % 640)).d0.toInt : ℚ) / 2 ^ 17 := by
    show _ * ((1.0 : ℚ) / (((1 <<< 17 : ℕ) : ℤ) : ℚ)) = _
    norm_num
    rfl
  generalize (s.atCell c (index / 640) (index % 640)).d0.toInt = d at hlow hhigh hentry
  have hd : -(49921 * 2 ^ 31) ≤ d ∧ d ≤ 49921 * 2 ^ 31 := ⟨by omega, by omega⟩
  have hdlow : (-(49921 * 2 ^ 31) : ℚ) ≤ d := by exact_mod_cast hd.1
  have hdhigh : (d : ℚ) ≤ 49921 * 2 ^ 31 := by exact_mod_cast hd.2
  rw [hentry]
  constructor
  · linarith
  · linarith

/-- A row fits 32 bits, marked or not. -/
theorem fitsInt32_newY (hindex : index < depthXRes * depthYRes) : FitsInt32 (newY ℚ r index) := by
  obtain ⟨hlow, hhigh⟩ :=
    createDxdyTable_bounds (rowBound_initialY r) (narrow_coefficientsY r) hindex
  have hrow : index / 640 < 480 := Nat.div_lt_of_lt_mul hindex
  have hrow : ((index / 640 : ℕ) : ℚ) < 480 := by exact_mod_cast hrow
  have hnonneg : (0 : ℚ) ≤ ((index / 640 : ℕ) : ℚ) := Nat.cast_nonneg _
  have hvalue : newY ℚ r index = ((index / 640 : ℕ) : ℚ) +
      createDxdyTable ℚ (coefficientsY r) (initialY r) depthXRes index + 1 := rfl
  constructor
  · linarith
  · linarith

/-- A column fits 32 bits after scaling. -/
theorem fitsInt32_newX : FitsInt32 (newX ℚ r index * ((regXValScale : ℤ) : ℚ)) := by
  have hscale : ((regXValScale : ℤ) : ℚ) = 256 := rfl
  rw [hscale, newX]
  split
  next hout =>
    -- the mark
    have hmark : ((2 * depthXRes : ℤ) : ℚ) = 1280 := rfl
    rw [hmark]
    constructor
    · norm_num
    · norm_num
  next hin =>
    simp only [not_or, not_lt, not_le] at hin
    obtain ⟨hlow, -, hhigh, -⟩ := hin
    have hlow : 0 ≤ computedX ℚ r index := hlow
    have hhigh : computedX ℚ r index < 640 := hhigh
    constructor
    · linarith
    · linarith

/-- **The tables cannot overflow**, for any coefficients. -/
theorem tables_fit (r : RegInfo) :
    (initialX r).NoOverflow (coefficientsX r) ∧ (initialY r).NoOverflow (coefficientsY r) ∧
      ∀ index < depthXRes * depthYRes,
        FitsInt32 (newX ℚ r index * ((regXValScale : ℤ) : ℚ)) ∧ FitsInt32 (newY ℚ r index) :=
  ⟨noOverflow (rowBound_initialX r) (narrow_coefficientsX r),
    noOverflow (rowBound_initialY r) (narrow_coefficientsY r),
    fun _ hindex ↦ ⟨fitsInt32_newX, fitsInt32_newY hindex⟩⟩

end Fits

end Freenect
