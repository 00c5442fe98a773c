import Freenect.Registration.Apply
import Mathlib.Algebra.Group.Int.Defs
import Mathlib.Algebra.Group.Nat.Defs

/-!
# Where the registration writes

`freenect_apply_registration` checks the column of a pixel, never its row, and subtracts
`480 * start_lines` in unsigned arithmetic. Two things can go wrong. A pixel near the top of the
image underflows when `start_lines` is not zero; and a pixel that the table marks as outside, by
`x = 1280 * 256`, comes back into the image when its shift is more negative than one image width,
with a row nobody checked.

`registration_safe_iff` is exact: the accesses stay inside the image and no marked pixel is written
precisely when no contributing pixel is of either kind, where a marked pixel may still be read, and
lose against a depth that is already there.

## How the proof goes

The column is settled by arithmetic alone (`registeredX_lt_iff`), and for an unmarked pixel so is
the target (`targetIndex_lt_iff`). Of a marked pixel the target says nothing, since nobody has
bounded its row. But where it loses, it loses against an earlier pixel with the same target, and
going back from one to the next ends at an unmarked one (`target_lt`, by strong induction on the
pixel). What the output holds in front of a pixel comes from the depth buffer
(`outputAfter_le_iff`).
-/

namespace Freenect

/-! ### Signed positions, unsigned columns

The code divides a signed sum and reads the quotient as unsigned. A negative quotient becomes a huge
column, so one comparison checks both sides of the image, and the entries of a built table keep the
sum within 32 bits. -/

/-- Reading a signed number as unsigned. -/
theorem toNat_toUInt32 (q : Int32) :
    (q.toUInt32.toNat : ℤ) = if q.toInt < 0 then q.toInt + 2 ^ 32 else q.toInt := by
  have hcond := BitVec.toInt_eq_toNat_cond q.toBitVec
  have hlt : q.toBitVec.toNat < 2 ^ 32 := q.toBitVec.isLt
  rw [Int32.toInt_toBitVec] at hcond
  rw [← Int32.toNat_toBitVec]
  split at hcond <;> split <;> omega

section Column

variable {t : RegistrationTables} {index : ℕ} {metricDepth : UInt16}

/-- The corrected position of a pixel in x, in units of a 256th of a column. -/
def position (t : RegistrationTables) (index : ℕ) (metricDepth : UInt16) : ℤ :=
  (t.registrationTable index).1.toInt + (t.depthToRgbShift metricDepth.toNat).toInt

/-- A table entry for a pixel whose corrected position is outside the image. -/
def Marked (t : RegistrationTables) (index : ℕ) : Prop :=
  (t.registrationTable index).1.toInt = 2 * depthXRes * regXValScale

instance : Decidable (Marked t index) := inferInstanceAs (Decidable (_ = _))

/-- A table entry as `freenect_init_registration_table` builds it: inside the image, or marked. -/
def BuiltEntry (t : RegistrationTables) (index : ℕ) : Prop :=
  (0 ≤ (t.registrationTable index).1.toInt ∧
    (t.registrationTable index).1.toInt < depthXRes * regXValScale ∧
    0 ≤ (t.registrationTable index).2.toInt ∧
    (t.registrationTable index).2.toInt < depthYRes) ∨ Marked t index

/-- The column of an entry, scaled by 256, is at most that of a marked one. -/
theorem BuiltEntry.x_bounds (h : BuiltEntry t index) :
    0 ≤ (t.registrationTable index).1.toInt ∧ (t.registrationTable index).1.toInt ≤ 327680 := by
  rcases h with ⟨h₁, h₂, -⟩ | h
  · exact ⟨h₁, by simp only [depthXRes, regXValScale] at h₂; omega⟩
  · simp only [Marked, depthXRes, regXValScale] at h
    omega

/-- The quotient in the code, as an integer. -/
theorem toInt_quotient :
    (((t.registrationTable index).1 + t.depthToRgbShift metricDepth.toNat) / 256).toInt =
      ((position t index metricDepth).bmod (2 ^ 32)).tdiv 256 := by
  rw [Int32.toInt_div_of_ne_right _ _ (by decide), Int32.toInt_add]
  rfl

/-- Truncation towards zero, by floors. -/
theorem tdiv_256 (b : ℤ) : b.tdiv 256 = if 0 ≤ b then b / 256 else -(-b / 256) := by
  split
  · rename_i hb
    exact Int.tdiv_eq_ediv_of_nonneg hb
  · rename_i hb
    rw [← Int.neg_neg b, Int.neg_tdiv, Int.tdiv_eq_ediv_of_nonneg (by omega), Int.neg_neg]

/-- **The column of a pixel** is inside the image exactly for positions from just above `-256`,
since the division truncates, up to the image's width. -/
theorem registeredX_lt_iff (h : BuiltEntry t index) :
    registeredX t index metricDepth < UInt32.ofNat depthXRes ↔
      -256 < position t index metricDepth ∧ position t index metricDepth < 640 * 256 := by
  obtain ⟨hx₀, hx₁⟩ := h.x_bounds
  have hs₀ := (t.depthToRgbShift metricDepth.toNat).le_toInt
  have hs₁ := (t.depthToRgbShift metricDepth.toNat).toInt_lt
  have hpos : position t index metricDepth =
    (t.registrationTable index).1.toInt + (t.depthToRgbShift metricDepth.toNat).toInt := rfl
  have hnat := toNat_toUInt32
    (((t.registrationTable index).1 + t.depthToRgbShift metricDepth.toNat) / 256)
  have hbmod := Int.bmod_def (position t index metricDepth) (2 ^ 32)
  rw [toInt_quotient, tdiv_256] at hnat
  rw [UInt32.lt_iff_toNat_lt]
  show (registeredX t index metricDepth).toNat < 640 ↔ _
  rw [registeredX]
  generalize (((t.registrationTable index).1 +
    t.depthToRgbShift metricDepth.toNat) / 256).toUInt32.toNat = n at hnat ⊢
  generalize position t index metricDepth = p at *
  generalize p.bmod (2 ^ 32) = b at *
  split at hbmod <;> split at hnat <;> split at hnat <;> omega

/-- The column of a pixel inside the image. -/
theorem toNat_registeredX (h₀ : -256 < position t index metricDepth)
    (h₁ : position t index metricDepth < 640 * 256) :
    ((registeredX t index metricDepth).toNat : ℤ) = (position t index metricDepth).tdiv 256 := by
  have hnat := toNat_toUInt32
    (((t.registrationTable index).1 + t.depthToRgbShift metricDepth.toNat) / 256)
  have hbmod : (position t index metricDepth).bmod (2 ^ 32) = position t index metricDepth :=
    Int.bmod_eq_of_le (by omega) (by omega)
  rw [toInt_quotient, hbmod] at hnat
  rw [registeredX, hnat, if_neg]
  rw [tdiv_256]
  split
  · omega
  · omega

/-- An unsigned difference of an index of the image and the start lines is an index of the image
unless it underflows. -/
theorem mod_lt_pixelCount_iff {m n : ℕ} (hm : m ≤ 480 * 65535) (hn : n < pixelCount) :
    (2 ^ 32 - m + n) % 2 ^ 32 < pixelCount ↔ m ≤ n := by
  simp only [pixelCount, depthYRes, depthXRes] at *
  rcases Nat.lt_or_ge n m with hlt | hge
  · rw [Nat.mod_eq_of_lt (by omega)]
    omega
  · rw [show 2 ^ 32 - m + n = n - m + 2 ^ 32 by omega, Nat.add_mod_right,
      Nat.mod_eq_of_lt (by omega)]
    omega

/-- What a pixel contributes is inside the image or not: for a pixel the table does not mark, only
the subtraction of the start lines can take it out. -/
theorem targetIndex_lt_iff {pad : RegPadInfo} (h : BuiltEntry t index) (hm : ¬ Marked t index)
    (h₀ : -256 < position t index metricDepth) (h₁ : position t index metricDepth < 640 * 256) :
    (targetIndex pad t index metricDepth).toNat < pixelCount ↔
      480 * (pad.startLines.toNat : ℤ) ≤
        640 * (t.registrationTable index).2.toInt + (position t index metricDepth).tdiv 256 := by
  have hx := toNat_registeredX h₀ h₁
  have htdiv := tdiv_256 (position t index metricDepth)
  have hy := toNat_toUInt32 (t.registrationTable index).2
  have hlines : pad.startLines.toNat < 2 ^ 16 := pad.startLines.toNat_lt
  have hoff : (targetOffset pad).toNat = 480 * pad.startLines.toNat := by
    rw [targetOffset, UInt32.toNat_ofNat']
    simp only [depthYRes]
    omega
  -- the table does not mark the pixel, so its row is one of the image
  obtain ⟨-, -, hy₀, hy₁⟩ := h.resolve_right hm
  -- in natural numbers the subtraction may borrow, and then the index is huge
  have htarget : (targetIndex pad t index metricDepth).toNat =
      (2 ^ 32 - 480 * pad.startLines.toNat + ((t.registrationTable index).2.toUInt32.toNat * 640 +
        (registeredX t index metricDepth).toNat)) % 2 ^ 32 := by
    rw [targetIndex, UInt32.toNat_sub, UInt32.toNat_add, UInt32.toNat_mul, hoff, registeredY,
      UInt32.toNat_ofNat']
    simp only [depthXRes]
    omega
  rw [if_neg (by omega)] at hy
  simp only [depthYRes] at hy₁
  have hcol : 0 ≤ (position t index metricDepth).tdiv 256 ∧
      (position t index metricDepth).tdiv 256 < 640 := by
    rw [htdiv]
    split
    · omega
    · omega
  rw [htarget, mod_lt_pixelCount_iff (by omega) (by
    simp only [pixelCount, depthYRes, depthXRes]
    omega)]
  omega

end Column

/-! ### Exactly when the registration is safe

`HasColumn` is the condition under which the loop body gets to the output, in terms of the position
of the pixel. Whether the target is inside the image and whether it is written are two questions,
and a marked pixel may get there without being written. -/

section Safe

variable {pad : RegPadInfo} {t : RegistrationTables} {input : DepthInput} {out : ℕ → UInt16}

/-- The metric depth of a pixel. -/
def depthAt (t : RegistrationTables) (input : DepthInput) (index : ℕ) : UInt16 :=
  t.rawToMmShift (input.rawAt index).toNat

/-- A pixel with a valid depth whose position is not outside the columns of the image. -/
def HasColumn (t : RegistrationTables) (input : DepthInput) (index : ℕ) : Prop :=
  0 < (depthAt t input index).toNat ∧ (depthAt t input index).toNat < 10000 ∧
    -256 < position t index (depthAt t input index) ∧
    position t index (depthAt t input index) < 640 * 256

instance {i : ℕ} : Decidable (HasColumn t input i) :=
  inferInstanceAs (Decidable (_ ∧ _ ∧ _ ∧ _))

/-- The registration touches only the image, and does not write for a marked pixel. -/
def RegistrationSafe (pad : RegPadInfo) (t : RegistrationTables) (input : DepthInput)
    (out : ℕ → UInt16) : Prop :=
  ∀ a ∈ registrationAccesses pad t input out,
    a.target < depthYRes * depthXRes ∧ (Marked t a.pixel → a.write = false)

/-- The condition: every pixel with a column stays below the start lines if it is not marked; and if
it is marked, an earlier pixel with the same target has a depth that is not greater. -/
def TargetsInside (pad : RegPadInfo) (t : RegistrationTables) (input : DepthInput) : Prop :=
  ∀ i < depthYRes * depthXRes, HasColumn t input i →
    (¬ Marked t i → 480 * (pad.startLines.toNat : ℤ) ≤
      640 * (t.registrationTable i).2.toInt + (position t i (depthAt t input i)).tdiv 256) ∧
    (Marked t i → ∃ j < i, HasColumn t input j ∧ depthAt t input j ≤ depthAt t input i ∧
      targetIndex pad t j (depthAt t input j) = targetIndex pad t i (depthAt t input i))

/-- Under the condition the targets are inside the image: that of a marked pixel is the target of an
earlier one, and so in the end that of a pixel that is not marked. -/
theorem TargetsInside.target_lt (hinside : TargetsInside pad t input)
    (hbuilt : ∀ i < depthYRes * depthXRes, BuiltEntry t i) {i : ℕ} (hi : i < depthYRes * depthXRes)
    (hc : HasColumn t input i) :
    (targetIndex pad t i (depthAt t input i)).toNat < depthYRes * depthXRes := by
  induction i using Nat.strong_induction_on with
  | _ i ih =>
    obtain ⟨hunmarked, hmarked⟩ := hinside i hi hc
    by_cases hm : Marked t i
    · obtain ⟨j, hj, hcj, -, heq⟩ := hmarked hm
      rw [← heq]
      exact ih j hj (hj.trans hi) hcj
    · exact (targetIndex_lt_iff (hbuilt i hi) hm hc.2.2.1 hc.2.2.2).2 (hunmarked hm)

/-- It is what the loop body checks. -/
theorem hasColumn_iff {i : ℕ} (h : BuiltEntry t i) :
    HasColumn t input i ↔ Contributes t i (depthAt t input i) := by
  have hzero : (depthAt t input i).toNat = 0 ↔ depthAt t input i = depthNoMmValue := by
    rw [← UInt16.toNat_inj]
    rfl
  have hmax : depthAt t input i < depthMaxMetricValue ↔ (depthAt t input i).toNat < 10000 :=
    UInt16.lt_iff_toNat_lt
  rw [HasColumn, Contributes, registeredX_lt_iff h, hmax, Nat.pos_iff_ne_zero, ne_eq, hzero]

/-- What such a pixel puts into the output. -/
theorem contribution_of_hasColumn {i : ℕ} (h : BuiltEntry t i) (hc : HasColumn t input i) :
    contribution pad t input i =
      some ((targetIndex pad t i (depthAt t input i)).toNat, depthAt t input i) :=
  if_pos ((hasColumn_iff h).1 hc)

/-- Only such a pixel puts anything there. -/
theorem hasColumn_of_contribution {i : ℕ} {p : ℕ × UInt16} (h : BuiltEntry t i)
    (hp : contribution pad t input i = some p) :
    HasColumn t input i ∧
      p = ((targetIndex pad t i (depthAt t input i)).toNat, depthAt t input i) := by
  by_cases hc : HasColumn t input i
  · rw [contribution_of_hasColumn h hc] at hp
    exact ⟨hc, (Option.some.inj hp).symm⟩
  · have hnone : contribution pad t input i = none :=
      if_neg fun hcon ↦ hc ((hasColumn_iff h).2 hcon)
    rw [hnone] at hp
    cases hp

/-- What the first `n` pixels have put there. -/
theorem mem_contributions {n : ℕ} {p : ℕ × UInt16} :
    p ∈ contributions pad t input n ↔ ∃ i < n, contribution pad t input i = some p := by
  simp only [contributions, List.mem_filterMap, List.mem_range]

/-- A contributed depth is a depth. -/
theorem contributions_ne_empty {n : ℕ} :
    ∀ p ∈ contributions pad t input n, p.2 ≠ depthNoMmValue := by
  intro p hp
  obtain ⟨i, -, hi⟩ := mem_contributions.1 hp
  unfold contribution at hi
  dsimp only at hi
  split at hi
  · rename_i hc
    cases hi
    exact hc.1
  · cases hi

/-- A cell of the image is occupied, at most `d` deep, exactly if an earlier pixel put such a
depth. -/
theorem outputAfter_le_iff {n target : ℕ} {d : UInt16} (htarget : target < pixelCount) :
    (outputAfter pad t input out n target ≠ depthNoMmValue ∧
        outputAfter pad t input out n target ≤ d) ↔
      ∃ d', (target, d') ∈ contributions pad t input n ∧ d' ≤ d := by
  have hempty : wipe out target = depthNoMmValue := if_pos htarget
  constructor
  · rintro ⟨hfull, hle⟩
    have hput : ∃ d', (target, d') ∈ contributions pad t input n := by
      by_contra hno
      exact hfull (DepthBuffer.fill_eq_empty hempty fun d' hd' ↦ hno ⟨d', hd'⟩)
    obtain ⟨d', hd'⟩ := hput
    exact ⟨_, (DepthBuffer.isLeast_fill contributions_ne_empty hempty hd').1, hle⟩
  · rintro ⟨d', hmem, hle⟩
    have hleast := DepthBuffer.isLeast_fill contributions_ne_empty hempty hmem
    exact ⟨(DepthBuffer.fill_le_of_mem contributions_ne_empty hmem).1, (hleast.2 hmem).trans hle⟩

/-- The access of a pixel with a column. -/
theorem accessOf_of_hasColumn (pad : RegPadInfo) (out : ℕ → UInt16) {i : ℕ} (h : BuiltEntry t i)
    (hc : HasColumn t input i) :
    accessOf pad t input out i =
      some
        { pixel := i
          target := (targetIndex pad t i (depthAt t input i)).toNat
          write := decide
            (outputAfter pad t input out i (targetIndex pad t i (depthAt t input i)).toNat =
                depthNoMmValue ∨
              depthAt t input i <
                outputAfter pad t input out i
                  (targetIndex pad t i (depthAt t input i)).toNat) } := by
  rw [accessOf, contribution_of_hasColumn h hc]
  rfl

/-- A marked pixel is not written exactly if an earlier one was there first. -/
theorem not_written_iff {i : ℕ} (hbuilt : ∀ j < pixelCount, BuiltEntry t j) (hi : i < pixelCount)
    (htarget : (targetIndex pad t i (depthAt t input i)).toNat < pixelCount) :
    decide (outputAfter pad t input out i (targetIndex pad t i (depthAt t input i)).toNat =
          depthNoMmValue ∨
        depthAt t input i <
          outputAfter pad t input out i (targetIndex pad t i (depthAt t input i)).toNat) = false ↔
      ∃ j < i, HasColumn t input j ∧ depthAt t input j ≤ depthAt t input i ∧
        targetIndex pad t j (depthAt t input j) = targetIndex pad t i (depthAt t input i) := by
  rw [decide_eq_false_iff_not, not_or, not_lt, outputAfter_le_iff htarget]
  constructor
  · rintro ⟨d', hmem, hle⟩
    obtain ⟨j, hj, hcon⟩ := mem_contributions.1 hmem
    obtain ⟨hc, heq⟩ := hasColumn_of_contribution (hbuilt j (hj.trans hi)) hcon
    injection heq with heq₁ heq₂
    exact ⟨j, hj, hc, heq₂ ▸ hle, (UInt32.toNat_inj.1 heq₁).symm⟩
  · rintro ⟨j, hj, hc, hle, heq⟩
    refine ⟨_, mem_contributions.2 ⟨j, hj, ?_⟩, hle⟩
    rw [contribution_of_hasColumn (hbuilt j (hj.trans hi)) hc, heq]

end Safe

/-- **Exactly when the registration stays inside the image.** For every table as
`freenect_init_registration_table` builds it, every shift and every start line, on every frame and
over every previous content of the output. -/
theorem registration_safe_iff (pad : RegPadInfo) (t : RegistrationTables) (input : DepthInput)
    (out : ℕ → UInt16) (hbuilt : ∀ i < depthYRes * depthXRes, BuiltEntry t i) :
    RegistrationSafe pad t input out ↔ TargetsInside pad t input := by
  constructor
  · intro hsafe i hi hc
    -- each pixel with a column makes one access, and the condition is what is asked of it
    have haccess := accessOf_of_hasColumn pad out (hbuilt i hi) hc
    obtain ⟨htarget, hwrite⟩ := hsafe _ (mem_registrationAccesses.2 ⟨i, hi, haccess⟩)
    refine ⟨fun hm ↦ ?_, fun hm ↦ ?_⟩
    · exact (targetIndex_lt_iff (hbuilt i hi) hm hc.2.2.1 hc.2.2.2).1 htarget
    · exact (not_written_iff hbuilt hi htarget).1 (hwrite hm)
  · intro hinside a ha
    obtain ⟨i, hi, haccess⟩ := mem_registrationAccesses.1 ha
    by_cases hc : HasColumn t input i
    · have htarget := hinside.target_lt hbuilt hi hc
      rw [accessOf_of_hasColumn pad out (hbuilt i hi) hc] at haccess
      cases haccess
      refine ⟨htarget, fun hm ↦ ?_⟩
      exact (not_written_iff hbuilt hi htarget).2 ((hinside i hi hc).2 hm)
    · -- a pixel without a column accesses nothing
      have hnone : contribution pad t input i = none :=
        if_neg fun hcon ↦ hc ((hasColumn_iff (hbuilt i hi)).2 hcon)
      rw [accessOf, hnone] at haccess
      cases haccess

/-- All pixels at one depth and unshifted, the table the same entry everywhere. -/
def flatTables (x y : Int32) : RegistrationTables where
  rawToMmShift _ := 100
  depthToRgbShift _ := 0
  registrationTable _ := (x, y)

/-- Such a table could have been built. -/
theorem builtEntry_flat (i : ℕ) : BuiltEntry (flatTables 0 0) i := by
  refine Or.inl ?_
  show 0 ≤ (0 : Int32).toInt ∧ (0 : Int32).toInt < 640 * 256 ∧ 0 ≤ (0 : Int32).toInt ∧
    (0 : Int32).toInt < 480
  decide

/-- With a start line, a pixel of the first row is read and written far outside the image. -/
theorem registration_underflow :
    ¬ ∀ (pad : RegPadInfo) (t : RegistrationTables) (input : DepthInput) (out : ℕ → UInt16),
      (∀ i < depthYRes * depthXRes, BuiltEntry t i) → RegistrationSafe pad t input out := by
  intro h
  have hsafe := h { startLines := 1, endLines := 0, croppingLines := 0 } (flatTables 0 0)
    (.unpacked fun _ ↦ 0) (fun _ ↦ 0) (fun i _ ↦ builtEntry_flat i)
  have hmem := mem_registrationAccesses.2
    ⟨0, by decide, accessOf_of_hasColumn ⟨1, 0, 0⟩ (fun _ ↦ 0) (builtEntry_flat 0)
      (show HasColumn (flatTables 0 0) (.unpacked fun _ ↦ 0) 0 by decide)⟩
  exact absurd (hsafe _ hmem).1 (by decide)

/-- The condition at work: without start lines a frame at the left edge is registered safely. -/
theorem registration_safe_flat :
    RegistrationSafe { startLines := 0, endLines := 0, croppingLines := 0 } (flatTables 0 0)
      (.unpacked fun _ ↦ 0) (fun _ ↦ 0) := by
  refine (registration_safe_iff _ (flatTables 0 0) (.unpacked fun _ ↦ 0) (fun _ ↦ 0)
    (fun i _ ↦ builtEntry_flat i)).2 fun i _ _ ↦ ⟨fun _ ↦ ?_, fun hm ↦ ?_⟩
  · show 480 * ((0 : UInt16).toNat : ℤ) ≤
      640 * (0 : Int32).toInt + ((0 : Int32).toInt + (0 : Int32).toInt).tdiv 256
    decide
  · exact absurd hm (by show ¬ (0 : Int32).toInt = 2 * 640 * 256; decide)

end Freenect
