import Freenect.Library.Runs
import Freenect.Registration.Unpack
import Mathlib.Algebra.Group.Nat.Defs

/-!
# The Bayer filter

`convert_bayer_to_rgb` goes through the image once, with three pointers into it, one for each line a
pixel needs, and two shift-buffers of 32 bits that hold what three columns contribute. At the border
of the image there is no neighbour, and the one on the other side is taken in its place.

The specification has no pointers: it says for each pixel which bytes its colours are averages of
(`bayerTriple`). The invariant of the inner loop is where the three pointers are and what the
shift-buffers hold (`BayerFilter.At`); that of the outer loop is where the last line has left the
pointers, since the bottom line takes its neighbours from there (`BayerFilter.AtRow`).

The shift-buffers are described by what can be read from them: `ShiftBuffer v previous current` is a
word with the previous value, the current one, and room for the next, and its rules are the shifts
and masks of the source (`ShiftBuffer.or_previous` and its siblings, `ShiftBuffer.shift`). A round
of the inner loop is then `BayerFilter.At.column`, whose output is computed by
`map_bayerConfiguration` from four averages. The two columns at the border and the lines at the top
and bottom have lemmas of their own, because the source treats them outside the loops.
-/

namespace Freenect

/-! ### The code

The text of `convert_bayer_to_rgb`, cut where its loops begin and end. -/

/-- The three line pointers, as offsets into `raw_buf`, and the two shift-buffers. -/
structure BayerFilter where
  prevLine : ℕ
  curLine : ℕ
  nextLine : ℕ
  hVals : UInt32
  vSums : UInt32

/-- What a piece of the code reads of `raw_buf` and what it writes to `dst`, in order. -/
structure BayerOut where
  reads : List ℕ
  written : List UInt8
  deriving DecidableEq, Repr

/-- `(a + b) >> 1`. -/
def halfSum (a b : UInt8) : UInt8 := UInt8.ofNat ((a.toNat + b.toNat) >>> 1)

/-- The four configurations. `cross` is the green of a pixel that is not green, `diagonal` what its
four corners have in common. -/
def bayerConfiguration (yOdd x : ℕ) (hSum diagonal : UInt8) (hVals vSums : UInt32) : List UInt8 :=
  let current := (hVals >>> 8).toUInt8
  let vertical := (vSums >>> 8).toUInt8
  let cross := halfSum hSum vertical
  if yOdd = 0 then
    if x &&& 1 = 0 then [hSum, current, vertical] else [current, cross, diagonal]
  else
    if x &&& 1 = 0 then [diagonal, cross, current] else [vertical, current, hSum]

/-- The body of the inner loop. -/
def bayerColumn (raw : Bytes) (yOdd : ℕ) (s : BayerFilter) (x : ℕ) : BayerFilter × BayerOut :=
  let hVals := s.hVals ||| (raw s.curLine).toUInt32
  let vSums := s.vSums ||| (halfSum (raw s.prevLine) (raw s.nextLine)).toUInt32
  let hSum := halfSum (hVals >>> 16).toUInt8 hVals.toUInt8
  let diagonal := halfSum (vSums >>> 16).toUInt8 vSums.toUInt8
  ({ prevLine := s.prevLine + 1
     curLine := s.curLine + 1
     nextLine := s.nextLine + 1
     hVals := hVals <<< 8
     vSums := vSums <<< 8 },
   { reads := [s.curLine, s.prevLine, s.nextLine]
     written := bayerConfiguration yOdd x hSum diagonal hVals vSums })

/-- The right column, behind the inner loop. -/
def bayerLastColumn (yOdd x : ℕ) (s : BayerFilter) : BayerFilter × BayerOut :=
  let hVals := s.hVals ||| (s.hVals >>> 16).toUInt8.toUInt32
  let vSums := s.vSums ||| (s.vSums >>> 16).toUInt8.toUInt32
  ({ s with hVals := hVals, vSums := vSums },
   { reads := []
     written := bayerConfiguration yOdd x hVals.toUInt8 vSums.toUInt8 hVals vSums })

/-- Which lines are next to line `y`. -/
def bayerLines (width height y : ℕ) (s : BayerFilter) : BayerFilter :=
  if 0 < y ∧ y < height - 1 then { s with prevLine := s.curLine - width }
  else if y = 0 then { s with prevLine := s.nextLine }
  else { s with nextLine := s.prevLine }

/-- The shift-buffers in front of the left column. -/
def bayerFirstColumn (raw : Bytes) (s : BayerFilter) : BayerFilter × BayerOut :=
  ({ prevLine := s.prevLine + 1
     curLine := s.curLine + 1
     nextLine := s.nextLine + 1
     hVals := (raw s.curLine).toUInt32 <<< 8 ||| (raw (s.curLine + 1)).toUInt32 <<< 16
     vSums :=
      (((raw s.prevLine).toUInt32 + (raw s.nextLine).toUInt32) <<< 7 &&& (0xFF00 : UInt32)) |||
        (((raw (s.prevLine + 1)).toUInt32 + (raw (s.nextLine + 1)).toUInt32) <<< 15 &&&
          (0xFF0000 : UInt32)) },
   { reads :=
      [s.curLine, s.curLine + 1, s.prevLine, s.nextLine, s.prevLine + 1, s.nextLine + 1]
     written := [] })

/-- One piece of output behind another. -/
def BayerOut.flatten (outs : List BayerOut) : BayerOut where
  reads := outs.flatMap BayerOut.reads
  written := outs.flatMap BayerOut.written

/-- The body of the outer loop. -/
def bayerRow (raw : Bytes) (width height : ℕ) (s : BayerFilter) (y : ℕ) : BayerFilter × BayerOut :=
  let first := bayerFirstColumn raw (bayerLines width height y s)
  let inner := bayerColumn raw (y &&& 1)
  let last := bayerLastColumn (y &&& 1) (width - 1)
    (Mealy.run inner first.1 (List.range (width - 1)))
  (last.1, .flatten (first.2 :: Mealy.trace inner first.1 (List.range (width - 1)) ++ [last.2]))

/-- The pointers in front of the first line; the others have no value yet. -/
def BayerFilter.start (width : ℕ) : BayerFilter where
  prevLine := 0
  curLine := 0
  nextLine := width
  hVals := 0
  vSums := 0

/-- `convert_bayer_to_rgb`. -/
def convertBayerToRgb (raw : Bytes) (width height : ℕ) : BayerOut :=
  .flatten (Mealy.trace (bayerRow raw width height) (.start width) (List.range height))

/-! ### The specification

A pixel has one colour of its own; the other two are averages of its neighbours. Averages are taken
pairwise, as the code takes them, so four neighbours are averaged in two steps. -/

/-- The index before, mirrored at the border. -/
def mirrorPred (i : ℕ) : ℕ := if i = 0 then 1 else i - 1

/-- The index behind, mirrored at the border of a line of `n`. -/
def mirrorSucc (n i : ℕ) : ℕ := if i + 1 = n then n - 2 else i + 1

section Specification

variable (raw : Bytes) (width height : ℕ)

/-- The raw value at column `x` of line `y`. -/
def bayerAt (x y : ℕ) : ℕ := (raw (y * width + x)).toNat

/-- The average of the values on the left and on the right. -/
def horizontalAverage (x y : ℕ) : ℕ :=
  (bayerAt raw width (mirrorPred x) y + bayerAt raw width (mirrorSucc width x) y) / 2

/-- The average of the values above and below. -/
def verticalAverage (x y : ℕ) : ℕ :=
  (bayerAt raw width x (mirrorPred y) + bayerAt raw width x (mirrorSucc height y)) / 2

/-- The average of the four values beside a pixel, in two steps. -/
def crossAverage (x y : ℕ) : ℕ :=
  (horizontalAverage raw width x y + verticalAverage raw width height x y) / 2

/-- The average of the four corners of a pixel, in two steps. -/
def cornerAverage (x y : ℕ) : ℕ :=
  (verticalAverage raw width height (mirrorPred x) y +
    verticalAverage raw width height (mirrorSucc width x) y) / 2

/-- The colours of a pixel: red, green and blue. -/
def bayerTriple (y x : ℕ) : List ℕ :=
  if y % 2 = 0 then
    if x % 2 = 0 then
      [horizontalAverage raw width x y, bayerAt raw width x y, verticalAverage raw width height x y]
    else
      [bayerAt raw width x y, crossAverage raw width height x y, cornerAverage raw width height x y]
  else
    if x % 2 = 0 then
      [cornerAverage raw width height x y, crossAverage raw width height x y, bayerAt raw width x y]
    else
      [verticalAverage raw width height x y, bayerAt raw width x y, horizontalAverage raw width x y]

end Specification

/-! ### Shift-buffers

The arithmetic of the two 32-bit words, as natural numbers. -/

/-- A shift-buffer between two columns: the previous value, the current one, and room for the
next. -/
structure ShiftBuffer (v : UInt32) (previous current : UInt8) : Prop where
  previous : (v >>> 16).toUInt8 = previous
  current : (v >>> 8).toUInt8 = current
  next : v.toUInt8 = 0

section ShiftBuffer

variable {v : UInt32} {previous current : UInt8}

/-- The average of two bytes, rounded down. -/
theorem toNat_halfSum (a b : UInt8) : (halfSum a b).toNat = (a.toNat + b.toNat) / 2 := by
  have ha : a.toNat < 256 := a.toNat_lt
  have hb : b.toNat < 256 := b.toNat_lt
  rw [halfSum, UInt8.toNat_ofNat', Nat.shiftRight_eq_div_pow]
  omega

/-- The second byte of a word. -/
theorem toNat_byte_eight (v : UInt32) : (v >>> 8).toUInt8.toNat = v.toNat / 256 % 256 := by
  rw [UInt32.toNat_toUInt8, UInt32.toNat_shiftRight, Nat.shiftRight_eq_div_pow]
  rfl

/-- The third byte of a word. -/
theorem toNat_byte_sixteen (v : UInt32) : (v >>> 16).toUInt8.toNat = v.toNat / 65536 % 256 := by
  rw [UInt32.toNat_toUInt8, UInt32.toNat_shiftRight, Nat.shiftRight_eq_div_pow]
  rfl

/-- What a shift-buffer holds, as a number. -/
theorem shiftBuffer_iff :
    ShiftBuffer v previous current ↔
      v.toNat % 2 ^ 24 = previous.toNat * 2 ^ 16 + current.toNat * 2 ^ 8 := by
  have hprevious := previous.toNat_lt
  have hcurrent := current.toNat_lt
  constructor
  · rintro ⟨hp, hc, hn⟩
    rw [← UInt8.toNat_inj, toNat_byte_sixteen] at hp
    rw [← UInt8.toNat_inj, toNat_byte_eight] at hc
    rw [← UInt8.toNat_inj, UInt32.toNat_toUInt8, UInt8.toNat_zero] at hn
    omega
  · intro h
    refine ⟨UInt8.toNat_inj.1 ?_, UInt8.toNat_inj.1 ?_, UInt8.toNat_inj.1 ?_⟩
    · rw [toNat_byte_sixteen]
      omega
    · rw [toNat_byte_eight]
      omega
    · rw [UInt32.toNat_toUInt8, UInt8.toNat_zero]
      omega

/-- The next value is put where there is room for it. -/
theorem ShiftBuffer.toNat_or (h : ShiftBuffer v previous current) (b : UInt8) :
    (v ||| b.toUInt32).toNat = v.toNat + b.toNat := by
  have hroom : v.toNat % 256 = 0 := by
    rw [← UInt32.toNat_toUInt8, h.next, UInt8.toNat_zero]
  have hv : v.toNat = (v.toNat / 256) <<< 8 := by
    rw [Nat.shiftLeft_eq]
    omega
  rw [UInt32.toNat_or, UInt8.toNat_toUInt32, hv, ← Nat.shiftLeft_add_eq_or_of_lt b.toNat_lt]

/-- With the next value in its place, the previous one is still there. -/
theorem ShiftBuffer.or_previous (h : ShiftBuffer v previous current) (b : UInt8) :
    ((v ||| b.toUInt32) >>> 16).toUInt8 = previous := by
  have hb := b.toNat_lt
  have hnext : v.toNat % 256 = 0 := by rw [← UInt32.toNat_toUInt8, h.next, UInt8.toNat_zero]
  rw [← h.previous, ← UInt8.toNat_inj, toNat_byte_sixteen, toNat_byte_sixteen, h.toNat_or]
  omega

theorem ShiftBuffer.or_current (h : ShiftBuffer v previous current) (b : UInt8) :
    ((v ||| b.toUInt32) >>> 8).toUInt8 = current := by
  have hb := b.toNat_lt
  have hnext : v.toNat % 256 = 0 := by rw [← UInt32.toNat_toUInt8, h.next, UInt8.toNat_zero]
  rw [← h.current, ← UInt8.toNat_inj, toNat_byte_eight, toNat_byte_eight, h.toNat_or]
  omega

theorem ShiftBuffer.or_next (h : ShiftBuffer v previous current) (b : UInt8) :
    (v ||| b.toUInt32).toUInt8 = b := by
  rw [UInt32.toUInt8_or, h.next, UInt8.zero_or, UInt8.toUInt8_toUInt32]

/-- One column on. -/
theorem ShiftBuffer.shift (h : ShiftBuffer v previous current) (b : UInt8) :
    ShiftBuffer ((v ||| b.toUInt32) <<< 8) current b := by
  have hcurrent := h.or_current b
  have hnext := h.or_next b
  rw [← UInt8.toNat_inj, toNat_byte_eight] at hcurrent
  rw [← UInt8.toNat_inj, UInt32.toNat_toUInt8] at hnext
  rw [shiftBuffer_iff, UInt32.toNat_shiftLeft, Nat.shiftLeft_eq, ← hcurrent, ← hnext]
  show _ * 2 ^ 8 % 2 ^ 32 % 2 ^ 24 = _
  omega

/-- Two bytes where the previous value and the current one are. -/
theorem shiftBuffer_or {p c : UInt32} (hp : p.toNat = previous.toNat * 2 ^ 16)
    (hc : c.toNat = current.toNat * 2 ^ 8) : ShiftBuffer (c ||| p) previous current := by
  have hprevious := previous.toNat_lt
  have hcurrent := current.toNat_lt
  have hlow : current.toNat * 2 ^ 8 < 2 ^ 16 := by omega
  rw [shiftBuffer_iff, UInt32.toNat_or, hc, hp, Nat.or_comm, ← Nat.shiftLeft_eq _ 16,
    ← Nat.shiftLeft_add_eq_or_of_lt hlow, Nat.shiftLeft_eq]
  omega

/-- `hVals` in front of the left column. -/
theorem shiftBuffer_hVals (current next : UInt8) :
    ShiftBuffer (current.toUInt32 <<< 8 ||| next.toUInt32 <<< 16) next current := by
  have hcurrent := current.toNat_lt
  have hnext := next.toNat_lt
  refine shiftBuffer_or ?_ ?_
  · rw [UInt32.toNat_shiftLeft, UInt8.toNat_toUInt32, Nat.shiftLeft_eq]
    exact Nat.mod_eq_of_lt (by show _ * 2 ^ 16 < _; omega)
  · rw [UInt32.toNat_shiftLeft, UInt8.toNat_toUInt32, Nat.shiftLeft_eq]
    exact Nat.mod_eq_of_lt (by show _ * 2 ^ 8 < _; omega)

/-- Taking bits out is taking them out where they are. -/
theorem and_shiftLeft (x m k : ℕ) : x &&& m <<< k = (x >>> k &&& m) <<< k := by
  refine Nat.eq_of_testBit_eq fun i ↦ ?_
  rw [Nat.testBit_and, Nat.testBit_shiftLeft, Nat.testBit_shiftLeft, Nat.testBit_and,
    Nat.testBit_shiftRight]
  by_cases hi : k ≤ i <;> simp [hi]

/-- The sum of two bytes, shifted by a place less than to where it is cut off, is their average. -/
theorem and_byte_eq (a b : UInt8) (k : ℕ) :
    (a.toNat + b.toNat) <<< (7 + k) &&& 0xFF <<< (8 + k) = (halfSum a b).toNat <<< (8 + k) := by
  have ha := a.toNat_lt
  have hb := b.toNat_lt
  have hpow : 2 ^ (8 + k) = 2 ^ (7 + k) * 2 := by rw [← Nat.pow_succ, Nat.succ_add]
  have hhalf : (a.toNat + b.toNat) <<< (7 + k) >>> (8 + k) = (halfSum a b).toNat := by
    rw [Nat.shiftLeft_eq, Nat.shiftRight_eq_div_pow, hpow, Nat.mul_comm _ (2 ^ (7 + k)),
      Nat.mul_div_mul_left _ _ (Nat.two_pow_pos _), toNat_halfSum]
  rw [and_shiftLeft, hhalf]
  exact congrArg (· <<< (8 + k))
    ((Nat.and_two_pow_sub_one_eq_mod _ 8).trans (Nat.mod_eq_of_lt (halfSum a b).toNat_lt))

/-- The sum of two bytes fits a word. -/
theorem toNat_sum (a b : UInt8) : (a.toUInt32 + b.toUInt32).toNat = a.toNat + b.toNat := by
  have ha := a.toNat_lt
  have hb := b.toNat_lt
  rw [UInt32.toNat_add, UInt8.toNat_toUInt32, UInt8.toNat_toUInt32]
  omega

/-- `vSums` in front of the left column. -/
theorem shiftBuffer_vSums (a b a' b' : UInt8) :
    ShiftBuffer (((a.toUInt32 + b.toUInt32) <<< 7 &&& (0xFF00 : UInt32)) |||
      ((a'.toUInt32 + b'.toUInt32) <<< 15 &&& (0xFF0000 : UInt32))) (halfSum a' b')
        (halfSum a b) := by
  have ha := a.toNat_lt
  have hb := b.toNat_lt
  have ha' := a'.toNat_lt
  have hb' := b'.toNat_lt
  refine shiftBuffer_or ?_ ?_
  · rw [UInt32.toNat_and, UInt32.toNat_shiftLeft, toNat_sum, ← Nat.shiftLeft_eq,
      ← and_byte_eq a' b' 8, Nat.mod_eq_of_lt]
    · rfl
    · rw [Nat.shiftLeft_eq]
      show _ * 2 ^ 15 < _
      omega
  · rw [UInt32.toNat_and, UInt32.toNat_shiftLeft, toNat_sum, ← Nat.shiftLeft_eq,
      ← and_byte_eq a b 0, Nat.mod_eq_of_lt]
    · rfl
    · rw [Nat.shiftLeft_eq]
      show _ * 2 ^ 7 < _
      omega

end ShiftBuffer

/-! ### A line

The inner loop, between the column in front of it and the one behind it. -/

section Line

variable {raw : Bytes} {width height x y : ℕ} {s : BayerFilter}

/-- The average of the values above and below, as the code keeps it. -/
def verticalByte (raw : Bytes) (width height y x : ℕ) : UInt8 :=
  halfSum (raw (mirrorPred y * width + x)) (raw (mirrorSucc height y * width + x))

/-- It is the average of the specification. -/
theorem toNat_verticalByte :
    (verticalByte raw width height y x).toNat = verticalAverage raw width height x y :=
  toNat_halfSum _ _

/-- In front of column `x` of line `y`, with the values of this column in the shift-buffers. -/
structure BayerFilter.At (raw : Bytes) (width height y x : ℕ) (s : BayerFilter) : Prop where
  prevLine : s.prevLine = mirrorPred y * width + (x + 1)
  curLine : s.curLine = y * width + (x + 1)
  nextLine : s.nextLine = mirrorSucc height y * width + (x + 1)
  hVals : ShiftBuffer s.hVals (raw (y * width + mirrorPred x)) (raw (y * width + x))
  vSums : ShiftBuffer s.vSums (verticalByte raw width height y (mirrorPred x))
    (verticalByte raw width height y x)

/-- The offsets at column `x` of the lines of line `y`. -/
def lineOffsets (width height y x : ℕ) : List ℕ :=
  [y * width + x, mirrorPred y * width + x, mirrorSucc height y * width + x]

/-- What is read, and what is written, as numbers. -/
def BayerOut.values (o : BayerOut) : List ℕ × List ℕ := (o.reads, o.written.map UInt8.toNat)

/-- **The four configurations** are what the specification says, if the averages are. -/
theorem map_bayerConfiguration {hSum diagonal : UInt8} {hVals vSums : UInt32}
    (hhSum : hSum.toNat = horizontalAverage raw width x y)
    (hdiagonal : diagonal.toNat = cornerAverage raw width height x y)
    (hcurrent : (hVals >>> 8).toUInt8 = raw (y * width + x))
    (hvertical : (vSums >>> 8).toUInt8 = verticalByte raw width height y x) :
    (bayerConfiguration (y &&& 1) x hSum diagonal hVals vSums).map UInt8.toNat =
      bayerTriple raw width height y x := by
  have hcross : (halfSum hSum (verticalByte raw width height y x)).toNat =
      crossAverage raw width height x y := by
    rw [toNat_halfSum, hhSum, toNat_verticalByte, crossAverage]
  rw [bayerConfiguration, bayerTriple]
  simp only [Nat.and_one_is_mod, hcurrent, hvertical]
  split_ifs <;>
    simp only [List.map_cons, List.map_nil, hcross, hhSum, hdiagonal, toNat_verticalByte, bayerAt]

/-- Inside a line there is a neighbour before. -/
theorem mirrorPred_succ (i : ℕ) : mirrorPred (i + 1) = i := rfl

theorem mirrorSucc_of_lt {n i : ℕ} (h : i + 1 < n) : mirrorSucc n i = i + 1 :=
  if_neg (Nat.ne_of_lt h)

/-- At the end it is the one before that is taken instead. -/
theorem mirrorSucc_last {n : ℕ} (h : 2 ≤ n) : mirrorSucc n (n - 1) = mirrorPred (n - 1) := by
  rw [mirrorSucc, if_pos (by omega), mirrorPred, if_neg (by omega)]
  rfl

/-- **A round of the inner loop**. -/
theorem BayerFilter.At.column (h : s.At raw width height y x) (hx : x + 1 < width) :
    (bayerColumn raw (y &&& 1) s x).1.At raw width height y (x + 1) ∧
      (bayerColumn raw (y &&& 1) s x).2.values =
        (lineOffsets width height y (x + 1), bayerTriple raw width height y x) := by
  have hnext : mirrorSucc width x = x + 1 := mirrorSucc_of_lt hx
  have hvertical : halfSum (raw s.prevLine) (raw s.nextLine) =
      verticalByte raw width height y (x + 1) := by
    rw [h.prevLine, h.nextLine, verticalByte]
  refine ⟨⟨?_, ?_, ?_, ?_, ?_⟩, Prod.ext_iff.2 ⟨?_, ?_⟩⟩
  · exact congrArg (· + 1) h.prevLine
  · exact congrArg (· + 1) h.curLine
  · exact congrArg (· + 1) h.nextLine
  · rw [mirrorPred_succ, ← h.curLine]
    exact h.hVals.shift _
  · rw [mirrorPred_succ, ← hvertical]
    exact h.vSums.shift _
  · show [s.curLine, s.prevLine, s.nextLine] = _
    rw [h.curLine, h.prevLine, h.nextLine, lineOffsets]
  · refine map_bayerConfiguration ?_ ?_ (h.hVals.or_current _) (h.vSums.or_current _)
    · rw [toNat_halfSum, h.hVals.or_previous, h.hVals.or_next, h.curLine, horizontalAverage,
        bayerAt, bayerAt, hnext]
    · rw [toNat_halfSum, h.vSums.or_previous, h.vSums.or_next, hvertical, toNat_verticalByte,
        toNat_verticalByte, cornerAverage, hnext]

/-- **The right column**, whose right neighbour is the left one. -/
theorem BayerFilter.At.lastColumn (hwidth : 2 ≤ width)
    (h : s.At raw width height y (width - 1)) :
    (bayerLastColumn (y &&& 1) (width - 1) s).2.values =
      ([], bayerTriple raw width height y (width - 1)) := by
  refine Prod.ext_iff.2 ⟨rfl, ?_⟩
  refine map_bayerConfiguration ?_ ?_ (h.hVals.or_current _) (h.vSums.or_current _)
  · rw [h.hVals.or_next, h.hVals.previous, horizontalAverage, bayerAt, bayerAt,
      mirrorSucc_last hwidth]
    omega
  · rw [h.vSums.or_next, h.vSums.previous, toNat_verticalByte, cornerAverage,
      mirrorSucc_last hwidth]
    omega

/-- In front of line `y`. In the top line there is no previous one yet, and in the next one it is
taken from the current one. -/
structure BayerFilter.AtRow (width y : ℕ) (s : BayerFilter) : Prop where
  curLine : s.curLine = y * width
  nextLine : s.nextLine = (y + 1) * width
  prevLine : 2 ≤ y → s.prevLine = (y - 1) * width

/-- The pointers in front of the first line. -/
theorem BayerFilter.atRow_start : (BayerFilter.start width).AtRow width 0 where
  curLine := (Nat.zero_mul width).symm
  nextLine := (Nat.one_mul width).symm
  prevLine h := absurd h (by decide)

/-- **The three lines** are the line and its neighbours. -/
theorem BayerFilter.AtRow.lines (h : s.AtRow width y) (hheight : 3 ≤ height) (hy : y < height) :
    (bayerLines width height y s).prevLine = mirrorPred y * width ∧
      (bayerLines width height y s).curLine = y * width ∧
      (bayerLines width height y s).nextLine = mirrorSucc height y * width := by
  rw [bayerLines]
  split_ifs with hinner htop
  · obtain ⟨hpos, hlt⟩ := hinner
    have hpred : mirrorPred y = y - 1 := if_neg (Nat.ne_of_gt hpos)
    refine ⟨?_, h.curLine, ?_⟩
    · rw [hpred, Nat.sub_mul, Nat.one_mul, ← h.curLine]
    · rw [mirrorSucc_of_lt (by omega)]
      exact h.nextLine
  · subst htop
    rw [mirrorSucc_of_lt (by omega)]
    exact ⟨h.nextLine, h.curLine, h.nextLine⟩
  · have hlast : y = height - 1 := by omega
    have hprev : s.prevLine = mirrorPred y * width := by
      rw [mirrorPred, if_neg htop]
      exact h.prevLine (by omega)
    refine ⟨hprev, h.curLine, ?_⟩
    rw [hlast, mirrorSucc_last (by omega), ← hlast]
    exact hprev

/-- **The left column**, whose left neighbour is the right one. -/
theorem BayerFilter.AtRow.firstColumn (h : s.AtRow width y) (hheight : 3 ≤ height)
    (hy : y < height) :
    (bayerFirstColumn raw (bayerLines width height y s)).1.At raw width height y 0 := by
  obtain ⟨hprev, hcur, hnext⟩ := h.lines hheight hy
  refine ⟨?_, ?_, ?_, ?_, ?_⟩
  · exact congrArg (· + 1) hprev
  · exact congrArg (· + 1) hcur
  · exact congrArg (· + 1) hnext
  · rw [← hcur]
    exact shiftBuffer_hVals _ _
  · rw [verticalByte, verticalByte, ← hprev, ← hnext]
    exact shiftBuffer_vSums _ _ _ _

/-- What is read in front of the left column: two columns of each line. -/
def firstOffsets (width height y : ℕ) : List ℕ :=
  [y * width, y * width + 1, mirrorPred y * width, mirrorSucc height y * width,
    mirrorPred y * width + 1, mirrorSucc height y * width + 1]

/-- What is read for the left column; nothing is written yet. -/
theorem BayerFilter.AtRow.values_firstColumn (h : s.AtRow width y) (hheight : 3 ≤ height)
    (hy : y < height) :
    (bayerFirstColumn raw (bayerLines width height y s)).2.values =
      (firstOffsets width height y, []) := by
  obtain ⟨hprev, hcur, hnext⟩ := h.lines hheight hy
  simp only [bayerFirstColumn, BayerOut.values, hprev, hcur, hnext, List.map_nil]
  rfl

/-- What pieces of output read and write is what each of them does. -/
theorem BayerOut.values_flatten (os : List BayerOut) :
    (BayerOut.flatten os).values =
      ((os.map BayerOut.values).flatMap Prod.fst, (os.map BayerOut.values).flatMap Prod.snd) := by
  rw [List.flatMap_map, List.flatMap_map, BayerOut.values, BayerOut.flatten, List.map_flatMap]
  rfl

/-- What is read for a line. -/
def rowOffsets (width height y : ℕ) : List ℕ :=
  firstOffsets width height y ++
    (List.range (width - 1)).flatMap fun x ↦ lineOffsets width height y (x + 1)

/-- The inner loop. -/
theorem BayerFilter.AtRow.columns (raw : Bytes) (h : s.AtRow width y) (hheight : 3 ≤ height)
    (hy : y < height) :
    let first := (bayerFirstColumn raw (bayerLines width height y s)).1
    (Mealy.run (bayerColumn raw (y &&& 1)) first (List.range (width - 1))).At raw width height y
        (width - 1) ∧
      (Mealy.trace (bayerColumn raw (y &&& 1)) first (List.range (width - 1))).map
          BayerOut.values =
        (List.range (width - 1)).map fun x ↦
          (lineOffsets width height y (x + 1), bayerTriple raw width height y x) :=
  Mealy.run_range (h.firstColumn hheight hy) fun x s hx hs ↦ hs.column (by omega)

/-- **A round of the outer loop** writes the pixels of the line. -/
theorem BayerFilter.AtRow.values_row (h : s.AtRow width y) (hwidth : 2 ≤ width)
    (hheight : 3 ≤ height) (hy : y < height) :
    (bayerRow raw width height s y).2.values =
      (rowOffsets width height y, (List.range width).flatMap (bayerTriple raw width height y)) := by
  obtain ⟨hat, hinner⟩ := h.columns raw hheight hy
  have hcolumns : List.range width = List.range (width - 1) ++ [width - 1] := by
    rw [← List.range_succ, Nat.succ_eq_add_one, Nat.sub_add_cancel (by omega)]
  rw [hcolumns, bayerRow, BayerOut.values_flatten, List.map_append, List.map_cons, hinner,
    List.map_cons, List.map_nil, hat.lastColumn hwidth, h.values_firstColumn hheight hy]
  simp only [List.cons_append, List.flatMap_cons, List.flatMap_append, List.flatMap_nil,
    List.flatMap_map, List.append_nil, List.nil_append, rowOffsets]

/-- The pointers behind a line. -/
theorem BayerFilter.AtRow.next (h : s.AtRow width y) (hwidth : 2 ≤ width) (hheight : 3 ≤ height)
    (hy : y + 1 < height) : (bayerRow raw width height s y).1.AtRow width (y + 1) := by
  obtain ⟨hat, -⟩ := h.columns raw hheight (Nat.lt_of_succ_lt hy)
  have hwidth' : width - 1 + 1 = width := by omega
  refine ⟨?_, ?_, fun hpos ↦ ?_⟩
  · refine hat.curLine.trans ?_
    rw [hwidth', Nat.succ_mul]
  · refine hat.nextLine.trans ?_
    rw [hwidth', mirrorSucc_of_lt hy, Nat.succ_mul (y + 1)]
  · refine hat.prevLine.trans ?_
    have hpred : mirrorPred y = y - 1 := if_neg (by omega)
    rw [hwidth', hpred, ← Nat.succ_mul, Nat.succ_eq_add_one]
    congr 1
    omega

end Line

/-! ### The image

The outer loop over the lines, and where all that is read lies. -/

section Image

variable (raw : Bytes) {width height : ℕ}

/-- The lines next to a line of the image are lines of the image. -/
theorem lt_of_mem_lineOffsets {x y k : ℕ} (hheight : 3 ≤ height) (hx : x < width) (hy : y < height)
    (hk : k ∈ lineOffsets width height y x) : k < width * height := by
  have hinside : ∀ j < height, j * width + x < width * height := fun j hj ↦
    calc j * width + x < j * width + width := Nat.add_lt_add_left hx _
      _ = (j + 1) * width := (Nat.succ_mul j width).symm
      _ ≤ height * width := Nat.mul_le_mul_right width hj
      _ = width * height := Nat.mul_comm height width
  have hpred : mirrorPred y < height := by
    rw [mirrorPred]
    split
    · omega
    · omega
  have hsucc : mirrorSucc height y < height := by
    rw [mirrorSucc]
    split
    · omega
    · omega
  simp only [lineOffsets, List.mem_cons, List.not_mem_nil, or_false] at hk
  obtain rfl | rfl | rfl := hk
  · exact hinside y hy
  · exact hinside _ hpred
  · exact hinside _ hsucc

/-- What `convert_bayer_to_rgb` is to do. -/
structure BayerConverted (width height : ℕ) : Prop where
  /-- Each pixel has its colours, line by line. -/
  pixels : (convertBayerToRgb raw width height).written.map UInt8.toNat =
    (List.range height).flatMap fun y ↦
      (List.range width).flatMap (bayerTriple raw width height y)
  /-- The whole image is written, and nothing else. -/
  size : (convertBayerToRgb raw width height).written.length = 3 * width * height
  /-- Nothing outside the image is read. -/
  reads : ∀ k ∈ (convertBayerToRgb raw width height).reads, k < width * height

/-- A pixel has three bytes. -/
theorem length_bayerTriple (y x : ℕ) : (bayerTriple raw width height y x).length = 3 := by
  rw [bayerTriple]
  split_ifs <;> rfl

/-- And a picture as many for each pixel. -/
theorem length_pixels (width height : ℕ) :
    ((List.range height).flatMap fun y ↦
      (List.range width).flatMap (bayerTriple raw width height y)).length = 3 * width * height := by
  simp only [List.length_flatMap, length_bayerTriple, List.map_const', List.length_range,
    List.sum_replicate_nat]
  rw [Nat.mul_comm, Nat.mul_comm width]

/-- What is read for a line is read for one of its columns. -/
theorem mem_rowOffsets {y k : ℕ} (hwidth : 2 ≤ width) (hk : k ∈ rowOffsets width height y) :
    ∃ x < width, k ∈ lineOffsets width height y x := by
  rw [rowOffsets, List.mem_append, List.mem_flatMap] at hk
  obtain hfirst | ⟨x, hx, hline⟩ := hk
  · have hcolumns : k ∈ lineOffsets width height y 0 ∨ k ∈ lineOffsets width height y 1 := by
      simp only [firstOffsets, lineOffsets, List.mem_cons] at hfirst ⊢
      grind
    exact hcolumns.elim (⟨0, by omega, ·⟩) (⟨1, by omega, ·⟩)
  · exact ⟨x + 1, Nat.add_lt_of_lt_sub (List.mem_range.1 hx), hline⟩

/-- **The streaming Bayer filter is the per-pixel definition.** -/
theorem bayer_converted (hwidth : 2 ≤ width) (hheight : 3 ≤ height) :
    BayerConverted raw width height := by
  have htrace : (Mealy.trace (bayerRow raw width height) (.start width) (List.range height)).map
      BayerOut.values = (List.range height).map fun y ↦
        (rowOffsets width height y,
          (List.range width).flatMap (bayerTriple raw width height y)) :=
    (Mealy.run_range (I := fun y s ↦ y < height → s.AtRow width y)
      (fun _ ↦ BayerFilter.atRow_start) fun y s hy hs ↦
        ⟨(hs hy).next hwidth hheight, (hs hy).values_row hwidth hheight hy⟩).2
  have hvalues : (convertBayerToRgb raw width height).values =
      ((List.range height).flatMap (rowOffsets width height),
        (List.range height).flatMap fun y ↦
          (List.range width).flatMap (bayerTriple raw width height y)) := by
    rw [convertBayerToRgb, BayerOut.values_flatten, htrace, List.flatMap_map, List.flatMap_map]
  have hreads : (convertBayerToRgb raw width height).reads =
      (List.range height).flatMap (rowOffsets width height) := congrArg Prod.fst hvalues
  have hwritten := congrArg Prod.snd hvalues
  refine ⟨hwritten, ?_, fun k hk ↦ ?_⟩
  · rw [← length_pixels raw]
    exact (List.length_map _).symm.trans (congrArg List.length hwritten)
  · rw [hreads] at hk
    obtain ⟨y, hy, hk⟩ := List.mem_flatMap.1 hk
    obtain ⟨x, hx, hk⟩ := mem_rowOffsets hwidth hk
    exact lt_of_mem_lineOffsets hheight hx (List.mem_range.1 hy) hk

/-- A picture of two columns and three lines. -/
theorem bayer_converted_two_by_three :
    BayerConverted (fun k ↦ UInt8.ofNat (40 * k)) 2 3 :=
  bayer_converted (fun k ↦ UInt8.ofNat (40 * k)) (by decide) (by decide)

end Image

end Freenect
