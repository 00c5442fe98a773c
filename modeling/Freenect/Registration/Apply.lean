import Freenect.Library.Blocks
import Freenect.Library.DepthBuffer
import Freenect.Library.Runs
import Freenect.Registration.Tables
import Freenect.Registration.Unpack
import Mathlib.Tactic.Common

/-!
# Applying the registration to a frame

`freenect_apply_registration`, `freenect_apply_depth_to_mm` and
`freenect_apply_depth_unpacked_to_mm`. The loops run over the pixels in the order of the source; the
state of a loop is the eight-pixel cache and the output memory, and `freenect_apply_registration`
also reports each access to the output that it makes. An index is a `uint32_t` and may lie outside
the image, so the output is memory from `output_mm` on, not an array.

`applyRegistration_eq` gives the loop its meaning: a depth buffer over the wiped output, filled with
the contributions of the pixels in order. It holds for packed and for unpacked input, with
`DepthInput.rawAt` the raw value of a pixel in either.

The loops are run as machines with output (`Mealy`), whose run lemmas are `run_registerStep` and
`run_depthToMmStep`: after `n` pixels the cache stands in front of pixel `n`, and the output is what
the first `n` pixels have made of it. The step of the first is `registerStep_eq`, which says in one
place what a pixel does, and the second is the same with a conversion in place of the test.
-/

namespace Freenect

/-- The `input` of `freenect_apply_registration`, which is a packed frame or, with the flag
`unpacked`, an array of 16-bit raw values. -/
inductive DepthInput
  | packed (raw : Bytes)
  | unpacked (frame : ℕ → UInt16)

/-- The raw value of a pixel. -/
def DepthInput.rawAt : DepthInput → ℕ → UInt16
  | packed raw => packedPixel raw
  | unpacked frame => frame

/-- The indices of the pixels in the order of the two nested loops. -/
def pixels : List ℕ :=
  (List.range depthYRes).flatMap fun y ↦ (List.range depthXRes).map fun x ↦ y * depthXRes + x

/-- `DEPTH_X_RES * DEPTH_Y_RES`, the number of cells of an image. -/
def pixelCount : ℕ := depthYRes * depthXRes

/-- The two nested loops go through the indices in order. -/
theorem pixels_eq : pixels = List.range pixelCount := ListBlocks.flatMap_range _ _

/-! ### `freenect_apply_registration` -/

section Target

variable (pad : RegPadInfo) (t : RegistrationTables) (index : ℕ) (metricDepth : UInt16)

/-- `nx`, the column of a pixel in the registered image: the quotient truncates, and is read as
unsigned. -/
def registeredX : UInt32 :=
  (((t.registrationTable index).1 + t.depthToRgbShift metricDepth.toNat) / 256).toUInt32

/-- `ny`. -/
def registeredY : UInt32 := (t.registrationTable index).2.toUInt32

/-- `target_offset`. -/
def targetOffset : UInt32 := UInt32.ofNat (depthYRes * pad.startLines.toNat)

/-- `target_index`, in 32-bit unsigned arithmetic. -/
def targetIndex : UInt32 :=
  registeredY t index * UInt32.ofNat depthXRes + registeredX t index metricDepth - targetOffset pad

end Target

/-- An access to the output: the pixel that makes it, the index, and whether it is written after it
was read. -/
structure Access where
  pixel : ℕ
  target : ℕ
  write : Bool
  deriving DecidableEq, Repr

/-- `output_mm[i] = d`. -/
def setCell (out : ℕ → UInt16) (i : ℕ) (d : UInt16) : ℕ → UInt16 := fun j ↦
  if j = i then d else out j

/-- The loop body of `freenect_apply_registration` from the metric depth on. -/
def registerPixel (pad : RegPadInfo) (t : RegistrationTables) (index : ℕ) (metricDepth : UInt16)
    (out : ℕ → UInt16) : (ℕ → UInt16) × Option Access :=
  if metricDepth = depthNoMmValue then (out, none)
  else if depthMaxMetricValue ≤ metricDepth then (out, none)
  else if UInt32.ofNat depthXRes ≤ registeredX t index metricDepth then (out, none)
  else
    let target := (targetIndex pad t index metricDepth).toNat
    let currentDepth := out target
    if currentDepth = depthNoMmValue ∨ metricDepth < currentDepth then
      (setCell out target metricDepth, some { pixel := index, target := target, write := true })
    else (out, some { pixel := index, target := target, write := false })

/-- The state of a conversion loop. -/
structure ConversionState where
  unpacker : Unpacker
  outputMm : ℕ → UInt16

/-- The output after a conversion loop over some pixels. -/
def convertPixels {ο : Type} (step : ConversionState → ℕ → ConversionState × ο)
    (out : ℕ → UInt16) (ps : List ℕ) : ℕ → UInt16 :=
  (Mealy.run step { unpacker := .start, outputMm := out } ps).outputMm

/-- The next raw value of the input. -/
def DepthInput.next (input : DepthInput) (u : Unpacker) (index : ℕ) : Unpacker × UInt16 :=
  match input with
  | unpacked frame => (u, frame index)
  | packed raw => u.next raw

/-- The loop body of `freenect_apply_registration`. -/
def registerStep (pad : RegPadInfo) (t : RegistrationTables) (input : DepthInput)
    (s : ConversionState) (index : ℕ) : ConversionState × Option Access :=
  let (u, raw) := input.next s.unpacker index
  let (out, access) := registerPixel pad t index (t.rawToMmShift raw.toNat) s.outputMm
  ({ unpacker := u, outputMm := out }, access)

/-- The wiping loop in front: the image is set to zero. -/
def wipe (out : ℕ → UInt16) : ℕ → UInt16 := fun i ↦
  if i < pixelCount then depthNoMmValue else out i

/-- `freenect_apply_registration`: the output afterwards. -/
def applyRegistration (pad : RegPadInfo) (t : RegistrationTables) (input : DepthInput)
    (out : ℕ → UInt16) : ℕ → UInt16 :=
  convertPixels (registerStep pad t input) (wipe out) pixels

/-- The accesses `freenect_apply_registration` makes to its output after wiping it. -/
def registrationAccesses (pad : RegPadInfo) (t : RegistrationTables) (input : DepthInput)
    (out : ℕ → UInt16) : List Access :=
  (Mealy.trace (registerStep pad t input) { unpacker := .start, outputMm := wipe out }
    pixels).filterMap id

/-! ### `freenect_apply_depth_to_mm` and its unpacked twin -/

/-- The value both functions store. -/
def clampMm (metricDepth : UInt16) : UInt16 :=
  if metricDepth < depthMaxMetricValue then metricDepth else depthMaxMetricValue

/-- The loop body of both; the first reads packed, the second unpacked input. -/
def depthToMmStep (t : RegistrationTables) (input : DepthInput) (s : ConversionState)
    (index : ℕ) : ConversionState × Unit :=
  let (u, raw) := input.next s.unpacker index
  ({ unpacker := u, outputMm := setCell s.outputMm index (clampMm (t.rawToMmShift raw.toNat)) }, ())

/-- `freenect_apply_depth_to_mm`. -/
def applyDepthToMm (t : RegistrationTables) (inputPacked : Bytes) (out : ℕ → UInt16) :
    ℕ → UInt16 :=
  convertPixels (depthToMmStep t (.packed inputPacked)) out pixels

/-- `freenect_apply_depth_unpacked_to_mm`. -/
def applyDepthUnpackedToMm (t : RegistrationTables) (input : ℕ → UInt16) (out : ℕ → UInt16) :
    ℕ → UInt16 :=
  convertPixels (depthToMmStep t (.unpacked input)) out pixels

/-! ### What the loops compute

A pixel contributes a target and a depth, or nothing. The test in the loop body, which compares with
the depth that is already there, is the operation of a depth buffer. -/

/-- Depths are compared as unsigned 16-bit numbers. -/
instance linearOrderUInt16 : LinearOrder UInt16 where
  le_refl := UInt16.le_refl
  le_trans _ _ _ := UInt16.le_trans
  le_antisymm _ _ := UInt16.le_antisymm
  le_total := UInt16.le_total
  lt_iff_le_not_ge a b := by
    rw [UInt16.not_le]
    exact ⟨fun h ↦ ⟨UInt16.le_of_lt h, h⟩, And.right⟩
  toDecidableLE := inferInstance
  toDecidableEq := inferInstance
  toDecidableLT := inferInstance

section Loops

variable {pad : RegPadInfo} {t : RegistrationTables} {input : DepthInput} {out : ℕ → UInt16}
  {index : ℕ} {metricDepth : UInt16}

/-- The cache stands in front of pixel `i`; unpacked input does not use it. -/
def DepthInput.Ready (input : DepthInput) (i : ℕ) (u : Unpacker) : Prop :=
  match input with
  | packed raw => u.At raw i
  | unpacked _ => True

/-- The cache in front of the first pixel. -/
theorem DepthInput.ready_start (input : DepthInput) : input.Ready 0 .start := by
  cases input with
  | packed raw => exact Unpacker.at_start
  | unpacked frame => trivial

/-- The next raw value is the pixel's, whichever way the input is read. -/
theorem DepthInput.Ready.next {i : ℕ} {u : Unpacker} (h : input.Ready i u) :
    (input.next u i).2 = input.rawAt i ∧ input.Ready (i + 1) (input.next u i).1 := by
  cases input with
  | packed raw => exact Unpacker.At.next h
  | unpacked frame => exact ⟨rfl, trivial⟩

/-- A pixel with a depth whose column is inside the image. -/
def Contributes (t : RegistrationTables) (index : ℕ) (metricDepth : UInt16) : Prop :=
  metricDepth ≠ depthNoMmValue ∧ metricDepth < depthMaxMetricValue ∧
    registeredX t index metricDepth < UInt32.ofNat depthXRes

instance : Decidable (Contributes t index metricDepth) :=
  inferInstanceAs (Decidable (_ ∧ _ ∧ _))

/-- What a pixel puts into the output: its target and its depth. -/
def contribution (pad : RegPadInfo) (t : RegistrationTables) (input : DepthInput) (index : ℕ) :
    Option (ℕ × UInt16) :=
  let metricDepth := t.rawToMmShift (input.rawAt index).toNat
  if Contributes t index metricDepth then
    some ((targetIndex pad t index metricDepth).toNat, metricDepth)
  else none

/-- The contributions of the first `n` pixels. -/
def contributions (pad : RegPadInfo) (t : RegistrationTables) (input : DepthInput) (n : ℕ) :
    List (ℕ × UInt16) :=
  (List.range n).filterMap (contribution pad t input)

/-- The output when the first `n` pixels have been registered. -/
def outputAfter (pad : RegPadInfo) (t : RegistrationTables) (input : DepthInput)
    (out : ℕ → UInt16) (n : ℕ) : ℕ → UInt16 :=
  DepthBuffer.fill depthNoMmValue (wipe out) (contributions pad t input n)

/-- One pixel more. -/
theorem outputAfter_succ (n : ℕ) :
    outputAfter pad t input out (n + 1) =
      match contribution pad t input n with
      | some p => DepthBuffer.put depthNoMmValue (outputAfter pad t input out n) p
      | none => outputAfter pad t input out n := by
  simp only [outputAfter, contributions]
  rw [List.range_succ, List.filterMap_append, DepthBuffer.fill_append]
  cases h : contribution pad t input n <;> simp [h]

/-- A pixel that does not contribute leaves the output alone. -/
theorem registerPixel_of_not_contributes (h : ¬ Contributes t index metricDepth) :
    registerPixel pad t index metricDepth out = (out, none) := by
  rw [registerPixel]
  by_cases h0 : metricDepth = depthNoMmValue
  · rw [if_pos h0]
  rw [if_neg h0]
  by_cases hmax : depthMaxMetricValue ≤ metricDepth
  · rw [if_pos hmax]
  rw [if_neg hmax]
  refine if_pos (UInt32.not_lt.1 fun hx ↦ h ⟨h0, UInt16.not_le.1 hmax, hx⟩)

/-- A contributing pixel puts its depth and reports the access. -/
theorem registerPixel_of_contributes (h : Contributes t index metricDepth) :
    registerPixel pad t index metricDepth out =
      (DepthBuffer.put depthNoMmValue out
          ((targetIndex pad t index metricDepth).toNat, metricDepth),
        some
          { pixel := index
            target := (targetIndex pad t index metricDepth).toNat
            write := decide (out (targetIndex pad t index metricDepth).toNat = depthNoMmValue ∨
              metricDepth < out (targetIndex pad t index metricDepth).toNat) }) := by
  obtain ⟨h0, hmax, hx⟩ := h
  rw [registerPixel]
  rw [if_neg h0, if_neg (UInt16.not_le.2 hmax), if_neg (UInt32.not_le.2 hx)]
  rw [DepthBuffer.put]
  by_cases hput : out (targetIndex pad t index metricDepth).toNat = depthNoMmValue ∨
      metricDepth < out (targetIndex pad t index metricDepth).toNat
  · simp only [hput, decide_true, if_true]
    rfl
  · simp only [hput, decide_false, if_false]

/-- The access of pixel `n`, if it contributes. -/
def accessOf (pad : RegPadInfo) (t : RegistrationTables) (input : DepthInput) (out : ℕ → UInt16)
    (n : ℕ) : Option Access :=
  (contribution pad t input n).map fun p ↦
    { pixel := n
      target := p.1
      write := decide (outputAfter pad t input out n p.1 = depthNoMmValue ∨
        p.2 < outputAfter pad t input out n p.1) }

/-- **One pixel of the registration loop.** -/
theorem registerStep_eq {n : ℕ} {u : Unpacker} (h : input.Ready n u) :
    registerStep pad t input { unpacker := u, outputMm := outputAfter pad t input out n } n =
      ({ unpacker := (input.next u n).1, outputMm := outputAfter pad t input out (n + 1) },
        accessOf pad t input out n) := by
  have hraw := h.next.1
  by_cases hc : Contributes t n (t.rawToMmShift (input.rawAt n).toNat)
  · have hcon : contribution pad t input n =
        some ((targetIndex pad t n (t.rawToMmShift (input.rawAt n).toNat)).toNat,
          t.rawToMmShift (input.rawAt n).toNat) := if_pos hc
    simp only [registerStep, hraw, registerPixel_of_contributes hc, outputAfter_succ, hcon,
      accessOf]
    rfl
  · have hcon : contribution pad t input n = none := if_neg hc
    simp only [registerStep, hraw, registerPixel_of_not_contributes hc, outputAfter_succ, hcon,
      accessOf]
    rfl

/-- The run lemma: after `n` pixels. -/
theorem run_registerStep (pad : RegPadInfo) (t : RegistrationTables) (input : DepthInput)
    (out : ℕ → UInt16) (n : ℕ) :
    ∃ u, input.Ready n u ∧
      Mealy.run (registerStep pad t input) { unpacker := .start, outputMm := wipe out }
        (List.range n) = { unpacker := u, outputMm := outputAfter pad t input out n } ∧
      Mealy.trace (registerStep pad t input) { unpacker := .start, outputMm := wipe out }
        (List.range n) = (List.range n).map (accessOf pad t input out) := by
  induction n with
  | zero => exact ⟨.start, input.ready_start, rfl, rfl⟩
  | succ n ih =>
    obtain ⟨u, hready, hrun, htrace⟩ := ih
    refine ⟨_, hready.next.2, ?_, ?_⟩
    · rw [List.range_succ, Mealy.run_append, hrun, Mealy.run_cons, registerStep_eq hready]
      rfl
    · rw [List.range_succ, Mealy.trace_append, hrun, htrace, Mealy.trace_cons,
        registerStep_eq hready, List.map_append]
      rfl

/-- The output of the loop over the first `n` pixels. -/
theorem convertPixels_registerStep (n : ℕ) :
    convertPixels (registerStep pad t input) (wipe out) (List.range n) =
      outputAfter pad t input out n := by
  obtain ⟨u, -, hrun, -⟩ := run_registerStep pad t input out n
  rw [convertPixels, hrun]

/-- **`freenect_apply_registration` fills a depth buffer** with the contributions of all pixels. -/
theorem applyRegistration_eq :
    applyRegistration pad t input out = outputAfter pad t input out pixelCount := by
  rw [applyRegistration, pixels_eq, convertPixels_registerStep]

/-- The accesses are those of the pixels that contribute. -/
theorem mem_registrationAccesses {a : Access} :
    a ∈ registrationAccesses pad t input out ↔
      ∃ n < pixelCount, accessOf pad t input out n = some a := by
  obtain ⟨u, -, -, htrace⟩ := run_registerStep pad t input out
    pixelCount
  rw [registrationAccesses, pixels_eq, htrace, List.filterMap_map, List.mem_filterMap]
  simp only [List.mem_range, Function.comp_apply, id]

/-- The run lemma of the two conversions to millimetres. -/
theorem run_depthToMmStep (t : RegistrationTables) (input : DepthInput) (out : ℕ → UInt16)
    (n : ℕ) :
    ∃ u, input.Ready n u ∧
      Mealy.run (depthToMmStep t input) { unpacker := .start, outputMm := out } (List.range n) =
        { unpacker := u
          outputMm := fun i ↦
            if i < n then clampMm (t.rawToMmShift (input.rawAt i).toNat) else out i } := by
  induction n with
  | zero => exact ⟨.start, input.ready_start, rfl⟩
  | succ n ih =>
    obtain ⟨u, hready, hrun⟩ := ih
    refine ⟨_, hready.next.2, ?_⟩
    rw [List.range_succ, Mealy.run_append, hrun, Mealy.run_cons, Mealy.run_nil]
    simp only [depthToMmStep, hready.next.1, ConversionState.mk.injEq, true_and]
    funext i
    rcases Nat.lt_trichotomy i n with hlt | rfl | hgt
    · simp [setCell, hlt, hlt.ne, Nat.lt_succ_of_lt hlt]
    · simp [setCell]
    · simp [setCell, Nat.not_lt.2 hgt.le, hgt.ne', Nat.not_lt.2 (Nat.succ_le_of_lt hgt)]

/-- The output of the conversion loop over the first `n` pixels. -/
theorem convertPixels_depthToMmStep (n : ℕ) :
    convertPixels (depthToMmStep t input) out (List.range n) = fun i ↦
      if i < n then clampMm (t.rawToMmShift (input.rawAt i).toNat) else out i := by
  obtain ⟨u, -, hrun⟩ := run_depthToMmStep t input out n
  rw [convertPixels, hrun]

/-- Every pixel of the image is converted on its own. -/
theorem applyDepthToMm_eq {raw : Bytes} :
    applyDepthToMm t raw out = fun i ↦
      if i < pixelCount then clampMm (t.rawToMmShift (packedPixel raw i).toNat) else out i := by
  rw [applyDepthToMm, pixels_eq, convertPixels_depthToMmStep]
  rfl

/-- The same for unpacked input. -/
theorem applyDepthUnpackedToMm_eq {frame : ℕ → UInt16} :
    applyDepthUnpackedToMm t frame out = fun i ↦
      if i < pixelCount then clampMm (t.rawToMmShift (frame i).toNat) else out i := by
  rw [applyDepthUnpackedToMm, pixels_eq, convertPixels_depthToMmStep]
  rfl

end Loops

end Freenect
