import Freenect.Control.Setters
import Freenect.Library.Rounding
import Freenect.Library.Runs
import Mathlib.Data.Rat.Lemmas

/-!
# Saving and restoring the exposure

`freenect_get_exposure` and `freenect_set_exposure` convert between the shutter width in CMOS
register `0x0009` and a time in microseconds. The factor is not a whole number, and both conversions
are assignments of a `double` to an integer, which drop the fraction. So what is set to the time
that was got is the width that was there, or one less.

With exact arithmetic, `register_run` says what is left of a width after any number of rounds, and
`exposure_restored_iff` which widths stay as they are: those that have a whole number of
microseconds.

One round is got and set, with a read and a write of the register between. The proof is arithmetic:
`den_shutterWidthToExp` is the denominator of the factor for each format, and the library's lemma
about rounding down twice gives the width that comes back. A run repeats the round with the width it
left, and what is lost is lost once in each round until the width is a multiple of the denominator.
-/

namespace Freenect

/-! ### The getter -/

/-- What `freenect_get_exposure` returns, and what it stores in `*time_us`, if anything. -/
structure GotExposure where
  ret : ℤ
  timeUs : Option Int32

section Getter

variable (F : Type) (D : Type) [IntCast D] [Mul D] [OfScientific D] [FloatConversions F D]

/-- `freenect_get_exposure`. -/
def getExposure (big : Bool) (camTag : UInt16) (format : VideoFormat) (replybuf : ℕ → UInt8)
    (x : Exchange) : RegisterResult GotExposure :=
  (readCmosRegister big camTag 0x0009 replybuf x).andThen fun camTag shutterWidth ↦
    if shutterWidth = 0xFFFF then .pure camTag { ret := -1, timeUs := none }
    else
      match format.shutterWidthToExp (D := D) with
      | none => .pure camTag { ret := -1, timeUs := none }
      | some q =>
        let timeUs := FloatConversions.toInt32 F (((shutterWidth.toNat : ℤ) : D) * q)
        .pure camTag { ret := 0, timeUs := some timeUs }

end Getter

/-- The exposure is got, with the first exchange, and what was got is set, with the second. -/
def saveRestore (F D : Type) [IntCast D] [Mul D] [Div D] [OfScientific D] [FloatConversions F D]
    (d : SetterDevice) (a : SetterAnswers) : RegisterResult ℤ :=
  (getExposure F D d.big d.camTag d.videoFormat a.reply₁ a.x₁).andThen fun camTag got ↦
    match got.timeUs with
    | none => .pure camTag got.ret
    | some timeUs => setExposure F D d.big camTag d.videoFormat timeUs a.reply₂ a.x₂

/-- The device and the camera's shutter width. -/
structure ShutterState where
  device : SetterDevice
  shutterWidth : UInt16

namespace ShutterState

/-- A round, with exact arithmetic. The camera gets the commands that are sent. -/
def step (s : ShutterState) (a : SetterAnswers) : ShutterState × Option ℤ :=
  let r := saveRestore ℚ ℚ s.device a
  ({ device := { s.device with camTag := r.camTag }
     shutterWidth := r.sent.foldl (cmosRegisterAfter s.device.big 0x0009) s.shutterWidth },
    r.value)

/-- The transfers of a round succeed: the camera says what the register is, and acknowledges the
write. -/
structure Succeeds (s : ShutterState) (a : SetterAnswers) : Prop where
  res : 0 ≤ a.x₁.res
  read : a.x₁.Provides s.device.big s.device.camTag 0x95 2 s.shutterWidth
  write : ∃ n, RegisterWrite.Validated ⟨s.device.camTag + 1, 0x95, a.x₂⟩ n

end ShutterState

/-- A shutter width has a whole number of microseconds if it is a multiple of this: 54.21 has two
decimals, and four times 63.25 is whole. -/
def VideoFormat.wholeTime : VideoFormat → ℕ
  | .rgb | .bayer => 100
  | .yuvRgb | .yuvRaw => 4
  | .dummy | .ir8Bit | .ir10Bit | .ir10BitPacked => 1

/-! ### The two conversions

From a width to a time and back, each an assignment that drops the fraction. -/

section Conversions

variable {format : VideoFormat} {q : ℚ} {w : UInt16}

/-- The factor of a format. -/
theorem den_shutterWidthToExp (h : format.shutterWidthToExp = some q) :
    q.den = format.wholeTime ∧ 1 ≤ q ∧ q ≤ 64 := by
  cases format with
  | rgb | bayer =>
    have hq : (54.21 : ℚ) = mkRat 5421 100 := by norm_num [Rat.mkRat_eq_div]
    obtain rfl := Option.some.inj h
    rw [hq]
    decide
  | yuvRgb | yuvRaw =>
    have hq : (63.25 : ℚ) = mkRat 253 4 := by norm_num [Rat.mkRat_eq_div]
    obtain rfl := Option.some.inj h
    rw [hq]
    decide
  | dummy | ir8Bit | ir10Bit | ir10BitPacked => cases h

/-- The time that is got is the exact one, rounded down. -/
theorem toInt_toInt32_mul (h : format.shutterWidthToExp = some q) (w : UInt16) :
    (FloatConversions.toInt32 ℚ (((w.toNat : ℤ) : ℚ) * q)).toInt = ⌊((w.toNat : ℤ) : ℚ) * q⌋ := by
  obtain ⟨-, hone, hle⟩ := den_shutterWidthToExp h
  have hw : (0 : ℚ) ≤ (w.toNat : ℤ) := by exact_mod_cast Nat.zero_le _
  have hw' : ((w.toNat : ℤ) : ℚ) < 65536 := by exact_mod_cast w.toNat_lt
  have hnonneg : 0 ≤ ((w.toNat : ℤ) : ℚ) * q := mul_nonneg hw (zero_le_one.trans hone)
  have hlt : ((w.toNat : ℤ) : ℚ) * q < (65536 * 64 : ℤ) := by
    calc ((w.toNat : ℤ) : ℚ) * q
        ≤ ((w.toNat : ℤ) : ℚ) * 64 := mul_le_mul_of_nonneg_left hle hw
      _ < 65536 * 64 := by linarith
      _ = (65536 * 64 : ℤ) := by norm_num
  have hfloor : 0 ≤ ⌊((w.toNat : ℤ) : ℚ) * q⌋ := Int.floor_nonneg.2 hnonneg
  have hfloor' : ⌊((w.toNat : ℤ) : ℚ) * q⌋ < 65536 * 64 := Int.floor_lt.2 hlt
  show (Int32.ofInt (towardZero _)).toInt = _
  rw [towardZero_of_nonneg hnonneg]
  exact Int32.toInt_ofInt_of_le (by omega) (by omega)

/-- A width fits its 16 bits. -/
theorem toNat_ofInt_natCast {n : ℕ} (h : n < 2 ^ 16) : (UInt16.ofInt n).toNat = n := by
  have hmod : ((n : ℤ) % 2 ^ 16).toNat = n := by omega
  rw [UInt16.ofInt, hmod, UInt16.toNat_ofNat', Nat.mod_eq_of_lt h]

/-- **The width that is restored.** -/
theorem toNat_toUInt16_div (h : format.shutterWidthToExp = some q) (w : UInt16) :
    (FloatConversions.toUInt16 ℚ
        ((((FloatConversions.toInt32 ℚ (((w.toNat : ℤ) : ℚ) * q)).toInt : ℤ) : ℚ) / q)).toNat =
      if format.wholeTime ∣ w.toNat then w.toNat else w.toNat - 1 := by
  obtain ⟨hden, hone, -⟩ := den_shutterWidthToExp h
  have hpos : 0 < q := zero_lt_one.trans_le hone
  rw [toInt_toInt32_mul h]
  have hnonneg : 0 ≤ (⌊((w.toNat : ℤ) : ℚ) * q⌋ : ℚ) / q := by
    refine div_nonneg ?_ hpos.le
    exact_mod_cast Int.floor_nonneg.2 (mul_nonneg (by exact_mod_cast Nat.zero_le _) hpos.le)
  have hw : w.toNat < 2 ^ 16 := w.toNat_lt
  show (UInt16.ofInt (towardZero _)).toNat = _
  rw [towardZero_of_nonneg hnonneg, floor_div_floor_mul hone]
  simp only [floor_mul_eq_iff, hden, Int.natCast_dvd_natCast]
  split
  next hdvd => exact toNat_ofInt_natCast hw
  next hdvd =>
    have hne : w.toNat ≠ 0 := by
      rintro hzero
      exact hdvd (hzero ▸ dvd_zero _)
    have hpred : (w.toNat : ℤ) - 1 = (w.toNat - 1 : ℕ) := by omega
    rw [hpred]
    exact toNat_ofInt_natCast (by omega)

end Conversions

/-! ### Rounds

What a round does to the camera is read off the commands it sends, so that the camera keeps its own
register and the host no copy of it. -/

namespace ShutterState

variable {s : ShutterState} {a : SetterAnswers} {q : ℚ}

/-- What a round sends, and the tag after the read. -/
theorem sent_saveRestore (hq : s.device.videoFormat.shutterWidthToExp = some q)
    (hwidth : s.shutterWidth ≠ 0xFFFF) (hok : s.Succeeds a) :
    (saveRestore ℚ ℚ s.device a).sent =
      (readCmosRegister s.device.big s.device.camTag 0x0009 a.reply₁ a.x₁).sent ++
      (writeCmosRegister s.device.big (s.device.camTag + 1) 0x0009
        (FloatConversions.toUInt16 ℚ ((((FloatConversions.toInt32 ℚ
          (((s.shutterWidth.toNat : ℤ) : ℚ) * q)).toInt : ℤ) : ℚ) / q)) a.reply₂ a.x₂).sent := by
  have hget : getExposure ℚ ℚ s.device.big s.device.camTag s.device.videoFormat a.reply₁ a.x₁ =
      { value := some ⟨0, some (FloatConversions.toInt32 ℚ (((s.shutterWidth.toNat : ℤ) : ℚ) * q))⟩
        camTag := s.device.camTag + 1
        sent := (readCmosRegister s.device.big s.device.camTag 0x0009 a.reply₁ a.x₁).sent } := by
    rw [getExposure, RegisterResult.andThen, readCmosRegister_of_provides hok.res hok.read]
    simp [hwidth, hq, RegisterResult.pure, camTag_readCmosRegister_of_provides hok.res hok.read]
  rw [saveRestore, hget, andThen_sent]
  dsimp only [Option.map_some, Option.getD_some]
  rw [setExposure, hq]

/-- **One round**, with transfers that succeed. -/
theorem shutterWidth_step (hq : s.device.videoFormat.shutterWidthToExp = some q)
    (hwidth : s.shutterWidth ≠ 0xFFFF) (hok : s.Succeeds a) :
    (s.step a).1.shutterWidth.toNat =
      if s.device.videoFormat.wholeTime ∣ s.shutterWidth.toNat then s.shutterWidth.toNat
      else s.shutterWidth.toNat - 1 := by
  show UInt16.toNat (List.foldl _ _ (saveRestore ℚ ℚ s.device a).sent) = _
  rw [sent_saveRestore hq hwidth hok, sent_readCmosRegister, sent_writeCmosRegister,
    List.singleton_append, List.foldl_cons, List.foldl_cons, List.foldl_nil,
    cmosRegisterAfter_read, cmosRegisterAfter_write]
  exact toNat_toUInt16_div hq _

/-- **A run** repeats that. -/
theorem shutterWidth_run (hq : s.device.videoFormat.shutterWidthToExp = some q)
    (hwidth : s.shutterWidth ≠ 0xFFFF) {answers : List SetterAnswers}
    (hok : Mealy.Along step Succeeds s answers) :
    (Mealy.run step s answers).shutterWidth.toNat =
      s.shutterWidth.toNat -
        min answers.length (s.shutterWidth.toNat % s.device.videoFormat.wholeTime) := by
  have he : 0 < s.device.videoFormat.wholeTime := by cases s.device.videoFormat <;> decide
  rw [← iterate_decrease he]
  clear he
  induction answers generalizing s with
  | nil => rfl
  | cons a answers ih =>
    have hstep := shutterWidth_step hq hwidth hok.1
    have hnext : (s.step a).1.shutterWidth ≠ 0xFFFF := by
      -- the width does not grow
      intro hmax
      have hlt : s.shutterWidth.toNat < 65535 := by
        have hne := UInt16.toNat_inj.not.2 hwidth
        have hw := s.shutterWidth.toNat_lt
        rw [show (0xFFFF : UInt16).toNat = 65535 from rfl] at hne
        omega
      rw [hmax, show (0xFFFF : UInt16).toNat = 65535 from rfl] at hstep
      split at hstep
      · omega
      · omega
    rw [Mealy.run_cons, ih (s := (s.step a).1) hq hnext hok.2, hstep, List.length_cons,
      Function.iterate_succ_apply]
    rfl

end ShutterState

/-- **Saving and restoring the exposure changes nothing**, in a run of rounds whose transfers
succeed, exactly when there are no rounds or the width that is saved has a whole number of
microseconds: a multiple of 100 in an RGB or Bayer format, of 4 in a YUV format. -/
theorem exposure_restored_iff (s : ShutterState) (answers : List SetterAnswers)
    (hformat : s.device.videoFormat.shutterWidthToExp (D := ℚ) ≠ none)
    (hwidth : s.shutterWidth ≠ 0xFFFF)
    (hok : Mealy.Along ShutterState.step ShutterState.Succeeds s answers) :
    (Mealy.run ShutterState.step s answers).shutterWidth = s.shutterWidth ↔
      answers = [] ∨ s.device.videoFormat.wholeTime ∣ s.shutterWidth.toNat := by
  obtain ⟨q, hq⟩ := Option.ne_none_iff_exists'.1 hformat
  have hmod : s.shutterWidth.toNat % s.device.videoFormat.wholeTime ≤ s.shutterWidth.toNat :=
    Nat.mod_le _ _
  rw [← UInt16.toNat_inj, ShutterState.shutterWidth_run hq hwidth hok, Nat.dvd_iff_mod_eq_zero,
    ← List.length_eq_zero_iff]
  omega

/-- A first-generation camera in an RGB format. -/
def shutterAt (w : UInt16) : ShutterState where
  device := xboxCamera
  shutterWidth := w

/-- The camera says what the shutter width is, and acknowledges a write of it. -/
def shutterReplies (w : UInt16) : SetterAnswers where
  reply₁ _ := 0
  reply₂ _ := 0
  x₁ :=
    { res := 14
      received := true
      polls :=
        [⟨14, fun i ↦ ([0x52, 0x42, 3, 0, 0x95, 0, 0, 0, 1, 0, 9, 0] ++ le16Bytes w).getD i 0⟩] }
  x₂ :=
    { res := 14
      received := true
      polls := [⟨14, fun i ↦ [0x52, 0x42, 3, 0, 0x95, 0, 1, 0, 1, 0, 9, 0x80].getD i 0⟩] }

/-- A round in which both transfers succeed. -/
theorem succeeds_shutterReplies (w : UInt16) : (shutterAt w).Succeeds (shutterReplies w) where
  res := (by decide : (0 : ℤ) ≤ 14)
  read := ⟨_, 6, rfl, ⟨rfl, rfl, rfl, rfl, rfl⟩, by decide,
    Eq.symm (hostWord_hostBytes (rfl : _ = (hostBytes false w).getD 0 0) rfl)⟩
  write := ⟨6, (by decide : (0 : ℤ) ≤ 14), _, rfl, ⟨rfl, rfl, rfl, rfl, rfl⟩⟩

/-- A width of 100 lasts 5421 microseconds, and comes back. -/
theorem exposure_restored_hundred :
    (Mealy.run ShutterState.step (shutterAt 100) [shutterReplies 100]).shutterWidth = 100 :=
  (exposure_restored_iff (shutterAt 100) [shutterReplies 100] (Option.some_ne_none _) (by decide)
    ⟨succeeds_shutterReplies 100, trivial⟩).2 (Or.inr (by decide))

/-- A width of 1 lasts 54.21 microseconds. What is got is 54, and what is set is 0. -/
theorem exposure_not_restored :
    Mealy.Along ShutterState.step ShutterState.Succeeds (shutterAt 1) [shutterReplies 1] ∧
      (Mealy.run ShutterState.step (shutterAt 1) [shutterReplies 1]).shutterWidth = 0 := by
  have hok : Mealy.Along ShutterState.step ShutterState.Succeeds (shutterAt 1)
      [shutterReplies 1] := ⟨succeeds_shutterReplies 1, trivial⟩
  refine ⟨hok, UInt16.toNat_inj.1 ?_⟩
  exact ShutterState.shutterWidth_run (q := 54.21) rfl (by decide) hok

end Freenect
