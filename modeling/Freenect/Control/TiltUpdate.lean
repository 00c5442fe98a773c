import Freenect.Control.Tilt

/-!
# Whether an update of the tilt state is all or nothing

`freenect_update_tilt_state` on its two ways.

## Through the motor

The motor of a 1414 answers with ten bytes, and a reply of another length is an error that leaves
the state alone. This way is all or nothing (`updateTiltState_control`).

## Through the audio device

Its firmware announces a reply of 104 bytes and acknowledges it by a reply of its own.
`update_tilt_state_alt` does not look at the length of the first, and decodes it before it has seen
the second. So a rejected acknowledgement comes too late, and a short reply is completed with what
the buffer held, the command that was sent among it.

The two mistakes do not add up. Where the acknowledgement is accepted only the length matters, and
where it is rejected only whether the state has changed, which it has unless it already held what
bytes 16 to 31 of the buffer say (`HoldsAlready`). `updateTiltState_allOrNothing_iff` puts the two
ways together.
-/

namespace Freenect

/-! ### Replies

The buffer is on the stack and was used for the command before. What a short reply leaves in it is
therefore known: the command, and behind that whatever was there. -/

/-- The state in a reply of the motor. -/
def decodeTilt (buf : List UInt8) : RawTiltState :=
  let word (i : ℕ) : Int16 :=
    ((byteAt buf i).toUInt16 <<< 8 ||| (byteAt buf (i + 1)).toUInt16).toInt16
  { accelerometerX := word 2
    accelerometerY := word 4
    accelerometerZ := word 6
    tiltAngle := (byteAt buf 8).toInt8
    tiltStatus := byteAt buf 9 }

/-- The state in a reply of the audio device, which has no status. -/
def decodeTiltAlt (old : RawTiltState) (buffer : List UInt8) : RawTiltState :=
  { old with
    accelerometerX := (wordAt buffer 16).toUInt16.toInt16
    accelerometerY := (wordAt buffer 20).toUInt16.toInt16
    accelerometerZ := (wordAt buffer 24).toUInt16.toInt16
    tiltAngle := (wordAt buffer 28).toUInt8.toInt8 * 2 }

/-- The buffer of `update_tilt_state_alt` when it is decoded: the reply, and behind it what is left
of the command and of the stack. -/
def tiltBuffer (s : MotorState) (a : MotorAnswers) : List UInt8 :=
  received a.data.data ([altCommandMagic, s.tagSeq, 0x68, 0x8032].flatMap wordBytes ++ a.stack)

/-- The state already holds what bytes 16 to 31 of a buffer say: of the words of the accelerometer
their two low bytes, and the double of the lowest byte of the tilt. -/
structure HoldsAlready (raw : RawTiltState) (buffer : List UInt8) : Prop where
  accelerometerX : raw.accelerometerX.toUInt16 =
    (byteAt buffer 16).toUInt16 ||| (byteAt buffer 17).toUInt16 <<< 8
  accelerometerY : raw.accelerometerY.toUInt16 =
    (byteAt buffer 20).toUInt16 ||| (byteAt buffer 21).toUInt16 <<< 8
  accelerometerZ : raw.accelerometerZ.toUInt16 =
    (byteAt buffer 24).toUInt16 ||| (byteAt buffer 25).toUInt16 <<< 8
  tiltAngle : raw.tiltAngle = (byteAt buffer 28).toInt8 * 2

/-- The acknowledgement does not come, or it has 12 bytes with a wrong magic number or a status. -/
def AckRejected (reply : TransferAnswer) : Prop :=
  reply.res < 0 ∨ (reply.res = 0 ∧ reply.data.length = 12 ∧
    (wordAt reply.data 0 ≠ 0x0a6fe000 ∨ wordAt reply.data 8 ≠ 0))

instance (reply : TransferAnswer) : Decidable (AckRejected reply) :=
  inferInstanceAs (Decidable (_ ∨ _))

/-- What libusb promises: a bulk transfer is answered with zero or a negative error, and a control
transfer with an error or the number of bytes that have arrived. -/
structure MotorAnswers.Documented (a : MotorAnswers) : Prop where
  command : a.command ≤ 0
  data : a.data.res ≤ 0
  reply : a.reply.res ≤ 0
  control : 0 ≤ a.control.res → a.control.data.length = a.control.res

/-! ### The update

A call that fails before the reply is decoded has changed nothing. Behind that, the state is what
the buffer says, and the return value is decided by the acknowledgement. -/

section Update

variable {enabled : Subdevices} {dev : OpenDevice} {s : MotorState} {a : MotorAnswers}

/-- The reply from which the state is updated is complete, and the state is what it says. -/
def TiltUpdated (dev : OpenDevice) (s : MotorState) (a : MotorAnswers) (raw : RawTiltState) :
    Prop :=
  if dev.motorControlWithAudioEnabled then
    a.data.data.length = 104 ∧ raw = decodeTiltAlt s.rawState a.data.data
  else a.control.data.length = 10 ∧ raw = decodeTilt a.control.data

/-- The state is updated, or the call fails and leaves it alone. -/
def AllOrNothing (dev : OpenDevice) (s : MotorState) (a : MotorAnswers) (o : MotorOutcome) :
    Prop :=
  (0 ≤ o.ret ∧ TiltUpdated dev s a o.state.rawState) ∨
    (o.ret < 0 ∧ o.state.rawState = s.rawState)

/-- A call that fails early. -/
theorem allOrNothing_of_failed {o : MotorOutcome} (hret : o.ret < 0)
    (hstate : o.state.rawState = s.rawState) : AllOrNothing dev s a o := .inr ⟨hret, hstate⟩

/-- The acknowledgements that make the call fail. -/
theorem getReply_neg_iff {reply : TransferAnswer} : getReply reply < 0 ↔ AckRejected reply := by
  rw [getReply, AckRejected]
  split
  next hres => omega
  next hres =>
    split
    next hlen => omega
    next hlen =>
      split
      next hmagic =>
        exact iff_of_true (by decide) (.inr ⟨not_not.1 hres, not_not.1 hlen, .inl hmagic⟩)
      next hmagic =>
        split
        next hstatus =>
          exact iff_of_true (by decide) (.inr ⟨not_not.1 hres, not_not.1 hlen, .inr hstatus⟩)
        next hstatus =>
          refine iff_of_false (by omega) ?_
          rintro (hneg | ⟨-, -, h | h⟩)
          · omega
          · exact hmagic h
          · exact hstatus h

/-- A byte of the reply is not touched by what is behind it. -/
theorem byteAt_append {data rest : List UInt8} {i : ℕ} (h : i < data.length) :
    byteAt (data ++ rest) i = byteAt data i := by
  rw [byteAt, byteAt, List.getElem?_append_left h]

/-- Nor is a word. -/
theorem wordAt_append {data rest : List UInt8} {i : ℕ} (h : i + 3 < data.length) :
    wordAt (data ++ rest) i = wordAt data i := by
  simp only [wordAt]
  rw [byteAt_append (by omega), byteAt_append (by omega), byteAt_append (by omega),
    byteAt_append h]

/-- The conversion to `int16_t` keeps the two low bytes of a word. -/
theorem wordAt_toUInt16 (buffer : List UInt8) (i : ℕ) : (wordAt buffer i).toUInt16 =
    (byteAt buffer i).toUInt16 ||| (byteAt buffer (i + 1)).toUInt16 <<< 8 := by
  rw [wordAt, ← UInt16.toBitVec_inj]
  ext j hj
  simp

/-- The conversion to `int8_t` keeps the lowest byte of a word. -/
theorem wordAt_toUInt8 (buffer : List UInt8) (i : ℕ) :
    (wordAt buffer i).toUInt8 = byteAt buffer i := by
  rw [wordAt, ← UInt8.toBitVec_inj]
  ext j hj
  simp

/-- **When decoding a buffer changes nothing.** -/
theorem decodeTiltAlt_eq_self_iff {raw : RawTiltState} {buffer : List UInt8} :
    decodeTiltAlt raw buffer = raw ↔ HoldsAlready raw buffer := by
  have hword (x : Int16) (i : ℕ) : (wordAt buffer i).toUInt16.toInt16 = x ↔
      x.toUInt16 = (byteAt buffer i).toUInt16 ||| (byteAt buffer (i + 1)).toUInt16 <<< 8 := by
    rw [← wordAt_toUInt16]
    constructor
    · rintro rfl
      rfl
    · intro h
      rw [← h]
      rfl
  constructor
  · intro h
    refine ⟨(hword _ 16).1 (congrArg RawTiltState.accelerometerX h),
      (hword _ 20).1 (congrArg RawTiltState.accelerometerY h),
      (hword _ 24).1 (congrArg RawTiltState.accelerometerZ h), ?_⟩
    rw [← wordAt_toUInt8]
    exact (congrArg RawTiltState.tiltAngle h).symm
  · rintro ⟨hx, hy, hz, htilt⟩
    rw [← wordAt_toUInt8] at htilt
    rw [decodeTiltAlt, (hword _ 16).2 hx, (hword _ 20).2 hy, (hword _ 24).2 hz, ← htilt]

/-- A complete reply is decoded from its own bytes. -/
theorem decodeTiltAlt_tiltBuffer (h : a.data.data.length = 104) :
    decodeTiltAlt s.rawState (tiltBuffer s a) = decodeTiltAlt s.rawState a.data.data := by
  simp only [decodeTiltAlt, tiltBuffer, received]
  rw [wordAt_append (by omega), wordAt_append (by omega), wordAt_append (by omega),
    wordAt_append (by omega)]

/-- A reply of ten bytes is decoded from its own bytes. -/
theorem decodeTilt_append {data rest : List UInt8} (h : data.length = 10) :
    decodeTilt (data ++ rest) = decodeTilt data := by
  unfold decodeTilt
  dsimp only
  iterate 8 rw [byteAt_append (by omega)]

/-- **The way through the motor** is all or nothing. -/
theorem updateTiltState_control (hdev : dev.motorControlWithAudioEnabled = false)
    (hmotor : enabled.motor = true) (ha : a.Documented) :
    AllOrNothing dev s a (updateTiltState enabled dev s a) := by
  rw [updateTiltState]
  rw [if_neg (by rw [hdev]; decide), if_neg (by rw [hmotor]; decide)]
  dsimp only
  split
  next hres =>
    refine allOrNothing_of_failed ?_ rfl
    dsimp only
    split
    · omega
    · omega
  next hres =>
    have hres := not_not.1 hres
    have hlen : a.control.data.length = 10 := by
      have := ha.control (by omega)
      omega
    refine .inl ⟨by dsimp only; omega, ?_⟩
    rw [TiltUpdated, if_neg (by rw [hdev]; decide)]
    exact ⟨hlen, decodeTilt_append hlen⟩

/-- The command was sent and a reply was received, so that the state is decoded. -/
structure TiltStored (dev : OpenDevice) (a : MotorAnswers) : Prop where
  usbAudio : dev.usbAudio.isSome = true
  command : a.command = 0
  data : a.data.res = 0

/-- Without a reply the call fails and leaves the state alone. -/
theorem updateTiltStateAlt_of_not_stored (ha : a.Documented) (h : ¬ TiltStored dev a) :
    AllOrNothing dev s a (updateTiltStateAlt dev s a) := by
  rw [updateTiltStateAlt]
  split
  next haudio => exact allOrNothing_of_failed (Int.negSucc_lt_zero 0) rfl
  next handle haudio =>
    dsimp only
    split
    next hcommand =>
      have hle := ha.command
      exact allOrNothing_of_failed (by dsimp only; omega) rfl
    next hcommand =>
      split
      next hdata =>
        have hle := ha.data
        exact allOrNothing_of_failed (by dsimp only; omega) rfl
      next hdata =>
        exact absurd ⟨haudio ▸ rfl, not_not.1 hcommand, not_not.1 hdata⟩ h

/-- With a reply it is stored, whatever the acknowledgement says. -/
theorem updateTiltStateAlt_of_stored (h : TiltStored dev a) :
    (updateTiltStateAlt dev s a).ret = getReply a.reply ∧
      (updateTiltStateAlt dev s a).state.rawState =
        decodeTiltAlt s.rawState (tiltBuffer s a) := by
  obtain ⟨handle, haudio⟩ := Option.isSome_iff_exists.1 h.usbAudio
  rw [updateTiltStateAlt]
  rw [haudio]
  dsimp only
  rw [if_neg (not_not.2 h.command), if_neg (not_not.2 h.data)]
  exact ⟨rfl, rfl⟩

/-- The way through the audio device is taken if its firmware drives the motor. -/
theorem updateTiltState_eq_alt (hdev : dev.motorControlWithAudioEnabled = true) :
    updateTiltState enabled dev s a = updateTiltStateAlt dev s a := if_pos hdev

/-- **The way through the audio device**, once there is a reply. -/
theorem updateTiltStateAlt_iff (hdev : dev.motorControlWithAudioEnabled = true)
    (h : TiltStored dev a) :
    AllOrNothing dev s a (updateTiltStateAlt dev s a) ↔
      if AckRejected a.reply then HoldsAlready s.rawState (tiltBuffer s a)
      else a.data.data.length = 104 := by
  obtain ⟨hret, hraw⟩ := updateTiltStateAlt_of_stored (s := s) h
  rw [AllOrNothing, hret, hraw, TiltUpdated, if_pos hdev, decodeTiltAlt_eq_self_iff]
  split
  next hack =>
    have hneg := getReply_neg_iff.2 hack
    constructor
    · rintro (⟨hnonneg, -⟩ | ⟨-, hsame⟩)
      · omega
      · exact hsame
    · exact fun hsame ↦ .inr ⟨hneg, hsame⟩
  next hack =>
    have hnonneg : ¬ getReply a.reply < 0 := fun hneg ↦ hack (getReply_neg_iff.1 hneg)
    constructor
    · rintro (⟨-, hlen, -⟩ | ⟨hneg, -⟩)
      · exact hlen
      · exact absurd hneg hnonneg
    · exact fun hlen ↦ .inl ⟨by omega, hlen, decodeTiltAlt_tiltBuffer hlen⟩

/-- **When an update is all or nothing**: on the way through the motor always; on the way through
the audio device, once there is a reply, exactly if it is complete and the acknowledgement is not
rejected, or if that is rejected and the state already held what the buffer says. -/
theorem updateTiltState_allOrNothing_iff (enabled : Subdevices) (dev : OpenDevice) (s : MotorState)
    (a : MotorAnswers) (hpath : dev.motorControlWithAudioEnabled = true ∨ enabled.motor = true)
    (ha : a.Documented) :
    AllOrNothing dev s a (updateTiltState enabled dev s a) ↔
      (dev.motorControlWithAudioEnabled = true → TiltStored dev a →
        if AckRejected a.reply then HoldsAlready s.rawState (tiltBuffer s a)
        else a.data.data.length = 104) := by
  by_cases hdev : dev.motorControlWithAudioEnabled = true
  · rw [updateTiltState_eq_alt hdev]
    by_cases hstored : TiltStored dev a
    · rw [updateTiltStateAlt_iff hdev hstored]
      exact ⟨fun h _ _ ↦ h, fun h ↦ h hdev hstored⟩
    · exact iff_of_true (updateTiltStateAlt_of_not_stored ha hstored) fun _ h ↦ absurd h hstored
  · exact iff_of_true (updateTiltState_control (Bool.not_eq_true _ ▸ hdev) (hpath.resolve_left hdev)
      ha) fun h ↦ absurd h hdev

end Update

/-- A device whose motor is driven by the firmware of the audio device. -/
def audioMotor : OpenDevice :=
  { OpenDevice.zero with usbAudio := some 0, motorControlWithAudioEnabled := true }

/-- Its tilt was never read. -/
def unknownTilt : MotorState where
  rawState := ⟨0, 0, 0, 0, 0⟩
  tagSeq := 0

/-- It answers with a tilt of 10 degrees, and acknowledges that with a status. -/
def tiltAnswers (status : UInt8) : MotorAnswers where
  control := ⟨-1, []⟩
  command := 0
  data := ⟨0, List.replicate 28 0 ++ [10] ++ List.replicate 75 0⟩
  reply := ⟨0, [0x00, 0xe0, 0x6f, 0x0a, 0, 0, 0, 0, status, 0, 0, 0]⟩
  stack := []

/-- These are answers that libusb can give. -/
theorem documented_tiltAnswers (status : UInt8) : (tiltAnswers status).Documented where
  command := Int.le_refl 0
  data := Int.le_refl 0
  reply := Int.le_refl 0
  control h := absurd (show (0 : ℤ) ≤ -1 from h) (by decide)

/-- A complete reply and a good acknowledgement. -/
theorem updateTiltState_allOrNothing_good :
    AllOrNothing audioMotor unknownTilt (tiltAnswers 0)
      (updateTiltState ⟨false, true, true⟩ audioMotor unknownTilt (tiltAnswers 0)) :=
  (updateTiltState_allOrNothing_iff ⟨false, true, true⟩ audioMotor unknownTilt (tiltAnswers 0)
    (.inl rfl) (documented_tiltAnswers 0)).2 fun _ _ ↦ by
      rw [if_neg (by decide)]
      decide

/-- A complete reply and an acknowledgement with a status: the call fails and has changed the
state. -/
theorem updateTiltState_not_allOrNothing :
    (tiltAnswers 1).Documented ∧
      ¬ AllOrNothing audioMotor unknownTilt (tiltAnswers 1)
        (updateTiltState ⟨false, true, true⟩ audioMotor unknownTilt (tiltAnswers 1)) := by
  refine ⟨documented_tiltAnswers 1, ?_⟩
  rw [updateTiltState_eq_alt rfl, updateTiltStateAlt_iff rfl ⟨rfl, rfl, rfl⟩, if_pos (by decide)]
  exact fun hholds ↦ absurd hholds.tiltAngle (by decide)

end Freenect
