import Freenect.Usb.Subdevices

/-!
# The motor and the LED

`tilt.c`: setting the tilt and the LED, and reading the accelerometers. There are two ways to the
motor. The motor of a 1414 is a USB device of its own and takes control transfers. That of a K4W or
1473 is driven by the firmware of the audio device, which takes commands over a bulk endpoint and
acknowledges each of them.

What libusb answers is an argument (`MotorAnswers`); the transfers that are made are listed in the
outcome, so that it can be said which device a call has reached. An angle is a finite `double`,
taken as the rational number it stands for. Words travel in little-endian order.

Which way a call takes is decided by a flag of the device, which is set when its audio device runs
the firmware. On the way through the motor the enabled subdevices are looked at as well, and these
are those of the context at the time of the call. `MotorCall.reaches_iff` says for every call which
device it reaches, and when it reaches none.
-/

namespace Freenect

/-- `freenect_raw_tilt_state`. -/
structure RawTiltState where
  accelerometerX : Int16
  accelerometerY : Int16
  accelerometerZ : Int16
  tiltAngle : Int8
  tiltStatus : UInt8
  deriving DecidableEq, Repr

/-- What the functions of `tilt.c` change: the state of a device, and the static `tag_seq`. -/
structure MotorState where
  rawState : RawTiltState
  tagSeq : UInt32
  deriving DecidableEq, Repr

/-- `freenect_led_options`. -/
inductive LedOption
  | off
  | green
  | red
  | yellow
  | blinkGreen
  | blinkRedYellow
  deriving DecidableEq, Repr

/-- The value of an option in the enumeration. -/
def LedOption.code : LedOption → UInt16
  | .off => 0
  | .green => 1
  | .red => 2
  | .yellow => 3
  | .blinkGreen => 4
  | .blinkRedYellow => 6

/-! ### Transfers

A handle that is `NULL` is passed on to libusb, which refuses it; the transfer is in the list, and
reaches nobody. -/

/-- A call of libusb. The handle of a control transfer may be `NULL`. -/
inductive Transfer
  | control (handle : Option UsbRef) (requestType request : UInt8) (value : UInt16) (length : ℕ)
  | bulkOut (handle : UsbRef) (words : List UInt32)
  | bulkIn (handle : UsbRef) (length : ℕ)
  deriving DecidableEq, Repr

/-- The device a transfer goes to. -/
def Transfer.handle : Transfer → Option UsbRef
  | .control handle .. => handle
  | .bulkOut handle _ => some handle
  | .bulkIn handle _ => some handle

/-- The result of a transfer from the device, and the bytes that have arrived. -/
structure TransferAnswer where
  res : ℤ
  data : List UInt8
  deriving DecidableEq, Repr

/-- What libusb answers to the transfers of one call: the control transfer, the command, the data
that was asked for, and the reply. `stack` is what the buffers hold before. -/
structure MotorAnswers where
  control : TransferAnswer
  command : ℤ
  data : TransferAnswer
  reply : TransferAnswer
  stack : List UInt8

/-- What a call has done. -/
structure MotorOutcome where
  state : MotorState
  transfers : List Transfer
  ret : ℤ
  deriving DecidableEq, Repr

/-- A buffer after a transfer. -/
def received (data buffer : List UInt8) : List UInt8 := data ++ buffer.drop data.length

/-- A byte of a buffer. -/
def byteAt (buffer : List UInt8) (i : ℕ) : UInt8 := buffer[i]?.getD 0

/-- The little-endian word at offset `i`. -/
def wordAt (buffer : List UInt8) (i : ℕ) : UInt32 :=
  (byteAt buffer i).toUInt32 ||| (byteAt buffer (i + 1)).toUInt32 <<< 8 |||
    (byteAt buffer (i + 2)).toUInt32 <<< 16 ||| (byteAt buffer (i + 3)).toUInt32 <<< 24

/-- The bytes of a word. -/
def wordBytes (w : UInt32) : List UInt8 :=
  [w.toUInt8, (w >>> 8).toUInt8, (w >>> 16).toUInt8, (w >>> 24).toUInt8]

/-- `get_reply`. A reply that does not have 12 bytes is reported, but is no error. -/
def getReply (reply : TransferAnswer) : ℤ :=
  if reply.res ≠ 0 then reply.res
  else if reply.data.length ≠ 12 then reply.res
  else if wordAt reply.data 0 ≠ 0x0a6fe000 then -1
  else if wordAt reply.data 8 ≠ 0 then -1
  else reply.res

/-- The magic number of an `fn_alt_motor_command`. -/
def altCommandMagic : UInt32 := 0x06022009

/-- An `fn_alt_motor_command` with its second argument is sent, and the reply is read. -/
def altCommand (handle : UsbRef) (s : MotorState) (arg1 cmd arg2 : UInt32) (a : MotorAnswers) :
    MotorOutcome :=
  let out := Transfer.bulkOut handle [altCommandMagic, s.tagSeq, arg1, cmd, arg2]
  let s := { s with tagSeq := s.tagSeq + 1 }
  if a.command ≠ 0 then { state := s, transfers := [out], ret := a.command }
  else { state := s, transfers := [out, .bulkIn handle 512], ret := getReply a.reply }

section Calls

variable (enabled : Subdevices) (dev : OpenDevice) (s : MotorState) (a : MotorAnswers)

/-! ### The state

The state of the tilt is a record of the last reply, kept in the device. -/

/-- `update_tilt_state_alt`. -/
def updateTiltStateAlt : MotorOutcome :=
  match dev.usbAudio with
  | none => { state := s, transfers := [], ret := -1 }
  | some handle =>
    let words := [altCommandMagic, s.tagSeq, 0x68, 0x8032]
    let out := Transfer.bulkOut handle words
    let s := { s with tagSeq := s.tagSeq + 1 }
    if a.command ≠ 0 then { state := s, transfers := [out], ret := a.command }
    else if a.data.res ≠ 0 then
      { state := s, transfers := [out, .bulkIn handle 256], ret := a.data.res }
    else
      -- the data is received into the buffer with the command
      let buffer := received a.data.data (words.flatMap wordBytes ++ a.stack)
      let raw := { s.rawState with
        accelerometerX := (wordAt buffer 16).toUInt16.toInt16
        accelerometerY := (wordAt buffer 20).toUInt16.toInt16
        accelerometerZ := (wordAt buffer 24).toUInt16.toInt16
        -- the 1414 reports angles doubled
        tiltAngle := (wordAt buffer 28).toUInt8.toInt8 * 2 }
      { state := { s with rawState := raw }
        transfers := [out, .bulkIn handle 256, .bulkIn handle 512]
        ret := getReply a.reply }

/-- `freenect_update_tilt_state`. -/
def updateTiltState : MotorOutcome :=
  if dev.motorControlWithAudioEnabled then updateTiltStateAlt dev s a
  else if ¬ enabled.motor then { state := s, transfers := [], ret := 0 }
  else
    let request := Transfer.control dev.usbMotor 0xC0 0x32 0 10
    if a.control.res ≠ 10 then
      { state := s
        transfers := [request]
        ret := if a.control.res < 0 then a.control.res else -1 }
    else
      let buf := received a.control.data a.stack
      let word (i : ℕ) : Int16 :=
        ((byteAt buf i).toUInt16 <<< 8 ||| (byteAt buf (i + 1)).toUInt16).toInt16
      let raw := {
        accelerometerX := word 2
        accelerometerY := word 4
        accelerometerZ := word 6
        tiltAngle := (byteAt buf 8).toInt8
        tiltStatus := byteAt buf 9 }
      { state := { s with rawState := raw }, transfers := [request], ret := a.control.res }

/-! ### The tilt -/

/-- A `double` as an integer: rounded towards zero. -/
def truncate (angle : Rat) : ℤ := angle.num.tdiv angle.den

/-- `MAX_TILT_ANGLE`. -/
def maxTiltAngle : ℤ := 31

/-- `MIN_TILT_ANGLE`. -/
def minTiltAngle : ℤ := -31

/-- `freenect_set_tilt_degs_alt`. -/
def setTiltDegsAlt (tiltDegrees : ℤ) : MotorOutcome :=
  if 31 < tiltDegrees ∨ tiltDegrees < -31 then { state := s, transfers := [], ret := -1 }
  else
    match dev.usbAudio with
    | none => { state := s, transfers := [], ret := -1 }
    | some handle => altCommand handle s 0 0x803b (Int32.ofInt tiltDegrees).toUInt32 a

/-- `freenect_set_tilt_degs`. -/
def setTiltDegs (angle : Rat) : MotorOutcome :=
  if dev.motorControlWithAudioEnabled then setTiltDegsAlt dev s a (truncate angle)
  else if ¬ enabled.motor then { state := s, transfers := [], ret := 0 }
  else
    let angle : Rat :=
      if angle < minTiltAngle then minTiltAngle
      else if maxTiltAngle < angle then maxTiltAngle
      else angle
    let value := Int16.ofInt (truncate (angle * 2))
    { state := s
      transfers := [.control dev.usbMotor 0x40 0x31 value.toUInt16 0]
      ret := a.control.res }

/-! ### The LED -/

/-- The state of the LED of a K4W or 1473. -/
def LedOption.altCode : LedOption → UInt32
  | .green => 3
  | .red => 4
  | .yellow => 3
  | .off => 1
  | .blinkGreen => 2
  | .blinkRedYellow => 1

/-- `freenect_set_led_alt`. -/
def setLedAlt (option : LedOption) : MotorOutcome :=
  match dev.usbAudio with
  | none => { state := s, transfers := [], ret := -1 }
  | some handle => altCommand handle s 0 0x10 option.altCode a

/-- `freenect_set_led`. -/
def setLed (option : LedOption) : MotorOutcome :=
  if dev.motorControlWithAudioEnabled then setLedAlt dev s a option
  else if ¬ enabled.motor then { state := s, transfers := [], ret := 0 }
  else
    { state := s
      transfers := [.control dev.usbMotor 0x40 0x06 option.code 0]
      ret := a.control.res }

end Calls

/-! ### Which device a call reaches

One lemma for each function of the alternative way, and one for a control transfer; the four public
functions choose between them in the same manner (`ways_reach_iff`). -/

/-- A call of `tilt.c` that needs the motor. -/
inductive MotorCall
  | setTiltDegs (angle : Rat)
  | setLed (option : LedOption)
  | updateTiltState

/-- What a call does. -/
def MotorCall.apply (enabled : Subdevices) (dev : OpenDevice) (s : MotorState) (a : MotorAnswers) :
    MotorCall → MotorOutcome
  | .setTiltDegs angle => Freenect.setTiltDegs enabled dev s a angle
  | .setLed option => Freenect.setLed enabled dev s a option
  | .updateTiltState => Freenect.updateTiltState enabled dev s a

/-- Some transfer goes to an open device. -/
def MotorOutcome.Reaches (o : MotorOutcome) : Prop := ∃ t ∈ o.transfers, t.handle.isSome = true

/-- The audio device is sent no angle that is out of range. -/
def MotorCall.InRange : MotorCall → Prop
  | .setTiltDegs angle => truncate angle ≤ 31 ∧ -31 ≤ truncate angle
  | _ => True

/-- A command goes to the audio device. -/
theorem altCommand_reaches (handle : UsbRef) (s : MotorState) (arg1 cmd arg2 : UInt32)
    (a : MotorAnswers) : (altCommand handle s arg1 cmd arg2 a).Reaches := by
  refine ⟨.bulkOut handle [altCommandMagic, s.tagSeq, arg1, cmd, arg2], ?_, rfl⟩
  unfold altCommand
  dsimp only
  split
  · exact List.mem_cons_self
  · exact List.mem_cons_self

section Reaches

variable (enabled : Subdevices) (dev : OpenDevice) (s : MotorState) (a : MotorAnswers)

/-- Without a transfer nothing is reached. -/
theorem MotorOutcome.not_reaches_nil (ret : ℤ) :
    ¬ MotorOutcome.Reaches { state := s, transfers := [], ret := ret } := fun ⟨_, ht, _⟩ ↦
  (nomatch ht)

/-- A control transfer reaches the motor if that is open. -/
theorem MotorOutcome.reaches_control (s' : MotorState) (requestType request : UInt8)
    (value : UInt16) (length : ℕ) (ret : ℤ) :
    MotorOutcome.Reaches { state := s'
                           transfers := [.control dev.usbMotor requestType request value length]
                           ret := ret } ↔ dev.usbMotor.isSome = true := by
  constructor
  · rintro ⟨t, ht, hsome⟩
    obtain rfl := List.mem_singleton.1 ht
    exact hsome
  · exact fun h ↦ ⟨_, List.mem_singleton.2 rfl, h⟩

/-- `update_tilt_state_alt` reaches the audio device if that is open. -/
theorem updateTiltStateAlt_reaches_iff :
    (updateTiltStateAlt dev s a).Reaches ↔ dev.usbAudio.isSome = true := by
  rw [updateTiltStateAlt]
  cases dev.usbAudio with
  | none => exact iff_of_false (MotorOutcome.not_reaches_nil s _) Bool.false_ne_true
  | some handle =>
    refine iff_of_true ⟨.bulkOut handle [altCommandMagic, s.tagSeq, 0x68, 0x8032], ?_, rfl⟩ rfl
    dsimp only
    repeat' split
    all_goals exact List.mem_cons_self

/-- `freenect_set_tilt_degs_alt` does so for an angle in range. -/
theorem setTiltDegsAlt_reaches_iff (tiltDegrees : ℤ) :
    (setTiltDegsAlt dev s a tiltDegrees).Reaches ↔
      dev.usbAudio.isSome = true ∧ tiltDegrees ≤ 31 ∧ -31 ≤ tiltDegrees := by
  rw [setTiltDegsAlt]
  split
  next hout =>
    exact iff_of_false (MotorOutcome.not_reaches_nil s _) fun h ↦ by omega
  next hin =>
    have hrange : tiltDegrees ≤ 31 ∧ -31 ≤ tiltDegrees := by omega
    cases dev.usbAudio with
    | none => exact iff_of_false (MotorOutcome.not_reaches_nil s _) fun h ↦ Bool.false_ne_true h.1
    | some handle => exact iff_of_true (altCommand_reaches ..) ⟨rfl, hrange⟩

/-- `freenect_set_led_alt` does so for every option. -/
theorem setLedAlt_reaches_iff (option : LedOption) :
    (setLedAlt dev s a option).Reaches ↔ dev.usbAudio.isSome = true := by
  rw [setLedAlt]
  cases dev.usbAudio with
  | none => exact iff_of_false (MotorOutcome.not_reaches_nil s _) Bool.false_ne_true
  | some handle => exact iff_of_true (altCommand_reaches ..) rfl

/-- Of two ways to the motor one is chosen, and the second only if the motor is enabled. -/
theorem ways_reach_iff {alt : MotorOutcome} {control : MotorOutcome} {A : Prop} (ret : ℤ)
    (halt : alt.Reaches ↔ A) (hcontrol : control.Reaches ↔ dev.usbMotor.isSome = true) :
    MotorOutcome.Reaches
        (if dev.motorControlWithAudioEnabled then alt
          else if ¬ enabled.motor then { state := s, transfers := [], ret := ret }
          else control) ↔
      if dev.motorControlWithAudioEnabled then A
      else enabled.motor = true ∧ dev.usbMotor.isSome = true := by
  split
  · exact halt
  · split
    next hoff => exact iff_of_false (MotorOutcome.not_reaches_nil s ret) fun h ↦ hoff h.1
    next hon => exact hcontrol.trans (and_iff_right (not_not.1 hon)).symm

/-- **Which calls reach the motor**: through the audio device if it runs the firmware, and else
through the motor, if the device has one open *and the context still has it enabled*. -/
theorem MotorCall.reaches_iff (call : MotorCall) :
    (call.apply enabled dev s a).Reaches ↔
      if dev.motorControlWithAudioEnabled then dev.usbAudio.isSome = true ∧ call.InRange
      else enabled.motor = true ∧ dev.usbMotor.isSome = true := by
  cases call with
  | setTiltDegs angle =>
    exact ways_reach_iff enabled dev s 0 (setTiltDegsAlt_reaches_iff dev s a _)
      (MotorOutcome.reaches_control ..)
  | setLed option =>
    exact ways_reach_iff enabled dev s 0
      ((setLedAlt_reaches_iff dev s a option).trans (and_iff_left trivial).symm)
      (MotorOutcome.reaches_control ..)
  | updateTiltState =>
    refine ways_reach_iff enabled dev s 0
      ((updateTiltStateAlt_reaches_iff dev s a).trans (and_iff_left trivial).symm) ?_
    dsimp only
    split
    · exact MotorOutcome.reaches_control ..
    · exact MotorOutcome.reaches_control ..

end Reaches

end Freenect
