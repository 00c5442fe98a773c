import Freenect.Usb.Devices

/-!
# Opening the subdevices

`fnusb_open_subdevices` and what it calls: a camera is picked by its index and opened, then its
motor and its audio device are looked up and opened, as far as the context has them enabled. Every
answer of libusb is an argument (`OpenAnswers`), and so is the result of the firmware upload.

The function rewrites the context on its way: for a K4W or 1473 camera the motor is disabled, and
audio is enabled in its place if it was not, because that is how the motor of these models is
driven. A step that fails (`goto failure`) is an `error`.

The open handles are counted for each device of the bus; a handle that is opened and closed again
leaves no trace.

The order of the source is kept throughout: the predicates are tried in the order of the tests, a
result is assigned where the source assigns it, and `closeSubdevices` is called from exactly the
places that reach `failure`. The one loop, the wait for an audio device to come back, is cut into
the three functions that its nesting suggests.
-/

namespace Freenect

/-- A set of `freenect_device_flags`. -/
structure Subdevices where
  motor : Bool
  camera : Bool
  audio : Bool
  deriving DecidableEq, Repr

/-- What becomes of the enabled subdevices when a K4W or 1473 camera is opened. -/
def Subdevices.adapt (s : Subdevices) : Subdevices where
  motor := false
  camera := s.camera
  audio := s.audio || s.motor

/-- The number of open handles on each device. -/
abbrev Handles := UsbRef → ℕ

namespace Handles

/-- `libusb_open`. -/
def opened (h : Handles) (r : UsbRef) : Handles := fun q ↦ if q = r then h q + 1 else h q

/-- `libusb_close`. -/
def closed (h : Handles) (r : UsbRef) : Handles := fun q ↦ if q = r then h q - 1 else h q

/-- A handle is closed if there is one. -/
def release (h : Handles) : Option UsbRef → Handles
  | none => h
  | some r => h.closed r

/-- A handle that is opened and closed leaves no trace. -/
@[simp] theorem closed_opened (h : Handles) (r : UsbRef) : (h.opened r).closed r = h := by
  funext q
  by_cases hq : q = r <;> simp [opened, closed, hq]

end Handles

/-- The part of a context that opening a device reads and changes. -/
structure UsbContext where
  enabled : Subdevices
  zeroPlaneRes : ℕ
  handles : Handles

/-- The part of a device that opening it sets. -/
structure OpenDevice where
  usbCam : Option UsbRef
  usbMotor : Option UsbRef
  usbAudio : Option UsbRef
  camPid : ℕ
  deviceDoesMotorControlWithAudio : Bool
  motorControlWithAudioEnabled : Bool
  deriving DecidableEq, Repr

/-- A device before anything of it is open. -/
def OpenDevice.zero : OpenDevice where
  usbCam := none
  usbMotor := none
  usbAudio := none
  camPid := 0
  deviceDoesMotorControlWithAudio := false
  motorControlWithAudioEnabled := false

/-! ### The answers of libusb

Of a string descriptor both the length that libusb returns and the buffer it leaves are kept, since
the comparison of serial numbers reads the buffer up to its terminator. -/

/-- A string descriptor: what `libusb_get_string_descriptor_ascii` returns, and the buffer. -/
structure StringAnswer where
  res : ℤ
  buf : List UInt8
  deriving DecidableEq, Repr

/-- The string in a buffer, up to its terminator. -/
def cString (buf : List UInt8) : List UInt8 := buf.takeWhile (· ≠ 0)

/-- A device seen while waiting for an audio device to come back, with what libusb answers about
it. -/
structure NewDevice where
  ref : UsbRef
  desc : Option Descriptor
  openRes : ℤ
  serial : StringAnswer
  claim : ℤ
  numInterfaces : ℤ

/-- What libusb and the firmware upload answer. A call that succeeds returns what is not negative;
`libusb_open` then sets the handle. -/
structure OpenAnswers where
  openCamera : ℤ
  kernelDriver : ℤ
  detach : ℤ
  claimCamera : ℤ
  altSetting : ℤ
  openLed : ℤ
  reopenLed : ℤ
  claimLed : ℤ
  motorDesc : ℤ
  openMotor : ℤ
  claimMotor : ℤ
  audioDesc : ℤ
  openAudio : ℤ
  claimAudio : ℤ
  numInterfaces : ℤ
  audioSerial : StringAnswer
  upload : ℤ
  tries : List (List NewDevice)

/-! ### The steps

A step takes the state and returns it, or an error with the state in which the function was left. -/

/-- The state of `fnusb_open_subdevices`. -/
structure OpenState where
  ctx : UsbContext
  dev : OpenDevice
  res : ℤ

/-- `fnusb_keep_alive_led`: the device is opened, reset, and opened again. -/
def keepAliveLed (h : Handles) (audio : Option UsbRef) (a : OpenAnswers) : Handles × ℤ :=
  match audio with
  | none => (h, -1)
  | some r =>
    if a.openLed < 0 then (h, a.openLed)
    else
      let h := (h.opened r).closed r
      if a.reopenLed < 0 then (h, a.reopenLed)
      else ((h.opened r).closed r, a.claimLed)

namespace OpenState

variable (st : OpenState) (a : OpenAnswers)

/-- A result that is an error. -/
def fail (res : ℤ) : Except OpenState OpenState := .error { st with res := res }

/-- `dev->usb_cam.dev` is closed if it is open. -/
def dropCamera : OpenState :=
  { st with
    ctx := { st.ctx with handles := st.ctx.handles.release st.dev.usbCam }
    dev := { st.dev with usbCam := none } }

/-- `dev->usb_motor.dev` is closed if it is open. -/
def dropMotor : OpenState :=
  { st with
    ctx := { st.ctx with handles := st.ctx.handles.release st.dev.usbMotor }
    dev := { st.dev with usbMotor := none } }

/-- `dev->usb_audio.dev` is closed if it is open. -/
def dropAudio : OpenState :=
  { st with
    ctx := { st.ctx with handles := st.ctx.handles.release st.dev.usbAudio }
    dev := { st.dev with usbAudio := none } }

/-- `fnusb_close_subdevices`. -/
def closeSubdevices : OpenState := st.dropCamera.dropMotor.dropAudio

/-- `fnusb_claim_camera`. -/
def claimCamera : Except OpenState OpenState :=
  if a.kernelDriver = 1 ∧ a.detach < 0 then st.dropCamera.fail a.detach
  else if a.claimCamera < 0 then st.dropCamera.fail a.claimCamera
  else if st.dev.camPid = pidK4wCamera then
    if a.altSetting < 0 then st.dropCamera.fail a.altSetting
    else if a.altSetting ≠ 0 then .ok { st.dropCamera with res := a.altSetting }
    else .ok { st with res := a.altSetting }
  else .ok { st with res := a.claimCamera }

/-- The context and the device once the camera is known to be a K4W or 1473, or not to be. -/
def noteModel (devs : List UsbDevice) (camera : UsbRef) (desc : Descriptor) : OpenState :=
  if desc.isNewModel then
    let audio := findSibling devs camera Descriptor.isAudio
    { st with
      ctx := {
        enabled := st.ctx.enabled.adapt
        zeroPlaneRes := 334
        handles := (keepAliveLed st.ctx.handles audio a).1 }
      dev := { st.dev with deviceDoesMotorControlWithAudio := true } }
  else { st with ctx := { st.ctx with zeroPlaneRes := 322 } }

/-- Open the camera that has been found. -/
def openCamera (devs : List UsbDevice) (camera : UsbRef) (desc : Descriptor) :
    Except OpenState OpenState :=
  if ¬ st.ctx.enabled.camera then .ok st
  else if a.openCamera < 0 then st.fail a.openCamera
  else
    let st := { st with
      ctx := { st.ctx with handles := st.ctx.handles.opened camera }
      dev := { st.dev with usbCam := some camera } }
    let st := st.noteModel a devs camera desc
    { st with dev := { st.dev with camPid := desc.idProduct } }.claimCamera a

/-- Find and open the motor. -/
def openMotor (devs : List UsbDevice) (camera : UsbRef) : Except OpenState OpenState :=
  if ¬ st.ctx.enabled.motor then .ok st
  else
    match findSibling devs camera Descriptor.isMotor with
    | none => st.fail (-1)
    | some motor =>
      if a.motorDesc < 0 then st.fail a.motorDesc
      else if a.openMotor < 0 then st.fail a.openMotor
      else
        let st := { st with
          ctx := { st.ctx with handles := st.ctx.handles.opened motor }
          dev := { st.dev with usbMotor := some motor } }
        if a.claimMotor < 0 then st.dropMotor.fail a.claimMotor
        else .ok { st with res := a.claimMotor }

/-- The audio device runs the firmware through which the motor is driven. -/
def enableMotorControl : OpenState :=
  { st with dev := { st.dev with
    motorControlWithAudioEnabled :=
      st.dev.motorControlWithAudioEnabled || st.dev.deviceDoesMotorControlWithAudio } }

end OpenState

/-- One device of a new list: whether it is the audio device that is waited for. A device with
another serial number stays open. -/
def tryNewDevice (serial : List UInt8) (h : Handles) (d : NewDevice) : Handles × Bool :=
  match d.desc with
  | none => (h, false)
  | some desc =>
    if ¬ desc.isAudio then (h, false)
    else if d.openRes < 0 then (h, false)
    else
      let h := h.opened d.ref
      if d.serial.res < 0 then (h.closed d.ref, false)
      else if d.serial.res = serial.length ∧ cString d.serial.buf = serial then
        if d.claim ≠ 0 then (h.closed d.ref, false)
        else if 2 ≤ d.numInterfaces then (h, true)
        else (h.closed d.ref, false)
      else (h, false)

/-- One pass over a new list of devices. -/
def searchNewDevices (serial : List UInt8) : Handles → List NewDevice → Handles × Option UsbRef
  | h, [] => (h, none)
  | h, d :: ds =>
    if (tryNewDevice serial h d).2 then ((tryNewDevice serial h d).1, some d.ref)
    else searchNewDevices serial (tryNewDevice serial h d).1 ds

/-- Wait for the device to reappear. -/
def waitForAudio (serial : List UInt8) : Handles → List (List NewDevice) → Handles × Option UsbRef
  | h, [] => (h, none)
  | h, ds :: tries =>
    match searchNewDevices serial h ds with
    | (h, some r) => (h, some r)
    | (h, none) => waitForAudio serial h tries

namespace OpenState

variable (st : OpenState) (a : OpenAnswers)

/-- Upload the firmware to an audio device in bootloader state, and wait for it to come back. -/
def uploadFirmware : Except OpenState OpenState :=
  if a.audioSerial.res < 0 then st.fail a.audioSerial.res
  else if a.upload < 0 then st.fail a.upload
  else
    let st := st.dropAudio
    match waitForAudio (cString a.audioSerial.buf) st.ctx.handles (a.tries.take 10) with
    | (h, some r) =>
      .ok { st with
        ctx := { st.ctx with handles := h }
        dev := { st.dev with usbAudio := some r }
        res := a.upload }.enableMotorControl
    | (h, none) => .ok { st with ctx := { st.ctx with handles := h }, res := a.upload }

/-- Find and open the audio device. -/
def openAudio (devs : List UsbDevice) (camera : UsbRef) : Except OpenState OpenState :=
  if ¬ st.ctx.enabled.audio then .ok st
  else
    match findSibling devs camera Descriptor.isAudio with
    | none => st.fail (-1)
    | some audio =>
      if a.audioDesc < 0 then st.fail a.audioDesc
      else if a.openAudio < 0 then st.fail a.openAudio
      else
        let st := { st with
          ctx := { st.ctx with handles := st.ctx.handles.opened audio }
          dev := { st.dev with usbAudio := some audio } }
        if a.claimAudio < 0 then st.dropAudio.fail a.claimAudio
        else if 2 ≤ a.numInterfaces then .ok { st with res := a.claimAudio }.enableMotorControl
        else st.uploadFirmware a

/-- Each enabled subdevice is open. -/
def AllOpen : Prop :=
  (st.dev.usbCam.isSome = true ∨ st.ctx.enabled.camera = false) ∧
    (st.dev.usbMotor.isSome = true ∨ st.ctx.enabled.motor = false) ∧
    (st.dev.usbAudio.isSome = true ∨ st.ctx.enabled.audio = false)

instance : Decidable st.AllOpen := inferInstanceAs (Decidable (_ ∧ _ ∧ _))

/-- Everything behind the search for the camera. -/
def openFound (devs : List UsbDevice) (camera : UsbRef) (desc : Descriptor) :
    Except OpenState OpenState :=
  match st.openCamera a devs camera desc with
  | .error st => .error st
  | .ok st =>
    match st.openMotor a devs camera with
    | .error st => .error st
    | .ok st => st.openAudio a devs camera

end OpenState

/-- `fnusb_open_subdevices`. There is no device list if libusb cannot get one. -/
def openSubdevices (devs : Option (List UsbDevice)) (ctx : UsbContext) (index : ℤ)
    (a : OpenAnswers) : OpenState :=
  let st : OpenState := { ctx := ctx, dev := .zero, res := 0 }
  match devs with
  | none => { st with res := -1 }
  | some devs =>
    match findCamera index 0 0 devs with
    | none => { st with res := -1 }.closeSubdevices
    | some (camera, desc) =>
      match st.openFound a devs camera desc with
      | .error st => st.closeSubdevices
      | .ok st => if st.AllOpen then st else st.closeSubdevices

end Freenect
