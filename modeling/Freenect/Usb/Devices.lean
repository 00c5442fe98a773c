import Mathlib.Algebra.Group.Nat.Defs
import Mathlib.Data.Int.Notation
import Mathlib.Data.List.Basic

/-!
# The devices on the bus

What libusb says about the attached devices, and the functions of `usb_libusb10.c` that pick one of
them: the predicates on descriptors, the search for the camera with a given index, and the search
for the motor or the audio device that belongs to a camera.

A device is its place in the list libusb returns. Whether a descriptor can be read is a property of
the device.

Three things of the source decide what is picked, and are kept as they are. A camera is counted by
its place among the cameras, so that an index and a place in libusb's list are different numbers. A
device whose descriptor cannot be read is passed over by both searches and takes no index. And the
search for a sibling ends early only for a match on the camera's own parent; any other candidate has
to be the only one of its kind when the list is through.
-/

namespace Freenect

/-- A `libusb_device *`: a place in the device list. -/
abbrev UsbRef := ℕ

/-- The fields of `libusb_device_descriptor` that are looked at. -/
structure Descriptor where
  idVendor : ℕ
  idProduct : ℕ
  bcdDevice : ℕ
  iSerialNumber : ℕ
  deriving DecidableEq, Repr

/-- An attached device: its descriptor unless that cannot be read, its bus, and the device it hangs
on, `0` if that is not known. -/
structure UsbDevice where
  desc : Option Descriptor
  bus : ℕ
  parent : ℕ
  deriving DecidableEq, Repr

/-- `VID_MICROSOFT`. -/
def vidMicrosoft : ℕ := 0x45e

/-- `PID_NUI_AUDIO`. -/
def pidNuiAudio : ℕ := 0x02ad

/-- `PID_NUI_CAMERA`. -/
def pidNuiCamera : ℕ := 0x02ae

/-- `PID_NUI_MOTOR`. -/
def pidNuiMotor : ℕ := 0x02b0

/-- `PID_K4W_CAMERA`. -/
def pidK4wCamera : ℕ := 0x02bf

/-- `PID_K4W_AUDIO` and its two alternatives. -/
def pidK4wAudio : List ℕ := [0x02be, 0x02c3, 0x02bb]

namespace Descriptor

variable (desc : Descriptor)

/-- `fnusb_is_camera`. -/
def isCamera : Bool :=
  desc.idVendor == vidMicrosoft &&
    (desc.idProduct == pidNuiCamera || desc.idProduct == pidK4wCamera)

/-- `fnusb_is_motor`. -/
def isMotor : Bool := desc.idVendor == vidMicrosoft && desc.idProduct == pidNuiMotor

/-- `fnusb_is_audio`. -/
def isAudio : Bool :=
  desc.idVendor == vidMicrosoft &&
    (desc.idProduct == pidNuiAudio || desc.idProduct ∈ pidK4wAudio)

/-- A K4W or 1473: any camera but the 1414 ("the good old kinect that tilts and tweets"). On a
little-endian host, which is assumed here, `fn_le32(267)` is `267`; on another one it is no number
of 16 bits, and every camera would count as one of these. -/
def isNewModel : Bool := desc.idProduct == pidK4wCamera || desc.bcdDevice != 267

end Descriptor

/-! ### The camera with a given index -/

/-- The loop of `fnusb_open_subdevices` over the devices from place `i` on. `nrCam` cameras have
been passed. -/
def findCamera (index : ℤ) : ℕ → ℕ → List UsbDevice → Option (UsbRef × Descriptor)
  | _, _, [] => none
  | i, nrCam, dev :: devs =>
    match dev.desc with
    | none => findCamera index (i + 1) nrCam devs
    | some desc =>
      if ¬ desc.isCamera then findCamera index (i + 1) nrCam devs
      else if nrCam ≠ index then findCamera index (i + 1) (nrCam + 1) devs
      else some (i, desc)

/-! ### Siblings

One pass with two counters and two candidates. What it amounts to, and that the order of the list
does not matter, is the subject of a module of its own. -/

/-- What `fnusb_find_sibling_device` has counted so far. -/
structure SiblingScan where
  total : ℕ
  sameBus : ℕ
  single : Option UsbRef
  onBus : Option UsbRef

/-- The loop of `fnusb_find_sibling_device` over the devices from place `i` on, and what follows
it. -/
def siblingLoop (camera : UsbDevice) (predicate : Descriptor → Bool) :
    SiblingScan → UsbRef → List UsbDevice → Option UsbRef
  | s, _, [] => s.onBus.or s.single
  | s, i, dev :: devs =>
    match dev.desc with
    | none => siblingLoop camera predicate s (i + 1) devs
    | some desc =>
      if ¬ predicate desc then siblingLoop camera predicate s (i + 1) devs
      else
        let s := { s with
          total := s.total + 1
          single := if s.total + 1 = 1 then some i else none }
        if camera.bus ≠ dev.bus then siblingLoop camera predicate s (i + 1) devs
        else
          let s := { s with
            sameBus := s.sameBus + 1
            onBus := if s.sameBus + 1 = 1 then some i else none }
          if camera.parent = 0 ∨ camera.parent ≠ dev.parent then
            siblingLoop camera predicate s (i + 1) devs
          else some i

/-- `fnusb_find_sibling_device`. -/
def findSibling (devs : List UsbDevice) (camera : UsbRef) (predicate : Descriptor → Bool) :
    Option UsbRef :=
  match devs[camera]? with
  | none => none
  | some cam =>
    siblingLoop cam predicate { total := 0, sameBus := 0, single := none, onBus := none } 0 devs

end Freenect
