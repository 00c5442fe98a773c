import Freenect.Usb.SubdeviceSpec

/-!
# Opening a device

`freenect_open_device`: the subdevices are opened, the device is linked into the context, and then
the camera is initialised. `open_atomic_iff` says exactly when a call that fails leaves the context
as it was. It does not in two cases: the initialisation of the camera fails, by which time the
device is linked and its subdevices are open, and something fails after `fnusb_open_subdevices` has
found a K4W or 1473 camera and rewritten the enabled subdevices.

The condition is put together from the modules on the subdevices: whether `fnusb_open_subdevices`
fails is `SubdevicesFail`, and what is enabled after a failure is known there too. What is left for
this module is that the context survives a failure exactly if nothing was rewritten on the way
(`enabledAfter_eq_iff`), and what happens when the subdevices are open and the camera then fails.
-/

namespace Freenect

/-- A context, as far as opening a device is concerned. -/
structure DeviceContext where
  usb : UsbContext
  devices : List OpenDevice

/-- What is answered while a device is opened: by `malloc`, by libusb, and by the camera to the
three requests of `freenect_camera_init` whose result is looked at. -/
structure DeviceAnswers where
  malloc : Bool
  usb : OpenAnswers
  regPadInfo : ℤ
  zeroPlaneInfo : ℤ
  regConstShift : ℤ

/-- `freenect_camera_init`. The results of setting the two modes are overwritten. -/
def cameraInit (a : DeviceAnswers) : ℤ :=
  if a.regPadInfo < 0 then a.regPadInfo
  else if a.zeroPlaneInfo < 0 then a.zeroPlaneInfo
  else if a.regConstShift < 0 then a.regConstShift
  else 0

/-- `freenect_open_device`. -/
def openDevice (devs : Option (List UsbDevice)) (ctx : DeviceContext) (index : ℤ)
    (a : DeviceAnswers) : DeviceContext × ℤ :=
  if a.malloc = false then (ctx, -1)
  else
    let st := openSubdevices devs ctx.usb index a.usb
    if st.res < 0 then ({ ctx with usb := st.ctx }, st.res)
    else
      let ctx : DeviceContext := { usb := st.ctx, devices := ctx.devices ++ [st.dev] }
      if st.dev.usbCam.isSome = true ∧ cameraInit a < 0 then (ctx, -1) else (ctx, 0)

section Atomic

variable (devs : Option (List UsbDevice)) (ctx : DeviceContext) (index : ℤ) (a : DeviceAnswers)

/-- A call that fails leaves the list of devices, the enabled subdevices and the open handles as
they were. -/
def OpensAtomically : Prop :=
  (openDevice devs ctx index a).2 < 0 →
    (openDevice devs ctx index a).1.devices = ctx.devices ∧
      (openDevice devs ctx index a).1.usb.enabled = ctx.usb.enabled ∧
      (openDevice devs ctx index a).1.usb.handles = ctx.usb.handles

/-- One of the requests of `freenect_camera_init` fails. -/
def InitFails (a : DeviceAnswers) : Prop :=
  a.regPadInfo < 0 ∨ a.zeroPlaneInfo < 0 ∨ a.regConstShift < 0

/-- The requests whose failure fails the initialisation. -/
theorem cameraInit_neg_iff (a : DeviceAnswers) : cameraInit a < 0 ↔ InitFails a := by
  rw [cameraInit, InitFails]
  split
  next h => exact iff_of_true h (Or.inl h)
  next h =>
    split
    next h' => exact iff_of_true h' (Or.inr (Or.inl h'))
    next h' =>
      split
      next h'' => exact iff_of_true h'' (Or.inr (Or.inr h''))
      next h'' =>
        refine iff_of_false (Int.lt_irrefl 0) ?_
        rintro (h₁ | h₁ | h₁)
        exacts [h h₁, h' h₁, h'' h₁]

/-- The wanted camera is a K4W or 1473, the motor is enabled too, and the camera can be opened. -/
def RewritesFound (devs : Option (List UsbDevice)) (enabled : Subdevices) (index : ℤ)
    (a : OpenAnswers) : Prop :=
  ∃ ds camera desc, devs = some ds ∧ findCamera index 0 0 ds = some (camera, desc) ∧
    Rewrites enabled desc a

/-- The enabled subdevices survive a failure exactly if they are not rewritten. -/
theorem enabledAfter_eq_iff (enabled : Subdevices) (a : OpenAnswers) :
    enabledAfter devs enabled index a = enabled ↔ ¬ RewritesFound devs enabled index a := by
  rw [enabledAfter, RewritesFound]
  cases devs with
  | none => simp
  | some ds =>
    dsimp only [Option.bind_some]
    cases hfind : findCamera index 0 0 ds with
    | none => simp [hfind]
    | some found =>
      obtain ⟨camera, desc⟩ := found
      have hex : (∃ ds' camera' desc', some ds = some ds' ∧
          findCamera index 0 0 ds' = some (camera', desc') ∧ Rewrites enabled desc' a) ↔
            Rewrites enabled desc a :=
        exists_found_iff hfind
      rw [hex]
      dsimp only
      rw [Rewrites, Subdevices.effective, Subdevices.adapt]
      obtain ⟨motor, cam, audio⟩ := enabled
      cases motor <;> cases cam <;> by_cases hnew : desc.isNewModel = true <;>
        by_cases hopen : 0 ≤ a.openCamera <;> simp [hnew, hopen]

/-- **When opening a device is atomic**: if `malloc` fails, and otherwise exactly if no failure of
the subdevices comes after the enabled ones have been rewritten, and the initialisation of an open
camera does not fail. -/
theorem open_atomic_iff :
    OpensAtomically devs ctx index a ↔
      a.malloc = false ∨
        (SubdevicesFail devs ctx.usb.enabled index a.usb →
            ¬ RewritesFound devs ctx.usb.enabled index a.usb) ∧
          (¬ SubdevicesFail devs ctx.usb.enabled index a.usb →
            CameraStays devs ctx.usb.enabled index a.usb → ¬ InitFails a) := by
  rw [OpensAtomically, openDevice]
  cases hmalloc : a.malloc with
  | false => exact iff_of_true (fun _ ↦ ⟨rfl, rfl, rfl⟩) (Or.inl rfl)
  | true =>
    rw [if_neg (by decide), or_iff_right (by decide)]
    dsimp only
    by_cases hfails : SubdevicesFail devs ctx.usb.enabled index a.usb
    · obtain ⟨hres, hhandles, henabled⟩ := openSubdevices_of_fails devs ctx.usb index a.usb hfails
      rw [if_pos hres]
      constructor
      · intro hatomic
        refine ⟨fun _ ↦ ?_, fun hno ↦ absurd hfails hno⟩
        exact (enabledAfter_eq_iff _ _ _ _).1 (henabled.symm.trans (hatomic hres).2.1)
      · rintro ⟨hrewrites, -⟩ -
        exact ⟨rfl, henabled.trans ((enabledAfter_eq_iff _ _ _ _).2 (hrewrites hfails)), hhandles⟩
    · obtain ⟨hres, hstays, -⟩ := openSubdevices_of_not_fails devs ctx.usb index a.usb hfails
      rw [if_neg (Int.not_lt.2 hres)]
      constructor
      · intro hatomic
        refine ⟨fun h ↦ absurd h hfails, fun _ hcam hinit ↦ ?_⟩
        -- the device has been linked into the context
        rw [if_pos ⟨hstays.2 hcam, (cameraInit_neg_iff a).2 hinit⟩] at hatomic
        have hlen := congrArg List.length (hatomic (by decide : (-1 : ℤ) < 0)).1
        simp at hlen
      · rintro ⟨-, hinit⟩ hneg
        rw [if_neg fun h ↦ hinit hfails (hstays.1 h.1) ((cameraInit_neg_iff a).1 h.2)] at hneg
        exact absurd hneg (Int.lt_irrefl 0)

end Atomic

/-- A 1414 camera. -/
def nuiCamera : UsbDevice where
  desc := some { idVendor := vidMicrosoft, idProduct := pidNuiCamera, bcdDevice := 267,
                 iSerialNumber := 3 }
  bus := 1
  parent := 1

/-- Everything libusb is asked for succeeds. -/
def OpenAnswers.allWork : OpenAnswers where
  openCamera := 0
  kernelDriver := 0
  detach := 0
  claimCamera := 0
  altSetting := 0
  openLed := 0
  reopenLed := 0
  claimLed := 0
  motorDesc := 0
  openMotor := 0
  claimMotor := 0
  audioDesc := 0
  openAudio := 0
  claimAudio := 0
  numInterfaces := 2
  audioSerial := { res := 0, buf := [] }
  upload := 0
  tries := []

/-- The camera does not answer the first request of its initialisation: the call fails, and the
device stays in the context. -/
theorem open_keeps_failed_device :
    ¬ OpensAtomically (some [nuiCamera])
      { usb := { enabled := ⟨false, true, false⟩, zeroPlaneRes := 0, handles := fun _ ↦ 0 }
        devices := [] } 0
      { malloc := true, usb := .allWork, regPadInfo := -1, zeroPlaneInfo := 0,
        regConstShift := 0 } := by
  intro h
  have hlen := congrArg List.length (h (by decide)).1
  exact absurd hlen (by decide)

end Freenect
