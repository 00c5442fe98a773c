import Freenect.Control.Tilt
import Freenect.Device.Open
import Freenect.Library.Runs
import Mathlib.Tactic.SplitIfs

/-!
# Several devices of one context

The subdevices a user selects are kept in the context, and so is what opening a K4W or 1473 camera
makes of them: the motor is disabled for good, and audio enabled in its place. A 1414 that is opened
later gets no motor; one that was opened before loses it, since the functions of `tilt.c` ask the
context again. `undisturbed_iff` says in which runs of `freenect_open_device` this shows.

A call is compared with the same call made right after the selection. What it opens depends on what
is enabled when it is made, and on nothing else of the context (`openSubdevices_alike`, step by step
of the function); whether its motor can be used depends on what is enabled when the run is over,
unless the motor is driven through the audio device, which happens with new models only
(`openSubdevices_direct`). So the rest is about what is enabled: it changes once, at the first K4W
or 1473 camera, and for good (`openedContext_enabled_of_new`).

`undisturbed_iff` then distinguishes by where a call stands relative to that camera. Before it, a
1414 loses its motor, unless nothing of it stays open (`sameIn_of_no_new_before`); behind it, a 1414
gets none, unless it comes to the same without one (`sameIn_of_new_before`).
-/

namespace Freenect

/-- `freenect_select_subdevices`. -/
def selectSubdevices (ctx : DeviceContext) (subdevs : Subdevices) : DeviceContext :=
  { ctx with usb := { ctx.usb with enabled := subdevs } }

/-- A call of `freenect_open_device`: what is on the bus, the index, and the answers. -/
structure OpenCall where
  devs : Option (List UsbDevice)
  index : ℤ
  answers : DeviceAnswers

/-- What a call does. -/
def OpenCall.apply (ctx : DeviceContext) (o : OpenCall) : DeviceContext × ℤ :=
  openDevice o.devs ctx o.index o.answers

/-- The device a call adds to the context. -/
def OpenCall.added (ctx : DeviceContext) (o : OpenCall) : Option OpenDevice :=
  ((o.apply ctx).1.devices.drop ctx.devices.length).head?

/-- The subdevices of a device that are open. -/
def OpenDevice.opened (dev : OpenDevice) : Subdevices where
  motor := dev.usbMotor.isSome
  camera := dev.usbCam.isSome
  audio := dev.usbAudio.isSome

/-- The context after a selection and some calls. -/
def openedContext (ctx : DeviceContext) (subdevs : Subdevices) (calls : List OpenCall) :
    DeviceContext :=
  Mealy.run OpenCall.apply (selectSubdevices ctx subdevs) calls

/-- Every call of a run opens the subdevices it would have opened right after the selection, and
when the run is over its device's motor is reached by the calls that would have reached it then. -/
def Undisturbed (ctx : DeviceContext) (subdevs : Subdevices) (calls : List OpenCall) : Prop :=
  ∀ (k : ℕ) (o : OpenCall), calls[k]? = some o →
    (o.added (openedContext ctx subdevs (calls.take k))).map OpenDevice.opened =
      (o.added (openedContext ctx subdevs [])).map OpenDevice.opened ∧
    ∀ dev dev', o.added (openedContext ctx subdevs (calls.take k)) = some dev →
      o.added (openedContext ctx subdevs []) = some dev' → ∀ (call : MotorCall) s a,
        (call.apply (openedContext ctx subdevs calls).usb.enabled dev s a).Reaches ↔
          (call.apply (openedContext ctx subdevs [o]).usb.enabled dev' s a).Reaches

/-! ### Opening depends on the enabled subdevices alone

Two runs of the function, with the same answers, in two contexts. They stay alike from step to step:
the device and the result are equal and the enabled subdevices too, while the handles on the bus may
differ. -/

namespace OpenState

variable {st st' : OpenState} {a : OpenAnswers} {devs : List UsbDevice} {camera : UsbRef}
  {desc : Descriptor}

/-- Two states that differ in the bus only. -/
structure Alike (st st' : OpenState) : Prop where
  dev : st.dev = st'.dev
  res : st.res = st'.res
  enabled : st.ctx.enabled = st'.ctx.enabled

/-- Two results of a step that differ in the bus only, or two errors with the same result. -/
inductive AlikeResults : Except OpenState OpenState → Except OpenState OpenState → Prop
  | error {st st' : OpenState} : st.dev = st'.dev → st.res = st'.res →
      AlikeResults (.error st) (.error st')
  | ok {st st' : OpenState} : st.Alike st' → AlikeResults (.ok st) (.ok st')

variable (a devs camera)

/-- The claim of the camera. -/
theorem claimCamera_alike (h : st.Alike st') :
    AlikeResults (st.claimCamera a) (st'.claimCamera a) := by
  obtain ⟨⟨enabled, z, handles⟩, dev, res⟩ := st
  obtain ⟨⟨enabled', z', handles'⟩, dev', res'⟩ := st'
  obtain ⟨rfl, rfl, rfl⟩ := h
  unfold claimCamera
  dsimp only
  split_ifs
  all_goals first
    | exact .error rfl rfl
    | exact .ok ⟨rfl, rfl, rfl⟩

/-- The camera may find different subdevices enabled, if it makes the same of them. -/
theorem openCamera_alike (hdev : st.dev = st'.dev) (hres : st.res = st'.res)
    (hcam : st.ctx.enabled.camera = st'.ctx.enabled.camera)
    (heff : st.ctx.enabled.effective desc = st'.ctx.enabled.effective desc) :
    AlikeResults (st.openCamera a devs camera desc) (st'.openCamera a devs camera desc) := by
  simp only [openCamera]
  rw [← hcam]
  by_cases hon : st.ctx.enabled.camera = true
  swap
  · rw [if_pos hon, if_pos hon]
    simp only [Subdevices.effective] at heff
    rw [if_neg fun h ↦ hon h.1, if_neg fun h ↦ hon (hcam.trans h.1)] at heff
    exact .ok ⟨hdev, hres, heff⟩
  rw [if_neg (not_not.2 hon), if_neg (not_not.2 hon)]
  by_cases hopen : a.openCamera < 0
  · rw [if_pos hopen, if_pos hopen]
    exact .error hdev rfl
  rw [if_neg hopen, if_neg hopen]
  refine claimCamera_alike a ?_
  obtain ⟨hen, -, hres₁, hdev₁⟩ := noteModel_frame
    { st with
      ctx := { st.ctx with handles := st.ctx.handles.opened camera }
      dev := { st.dev with usbCam := some camera } } a devs camera desc hon
  obtain ⟨hen', -, hres₁', hdev₁'⟩ := noteModel_frame
    { st' with
      ctx := { st'.ctx with handles := st'.ctx.handles.opened camera }
      dev := { st'.dev with usbCam := some camera } } a devs camera desc (hcam ▸ hon)
  refine ⟨?_, hres₁.trans (hres.trans hres₁'.symm), hen.trans (heff.trans hen'.symm)⟩
  dsimp only
  rw [hdev₁, hdev₁', hdev]

/-- The motor. -/
theorem openMotor_alike (h : st.Alike st') :
    AlikeResults (st.openMotor a devs camera) (st'.openMotor a devs camera) := by
  obtain ⟨⟨enabled, z, handles⟩, dev, res⟩ := st
  obtain ⟨⟨enabled', z', handles'⟩, dev', res'⟩ := st'
  obtain ⟨rfl, rfl, rfl⟩ := h
  unfold openMotor
  dsimp only
  cases findSibling devs camera Descriptor.isMotor with
  | none =>
    dsimp only
    split_ifs
    · exact .error rfl rfl
    · exact .ok ⟨rfl, rfl, rfl⟩
  | some motor =>
    dsimp only
    split_ifs
    all_goals first
      | exact .error rfl rfl
      | exact .ok ⟨rfl, rfl, rfl⟩

/-- The upload of the firmware, and the wait for the device. -/
theorem uploadFirmware_alike (h : st.Alike st') :
    AlikeResults (st.uploadFirmware a) (st'.uploadFirmware a) := by
  obtain ⟨⟨enabled, z, handles⟩, dev, res⟩ := st
  obtain ⟨⟨enabled', z', handles'⟩, dev', res'⟩ := st'
  obtain ⟨rfl, rfl, rfl⟩ := h
  have hwait := waitForAudio_snd_congr (cString a.audioSerial.buf)
    (handles.release dev.usbAudio) (handles'.release dev.usbAudio) (a.tries.take 10)
  simp only [uploadFirmware]
  split_ifs
  · exact .error rfl rfl
  · exact .error rfl rfl
  · dsimp only [dropAudio]
    generalize waitForAudio _ (handles.release dev.usbAudio) _ = x at hwait ⊢
    generalize waitForAudio _ (handles'.release dev.usbAudio) _ = y at hwait ⊢
    obtain ⟨h₁, r⟩ := x
    obtain ⟨h₂, r'⟩ := y
    obtain rfl : r = r' := hwait
    cases r with
    | none => exact .ok ⟨rfl, rfl, rfl⟩
    | some r => exact .ok ⟨rfl, rfl, rfl⟩

/-- The audio device. -/
theorem openAudio_alike (h : st.Alike st') :
    AlikeResults (st.openAudio a devs camera) (st'.openAudio a devs camera) := by
  obtain ⟨⟨enabled, z, handles⟩, dev, res⟩ := st
  obtain ⟨⟨enabled', z', handles'⟩, dev', res'⟩ := st'
  obtain ⟨rfl, rfl, rfl⟩ := h
  unfold openAudio
  dsimp only
  cases findSibling devs camera Descriptor.isAudio with
  | none =>
    dsimp only
    split_ifs
    · exact .error rfl rfl
    · exact .ok ⟨rfl, rfl, rfl⟩
  | some audio =>
    dsimp only
    split_ifs
    all_goals first
      | exact .error rfl rfl
      | exact .ok ⟨rfl, rfl, rfl⟩
      | exact uploadFirmware_alike a ⟨rfl, rfl, rfl⟩

/-- The three steps together. -/
theorem openFound_alike (hdev : st.dev = st'.dev) (hres : st.res = st'.res)
    (hcam : st.ctx.enabled.camera = st'.ctx.enabled.camera)
    (heff : st.ctx.enabled.effective desc = st'.ctx.enabled.effective desc) :
    AlikeResults (st.openFound a devs camera desc) (st'.openFound a devs camera desc) := by
  have hcamera := openCamera_alike a devs camera hdev hres hcam heff
  simp only [openFound]
  generalize st.openCamera a devs camera desc = x at hcamera ⊢
  generalize st'.openCamera a devs camera desc = y at hcamera ⊢
  obtain ⟨hdev₁, hres₁⟩ | @⟨st₁, st₁', h₁⟩ := hcamera
  · exact .error hdev₁ hres₁
  have hmotor := openMotor_alike a devs camera h₁
  dsimp only
  generalize st₁.openMotor a devs camera = x at hmotor ⊢
  generalize st₁'.openMotor a devs camera = y at hmotor ⊢
  obtain ⟨hdev₂, hres₂⟩ | @⟨st₂, st₂', h₂⟩ := hmotor
  · exact .error hdev₂ hres₂
  · exact openAudio_alike a devs camera h₂

/-- What closing does to the device. -/
theorem closeSubdevices_dev (st : OpenState) :
    st.closeSubdevices.dev =
      { st.dev with usbCam := none, usbMotor := none, usbAudio := none } := rfl

end OpenState

/-- **What is opened depends on the enabled subdevices alone**, and on these only as far as the
camera's model leaves a difference. -/
theorem openSubdevices_alike (devs : Option (List UsbDevice)) (ctx ctx' : UsbContext) (index : ℤ)
    (a : OpenAnswers)
    (hen : ∀ ds camera desc, devs = some ds → findCamera index 0 0 ds = some (camera, desc) →
      ctx.enabled.camera = ctx'.enabled.camera ∧
        ctx.enabled.effective desc = ctx'.enabled.effective desc) :
    (openSubdevices devs ctx index a).dev = (openSubdevices devs ctx' index a).dev ∧
      (openSubdevices devs ctx index a).res = (openSubdevices devs ctx' index a).res := by
  simp only [openSubdevices]
  cases devs with
  | none => exact ⟨rfl, rfl⟩
  | some ds =>
    dsimp only
    cases hfind : findCamera index 0 0 ds with
    | none => exact ⟨rfl, rfl⟩
    | some found =>
      obtain ⟨camera, desc⟩ := found
      obtain ⟨hcam, heff⟩ := hen ds camera desc rfl hfind
      have hfound : OpenState.AlikeResults
          (OpenState.openFound { ctx := ctx, dev := .zero, res := 0 } a ds camera desc)
          (OpenState.openFound { ctx := ctx', dev := .zero, res := 0 } a ds camera desc) :=
        OpenState.openFound_alike a ds camera rfl rfl hcam heff
      dsimp only
      generalize OpenState.openFound _ a ds camera desc = x at hfound ⊢
      generalize OpenState.openFound _ a ds camera desc = y at hfound ⊢
      obtain ⟨hdev, hres⟩ | @⟨st, st', hdev, hres, henabled⟩ := hfound
      · exact ⟨by rw [OpenState.closeSubdevices_dev, OpenState.closeSubdevices_dev, hdev], hres⟩
      -- whether everything is open is decided by what both have in common
      · have hall : st.AllOpen ↔ st'.AllOpen := by
          simp only [OpenState.AllOpen]
          rw [hdev, henabled]
        dsimp only
        rw [if_congr hall rfl rfl]
        split
        · exact ⟨hdev, hres⟩
        · exact ⟨by rw [OpenState.closeSubdevices_dev, OpenState.closeSubdevices_dev, hdev], hres⟩

/-! ### A 1414 is not driven through its audio device

The flag that sends the calls of `tilt.c` to the audio device is set for the new models only, in the
course of opening one. `Either` says of a step that it keeps the flag clear, whether it fails or
not. -/

namespace OpenState

variable {st : OpenState} {a : OpenAnswers} {devs : List UsbDevice} {camera : UsbRef}
  {desc : Descriptor}

/-- The motor of the device is not driven through its audio device. -/
def DrivenDirectly (st : OpenState) : Prop :=
  st.dev.deviceDoesMotorControlWithAudio = false ∧ st.dev.motorControlWithAudioEnabled = false

/-- Whatever a step ends with has the property. -/
def Either (P : OpenState → Prop) : Except OpenState OpenState → Prop
  | .error st => P st
  | .ok st => P st

variable (a devs camera)

/-- The claim does not set the flag. -/
theorem claimCamera_direct (h : st.DrivenDirectly) :
    Either DrivenDirectly (st.claimCamera a) := by
  rw [claimCamera]
  split_ifs <;> exact h

/-- Nor does opening the camera of a 1414. -/
theorem openCamera_direct (h : st.DrivenDirectly) (hold : ¬ desc.isNewModel = true) :
    Either DrivenDirectly (st.openCamera a devs camera desc) := by
  simp only [openCamera, noteModel]
  simp only [if_neg hold]
  split_ifs
  · exact h
  · exact claimCamera_direct a h
  · exact h

theorem openMotor_direct (h : st.DrivenDirectly) :
    Either DrivenDirectly (st.openMotor a devs camera) := by
  rw [openMotor]
  cases findSibling devs camera Descriptor.isMotor with
  | none =>
    dsimp only
    split_ifs
    · exact h
    · exact h
  | some motor =>
    dsimp only
    split_ifs <;> exact h

/-- The firmware sets it only for a model whose motor it drives. -/
theorem enableMotorControl_direct (h : st.DrivenDirectly) :
    st.enableMotorControl.DrivenDirectly := by
  refine ⟨h.1, ?_⟩
  show (st.dev.motorControlWithAudioEnabled || st.dev.deviceDoesMotorControlWithAudio) = false
  rw [h.1, h.2]
  rfl

/-- So an upload does not set it. -/
theorem uploadFirmware_direct (h : st.DrivenDirectly) :
    Either DrivenDirectly (st.uploadFirmware a) := by
  rw [uploadFirmware]
  split_ifs
  · exact h
  · exact h
  · dsimp only
    split
    · exact enableMotorControl_direct h
    · exact h

theorem openAudio_direct (h : st.DrivenDirectly) :
    Either DrivenDirectly (st.openAudio a devs camera) := by
  rw [openAudio]
  cases findSibling devs camera Descriptor.isAudio with
  | none =>
    dsimp only
    split_ifs
    · exact h
    · exact h
  | some audio =>
    dsimp only
    split_ifs
    all_goals first
      | exact h
      | exact enableMotorControl_direct h
      | exact uploadFirmware_direct a h

theorem openFound_direct (h : st.DrivenDirectly) (hold : ¬ desc.isNewModel = true) :
    Either DrivenDirectly (st.openFound a devs camera desc) := by
  have hcamera := openCamera_direct a devs camera h hold
  rw [openFound]
  generalize st.openCamera a devs camera desc = x at hcamera ⊢
  rcases x with st₁ | st₁
  · exact hcamera
  have hmotor := openMotor_direct a devs camera hcamera
  dsimp only
  generalize st₁.openMotor a devs camera = y at hmotor ⊢
  rcases y with st₂ | st₂
  · exact hmotor
  · exact openAudio_direct a devs camera hmotor

end OpenState

/-- **The motor of a 1414 is not driven through its audio device.** -/
theorem openSubdevices_direct {ds : List UsbDevice} {index : ℤ} {camera : UsbRef}
    {desc : Descriptor} (hfind : findCamera index 0 0 ds = some (camera, desc))
    (hold : ¬ desc.isNewModel = true) (ctx : UsbContext) (a : OpenAnswers) :
    (openSubdevices (some ds) ctx index a).dev.motorControlWithAudioEnabled = false := by
  have hfound : OpenState.Either OpenState.DrivenDirectly
      (OpenState.openFound { ctx := ctx, dev := .zero, res := 0 } a ds camera desc) :=
    OpenState.openFound_direct a ds camera ⟨rfl, rfl⟩ hold
  rw [openSubdevices]
  dsimp only
  rw [hfind]
  dsimp only
  generalize OpenState.openFound _ a ds camera desc = x at hfound ⊢
  rcases x with st | st
  · exact hfound.2
  · dsimp only
    split
    · exact hfound.2
    · exact hfound.2

/-! ### Calls

What a call comes to, in the words of the module on the subdevices. -/

namespace OpenCall

variable (ctx : DeviceContext) (enabled : Subdevices) (o : OpenCall)

/-- `fnusb_open_subdevices` returns an error. -/
def Fails : Prop := SubdevicesFail o.devs enabled o.index o.answers.usb

/-- The camera is open in the end: everything that is enabled is. -/
def Stays : Prop := CameraStays o.devs enabled o.index o.answers.usb

/-- A K4W or 1473 camera is found, and can be opened. -/
def OpensNew : Prop :=
  o.answers.malloc = true ∧ 0 ≤ o.answers.usb.openCamera ∧
    ∃ ds camera desc, o.devs = some ds ∧ findCamera o.index 0 0 ds = some (camera, desc) ∧
      desc.isNewModel = true

/-- The camera of a 1414 is found, and can be opened. -/
def OpensOld : Prop :=
  o.answers.malloc = true ∧ 0 ≤ o.answers.usb.openCamera ∧
    ∃ ds camera desc, o.devs = some ds ∧ findCamera o.index 0 0 ds = some (camera, desc) ∧
      ¬ desc.isNewModel = true

/-- The subdevices `o` opens, in a context with these enabled. -/
abbrev result (ctx : DeviceContext) (o : OpenCall) : OpenState :=
  openSubdevices o.devs ctx.usb o.index o.answers.usb

/-- The device that is added is the one whose subdevices were opened, unless the call fails early.
-/
theorem added_eq :
    o.added ctx =
      if o.answers.malloc = false ∨ (o.result ctx).res < 0 then none
      else some (o.result ctx).dev := by
  rw [added, apply, openDevice]
  by_cases hmalloc : o.answers.malloc = false
  · rw [if_pos hmalloc, if_pos (Or.inl hmalloc), List.drop_length]
    rfl
  rw [if_neg hmalloc]
  by_cases hres : (o.result ctx).res < 0
  · rw [if_pos (Or.inr hres)]
    dsimp only
    rw [if_pos hres, List.drop_length]
    rfl
  · rw [if_neg (not_or.2 ⟨hmalloc, hres⟩)]
    dsimp only
    rw [if_neg hres]
    split <;> rw [List.drop_left] <;> rfl

variable {ctx enabled o}

/-- A call that fails adds none. -/
theorem added_of_fails (hen : ctx.usb.enabled = enabled) (hfails : o.Fails enabled) :
    o.added ctx = none := by
  rw [added_eq]
  exact if_pos (Or.inr (openSubdevices_of_fails _ _ _ _ (hen ▸ hfails)).1)

/-- **A call that does not fail adds a device**, and what of it is open is known. -/
theorem added_of_not_fails (hen : ctx.usb.enabled = enabled) (hmalloc : o.answers.malloc = true)
    (hno : ¬ o.Fails enabled) :
    ∃ dev, o.added ctx = some dev ∧ (enabled.camera = true →
      (dev.usbCam.isSome = true ↔ o.Stays enabled) ∧
      (dev.usbMotor.isSome = true ↔
        o.Stays enabled ∧ (enabledAfter o.devs enabled o.index o.answers.usb).motor = true) ∧
      (¬ o.Stays enabled → dev.usbAudio = none)) := by
  subst hen
  obtain ⟨hres, hcam, -, hafter, hmotor, haudio⟩ := openSubdevices_of_not_fails _ _ _ _ hno
  refine ⟨_, ?_, fun hon ↦ ⟨hcam, ?_, haudio hon⟩⟩
  · rw [added_eq]
    exact if_neg (not_or.2 ⟨by rw [hmalloc]; decide, Int.not_lt.2 hres⟩)
  · exact hafter ▸ hmotor hon

/-- A device is added only where a camera has been found and could be opened. -/
theorem opens_of_added {dev : OpenDevice} (hon : ctx.usb.enabled.camera = true)
    (h : o.added ctx = some dev) :
    o.answers.malloc = true ∧ ¬ o.Fails ctx.usb.enabled ∧ (o.OpensNew ∨ o.OpensOld) := by
  have hno : ¬ o.Fails ctx.usb.enabled := fun hf ↦ by
    rw [added_of_fails rfl hf] at h
    cases h
  have hmalloc : o.answers.malloc = true := by
    cases hm : o.answers.malloc with
    | true => rfl
    | false =>
      rw [added_eq, if_pos (Or.inl hm)] at h
      cases h
  refine ⟨hmalloc, hno, ?_⟩
  obtain ⟨ds, hno⟩ := not_forall.1 hno
  obtain ⟨camera, hno⟩ := not_forall.1 hno
  obtain ⟨desc, hno⟩ := not_forall.1 hno
  simp only [Classical.not_imp, not_or] at hno
  obtain ⟨hds, hfind, hcam, -⟩ := hno
  have hopen : 0 ≤ o.answers.usb.openCamera :=
    Int.not_lt.1 fun hlt ↦ hcam ⟨hon, Or.inl hlt⟩
  by_cases hnew : desc.isNewModel = true
  · exact Or.inl ⟨hmalloc, hopen, ds, camera, desc, hds, hfind, hnew⟩
  · exact Or.inr ⟨hmalloc, hopen, ds, camera, desc, hds, hfind, hnew⟩

/-- The two models exclude each other. -/
theorem not_opensNew_of_opensOld (h : o.OpensOld) : ¬ o.OpensNew := by
  obtain ⟨-, -, ds, camera, desc, hds, hfind, hold⟩ := h
  rintro ⟨-, -, ds', camera', desc', hds', hfind', hnew⟩
  obtain rfl := Option.some.inj (hds.symm.trans hds')
  obtain ⟨rfl, rfl⟩ := Prod.mk.inj (Option.some.inj (hfind.symm.trans hfind'))
  exact hold hnew

/-! ### The enabled subdevices

Only the opening of a new model writes to the selection, and what it makes of it stays as it is
under any later call. -/

/-- Only a K4W or 1473 camera changes what is enabled. -/
theorem enabledAfter_of_not_opensNew (hmalloc : o.answers.malloc = true) (h : ¬ o.OpensNew) :
    enabledAfter o.devs enabled o.index o.answers.usb = enabled := by
  refine (enabledAfter_eq_iff _ _ _ _).2 ?_
  rintro ⟨ds, camera, desc, hds, hfind, -, -, hnew, hopen⟩
  exact h ⟨hmalloc, hopen, ds, camera, desc, hds, hfind, hnew⟩

/-- Without the motor nothing changes what is enabled. -/
theorem enabledAfter_of_idle (h : ¬ (enabled.camera = true ∧ enabled.motor = true)) :
    enabledAfter o.devs enabled o.index o.answers.usb = enabled := by
  refine (enabledAfter_eq_iff _ _ _ _).2 ?_
  rintro ⟨ds, camera, desc, -, -, hcam, hmotor, -, -⟩
  exact h ⟨hcam, hmotor⟩

/-- A new model adapts the selection. -/
theorem enabledAfter_of_opensNew (hcam : enabled.camera = true) (h : o.OpensNew) :
    enabledAfter o.devs enabled o.index o.answers.usb = enabled.adapt := by
  obtain ⟨-, hopen, ds, camera, desc, hds, hfind, hnew⟩ := h
  rw [enabledAfter]
  rw [hds, Option.bind_some, hfind]
  exact (if_pos hopen).trans (if_pos ⟨hcam, hnew⟩)

/-- What is enabled after a call. -/
theorem enabled_apply (ctx : DeviceContext) (o : OpenCall) :
    (o.apply ctx).1.usb.enabled =
      if o.answers.malloc = true then enabledAfter o.devs ctx.usb.enabled o.index o.answers.usb
      else ctx.usb.enabled := by
  have hafter : (o.result ctx).ctx.enabled =
      enabledAfter o.devs ctx.usb.enabled o.index o.answers.usb := by
    by_cases hfails : o.Fails ctx.usb.enabled
    · exact (openSubdevices_of_fails _ _ _ _ hfails).2.2
    · exact (openSubdevices_of_not_fails _ _ _ _ hfails).enabled
  rw [apply, openDevice]
  by_cases hmalloc : o.answers.malloc = false
  · rw [if_pos hmalloc, if_neg (by rw [hmalloc]; decide)]
  · have hm : o.answers.malloc = true := by simpa using hmalloc
    rw [if_neg hmalloc, if_pos hm]
    dsimp only
    split
    · exact hafter
    · split
      · exact hafter
      · exact hafter

/-- A call that opens no new model leaves it. -/
theorem enabled_apply_of_not_opensNew (h : ¬ o.OpensNew) :
    (o.apply ctx).1.usb.enabled = ctx.usb.enabled := by
  rw [enabled_apply]
  split
  next hmalloc => exact enabledAfter_of_not_opensNew hmalloc h
  next => rfl

/-- So does any call if the camera or the motor is not selected. -/
theorem enabled_apply_of_idle
    (h : ¬ (ctx.usb.enabled.camera = true ∧ ctx.usb.enabled.motor = true)) :
    (o.apply ctx).1.usb.enabled = ctx.usb.enabled := by
  rw [enabled_apply]
  split
  · exact enabledAfter_of_idle h
  · rfl

/-- A call that opens a new model adapts it. -/
theorem enabled_apply_of_opensNew (hcam : ctx.usb.enabled.camera = true) (h : o.OpensNew) :
    (o.apply ctx).1.usb.enabled = ctx.usb.enabled.adapt := by
  rw [enabled_apply, if_pos h.1]
  exact enabledAfter_of_opensNew hcam h

end OpenCall

section Runs

variable (ctx : DeviceContext) (subdevs : Subdevices)

/-- What stays enabled when it lacks the camera or the motor. -/
theorem openedContext_enabled_of_idle (h : ¬ (subdevs.camera = true ∧ subdevs.motor = true))
    (calls : List OpenCall) : (openedContext ctx subdevs calls).usb.enabled = subdevs := by
  refine Mealy.run_invariant (I := fun ctx : DeviceContext ↦ ctx.usb.enabled = subdevs)
    (fun ctx o hen ↦ ?_) rfl calls
  exact (OpenCall.enabled_apply_of_idle (hen.symm ▸ h)).trans hen

/-- Without a new model the selection survives a run. -/
theorem openedContext_enabled_of_no_new {calls : List OpenCall}
    (h : ∀ o ∈ calls, ¬ o.OpensNew) : (openedContext ctx subdevs calls).usb.enabled = subdevs := by
  suffices ∀ ctx : DeviceContext, ctx.usb.enabled = subdevs →
      (Mealy.run OpenCall.apply ctx calls).usb.enabled = subdevs from this _ rfl
  induction calls with
  | nil => exact fun _ hen ↦ hen
  | cons o calls ih =>
    obtain ⟨ho, hcalls⟩ := List.forall_mem_cons.1 h
    exact fun ctx hen ↦ ih hcalls _ ((OpenCall.enabled_apply_of_not_opensNew ho).trans hen)

/-- **The selection is rewritten for good** by the first K4W or 1473 camera. -/
theorem openedContext_enabled_of_new {calls : List OpenCall} (hcam : subdevs.camera = true)
    (h : ∃ o ∈ calls, o.OpensNew) :
    (openedContext ctx subdevs calls).usb.enabled = subdevs.adapt := by
  suffices ∀ ctx : DeviceContext, ctx.usb.enabled = subdevs →
      (Mealy.run OpenCall.apply ctx calls).usb.enabled = subdevs.adapt from this _ rfl
  induction calls with
  | nil => exact absurd h (by simp)
  | cons o calls ih =>
    intro ctx hen
    by_cases ho : o.OpensNew
    · have hadapt : (o.apply ctx).1.usb.enabled = subdevs.adapt := by
        rw [OpenCall.enabled_apply_of_opensNew (hen.symm ▸ hcam) ho, hen]
      -- from here on the motor is not enabled
      refine Mealy.run_invariant (I := fun ctx : DeviceContext ↦ ctx.usb.enabled = subdevs.adapt)
        (fun ctx o hen ↦ (OpenCall.enabled_apply_of_idle ?_).trans hen) hadapt calls
      rw [hen]
      exact fun h' ↦ Bool.false_ne_true h'.2
    · obtain ⟨o', ho', hnew⟩ := h
      rcases List.mem_cons.1 ho' with rfl | hmem
      · exact absurd hnew ho
      · exact ih ⟨o', hmem, hnew⟩ _ ((OpenCall.enabled_apply_of_not_opensNew ho).trans hen)

end Runs

/-! ### When devices do not disturb each other

The two parts of the condition correspond to the two sides of the first new model in a run. -/

/-- A call comes to the same with the selection and with what a K4W or 1473 camera makes of it: it
fails, or everything it has opened is closed again. -/
def OpenCall.Indifferent (o : OpenCall) (subdevs : Subdevices) : Prop :=
  (o.Fails subdevs ∧ o.Fails subdevs.adapt) ∨
    (¬ o.Fails subdevs ∧ ¬ o.Fails subdevs.adapt ∧ ¬ o.Stays subdevs ∧ ¬ o.Stays subdevs.adapt)

/-- With the camera and the motor selected, nothing of a 1414 is left open that is opened before a
K4W or 1473 camera, and nothing comes of the rewritten selection for one opened after. -/
def Separate (subdevs : Subdevices) (calls : List OpenCall) : Prop :=
  subdevs.camera = true → subdevs.motor = true →
    ∀ (k : ℕ) (o : OpenCall), calls[k]? = some o → o.OpensOld →
      ((∃ o' ∈ calls.take k, o'.OpensNew) → o.Indifferent subdevs) ∧
        ((∃ o' ∈ calls.drop (k + 1), o'.OpensNew) → o.Fails subdevs ∨ ¬ o.Stays subdevs)

section Undisturbed

variable {ctx : DeviceContext} {subdevs : Subdevices} {calls : List OpenCall} {k : ℕ}
  {o : OpenCall}

/-- What the calls of a motor function reach, if the device is the same and either its motor is not
open or the context says the same about it. -/
theorem reaches_congr {dev : OpenDevice} {fin alone : Subdevices}
    (h : dev.usbMotor.isSome = true → (fin.motor = true ↔ alone.motor = true)) (call : MotorCall)
    (s : MotorState) (a : MotorAnswers) :
    (call.apply fin dev s a).Reaches ↔ (call.apply alone dev s a).Reaches := by
  rw [MotorCall.reaches_iff, MotorCall.reaches_iff]
  split
  · exact Iff.rfl
  · exact and_congr_left h

/-- A device with nothing open is not reached. -/
theorem not_reaches_of_closed {dev : OpenDevice} (hmotor : ¬ dev.usbMotor.isSome = true)
    (haudio : dev.usbAudio = none) (enabled : Subdevices) (call : MotorCall) (s : MotorState)
    (a : MotorAnswers) : ¬ (call.apply enabled dev s a).Reaches := by
  rw [MotorCall.reaches_iff]
  split
  · rw [haudio]
    exact fun h ↦ Bool.false_ne_true h.1
  · exact fun h ↦ hmotor h.2

/-- Two contexts in which a call finds the same enabled, or makes the same of it. -/
theorem added_congr {ctx ctx' : DeviceContext}
    (hcam : ctx.usb.enabled.camera = ctx'.usb.enabled.camera)
    (heff : ∀ ds camera desc, o.devs = some ds → findCamera o.index 0 0 ds = some (camera, desc) →
      ctx.usb.enabled.effective desc = ctx'.usb.enabled.effective desc) :
    o.added ctx = o.added ctx' := by
  obtain ⟨hdev, hres⟩ := openSubdevices_alike o.devs ctx.usb ctx'.usb o.index o.answers.usb
    fun ds camera desc hds hfind ↦ ⟨hcam, heff ds camera desc hds hfind⟩
  rw [OpenCall.added_eq, OpenCall.added_eq, OpenCall.result, OpenCall.result, hdev, hres]

/-- With the camera enabled, a K4W or 1473 gives no reason to ask whether the selection has been
rewritten before. -/
theorem added_congr_of_opensNew {ctx ctx' : DeviceContext} (hcam : subdevs.camera = true)
    (hen : ctx.usb.enabled = subdevs.adapt) (hen' : ctx'.usb.enabled = subdevs)
    (h : o.OpensNew) : o.added ctx = o.added ctx' := by
  obtain ⟨-, -, ds, camera, desc, hds, hfind, hnew⟩ := h
  refine added_congr (by rw [hen, hen']; rfl) fun ds' camera' desc' hds' hfind' ↦ ?_
  obtain rfl := Option.some.inj (hds.symm.trans hds')
  obtain ⟨rfl, rfl⟩ := Prod.mk.inj (Option.some.inj (hfind.symm.trans hfind'))
  have hnow : subdevs.effective desc = subdevs.adapt := if_pos ⟨hcam, hnew⟩
  rw [hen, hen', ← hnow]
  exact Subdevices.effective_effective subdevs desc

/-- A call opens the same in two contexts, and its motor is reached by the same calls, with `fin`
enabled in the end or `alone`. -/
def OpenCall.SameIn (o : OpenCall) (before ctx₀ : DeviceContext) (fin alone : Subdevices) : Prop :=
  (o.added before).map OpenDevice.opened = (o.added ctx₀).map OpenDevice.opened ∧
    ∀ dev dev', o.added before = some dev → o.added ctx₀ = some dev' →
      ∀ (call : MotorCall) s a,
        (call.apply fin dev s a).Reaches ↔ (call.apply alone dev' s a).Reaches

/-- It does if it adds the same device, and the context ends up saying the same about its motor. -/
theorem sameIn_of_added {before ctx₀ : DeviceContext} {fin alone : Subdevices}
    (hadded : o.added before = o.added ctx₀)
    (hreach : ∀ dev, o.added ctx₀ = some dev → dev.usbMotor.isSome = true →
      (fin.motor = true ↔ alone.motor = true)) : o.SameIn before ctx₀ fin alone := by
  refine ⟨by rw [hadded], fun dev dev' hdev hdev' ↦ ?_⟩
  obtain rfl := Option.some.inj ((hadded.symm.trans hdev).symm.trans hdev')
  exact reaches_congr (hreach dev hdev')

/-- A call of a run, and what comes before and after it. -/
theorem mem_split (hk : calls[k]? = some o) (o' : OpenCall) :
    o' ∈ calls ↔ o' ∈ calls.take k ∨ o' = o ∨ o' ∈ calls.drop (k + 1) := by
  obtain ⟨hlt, rfl⟩ := List.getElem?_eq_some_iff.1 hk
  conv_lhs => rw [← List.take_append_drop k calls, List.drop_eq_getElem_cons hlt]
  rw [List.mem_append, List.mem_cons]

/-- A new model on its own. -/
theorem openedContext_single_enabled_of_new (hcam : subdevs.camera = true) (h : o.OpensNew) :
    (openedContext ctx subdevs [o]).usb.enabled = subdevs.adapt :=
  openedContext_enabled_of_new ctx subdevs hcam ⟨o, List.mem_singleton_self o, h⟩

/-- Any other call on its own. -/
theorem openedContext_single_enabled_of_not_new (h : ¬ o.OpensNew) :
    (openedContext ctx subdevs [o]).usb.enabled = subdevs :=
  openedContext_enabled_of_no_new ctx subdevs (by simpa using h)

/-- A call before which no K4W or 1473 camera has been opened. -/
theorem sameIn_of_no_new_before (hcam : subdevs.camera = true) (hk : calls[k]? = some o)
    (hno : ∀ o' ∈ calls.take k, ¬ o'.OpensNew)
    (hsep : o.OpensOld → (∃ o' ∈ calls.drop (k + 1), o'.OpensNew) →
      o.Fails subdevs ∨ ¬ o.Stays subdevs) :
    o.SameIn (openedContext ctx subdevs (calls.take k)) (openedContext ctx subdevs [])
      (openedContext ctx subdevs calls).usb.enabled
      (openedContext ctx subdevs [o]).usb.enabled := by
  have hbefore := openedContext_enabled_of_no_new ctx subdevs hno
  have hstart : (openedContext ctx subdevs []).usb.enabled = subdevs := rfl
  refine sameIn_of_added (added_congr (by rw [hbefore, hstart]) fun _ _ _ _ _ ↦ by
    rw [hbefore, hstart]) fun dev hdev hmotor ↦ ?_
  obtain ⟨hmalloc, hnofail, hopens⟩ := OpenCall.opens_of_added hcam hdev
  by_cases hnew : o.OpensNew
  · rw [openedContext_single_enabled_of_new hcam hnew, openedContext_enabled_of_new ctx subdevs
      hcam ⟨o, (mem_split hk o).2 (Or.inr (Or.inl rfl)), hnew⟩]
  rw [openedContext_single_enabled_of_not_new hnew]
  by_cases hafter : ∃ o' ∈ calls.drop (k + 1), o'.OpensNew
  · -- the motor of a 1414 that stays open would be lost
    obtain ⟨dev', hdev', hspec⟩ := OpenCall.added_of_not_fails hstart hmalloc
      hnofail
    obtain rfl := Option.some.inj (hdev.symm.trans hdev')
    rcases hsep (hopens.resolve_left hnew) hafter with hfails | hstays
    · exact absurd hfails hnofail
    · exact absurd ((hspec hcam).2.1.1 hmotor).1 hstays
  · rw [openedContext_enabled_of_no_new ctx subdevs fun o' ho' hnew' ↦ ?_]
    rcases (mem_split hk o').1 ho' with h' | rfl | h'
    exacts [hno o' h' hnew', hnew hnew', hafter ⟨o', h', hnew'⟩]

/-- A call that opens neither model of camera adds no device. -/
theorem added_eq_none (hcam : ctx.usb.enabled.camera = true) (hnew : ¬ o.OpensNew)
    (hold : ¬ o.OpensOld) : o.added ctx = none := by
  cases h : o.added ctx with
  | none => rfl
  | some dev => exact absurd (OpenCall.opens_of_added hcam h).2.2 (not_or.2 ⟨hnew, hold⟩)

/-- A device with nothing open. -/
theorem opened_of_closed {dev : OpenDevice} (hmotor : ¬ dev.usbMotor.isSome = true)
    (hcam : ¬ dev.usbCam.isSome = true) (haudio : dev.usbAudio = none) :
    dev.opened = ⟨false, false, false⟩ := by
  rw [OpenDevice.opened, Bool.eq_false_iff.2 hmotor, Bool.eq_false_iff.2 hcam, haudio]
  rfl

/-- A call before which a K4W or 1473 camera has been opened. -/
theorem sameIn_of_new_before (hcam : subdevs.camera = true)
    (hbefore : ∃ o' ∈ calls.take k, o'.OpensNew) (hsep : o.OpensOld → o.Indifferent subdevs) :
    o.SameIn (openedContext ctx subdevs (calls.take k)) (openedContext ctx subdevs [])
      (openedContext ctx subdevs calls).usb.enabled
      (openedContext ctx subdevs [o]).usb.enabled := by
  have hnow := openedContext_enabled_of_new ctx subdevs hcam hbefore
  have hstart : (openedContext ctx subdevs []).usb.enabled = subdevs := rfl
  have hfin : (openedContext ctx subdevs calls).usb.enabled = subdevs.adapt := by
    obtain ⟨o', ho', hnew⟩ := hbefore
    exact openedContext_enabled_of_new ctx subdevs hcam ⟨o', List.mem_of_mem_take ho', hnew⟩
  by_cases hnew : o.OpensNew
  · refine sameIn_of_added (added_congr_of_opensNew hcam hnow hstart hnew) fun _ _ _ ↦ ?_
    rw [hfin, openedContext_single_enabled_of_new hcam hnew]
  by_cases hold : o.OpensOld
  swap
  · -- no camera is opened at all
    have h₁ : o.added (openedContext ctx subdevs (calls.take k)) = none :=
      added_eq_none (by rw [hnow]; exact hcam) hnew hold
    have h₂ : o.added (openedContext ctx subdevs []) = none := added_eq_none hcam hnew hold
    exact sameIn_of_added (h₁.trans h₂.symm) fun dev hdev _ ↦ (nomatch h₂.symm.trans hdev)
  rcases hsep hold with ⟨hf, hf'⟩ | ⟨hf, hf', hs, hs'⟩
  · have h₁ := OpenCall.added_of_fails hnow hf'
    have h₂ := OpenCall.added_of_fails hstart hf
    exact sameIn_of_added (h₁.trans h₂.symm) fun dev hdev _ ↦ (nomatch h₂.symm.trans hdev)
  -- everything is closed again
  obtain ⟨dev₁, hdev₁, hspec₁⟩ := OpenCall.added_of_not_fails hnow hold.1 hf'
  obtain ⟨dev₂, hdev₂, hspec₂⟩ := OpenCall.added_of_not_fails hstart hold.1 hf
  obtain ⟨hcam₁, hmotor₁, haudio₁⟩ := hspec₁ hcam
  obtain ⟨hcam₂, hmotor₂, haudio₂⟩ := hspec₂ hcam
  have hoff₁ : ¬ dev₁.usbMotor.isSome = true := fun h ↦ hs' (hmotor₁.1 h).1
  have hoff₂ : ¬ dev₂.usbMotor.isSome = true := fun h ↦ hs (hmotor₂.1 h).1
  rw [OpenCall.SameIn, hdev₁, hdev₂]
  refine ⟨?_, fun dev dev' hdev hdev' call s a ↦ ?_⟩
  · rw [Option.map_some, Option.map_some,
      opened_of_closed hoff₁ (fun h ↦ hs' (hcam₁.1 h)) (haudio₁ hs'),
      opened_of_closed hoff₂ (fun h ↦ hs (hcam₂.1 h)) (haudio₂ hs)]
  · obtain rfl := Option.some.inj hdev
    obtain rfl := Option.some.inj hdev'
    exact iff_of_false (not_reaches_of_closed hoff₁ (haudio₁ hs') _ call s a)
      (not_reaches_of_closed hoff₂ (haudio₂ hs) _ call s a)

/-- The motor of a 1414 is driven directly. -/
theorem added_direct {dev : OpenDevice} (hold : o.OpensOld) (h : o.added ctx = some dev) :
    dev.motorControlWithAudioEnabled = false := by
  obtain ⟨-, -, ds, camera, desc, hds, hfind, hold⟩ := hold
  rw [OpenCall.added_eq] at h
  split at h
  · cases h
  · obtain rfl := Option.some.inj h
    rw [OpenCall.result, hds]
    exact openSubdevices_direct hfind hold _ _

/-- A 1414 opened after a K4W or 1473 camera gets no motor: it is noticed unless nothing of it is
open in the end. -/
theorem indifferent_of_opened_eq {before ctx₀ : DeviceContext} (hcam : subdevs.camera = true)
    (hmotor : subdevs.motor = true) (hnow : before.usb.enabled = subdevs.adapt)
    (hstart : ctx₀.usb.enabled = subdevs) (hold : o.OpensOld)
    (hopened : (o.added before).map OpenDevice.opened = (o.added ctx₀).map OpenDevice.opened) :
    o.Indifferent subdevs := by
  by_cases hf : o.Fails subdevs
  · refine Or.inl ⟨hf, by_contra fun hf' ↦ ?_⟩
    obtain ⟨dev, hdev, -⟩ := OpenCall.added_of_not_fails hnow hold.1 hf'
    rw [hdev, OpenCall.added_of_fails hstart hf] at hopened
    cases hopened
  obtain ⟨dev₂, hdev₂, hspec₂⟩ := OpenCall.added_of_not_fails hstart hold.1 hf
  rw [hdev₂] at hopened
  by_cases hf' : o.Fails subdevs.adapt
  · rw [OpenCall.added_of_fails hnow hf'] at hopened
    cases hopened
  obtain ⟨dev₁, hdev₁, hspec₁⟩ := OpenCall.added_of_not_fails hnow hold.1 hf'
  rw [hdev₁] at hopened
  have heq : dev₁.opened = dev₂.opened := Option.some.inj hopened
  obtain ⟨hcam₁, hmotor₁, -⟩ := hspec₁ hcam
  obtain ⟨hcam₂, hmotor₂, -⟩ := hspec₂ hcam
  have hnotnew := OpenCall.not_opensNew_of_opensOld hold
  rw [OpenCall.enabledAfter_of_not_opensNew hold.1 hnotnew] at hmotor₁ hmotor₂
  -- the motor is not enabled any more, so the device has none
  have hoff : ¬ dev₁.usbMotor.isSome = true := fun h ↦ Bool.false_ne_true (hmotor₁.1 h).2
  have hstays : ¬ o.Stays subdevs := fun h ↦
    hoff ((congrArg Subdevices.motor heq).trans (hmotor₂.2 ⟨h, hmotor⟩))
  refine Or.inr ⟨hf, hf', hstays, fun h ↦ hstays (hcam₂.1 ?_)⟩
  exact (congrArg Subdevices.camera heq).symm.trans (hcam₁.2 h)

variable (ctx subdevs calls)

/-- **When the devices of a context do not disturb each other**: exactly if the selection lacks the
camera or the motor, or no 1414 that stays open shares the run with a K4W or 1473 camera. -/
theorem undisturbed_iff : Undisturbed ctx subdevs calls ↔ Separate subdevs calls := by
  constructor
  · intro hun hcam hmotor k o hk hold
    obtain ⟨hopened, hreach⟩ := hun k o hk
    have hstart : (openedContext ctx subdevs []).usb.enabled = subdevs := rfl
    have hbefore : (∃ o' ∈ calls.take k, o'.OpensNew) → o.Indifferent subdevs := fun hnew ↦
      indifferent_of_opened_eq hcam hmotor (openedContext_enabled_of_new ctx subdevs hcam hnew)
        hstart hold hopened
    refine ⟨hbefore, fun hafter ↦ by_contra fun hopen ↦ ?_⟩
    obtain ⟨hf, hstays⟩ := not_or.1 hopen
    have hstays := not_not.1 hstays
    have hno : ∀ o' ∈ calls.take k, ¬ o'.OpensNew := fun o' ho' hnew ↦ by
      rcases hbefore ⟨o', ho', hnew⟩ with h | h
      exacts [hf h.1, h.2.2.1 hstays]
    have hnow := openedContext_enabled_of_no_new ctx subdevs hno
    obtain ⟨dev, hdev, hspec⟩ := OpenCall.added_of_not_fails hstart hold.1 hf
    have hdev' : o.added (openedContext ctx subdevs (calls.take k)) = some dev :=
      (added_congr (by rw [hnow, hstart]) fun _ _ _ _ _ ↦ by rw [hnow, hstart]).trans hdev
    have hnotnew := OpenCall.not_opensNew_of_opensOld hold
    have hsome : dev.usbMotor.isSome = true := (hspec hcam).2.1.2
      ⟨hstays, by rw [OpenCall.enabledAfter_of_not_opensNew hold.1 hnotnew]; exact hmotor⟩
    -- the LED could be set right after the selection, and cannot be any more
    have hled := hreach dev dev hdev' hdev (.setLed .green)
      { rawState := ⟨0, 0, 0, 0, 0⟩, tagSeq := 0 }
      { control := ⟨0, []⟩, command := 0, data := ⟨0, []⟩, reply := ⟨0, []⟩, stack := [] }
    obtain ⟨o', ho', hnew⟩ := hafter
    rw [MotorCall.reaches_iff, MotorCall.reaches_iff, added_direct hold hdev,
      openedContext_single_enabled_of_not_new hnotnew,
      openedContext_enabled_of_new ctx subdevs hcam ⟨o', List.mem_of_mem_drop ho', hnew⟩] at hled
    exact Bool.false_ne_true (hled.2 ⟨hmotor, hsome⟩).1
  · intro hsep k o hk
    by_cases hidle : subdevs.camera = true ∧ subdevs.motor = true
    swap
    · have hen := openedContext_enabled_of_idle ctx subdevs hidle
      refine sameIn_of_added (added_congr (by rw [hen, hen]) fun _ _ _ _ _ ↦ by
        rw [hen, hen]) fun _ _ _ ↦ by rw [hen, hen]
    obtain ⟨hcam, hmotor⟩ := hidle
    have hk' := hsep hcam hmotor k o hk
    by_cases hbefore : ∃ o' ∈ calls.take k, o'.OpensNew
    · exact sameIn_of_new_before hcam hbefore fun hold ↦ (hk' hold).1 hbefore
    · exact sameIn_of_no_new_before hcam hk
        (fun o' ho' hnew ↦ hbefore ⟨o', ho', hnew⟩) fun hold ↦ (hk' hold).2

end Undisturbed

/-- A device on the bus of one of the products of Microsoft. -/
def kinectPart (idProduct bcdDevice : ℕ) : UsbDevice where
  desc := some { idVendor := vidMicrosoft, idProduct := idProduct, bcdDevice := bcdDevice,
                 iSerialNumber := 3 }
  bus := 1
  parent := 1

/-- A 1414 and a K4W, each with what belongs to it. -/
def mixedBus : List UsbDevice :=
  [nuiCamera, kinectPart pidNuiMotor 267, { kinectPart pidK4wCamera 512 with parent := 2 },
    { kinectPart 0x02be 512 with parent := 2 }]

/-- The camera with the index is opened, and all goes well. -/
def openMixed (index : ℤ) : OpenCall where
  devs := some mixedBus
  index := index
  answers := { malloc := true, usb := .allWork, regPadInfo := 0, zeroPlaneInfo := 0,
               regConstShift := 0 }

/-- With the camera and the motor selected a 1414 is opened, and then a K4W. From then on the motor
of the 1414 cannot be reached. -/
theorem k4w_takes_motor_of_1414 :
    ¬ Undisturbed
      { usb := { enabled := ⟨true, true, true⟩, zeroPlaneRes := 0, handles := fun _ ↦ 0 }
        devices := [] } ⟨true, true, false⟩ [openMixed 0, openMixed 1] := by
  intro h
  have hled := (h 0 (openMixed 0) rfl).2 _ _ rfl rfl (.setLed .green)
    { rawState := ⟨0, 0, 0, 0, 0⟩, tagSeq := 0 }
    { control := ⟨0, []⟩, command := 0, data := ⟨0, []⟩, reply := ⟨0, []⟩, stack := [] }
  rw [MotorCall.reaches_iff, MotorCall.reaches_iff, if_neg (by decide), if_neg (by decide)] at hled
  exact absurd (hled.2 ⟨rfl, rfl⟩).1 (by decide)

end Freenect
