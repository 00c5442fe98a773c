import Freenect.Usb.Subdevices
import Mathlib.Logic.Basic
import Mathlib.Tactic.ByContra

/-!
# What opening the subdevices comes to

For each step of `fnusb_open_subdevices` the exact condition under which it fails, in terms of the
answers of libusb alone, and what it leaves behind in either case. The open handles are accounted
for in `Balanced`: they are those from before and the ones in the device.

Every step is an `if` after another, each of which may leave the function by `goto failure`. So the
steps are described by `Yields r F E O`: the step `r` fails exactly under `F`, then in a state with
`E`, and otherwise goes on in a state with `O`. The rules for it follow the shape of the source: a
test that ends the step (`Yields.fail_or`), a step that is made only for an enabled subdevice
(`Yields.when`), and one step behind another (`Yields.andThen`). With them the proof about a step is
a list of its tests in the order in which the source makes them, and no proof splits the whole
function.

The steps are `openCamera_yields`, `openMotor_yields` and `openAudio_yields`; `openFound_yields`
puts them together. The last section says the same of `fnusb_open_subdevices`, with what is enabled
afterwards, in the two theorems `openSubdevices_of_fails` and `openSubdevices_of_not_fails`.
-/

namespace Freenect

/-! ### Failures

The condition under which each step fails, as the answers of libusb have it. None of them mentions
the state of the function. -/

section Failures

variable (enabled : Subdevices) (devs : List UsbDevice) (camera : UsbRef) (desc : Descriptor)
  (a : OpenAnswers)

/-- The enabled subdevices once the camera is open. -/
def Subdevices.effective : Subdevices :=
  if enabled.camera = true ∧ desc.isNewModel = true then enabled.adapt else enabled

/-- `fnusb_claim_camera` fails. -/
def ClaimFails : Prop :=
  (a.kernelDriver = 1 ∧ a.detach < 0) ∨ a.claimCamera < 0 ∨
    (desc.idProduct = pidK4wCamera ∧ a.altSetting < 0)

/-- The camera is wanted and cannot be opened. -/
def CameraFails : Prop := enabled.camera = true ∧ (a.openCamera < 0 ∨ ClaimFails desc a)

/-- The motor is wanted and cannot be opened. -/
def MotorFails : Prop :=
  enabled.motor = true ∧
    (findSibling devs camera Descriptor.isMotor = none ∨ a.motorDesc < 0 ∨ a.openMotor < 0 ∨
      a.claimMotor < 0)

/-- Audio is wanted and cannot be opened, or its firmware not be uploaded. -/
def AudioFails : Prop :=
  enabled.audio = true ∧
    (findSibling devs camera Descriptor.isAudio = none ∨ a.audioDesc < 0 ∨ a.openAudio < 0 ∨
      a.claimAudio < 0 ∨ (a.numInterfaces < 2 ∧ (a.audioSerial.res < 0 ∨ a.upload < 0)))

/-- The camera is opened and found to be a K4W or 1473 while the motor is enabled: the context is
rewritten. -/
def Rewrites : Prop :=
  enabled.camera = true ∧ enabled.motor = true ∧ desc.isNewModel = true ∧ 0 ≤ a.openCamera

/-- `fnusb_open_subdevices` returns an error. -/
def SubdevicesFail (devs : Option (List UsbDevice)) (enabled : Subdevices) (index : ℤ)
    (a : OpenAnswers) : Prop :=
  ∀ ds camera desc, devs = some ds → findCamera index 0 0 ds = some (camera, desc) →
    CameraFails enabled desc a ∨ MotorFails (enabled.effective desc) ds camera a ∨
      AudioFails (enabled.effective desc) ds camera a

end Failures

/-- Adapting twice is adapting once. -/
theorem Subdevices.effective_effective (s : Subdevices) (desc : Descriptor) :
    (s.effective desc).effective desc = s.effective desc := by
  simp only [effective, adapt]
  by_cases h : s.camera = true ∧ desc.isNewModel = true
  · simp [h]
  · simp [h]

/-- Without the motor there is nothing to adapt. -/
theorem Subdevices.effective_of_not_motor {s : Subdevices} (h : s.motor = false)
    (desc : Descriptor) : s.effective desc = s := by
  obtain ⟨motor, camera, audio⟩ := s
  subst h
  rw [effective, adapt]
  split
  · simp
  · simp

/-! ### Handles

Handles are counted for each device of the bus. What a field of the device accounts for is `held`,
so that opening and closing become additions and subtractions of it. -/

/-- The number of handles a field of a device is, on a device of the bus. -/
def held (o : Option UsbRef) (r : UsbRef) : ℕ := if o = some r then 1 else 0

@[simp] theorem held_none (r : UsbRef) : held none r = 0 := if_neg (by simp)

namespace Handles

variable (h : Handles) (r q : UsbRef)

/-- `libusb_open` adds one handle, on one device. -/
theorem opened_apply : h.opened r q = h q + held (some r) q := by
  by_cases hq : q = r
  · simp [opened, held, hq]
  · simp [opened, held, hq, Ne.symm hq]

/-- `libusb_close` takes one away. -/
theorem closed_apply : h.closed r q = h q - held (some r) q := by
  by_cases hq : q = r
  · simp [closed, held, hq]
  · simp [closed, held, hq, Ne.symm hq]

/-- A handle that may not be there. -/
theorem release_apply (o : Option UsbRef) : h.release o q = h q - held o q := by
  cases o with
  | none => rw [held_none]; rfl
  | some r => exact h.closed_apply r q

end Handles

/-- The handle that `fnusb_keep_alive_led` opens is closed again. -/
theorem keepAliveLed_handles (h : Handles) (audio : Option UsbRef) (a : OpenAnswers) :
    (keepAliveLed h audio a).1 = h := by
  simp only [keepAliveLed]
  cases audio with
  | none => rfl
  | some r =>
    dsimp only
    split
    · rfl
    · split
      · exact h.closed_opened r
      · simp

/-! ### Waiting for a device

Which device is found does not depend on the handles that are open, so the wait can be described
from any state, and is described from the one without handles. -/

section Waiting

variable (serial : List UInt8) (h h' : Handles)

/-- Whether a device is the right one does not depend on what else is open. -/
theorem tryNewDevice_snd_congr (d : NewDevice) :
    (tryNewDevice serial h d).2 = (tryNewDevice serial h' d).2 := by
  simp only [tryNewDevice]
  cases d.desc with
  | none => rfl
  | some desc =>
    dsimp only
    repeat' split
    all_goals rfl

/-- The same of a pass over a list. -/
theorem searchNewDevices_snd_congr (ds : List NewDevice) :
    (searchNewDevices serial h ds).2 = (searchNewDevices serial h' ds).2 := by
  induction ds generalizing h h' with
  | nil => rfl
  | cons d ds ih =>
    simp only [searchNewDevices]
    rw [tryNewDevice_snd_congr serial h h' d]
    split
    · rfl
    · exact ih _ _

/-- The same of all tries. -/
theorem waitForAudio_snd_congr (tries : List (List NewDevice)) :
    (waitForAudio serial h tries).2 = (waitForAudio serial h' tries).2 := by
  induction tries generalizing h h' with
  | nil => rfl
  | cons ds tries ih =>
    have hsnd := searchNewDevices_snd_congr serial h h' ds
    simp only [waitForAudio]
    generalize searchNewDevices serial h ds = x at hsnd ⊢
    generalize searchNewDevices serial h' ds = y at hsnd ⊢
    rcases x with ⟨h₁, _ | r⟩ <;> rcases y with ⟨h₂, _ | r'⟩
    · exact ih h₁ h₂
    · cases hsnd
    · cases hsnd
    · exact hsnd

end Waiting

/-- The audio device answers, after its firmware has been uploaded if it was in bootloader state. -/
def AudioComesBack (a : OpenAnswers) : Prop :=
  2 ≤ a.numInterfaces ∨
    (waitForAudio (cString a.audioSerial.buf) (fun _ ↦ 0) (a.tries.take 10)).2.isSome = true

namespace OpenState

/-- The open handles are those of `h` and the device's own. -/
def Balanced (h : Handles) (st : OpenState) : Prop :=
  ∀ r, st.ctx.handles r = h r + held st.dev.usbCam r + held st.dev.usbMotor r +
    held st.dev.usbAudio r

variable {st : OpenState} {h : Handles} {a : OpenAnswers} {devs : List UsbDevice}
  {camera : UsbRef} {desc : Descriptor}

/-- Nothing is open at the beginning. -/
theorem balanced_fresh (ctx : UsbContext) :
    Balanced ctx.handles { ctx := ctx, dev := .zero, res := 0 } := fun r ↦ by
  simp [OpenDevice.zero]

/-- Closing the camera, the motor or the audio device takes its handle out of the account. -/
theorem Balanced.dropCamera (hb : st.Balanced h) : st.dropCamera.Balanced h := by
  intro q
  have hq := hb q
  show st.ctx.handles.release st.dev.usbCam q = h q + held none q + held st.dev.usbMotor q +
    held st.dev.usbAudio q
  rw [Handles.release_apply, held_none]
  omega

/-- The same for the motor. -/
theorem Balanced.dropMotor (hb : st.Balanced h) : st.dropMotor.Balanced h := by
  intro q
  have hq := hb q
  show st.ctx.handles.release st.dev.usbMotor q = h q + held st.dev.usbCam q + held none q +
    held st.dev.usbAudio q
  rw [Handles.release_apply, held_none]
  omega

theorem Balanced.dropAudio (hb : st.Balanced h) : st.dropAudio.Balanced h := by
  intro q
  have hq := hb q
  show st.ctx.handles.release st.dev.usbAudio q = h q + held st.dev.usbCam q +
    held st.dev.usbMotor q + held none q
  rw [Handles.release_apply, held_none]
  omega

/-- Opening the camera, the motor or the audio device gives the device a handle. -/
theorem Balanced.addCamera (hb : st.Balanced h) (hcam : st.dev.usbCam = none) (r : UsbRef) :
    Balanced h { st with
      ctx := { st.ctx with handles := st.ctx.handles.opened r }
      dev := { st.dev with usbCam := some r } } := by
  intro q
  have hq := hb q
  rw [hcam, held_none] at hq
  show st.ctx.handles.opened r q = h q + held (some r) q + held st.dev.usbMotor q +
    held st.dev.usbAudio q
  rw [Handles.opened_apply]
  omega

/-- The same for the motor. -/
theorem Balanced.addMotor (hb : st.Balanced h) (hmotor : st.dev.usbMotor = none) (r : UsbRef) :
    Balanced h { st with
      ctx := { st.ctx with handles := st.ctx.handles.opened r }
      dev := { st.dev with usbMotor := some r } } := by
  intro q
  have hq := hb q
  rw [hmotor, held_none] at hq
  show st.ctx.handles.opened r q = h q + held st.dev.usbCam q + held (some r) q +
    held st.dev.usbAudio q
  rw [Handles.opened_apply]
  omega

theorem Balanced.addAudio (hb : st.Balanced h) (haudio : st.dev.usbAudio = none) (r : UsbRef) :
    Balanced h { st with
      ctx := { st.ctx with handles := st.ctx.handles.opened r }
      dev := { st.dev with usbAudio := some r } } := by
  intro q
  have hq := hb q
  rw [haudio, held_none] at hq
  show st.ctx.handles.opened r q = h q + held st.dev.usbCam q + held st.dev.usbMotor q +
    held (some r) q
  rw [Handles.opened_apply]
  omega

/-- **Closing the subdevices gives back every handle of the device**, and no other. -/
theorem Balanced.closeSubdevices (hb : st.Balanced h) : st.closeSubdevices.ctx.handles = h := by
  funext q
  have hq := hb.dropCamera.dropMotor.dropAudio q
  have hcam : st.closeSubdevices.dev.usbCam = none := rfl
  have hmotor : st.closeSubdevices.dev.usbMotor = none := rfl
  have haudio : st.closeSubdevices.dev.usbAudio = none := rfl
  rw [← OpenState.closeSubdevices, hcam, hmotor, haudio] at hq
  simpa using hq

/-! ### The steps -/

/-- A step with failure condition `F`: where it holds the step ends with an error in a state with
`E`, and where not it goes on in a state with `O`. -/
def Yields (r : Except OpenState OpenState) (F : Prop) (E O : OpenState → Prop) : Prop :=
  (F ∧ ∃ st, r = .error st ∧ E st) ∨ (¬ F ∧ ∃ st, r = .ok st ∧ O st)

section Rules

variable {r : Except OpenState OpenState} {F F' : Prop} {E O O' : OpenState → Prop}
  {e st : OpenState} {c : Prop} [Decidable c]

/-- A step that fails. -/
theorem Yields.error (h : E e) : Yields (.error e) True E O := Or.inl ⟨trivial, e, rfl, h⟩

/-- A step that goes on. -/
theorem Yields.ok (h : O st) : Yields (.ok st) False E O := Or.inr ⟨not_false, st, rfl, h⟩

/-- The condition may be put in other words. -/
theorem Yields.congr (h : Yields r F E O) (hF : F ↔ F') : Yields r F' E O :=
  propext hF ▸ h

/-- Less may be said of the state in which the function goes on. -/
theorem Yields.mono (h : Yields r F E O) (hO : ¬ F → ∀ st, O st → O' st) : Yields r F E O' := by
  rcases h with herror | ⟨hF, st, hst, hst'⟩
  · exact Or.inl herror
  · exact Or.inr ⟨hF, st, hst, hO hF st hst'⟩

/-- A step that another one follows. -/
theorem Yields.andThen {k : OpenState → Except OpenState OpenState} (h : Yields r F E O)
    (hk : ¬ F → ∀ st, O st → Yields (k st) F' E O') : Yields (r.bind k) (F ∨ F') E O' := by
  rcases h with ⟨hF, st, rfl, hst⟩ | ⟨hF, st, rfl, hst⟩
  · exact Or.inl ⟨Or.inl hF, st, rfl, hst⟩
  · exact (hk hF st hst).congr (or_iff_right hF).symm

/-- A test that ends the step. -/
theorem Yields.fail_or (hfail : c → E e) (h : ¬ c → Yields r F E O) :
    Yields (if c then .error e else r) (c ∨ F) E O := by
  split
  next hc => exact Or.inl ⟨Or.inl hc, e, rfl, hfail hc⟩
  next hc =>
    rcases h hc with ⟨hF, herror⟩ | ⟨hF, hok⟩
    · exact Or.inl ⟨Or.inr hF, herror⟩
    · exact Or.inr ⟨not_or.2 ⟨hc, hF⟩, hok⟩

/-- The last test. -/
theorem Yields.fail_or_ok (hfail : c → E e) (h : ¬ c → O st) :
    Yields (if c then .error e else .ok st) c E O :=
  (Yields.fail_or hfail fun hc ↦ .ok (h hc)).congr (or_iff_left not_false)

/-- A step that is made if the subdevice is wanted. -/
theorem Yields.when (hskip : ¬ c → O st) (h : c → Yields r F E O) :
    Yields (if ¬ c then .ok st else r) (c ∧ F) E O := by
  by_cases hc : c
  · rw [if_neg (not_not.2 hc)]
    exact (h hc).congr (and_iff_right hc).symm
  · rw [if_pos hc]
    exact (Yields.ok (hskip hc)).congr (iff_of_false not_false fun h' ↦ hc h'.1)

end Rules

/-- After an error: the result is one, and only the device's own handles are open. -/
structure Failed (h : Handles) (enabled : Subdevices) (st : OpenState) : Prop where
  res : st.res < 0
  balanced : st.Balanced h
  enabled : st.ctx.enabled = enabled

/-- After the step for the camera. -/
structure CameraStep (h : Handles) (wanted : Subdevices) (a : OpenAnswers) (camera : UsbRef)
    (desc : Descriptor) (st : OpenState) : Prop where
  res : 0 ≤ st.res
  balanced : st.Balanced h
  enabled : st.ctx.enabled = wanted.effective desc
  usbCam : st.dev.usbCam.isSome = true ↔
    wanted.camera = true ∧ (desc.idProduct = pidK4wCamera → a.altSetting = 0)
  found : ∀ r, st.dev.usbCam = some r → r = camera
  usbMotor : st.dev.usbMotor = none
  usbAudio : st.dev.usbAudio = none

/-- After the step for the motor, which began in `st`. -/
structure MotorStep (h : Handles) (st st' : OpenState) : Prop where
  res : 0 ≤ st'.res
  balanced : st'.Balanced h
  enabled : st'.ctx.enabled = st.ctx.enabled
  usbCam : st'.dev.usbCam = st.dev.usbCam
  usbMotor : st'.dev.usbMotor.isSome = true ↔ st.ctx.enabled.motor = true
  usbAudio : st'.dev.usbAudio = st.dev.usbAudio

/-- After the step for the audio device. A stray handle may be left open where a search for a device
has gone on. -/
structure AudioStep (a : OpenAnswers) (st st' : OpenState) : Prop where
  res : 0 ≤ st'.res
  enabled : st'.ctx.enabled = st.ctx.enabled
  usbCam : st'.dev.usbCam = st.dev.usbCam
  usbMotor : st'.dev.usbMotor = st.dev.usbMotor
  usbAudio : st'.dev.usbAudio.isSome = true ↔ st.ctx.enabled.audio = true ∧ AudioComesBack a

/-- After the three steps. -/
structure FoundSteps (wanted : Subdevices) (a : OpenAnswers) (camera : UsbRef) (desc : Descriptor)
    (st : OpenState) : Prop where
  res : 0 ≤ st.res
  enabled : st.ctx.enabled = wanted.effective desc
  usbCam : st.dev.usbCam.isSome = true ↔
    wanted.camera = true ∧ (desc.idProduct = pidK4wCamera → a.altSetting = 0)
  found : ∀ r, st.dev.usbCam = some r → r = camera
  usbMotor : st.dev.usbMotor.isSome = true ↔ st.ctx.enabled.motor = true
  usbAudio : st.dev.usbAudio.isSome = true ↔ st.ctx.enabled.audio = true ∧ AudioComesBack a

variable (a devs camera desc)

/-- **The claim of the camera.** A K4W camera whose alternate setting is refused is closed without
an error: the step goes on without it. -/
theorem claimCamera_yields (hb : st.Balanced h) (hpid : st.dev.camPid = desc.idProduct)
    (hcam : st.dev.usbCam.isSome = true) :
    Yields (st.claimCamera a) (ClaimFails desc a) (Failed h st.ctx.enabled)
      fun st' ↦ 0 ≤ st'.res ∧ st'.Balanced h ∧ st'.ctx.enabled = st.ctx.enabled ∧
        (st'.dev.usbCam.isSome = true ↔ (desc.idProduct = pidK4wCamera → a.altSetting = 0)) ∧
        (∀ r, st'.dev.usbCam = some r → st.dev.usbCam = some r) ∧
        st'.dev.usbMotor = st.dev.usbMotor ∧ st'.dev.usbAudio = st.dev.usbAudio := by
  have hdrop := hb.dropCamera
  rw [claimCamera, hpid]
  refine .fail_or (fun hkernel ↦ ⟨hkernel.2, hdrop, rfl⟩) fun _ ↦ ?_
  refine .fail_or (fun hclaim ↦ ⟨hclaim, hdrop, rfl⟩) fun hclaim ↦ ?_
  by_cases hk4w : desc.idProduct = pidK4wCamera
  swap
  · rw [if_neg hk4w]
    exact (Yields.ok ⟨Int.not_lt.1 hclaim, hb, rfl, iff_of_true hcam fun h' ↦ absurd h' hk4w,
      fun _ ↦ id, rfl, rfl⟩).congr (iff_of_false not_false fun h' ↦ hk4w h'.1)
  rw [if_pos hk4w]
  refine Yields.congr ?_ (and_iff_right hk4w).symm
  refine (Yields.fail_or (fun halt ↦ ⟨halt, hdrop, rfl⟩) fun halt ↦ ?_).congr
    (or_iff_left not_false)
  split
  next halt0 =>
    exact .ok ⟨Int.not_lt.1 halt, hdrop, rfl, iff_of_false Bool.false_ne_true
      fun h' ↦ halt0 (h' hk4w), fun _ h' ↦ absurd h' (Option.some_ne_none _).symm, rfl, rfl⟩
  next halt0 =>
    exact .ok ⟨Int.not_lt.1 halt, hb, rfl, iff_of_true hcam fun _ ↦ not_not.1 halt0, fun _ ↦ id,
      rfl, rfl⟩

/-- The model of the camera decides about the enabled subdevices. -/
theorem noteModel_frame (st : OpenState) (a : OpenAnswers) (devs : List UsbDevice)
    (camera : UsbRef) (desc : Descriptor) (hcam : st.ctx.enabled.camera = true) :
    (st.noteModel a devs camera desc).ctx.enabled = st.ctx.enabled.effective desc ∧
      (st.noteModel a devs camera desc).ctx.handles = st.ctx.handles ∧
      (st.noteModel a devs camera desc).res = st.res ∧
      (st.noteModel a devs camera desc).dev =
        { st.dev with
          deviceDoesMotorControlWithAudio :=
            desc.isNewModel || st.dev.deviceDoesMotorControlWithAudio } := by
  rw [noteModel, Subdevices.effective]
  by_cases hnew : desc.isNewModel = true
  · rw [if_pos hnew, if_pos ⟨hcam, hnew⟩]
    exact ⟨rfl, keepAliveLed_handles _ _ _, rfl, by rw [hnew]; rfl⟩
  · rw [if_neg hnew, if_neg fun h' ↦ hnew h'.2]
    exact ⟨rfl, rfl, rfl, by rw [Bool.eq_false_iff.2 hnew]; rfl⟩

/-- **The camera.** -/
theorem openCamera_yields (hb : st.Balanced h) (hdev : st.dev = .zero) (hres : 0 ≤ st.res) :
    Yields (st.openCamera a devs camera desc) (CameraFails st.ctx.enabled desc a)
      (Failed h (if 0 ≤ a.openCamera then st.ctx.enabled.effective desc else st.ctx.enabled))
      (CameraStep h st.ctx.enabled a camera desc) := by
  have hskip : ¬ st.ctx.enabled.camera = true → CameraStep h st.ctx.enabled a camera desc st := by
    intro hcam
    refine ⟨hres, hb, (if_neg fun h' ↦ hcam h'.1).symm, ?_, ?_, ?_, ?_⟩ <;> rw [hdev]
    · exact iff_of_false Bool.false_ne_true fun h' ↦ hcam h'.1
    · exact fun _ h' ↦ absurd h' (Option.some_ne_none _).symm
    · rfl
    · rfl
  rw [openCamera]
  refine .when hskip fun hcam ↦ .fail_or (fun hopen ↦ ⟨hopen, hb, ?_⟩) fun hopen ↦ ?_
  · rw [if_neg (Int.not_le.2 hopen)]
  rw [if_pos (Int.not_lt.1 hopen)]
  -- the handle is open and the model noted; what is left is the claim
  obtain ⟨henabled, hhandles, -, hnoted⟩ := noteModel_frame
    { st with
      ctx := { st.ctx with handles := st.ctx.handles.opened camera }
      dev := { st.dev with usbCam := some camera } } a devs camera desc hcam
  have hb₁ := hb.addCamera (by rw [hdev]; rfl) camera
  dsimp only
  generalize OpenState.noteModel _ a devs camera desc = st₁ at henabled hhandles hnoted ⊢
  have hcam₁ : st₁.dev.usbCam = some camera := by rw [hnoted]
  have hmotor₁ : st₁.dev.usbMotor = st.dev.usbMotor := by rw [hnoted]
  have haudio₁ : st₁.dev.usbAudio = st.dev.usbAudio := by rw [hnoted]
  have hb₂ : Balanced h { st₁ with dev := { st₁.dev with camPid := desc.idProduct } } := by
    intro q
    show st₁.ctx.handles q = h q + held st₁.dev.usbCam q + held st₁.dev.usbMotor q +
      held st₁.dev.usbAudio q
    rw [hhandles, hcam₁, hmotor₁, haudio₁]
    exact hb₁ q
  -- the claim has its own lemma; what remains is that the other fields were not touched
  have hclaim := claimCamera_yields a desc hb₂ rfl (Option.isSome_iff_exists.2 ⟨camera, hcam₁⟩)
  rw [show st₁.ctx.enabled = _ from henabled] at hclaim
  refine hclaim.mono fun _ st' ⟨h₁, h₂, h₃, h₄, hfrom, h₅, h₆⟩ ↦
    ⟨h₁, h₂, h₃, ?_, fun r hr ↦ ?_, ?_, ?_⟩
  · exact h₄.trans (and_iff_right hcam).symm
  · exact (Option.some.inj (hcam₁.symm.trans (hfrom r hr))).symm
  · exact h₅.trans (hmotor₁.trans (by rw [hdev]; rfl))
  · exact h₆.trans (haudio₁.trans (by rw [hdev]; rfl))

/-- **The motor.** -/
theorem openMotor_yields (hb : st.Balanced h) (hmotor : st.dev.usbMotor = none)
    (hres : 0 ≤ st.res) :
    Yields (st.openMotor a devs camera) (MotorFails st.ctx.enabled devs camera a)
      (Failed h st.ctx.enabled) (MotorStep h st) := by
  rw [openMotor]
  refine .when (fun hen ↦ ⟨hres, hb, rfl, rfl, ?_, rfl⟩) fun hen ↦ ?_
  · rw [hmotor]
    exact iff_of_false Bool.false_ne_true hen
  cases hsib : findSibling devs camera Descriptor.isMotor with
  | none =>
    have herror : Failed h st.ctx.enabled { st with res := -1 } :=
      ⟨Int.negSucc_lt_zero 0, hb, rfl⟩
    exact (Yields.error herror).congr (iff_of_true trivial (Or.inl rfl))
  | some motor =>
    refine Yields.congr ?_ (or_iff_right (Option.some_ne_none motor)).symm
    refine .fail_or (fun hdesc ↦ ⟨hdesc, hb, rfl⟩) fun _ ↦ ?_
    refine .fail_or (fun hopen ↦ ⟨hopen, hb, rfl⟩) fun _ ↦ ?_
    -- from the claim on there is a handle to give back
    have hb₁ := hb.addMotor hmotor motor
    exact .fail_or_ok (fun hclaim ↦ ⟨hclaim, hb₁.dropMotor, rfl⟩) fun hclaim ↦
      ⟨Int.not_lt.1 hclaim, hb₁, rfl, rfl, iff_of_true rfl hen, rfl⟩

/-- **The upload of the firmware**, and the wait for the device. -/
theorem uploadFirmware_yields (hb : st.Balanced h) :
    Yields (st.uploadFirmware a) (a.audioSerial.res < 0 ∨ a.upload < 0) (Failed h st.ctx.enabled)
      fun st' ↦ 0 ≤ st'.res ∧ st'.ctx.enabled = st.ctx.enabled ∧
        st'.dev.usbCam = st.dev.usbCam ∧ st'.dev.usbMotor = st.dev.usbMotor ∧
        (st'.dev.usbAudio.isSome = true ↔
          (waitForAudio (cString a.audioSerial.buf) (fun _ ↦ 0) (a.tries.take 10)).2.isSome =
            true) := by
  rw [uploadFirmware]
  refine .fail_or (fun hserial ↦ ⟨hserial, hb, rfl⟩) fun _ ↦ ?_
  refine (Yields.fail_or (fun hupload ↦ ⟨hupload, hb, rfl⟩) fun hupload ↦ ?_).congr
    (or_iff_left not_false)
  rw [waitForAudio_snd_congr _ (fun _ ↦ 0) st.dropAudio.ctx.handles]
  dsimp only
  split
  next hwait =>
    rw [hwait]
    exact .ok ⟨Int.not_lt.1 hupload, rfl, rfl, rfl, Iff.rfl⟩
  next hwait =>
    rw [hwait]
    exact .ok ⟨Int.not_lt.1 hupload, rfl, rfl, rfl, Iff.rfl⟩

/-- **The audio device.** -/
theorem openAudio_yields (hb : st.Balanced h) (haudio : st.dev.usbAudio = none)
    (hres : 0 ≤ st.res) :
    Yields (st.openAudio a devs camera) (AudioFails st.ctx.enabled devs camera a)
      (Failed h st.ctx.enabled) (AudioStep a st) := by
  rw [openAudio]
  refine .when (fun hen ↦ ⟨hres, rfl, rfl, rfl, ?_⟩) fun hen ↦ ?_
  · rw [haudio]
    exact iff_of_false Bool.false_ne_true fun h' ↦ hen h'.1
  cases hsib : findSibling devs camera Descriptor.isAudio with
  | none =>
    have herror : Failed h st.ctx.enabled { st with res := -1 } :=
      ⟨Int.negSucc_lt_zero 0, hb, rfl⟩
    exact (Yields.error herror).congr (iff_of_true trivial (Or.inl rfl))
  | some audio =>
    refine Yields.congr ?_ (or_iff_right (Option.some_ne_none audio)).symm
    -- the tests in their order: the descriptor, the open, the claim
    refine .fail_or (fun hdesc ↦ ⟨hdesc, hb, rfl⟩) fun _ ↦ ?_
    refine .fail_or (fun hopen ↦ ⟨hopen, hb, rfl⟩) fun _ ↦ ?_
    have hb₁ := hb.addAudio haudio audio
    refine .fail_or (fun hclaim ↦ ⟨hclaim, hb₁.dropAudio, rfl⟩) fun hclaim ↦ ?_
    split
    -- the firmware is there already
    next hifaces =>
      exact (Yields.ok ⟨Int.not_lt.1 hclaim, rfl, rfl, rfl,
        iff_of_true rfl ⟨hen, Or.inl hifaces⟩⟩).congr
          (iff_of_false not_false fun h' ↦ Int.not_lt.2 hifaces h'.1)
    -- a device in bootloader state: the firmware goes up first
    next hifaces =>
      refine Yields.congr ?_ (and_iff_right (Int.not_le.1 hifaces)).symm
      refine (uploadFirmware_yields a hb₁).mono fun _ st' ⟨h₁, h₂, h₃, h₄, h₅⟩ ↦
        ⟨h₁, h₂, h₃, h₄, h₅.trans ?_⟩
      exact ((and_iff_right hen).trans (or_iff_right hifaces)).symm

/-- The steps as a chain. -/
theorem openFound_eq (st : OpenState) (a : OpenAnswers) (devs : List UsbDevice) (camera : UsbRef)
    (desc : Descriptor) :
    st.openFound a devs camera desc =
      (st.openCamera a devs camera desc).bind fun st ↦
        (st.openMotor a devs camera).bind fun st ↦ st.openAudio a devs camera := by
  rw [openFound]
  cases st.openCamera a devs camera desc with
  | error st₁ => rfl
  | ok st₁ =>
    dsimp only [Except.bind]
    cases st₁.openMotor a devs camera <;> rfl

variable {a camera desc} in
/-- What is enabled is what an error would leave enabled: if the camera was not wanted, nothing has
changed. -/
theorem CameraStep.enabled_eq {st₁ : OpenState}
    (h₁ : CameraStep h st.ctx.enabled a camera desc st₁)
    (hcamera : ¬ CameraFails st.ctx.enabled desc a) : st₁.ctx.enabled =
      if 0 ≤ a.openCamera then st.ctx.enabled.effective desc else st.ctx.enabled := by
  rw [h₁.enabled]
  split
  next => rfl
  next hopen => exact if_neg fun h' ↦ hcamera ⟨h'.1, Or.inl (Int.not_le.1 hopen)⟩

/-- **The three steps together.** -/
theorem openFound_yields (hb : st.Balanced h) (hdev : st.dev = .zero) (hres : 0 ≤ st.res) :
    Yields (st.openFound a devs camera desc)
      (CameraFails st.ctx.enabled desc a ∨
        MotorFails (st.ctx.enabled.effective desc) devs camera a ∨
        AudioFails (st.ctx.enabled.effective desc) devs camera a)
      (Failed h (if 0 ≤ a.openCamera then st.ctx.enabled.effective desc else st.ctx.enabled))
      (FoundSteps st.ctx.enabled a camera desc) := by
  rw [openFound_eq]
  refine (openCamera_yields a devs camera desc hb hdev hres).andThen fun hcamera st₁ h₁ ↦ ?_
  rw [← h₁.enabled_eq hcamera, ← h₁.enabled]
  refine (openMotor_yields a devs camera h₁.balanced h₁.usbMotor h₁.res).andThen fun _ st₂ h₂ ↦ ?_
  have haudio := openAudio_yields a devs camera h₂.balanced (h₂.usbAudio.trans h₁.usbAudio) h₂.res
  rw [h₂.enabled] at haudio
  -- the camera and the motor are as their own steps left them
  refine haudio.mono fun _ st₃ h₃ ↦ ?_
  have hcam : st₃.dev.usbCam = st₁.dev.usbCam := h₃.usbCam.trans h₂.usbCam
  have hen : st₃.ctx.enabled = st₁.ctx.enabled := h₃.enabled.trans h₂.enabled
  refine ⟨h₃.res, hen.trans h₁.enabled, ?_, ?_, ?_, ?_⟩
  · rw [hcam]
    exact h₁.usbCam
  · rw [hcam]
    exact h₁.found
  · rw [h₃.usbMotor, hen]
    exact h₂.usbMotor
  · rw [h₃.enabled]
    exact h₃.usbAudio

end OpenState

/-! ### The whole function

Before the steps the list is fetched and the camera looked up; after them, whatever is missing is
closed again. -/

section Whole

variable (devs : Option (List UsbDevice)) (ctx : UsbContext) (index : ℤ) (a : OpenAnswers)

/-- The enabled subdevices after a call that fails. -/
def enabledAfter (devs : Option (List UsbDevice)) (enabled : Subdevices) (index : ℤ)
    (a : OpenAnswers) : Subdevices :=
  match devs.bind (findCamera index 0 0) with
  | none => enabled
  | some (_, desc) => if 0 ≤ a.openCamera then enabled.effective desc else enabled

/-- The camera is open when the call returns. -/
def CameraStays (devs : Option (List UsbDevice)) (enabled : Subdevices) (index : ℤ)
    (a : OpenAnswers) : Prop :=
  ∃ ds camera desc, devs = some ds ∧ findCamera index 0 0 ds = some (camera, desc) ∧
    enabled.camera = true ∧ (desc.idProduct = pidK4wCamera → a.altSetting = 0) ∧
    ((enabled.effective desc).audio = true → AudioComesBack a)

section Found

variable {index a} {ds : List UsbDevice} {enabled : Subdevices} {camera : UsbRef}
  {desc : Descriptor}

/-- What is said of the camera with the index is said of the one that is found. -/
theorem forall_found_iff (hfind : findCamera index 0 0 ds = some (camera, desc))
    {P : Descriptor → Prop} :
    (∀ ds' camera' desc', some ds = some ds' →
      findCamera index 0 0 ds' = some (camera', desc') → P desc') ↔ P desc := by
  constructor
  · exact fun h ↦ h ds camera desc rfl hfind
  · intro h ds' camera' desc' hds hfind'
    obtain rfl := Option.some.inj hds
    obtain ⟨rfl, rfl⟩ := Prod.mk.inj (Option.some.inj (hfind.symm.trans hfind'))
    exact h

/-- The same for what is said of some camera. -/
theorem exists_found_iff (hfind : findCamera index 0 0 ds = some (camera, desc))
    {P : Descriptor → Prop} :
    (∃ ds' camera' desc', some ds = some ds' ∧
      findCamera index 0 0 ds' = some (camera', desc') ∧ P desc') ↔ P desc := by
  constructor
  · rintro ⟨ds', camera', desc', hds, hfind', h⟩
    by_contra hno
    exact (forall_found_iff (P := fun d ↦ ¬ P d) hfind).2 hno ds' camera' desc' hds hfind' h
  · exact fun h ↦ ⟨ds, camera, desc, rfl, hfind, h⟩

/-- Whether the camera is open in the end, once it has been found. -/
theorem cameraStays_iff (hfind : findCamera index 0 0 ds = some (camera, desc)) :
    CameraStays (some ds) enabled index a ↔ enabled.camera = true ∧
      (desc.idProduct = pidK4wCamera → a.altSetting = 0) ∧
      ((enabled.effective desc).audio = true → AudioComesBack a) :=
  exists_found_iff hfind

/-- With a camera that could be opened, the enabled subdevices are the effective ones. -/
theorem enabledAfter_of_found (hfind : findCamera index 0 0 ds = some (camera, desc))
    (hno : ¬ CameraFails enabled desc a) :
    enabledAfter (some ds) enabled index a = enabled.effective desc := by
  rw [enabledAfter, Option.bind_some, hfind]
  dsimp only
  split
  · rfl
  · next hopen =>
    exact (if_neg fun h' ↦ hno ⟨h'.1, Or.inl (Int.not_le.1 hopen)⟩).symm

/-- The camera stays enabled or disabled. -/
@[simp] theorem Subdevices.effective_camera (s : Subdevices) (desc : Descriptor) :
    (s.effective desc).camera = s.camera := by
  rw [effective, adapt]
  split
  · rfl
  · rfl

/-- All that is enabled is open exactly if the camera and the audio device stay open. -/
theorem allOpen_iff_stay {st : OpenState} (hen : st.ctx.enabled = enabled.effective desc)
    (hcam : st.dev.usbCam.isSome = true ↔ enabled.camera = true ∧
      (desc.idProduct = pidK4wCamera → a.altSetting = 0))
    (hmotor : st.dev.usbMotor.isSome = true ↔ st.ctx.enabled.motor = true)
    (haudio : st.dev.usbAudio.isSome = true ↔ st.ctx.enabled.audio = true ∧ AudioComesBack a) :
    st.AllOpen ↔
      (enabled.camera = true → desc.idProduct = pidK4wCamera → a.altSetting = 0) ∧
        ((enabled.effective desc).audio = true → AudioComesBack a) := by
  have hmotor' : st.dev.usbMotor.isSome = true ∨ st.ctx.enabled.motor = false := by
    rw [hmotor]
    exact Bool.eq_false_or_eq_true _
  rw [OpenState.AllOpen, and_iff_right hmotor', hcam, haudio, hen, Subdevices.effective_camera]
  cases enabled.camera <;> cases (enabled.effective desc).audio <;> simp

/-- With the camera enabled, all that is enabled is open exactly if the camera stays. -/
theorem allOpen_iff {st : OpenState} (hfind : findCamera index 0 0 ds = some (camera, desc))
    (hen : st.ctx.enabled = enabled.effective desc)
    (hcam : st.dev.usbCam.isSome = true ↔ enabled.camera = true ∧
      (desc.idProduct = pidK4wCamera → a.altSetting = 0))
    (hmotor : st.dev.usbMotor.isSome = true ↔ st.ctx.enabled.motor = true)
    (haudio : st.dev.usbAudio.isSome = true ↔ st.ctx.enabled.audio = true ∧ AudioComesBack a) :
    st.AllOpen ∧ enabled.camera = true ↔ CameraStays (some ds) enabled index a := by
  rw [allOpen_iff_stay hen hcam hmotor haudio, cameraStays_iff hfind]
  constructor
  · rintro ⟨⟨halt, hback⟩, hen₁⟩
    exact ⟨hen₁, halt hen₁, hback⟩
  · rintro ⟨hen₁, halt, hback⟩
    exact ⟨⟨fun _ ↦ halt, hback⟩, hen₁⟩

end Found

/-- There is no camera with the index. -/
theorem openSubdevices_of_none {ds : List UsbDevice} (hfind : findCamera index 0 0 ds = none) :
    openSubdevices (some ds) ctx index a =
      OpenState.closeSubdevices { ctx := ctx, dev := .zero, res := -1 } := by
  rw [openSubdevices, hfind]

/-- A step has failed. -/
theorem openSubdevices_of_error {ds : List UsbDevice} {camera : UsbRef} {desc : Descriptor}
    {st : OpenState} (hfind : findCamera index 0 0 ds = some (camera, desc))
    (hst : OpenState.openFound { ctx := ctx, dev := .zero, res := 0 } a ds camera desc =
      .error st) : openSubdevices (some ds) ctx index a = st.closeSubdevices := by
  rw [openSubdevices, hfind]
  dsimp only
  rw [hst]

/-- No step has failed. -/
theorem openSubdevices_of_ok {ds : List UsbDevice} {camera : UsbRef} {desc : Descriptor}
    {st : OpenState} (hfind : findCamera index 0 0 ds = some (camera, desc))
    (hst : OpenState.openFound { ctx := ctx, dev := .zero, res := 0 } a ds camera desc = .ok st) :
    openSubdevices (some ds) ctx index a = if st.AllOpen then st else st.closeSubdevices := by
  rw [openSubdevices, hfind]
  dsimp only
  rw [hst]

/-- **A call that fails** closes what it has opened, but does not restore the enabled subdevices. -/
theorem openSubdevices_of_fails (hfails : SubdevicesFail devs ctx.enabled index a) :
    (openSubdevices devs ctx index a).res < 0 ∧
      (openSubdevices devs ctx index a).ctx.handles = ctx.handles ∧
      (openSubdevices devs ctx index a).ctx.enabled = enabledAfter devs ctx.enabled index a := by
  have hb := OpenState.balanced_fresh ctx
  cases devs with
  | none => exact ⟨(by decide : (-1 : ℤ) < 0), rfl, rfl⟩
  | some ds =>
    rw [enabledAfter]
    dsimp only [Option.bind_some]
    cases hfind : findCamera index 0 0 ds with
    | none =>
      rw [openSubdevices_of_none ctx index a hfind]
      exact ⟨(by decide : (-1 : ℤ) < 0), hb.closeSubdevices, rfl⟩
    | some found =>
      obtain ⟨camera, desc⟩ := found
      dsimp only
      rcases OpenState.openFound_yields a ds camera desc hb rfl (Int.le_refl 0)
        with ⟨-, st, hst, hfailed⟩ | ⟨hno, -⟩
      · rw [openSubdevices_of_error ctx index a hfind hst]
        exact ⟨hfailed.res, hfailed.balanced.closeSubdevices, hfailed.enabled⟩
      · exact absurd (hfails ds camera desc rfl hfind) hno

/-- What a call that does not fail leaves behind: the camera with the index is open unless what is
enabled could not all be opened, and then nothing is. -/
structure SubdevicesOpen (devs : Option (List UsbDevice)) (ctx : UsbContext) (index : ℤ)
    (a : OpenAnswers) (st : OpenState) : Prop where
  res : 0 ≤ st.res
  usbCam : st.dev.usbCam.isSome = true ↔ CameraStays devs ctx.enabled index a
  found : ∀ r, st.dev.usbCam = some r →
    ∃ ds desc, devs = some ds ∧ findCamera index 0 0 ds = some (r, desc)
  enabled : st.ctx.enabled = enabledAfter devs ctx.enabled index a
  usbMotor : ctx.enabled.camera = true → (st.dev.usbMotor.isSome = true ↔
    CameraStays devs ctx.enabled index a ∧ st.ctx.enabled.motor = true)
  usbAudio : ctx.enabled.camera = true → ¬ CameraStays devs ctx.enabled index a →
    st.dev.usbAudio = none

/-- **A call that does not fail** leaves the camera with the index open, or none. -/
theorem openSubdevices_of_not_fails (hno : ¬ SubdevicesFail devs ctx.enabled index a) :
    SubdevicesOpen devs ctx index a (openSubdevices devs ctx index a) := by
  have hb := OpenState.balanced_fresh ctx
  obtain ⟨ds, hno⟩ := not_forall.1 hno
  obtain ⟨camera, hno⟩ := not_forall.1 hno
  obtain ⟨desc, hno⟩ := not_forall.1 hno
  simp only [Classical.not_imp] at hno
  obtain ⟨rfl, hfind, hno⟩ := hno
  have hstays : CameraStays (some ds) ctx.enabled index a ↔ _ := cameraStays_iff hfind
  have hafter := enabledAfter_of_found hfind fun h' ↦ hno (Or.inl h')
  rcases OpenState.openFound_yields a ds camera desc hb rfl (Int.le_refl 0)
    with ⟨hfails, -⟩ | ⟨-, st, hst, hres, hen, hcam, hfrom, hmotor, haudio⟩
  · exact absurd hfails hno
  rw [openSubdevices_of_ok ctx index a hfind hst]
  have hen' : st.ctx.enabled = ctx.enabled.effective desc := hen
  have hall := allOpen_iff hfind hen' hcam hmotor haudio
  split
  next hopen =>
    refine ⟨hres, ?_, fun r hr ↦ ⟨ds, desc, rfl, hfrom r hr ▸ hfind⟩, hen'.trans hafter.symm,
      fun hen₁ ↦ hmotor.trans (and_iff_right (hall.1 ⟨hopen, hen₁⟩)).symm,
      fun hen₁ hno' ↦ absurd (hall.1 ⟨hopen, hen₁⟩) hno'⟩
    constructor
    · exact fun hsome ↦ hall.1 ⟨hopen, (hcam.1 hsome).1⟩
    · exact fun h' ↦ hcam.2 ⟨(hstays.1 h').1, (hstays.1 h').2.1⟩
  next hopen =>
    have hno' : ¬ CameraStays (some ds) ctx.enabled index a := fun h' ↦ hopen (hall.2 h').1
    exact ⟨hres, iff_of_false Bool.false_ne_true hno', fun _ h' ↦ (nomatch h'),
      hen'.trans hafter.symm, fun _ ↦ iff_of_false Bool.false_ne_true fun h' ↦ hno' h'.1,
      fun _ _ ↦ rfl⟩

end Whole

end Freenect
