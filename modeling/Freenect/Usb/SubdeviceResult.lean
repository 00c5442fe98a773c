import Freenect.Usb.SubdeviceSpec

/-!
# What the result of opening the subdevices says

`fnusb_open_subdevices` is to return a value that is not negative exactly if each enabled subdevice
has an open, claimed handle. All steps share one `res`, and the function leaves by `failure` also
when none of them has failed: an audio device whose firmware has been uploaded need not come back in
time. Then everything is closed, and `res` still is what the upload returned.

`subdevices_truthful_iff` says when the result can be relied on. Besides an audio device that does
not come back there are a K4W camera that is given up for a result that is no error, and an index
without a camera when nothing is enabled, so that nothing is missing either.

Both directions go by the two ways out of the function. After an error everything has been closed,
so the result is right unless nothing was enabled in the first place (`truthful_iff_of_fails`). If
no step has failed, the camera and the audio device may still have been given up on the way, and the
result is right if everything that is enabled stays open (`truthful_iff_of_not_fails`). The
condition of the theorem is put together from these two and mentions the answers of libusb alone.
-/

namespace Freenect

/-! ### Claimed handles -/

/-- The audio device `r` is claimed: when it was opened, or when it came back with the new
firmware. -/
def AudioClaimed (a : OpenAnswers) (r : UsbRef) : Prop :=
  if 2 ≤ a.numInterfaces then 0 ≤ a.claimAudio
  else ∃ ds ∈ a.tries.take 10, ∃ d ∈ ds, d.ref = r ∧ d.claim = 0

/-- Something is enabled. -/
def Subdevices.Any (s : Subdevices) : Prop := s.camera = true ∨ s.motor = true ∨ s.audio = true

/-- Adapting to the model of the camera does not make the enabled subdevices nothing, or something.
-/
theorem Subdevices.effective_any (s : Subdevices) (desc : Descriptor) :
    (s.effective desc).Any ↔ s.Any := by
  rw [effective]
  split
  next h => exact iff_of_true (Or.inl h.1) (Or.inl h.1)
  next h => exact Iff.rfl

/-- Each enabled subdevice has an open handle, whose claim was granted. -/
structure OpenState.AllClaimed (a : OpenAnswers) (st : OpenState) : Prop where
  camera : st.ctx.enabled.camera = true → st.dev.usbCam.isSome = true ∧ 0 ≤ a.claimCamera
  motor : st.ctx.enabled.motor = true → st.dev.usbMotor.isSome = true ∧ 0 ≤ a.claimMotor
  audio : st.ctx.enabled.audio = true → ∃ r, st.dev.usbAudio = some r ∧ AudioClaimed a r

/-- No handle of the device is open, and those of others are as before. -/
structure OpenState.NothingOpen (h : Handles) (st : OpenState) : Prop where
  usbCam : st.dev.usbCam = none
  usbMotor : st.dev.usbMotor = none
  usbAudio : st.dev.usbAudio = none
  handles : st.ctx.handles = h

/-- The result says whether each enabled subdevice is open and claimed, and an error leaves no
handle behind. -/
structure SubdevicesTruthful (devs : Option (List UsbDevice)) (ctx : UsbContext) (index : ℤ)
    (a : OpenAnswers) : Prop where
  result : 0 ≤ (openSubdevices devs ctx index a).res ↔
    (openSubdevices devs ctx index a).AllClaimed a
  error : (openSubdevices devs ctx index a).res < 0 →
    (openSubdevices devs ctx index a).NothingOpen ctx.handles

/-! ### The device that comes back

The wait for an audio device that has taken its firmware is three loops, one inside the other: ten
tries, each over a new list of devices, of which each is opened, asked and closed again. The audio
device that is open in the end is one that answered as it should, and if there is such a device in
one of the tries, it is found. -/

/-- A device is the audio device with this serial number, can be claimed and runs the firmware. -/
structure Reappears (serial : List UInt8) (d : NewDevice) : Prop where
  audio : ∃ desc, d.desc = some desc ∧ desc.isAudio = true
  opens : 0 ≤ d.openRes
  serial : 0 ≤ d.serial.res ∧ d.serial.res = serial.length ∧ cString d.serial.buf = serial
  claimed : d.claim = 0
  firmware : 2 ≤ d.numInterfaces

section Waiting

variable {serial : List UInt8} {h : Handles} {r : UsbRef}

/-- What one device is asked. -/
theorem tryNewDevice_iff {d : NewDevice} :
    (tryNewDevice serial h d).2 = true ↔ Reappears serial d := by
  constructor
  · intro htry
    rw [tryNewDevice] at htry
    cases hdesc : d.desc with
    | none => simp [hdesc] at htry
    | some desc =>
      simp only [hdesc] at htry
      split_ifs at htry with haudio hopen hserial hsame hclaim hifaces
      exact ⟨⟨desc, hdesc, haudio⟩, Int.not_lt.1 hopen, ⟨Int.not_lt.1 hserial, hsame⟩,
        not_not.1 hclaim, hifaces⟩
  · rintro ⟨⟨desc, hdesc, haudio⟩, hopen, ⟨hserial, hsame⟩, hclaim, hifaces⟩
    rw [tryNewDevice]
    simp only [hdesc]
    rw [if_neg (not_not.2 haudio), if_neg (Int.not_lt.2 hopen), if_neg (Int.not_lt.2 hserial),
      if_pos hsame, if_neg (not_not.2 hclaim), if_pos hifaces]

/-- A pass finds a device that reappears, if there is one. -/
theorem searchNewDevices_cases (serial : List UInt8) (h : Handles) (ds : List NewDevice) :
    (∃ d ∈ ds, Reappears serial d ∧ (searchNewDevices serial h ds).2 = some d.ref) ∨
      (∀ d ∈ ds, ¬ Reappears serial d) ∧ (searchNewDevices serial h ds).2 = none := by
  induction ds generalizing h with
  | nil => exact Or.inr ⟨fun d hd ↦ absurd hd List.not_mem_nil, rfl⟩
  | cons d ds ih =>
    rw [searchNewDevices]
    split
    next htry => exact Or.inl ⟨d, List.mem_cons_self, tryNewDevice_iff.1 htry, rfl⟩
    next htry =>
      obtain ⟨d', hd', hfound⟩ | ⟨hnone, hres⟩ := ih (tryNewDevice serial h d).1
      · exact Or.inl ⟨d', List.mem_cons_of_mem d hd', hfound⟩
      · refine Or.inr ⟨fun d' hd' ↦ ?_, hres⟩
        obtain rfl | hd' := List.mem_cons.1 hd'
        · exact fun hre ↦ htry (tryNewDevice_iff.2 hre)
        · exact hnone d' hd'

/-- The wait ends with a device that reappears, if there is one. -/
theorem waitForAudio_cases (serial : List UInt8) (h : Handles) (tries : List (List NewDevice)) :
    (∃ ds ∈ tries, ∃ d ∈ ds, Reappears serial d ∧ (waitForAudio serial h tries).2 = some d.ref) ∨
      (∀ ds ∈ tries, ∀ d ∈ ds, ¬ Reappears serial d) ∧
        (waitForAudio serial h tries).2 = none := by
  induction tries generalizing h with
  | nil => exact Or.inr ⟨fun ds hds ↦ absurd hds List.not_mem_nil, rfl⟩
  | cons ds tries ih =>
    rw [waitForAudio]
    split
    next h' r hpass =>
      obtain ⟨d, hd, hre, hfound⟩ | ⟨-, hnone⟩ := searchNewDevices_cases serial h ds
      · exact Or.inl ⟨ds, List.mem_cons_self, d, hd, hre, by rw [← hfound, hpass]⟩
      · rw [hpass] at hnone
        exact absurd hnone (Option.some_ne_none r)
    next h' hpass =>
      obtain ⟨d, hd, hre, hfound⟩ | ⟨hnone, -⟩ := searchNewDevices_cases serial h ds
      · rw [hpass] at hfound
        exact absurd hfound.symm (Option.some_ne_none d.ref)
      obtain ⟨ds', hds', hfound⟩ | ⟨hrest, hres⟩ := ih h'
      · exact Or.inl ⟨ds', List.mem_cons_of_mem ds hds', hfound⟩
      · exact Or.inr ⟨List.forall_mem_cons.2 ⟨hnone, hrest⟩, hres⟩

end Waiting

/-- The audio device has the firmware already, or comes back with it in one of the ten tries. -/
def AudioReady (a : OpenAnswers) : Prop :=
  2 ≤ a.numInterfaces ∨
    ∃ ds ∈ a.tries.take 10, ∃ d ∈ ds, Reappears (cString a.audioSerial.buf) d

/-- The condition of the step in the words of this module. -/
theorem audioComesBack_iff (a : OpenAnswers) : AudioComesBack a ↔ AudioReady a := by
  refine or_congr_right ?_
  obtain ⟨ds, hds, d, hd, hre, hfound⟩ | ⟨hnone, hres⟩ :=
    waitForAudio_cases (cString a.audioSerial.buf) (fun _ ↦ 0) (a.tries.take 10)
  · exact iff_of_true (by rw [hfound]; rfl) ⟨ds, hds, d, hd, hre⟩
  · refine iff_of_false (by rw [hres]; decide) ?_
    rintro ⟨ds, hds, d, hd, hre⟩
    exact hnone ds hds d hd hre

/-! ### What the steps leave

A handle that is open at the end is followed back to the step that opened it, which has claimed it.
-/

namespace OpenState

variable {st st' : OpenState} {h : Handles} {a : OpenAnswers} {devs : List UsbDevice}
  {camera : UsbRef} {desc : Descriptor}

/-- After an upload, the audio device that is open is the one that has come back. -/
theorem uploadFirmware_claimed {r : UsbRef} (hst : st.uploadFirmware a = .ok st')
    (hr : st'.dev.usbAudio = some r) :
    ∃ ds ∈ a.tries.take 10, ∃ d ∈ ds, d.ref = r ∧ d.claim = 0 := by
  unfold uploadFirmware fail at hst
  split_ifs at hst with hserial hupload
  extract_lets closed at hst
  split at hst
  next h r' hwait =>
    obtain rfl := Except.ok.inj hst
    obtain rfl : r' = r := Option.some.inj hr
    obtain ⟨ds, hds, d, hd, hre, hfound⟩ | ⟨-, hnone⟩ :=
      waitForAudio_cases (cString a.audioSerial.buf) st.dropAudio.ctx.handles (a.tries.take 10)
    · rw [hwait] at hfound
      exact ⟨ds, hds, d, hd, (Option.some.inj hfound).symm, hre.claimed⟩
    · rw [hwait] at hnone
      exact absurd hnone (Option.some_ne_none r')
  next h hwait =>
    obtain rfl := Except.ok.inj hst
    exact absurd hr (Option.some_ne_none r).symm

/-- An audio device that is open is claimed. -/
theorem openAudio_claimed {r : UsbRef} (haudio : st.dev.usbAudio = none)
    (hst : st.openAudio a devs camera = .ok st') (hr : st'.dev.usbAudio = some r) :
    AudioClaimed a r := by
  unfold openAudio fail at hst
  split at hst
  · obtain rfl := Except.ok.inj hst
    exact absurd (haudio.symm.trans hr) (Option.some_ne_none r).symm
  split at hst
  · exact nomatch hst
  dsimp only at hst
  split_ifs at hst with hdesc hopen hclaim hifaces
  · rw [AudioClaimed, if_pos hifaces]
    exact Int.not_lt.1 hclaim
  · rw [AudioClaimed, if_neg hifaces]
    exact uploadFirmware_claimed hst hr

/-- The audio device that is open after all steps is claimed. -/
theorem openFound_claimed {r : UsbRef} (hb : st.Balanced h) (hdev : st.dev = .zero)
    (hres : 0 ≤ st.res) (hst : st.openFound a devs camera desc = .ok st')
    (hr : st'.dev.usbAudio = some r) : AudioClaimed a r := by
  unfold openFound at hst
  obtain ⟨-, st₁, hst₁, -⟩ | ⟨-, st₁, hst₁, hres₁, hb₁, -, -, -, hmotor₁, haudio₁⟩ :=
    openCamera_yields a devs camera desc hb hdev hres
  · rw [hst₁] at hst
    exact nomatch hst
  rw [hst₁] at hst
  dsimp only at hst
  obtain ⟨-, st₂, hst₂, -⟩ | ⟨-, st₂, hst₂, -, -, -, -, -, haudio₂⟩ :=
    openMotor_yields a devs camera hb₁ hmotor₁ hres₁
  · rw [hst₂] at hst
    exact nomatch hst
  rw [hst₂] at hst
  exact openAudio_claimed (haudio₂.trans haudio₁) hst hr

/-- After closing the subdevices. -/
theorem closeSubdevices_nothingOpen (hb : st.Balanced h) : st.closeSubdevices.NothingOpen h :=
  ⟨rfl, rfl, rfl, hb.closeSubdevices⟩

/-- Where nothing is open, nothing may be enabled. -/
theorem NothingOpen.allClaimed_iff (hst : st.NothingOpen h) :
    st.AllClaimed a ↔ ¬ st.ctx.enabled.Any := by
  constructor
  · rintro hall (hcam | hmotor | haudio)
    · have hsome := (hall.camera hcam).1
      rw [hst.usbCam] at hsome
      exact Bool.false_ne_true hsome
    · have hsome := (hall.motor hmotor).1
      rw [hst.usbMotor] at hsome
      exact Bool.false_ne_true hsome
    · obtain ⟨r, hr, -⟩ := hall.audio haudio
      exact absurd (hst.usbAudio.symm.trans hr) (Option.some_ne_none r).symm
  · exact fun hno ↦ ⟨fun hcam ↦ absurd (Or.inl hcam) hno,
      fun hmotor ↦ absurd (Or.inr (Or.inl hmotor)) hno,
      fun haudio ↦ absurd (Or.inr (Or.inr haudio)) hno⟩

/-- Where nothing is enabled, all that is enabled is open. -/
theorem allOpen_of_not_any (hno : ¬ st.ctx.enabled.Any) : st.AllOpen := by
  simp only [Subdevices.Any, not_or, Bool.not_eq_true] at hno
  exact ⟨Or.inr hno.1, Or.inr hno.2.1, Or.inr hno.2.2⟩

end OpenState

/-! ### The whole function -/

section Whole

variable {devs : Option (List UsbDevice)} {ctx : UsbContext} {index : ℤ} {a : OpenAnswers}

/-- There is a camera with the index. -/
def CameraFound (devs : Option (List UsbDevice)) (index : ℤ) : Prop :=
  ∃ ds camera desc, devs = some ds ∧ findCamera index 0 0 ds = some (camera, desc)

/-- **After an error** nothing is open. -/
theorem openSubdevices_nothingOpen (hfails : SubdevicesFail devs ctx.enabled index a) :
    (openSubdevices devs ctx index a).NothingOpen ctx.handles := by
  have hb := OpenState.balanced_fresh ctx
  cases devs with
  | none => exact ⟨rfl, rfl, rfl, rfl⟩
  | some ds =>
    cases hfind : findCamera index 0 0 ds with
    | none =>
      rw [openSubdevices_of_none ctx index a hfind]
      exact ⟨rfl, rfl, rfl, hb.closeSubdevices⟩
    | some found =>
      obtain ⟨camera, desc⟩ := found
      obtain ⟨-, st, hst, hfailed⟩ | ⟨hno, -⟩ :=
        OpenState.openFound_yields a ds camera desc hb rfl (Int.le_refl 0)
      · rw [openSubdevices_of_error ctx index a hfind hst]
        exact OpenState.closeSubdevices_nothingOpen hfailed.balanced
      · exact absurd (hfails ds camera desc rfl hfind) hno

/-- What is enabled after a failing call is nothing only if nothing was. -/
theorem enabledAfter_any (devs : Option (List UsbDevice)) (enabled : Subdevices) (index : ℤ)
    (a : OpenAnswers) : (enabledAfter devs enabled index a).Any ↔ enabled.Any := by
  rw [enabledAfter]
  split
  · exact Iff.rfl
  · split
    · exact enabled.effective_any _
    · exact Iff.rfl

/-- The function can only fail to open what is enabled. -/
theorem any_of_fails (hfound : CameraFound devs index)
    (hfails : SubdevicesFail devs ctx.enabled index a) : ctx.enabled.Any := by
  obtain ⟨ds, camera, desc, hds, hfind⟩ := hfound
  obtain ⟨hcam, -⟩ | ⟨hmotor, -⟩ | ⟨haudio, -⟩ := hfails ds camera desc hds hfind
  · exact Or.inl hcam
  · exact (ctx.enabled.effective_any desc).1 (Or.inr (Or.inl hmotor))
  · exact (ctx.enabled.effective_any desc).1 (Or.inr (Or.inr haudio))

/-- What has to hold of a call that goes through, for all that is enabled to be open. -/
def StaysOpen (enabled : Subdevices) (desc : Descriptor) (a : OpenAnswers) : Prop :=
  (enabled.camera = true → desc.idProduct = pidK4wCamera → a.altSetting = 0) ∧
    ((enabled.effective desc).audio = true → AudioReady a)

/-- When the result of `fnusb_open_subdevices` says what is open: something is missing where there
is no camera with the index, and what is opened without an error stays open. -/
structure ResultReliable (devs : Option (List UsbDevice)) (enabled : Subdevices) (index : ℤ)
    (a : OpenAnswers) : Prop where
  missing : ¬ CameraFound devs index → enabled.Any
  stays : ¬ SubdevicesFail devs enabled index a → ∀ ds camera desc, devs = some ds →
    findCamera index 0 0 ds = some (camera, desc) → StaysOpen enabled desc a

/-- **After an error** the result is right if something is enabled. -/
theorem truthful_iff_of_fails (hfails : SubdevicesFail devs ctx.enabled index a) :
    SubdevicesTruthful devs ctx index a ↔ ResultReliable devs ctx.enabled index a := by
  have hopen := openSubdevices_nothingOpen hfails
  obtain ⟨hres, -, henabled⟩ := openSubdevices_of_fails devs ctx index a hfails
  have hany : (openSubdevices devs ctx index a).AllClaimed a ↔ ¬ ctx.enabled.Any := by
    rw [hopen.allClaimed_iff, henabled, enabledAfter_any]
  constructor
  · intro h
    have hany : ctx.enabled.Any := by
      by_contra hno
      exact Int.not_le.2 hres (h.result.2 (hany.2 hno))
    exact ⟨fun _ ↦ hany, fun hno ↦ absurd hfails hno⟩
  · intro h
    have hsome : ctx.enabled.Any := by
      by_cases hfound : CameraFound devs index
      · exact any_of_fails hfound hfails
      · exact h.missing hfound
    exact ⟨iff_of_false (Int.not_le.2 hres) fun hall ↦ hany.1 hall hsome, fun _ ↦ hopen⟩

/-- What is open after a call without an error is claimed. -/
theorem OpenState.AllOpen.allClaimed {st : OpenState} {enabled : Subdevices} {ds : List UsbDevice}
    {camera : UsbRef} {desc : Descriptor} (hopen : st.AllOpen)
    (hen : st.ctx.enabled = enabled.effective desc) (hcamera : ¬ CameraFails enabled desc a)
    (hmotor : ¬ MotorFails (enabled.effective desc) ds camera a)
    (haudio : ∀ r, st.dev.usbAudio = some r → AudioClaimed a r) : st.AllClaimed a := by
  obtain ⟨hcam₁, hmotor₁, haudio₁⟩ := hopen
  refine ⟨fun h ↦ ⟨?_, ?_⟩, fun h ↦ ⟨?_, ?_⟩, fun h ↦ ?_⟩
  · exact hcam₁.resolve_right (by rw [h]; decide)
  · rw [hen, Subdevices.effective_camera] at h
    by_contra hclaim
    exact hcamera ⟨h, Or.inr (Or.inr (Or.inl (Int.not_le.1 hclaim)))⟩
  · exact hmotor₁.resolve_right (by rw [h]; decide)
  · rw [hen] at h
    by_contra hclaim
    exact hmotor ⟨h, Or.inr (Or.inr (Or.inr (Int.not_le.1 hclaim)))⟩
  · obtain ⟨r, hr⟩ := Option.isSome_iff_exists.1 (haudio₁.resolve_right (by rw [h]; decide))
    exact ⟨r, hr, haudio r hr⟩

/-- Nothing is missing if a camera is found; then everything has to stay open. -/
theorem resultReliable_iff {ds : List UsbDevice} {enabled : Subdevices} {camera : UsbRef}
    {desc : Descriptor} (hno : ¬ SubdevicesFail (some ds) enabled index a)
    (hfind : findCamera index 0 0 ds = some (camera, desc)) :
    ResultReliable (some ds) enabled index a ↔ StaysOpen enabled desc a := by
  constructor
  · exact fun h ↦ h.stays hno ds camera desc rfl hfind
  · exact fun h ↦ ⟨fun hfound ↦ absurd ⟨ds, camera, desc, rfl, hfind⟩ hfound,
      fun _ ↦ (forall_found_iff hfind).2 h⟩

/-- **Without an error** the result is right if everything stays open. -/
theorem truthful_iff_of_not_fails (hno : ¬ SubdevicesFail devs ctx.enabled index a) :
    SubdevicesTruthful devs ctx index a ↔ ResultReliable devs ctx.enabled index a := by
  have hb := OpenState.balanced_fresh ctx
  have hfails := hno
  rw [SubdevicesFail] at hno
  push Not at hno
  obtain ⟨ds, camera, desc, rfl, hfind, hcamera, hmotor, haudio⟩ := hno
  obtain ⟨hfailed, -⟩ | ⟨-, st, hst, hres, hen, hcam, -, hmot, haud⟩ :=
    OpenState.openFound_yields a ds camera desc hb rfl (Int.le_refl 0)
  · exact absurd hfailed (not_or.2 ⟨hcamera, not_or.2 ⟨hmotor, haudio⟩⟩)
  have hclaimed : ∀ r, st.dev.usbAudio = some r → AudioClaimed a r :=
    fun r ↦ OpenState.openFound_claimed hb rfl (Int.le_refl 0) hst
  have hall : st.AllOpen ↔ StaysOpen ctx.enabled desc a := by
    rw [allOpen_iff_stay hen hcam hmot haud, audioComesBack_iff, StaysOpen]
  have hcall := openSubdevices_of_ok ctx index a hfind hst
  rw [resultReliable_iff hfails hfind, ← hall]
  by_cases hopen : st.AllOpen
  · rw [if_pos hopen] at hcall
    refine iff_of_true ⟨?_, ?_⟩ hopen
    · rw [hcall]
      exact iff_of_true hres (hopen.allClaimed hen hcamera hmotor hclaimed)
    · rw [hcall]
      exact fun herror ↦ absurd hres (Int.not_le.2 herror)
  · rw [if_neg hopen] at hcall
    refine iff_of_false (fun h ↦ hopen ?_) hopen
    -- everything has been closed, yet the result is no error: nothing can have been enabled
    have hclosed : st.closeSubdevices.AllClaimed a := hcall ▸ h.result.1 (hcall ▸ hres)
    have hnothing : st.closeSubdevices.NothingOpen st.closeSubdevices.ctx.handles :=
      ⟨rfl, rfl, rfl, rfl⟩
    exact OpenState.allOpen_of_not_any (hnothing.allClaimed_iff.1 hclosed)

/-- **When `fnusb_open_subdevices` tells the truth**: its result says whether everything enabled is
open and claimed, and after an error nothing is open, exactly if the result is reliable. -/
theorem subdevices_truthful_iff (devs : Option (List UsbDevice)) (ctx : UsbContext) (index : ℤ)
    (a : OpenAnswers) :
    SubdevicesTruthful devs ctx index a ↔ ResultReliable devs ctx.enabled index a := by
  by_cases hfails : SubdevicesFail devs ctx.enabled index a
  · exact truthful_iff_of_fails hfails
  · exact truthful_iff_of_not_fails hfails

end Whole

/-! ### An audio device that does not come back -/

/-- A camera and its audio device. -/
def cameraWithAudio : List UsbDevice :=
  [pidNuiCamera, pidNuiAudio].map fun idProduct ↦
    { desc := some { idVendor := vidMicrosoft, idProduct, bcdDevice := 267, iSerialNumber := 3 }
      bus := 1
      parent := 4 }

/-- The answers when the audio device takes its firmware and is not seen again. -/
def vanishingAudio : OpenAnswers where
  openCamera := 0
  kernelDriver := 0
  detach := 0
  claimCamera := 0
  altSetting := 0
  openLed := 0
  reopenLed := 0
  claimLed := 0
  motorDesc := 0
  openMotor := 0
  claimMotor := 0
  audioDesc := 0
  openAudio := 0
  claimAudio := 0
  numInterfaces := 1
  audioSerial := { res := 1, buf := [0x41, 0] }
  upload := 0
  tries := List.replicate 10 []

/-- Nothing is open, and the result is that of the upload. -/
theorem subdevices_not_truthful :
    ¬ SubdevicesTruthful (some cameraWithAudio)
      { enabled := { motor := false, camera := true, audio := true }
        zeroPlaneRes := 0
        handles := fun _ ↦ 0 } 0 vanishingAudio := by
  intro h
  have hall := h.result.1 (by decide)
  exact absurd (hall.camera (by decide)).1 (by decide)

end Freenect
