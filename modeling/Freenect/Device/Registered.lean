import Freenect.Control.Exchange
import Freenect.Device.Exclusion
import Freenect.Registration.Fetch
import Freenect.Registration.Rationals

/-!
# Registration tables and the video mode

The registration info belongs to a video mode, and `freenect_set_video_mode` fetches it. The tables
are computed from it by `freenect_init_registration`, "called every time a new video (not depth!)
mode is activated" according to its comment. The one place that calls it is `freenect_start_depth`.

So the tables are right until the video mode is changed next to a running depth stream, which
`freenect_set_video_mode` allows as long as the video stream is stopped.
`tables_follow_video_mode_iff` says that this is the one gap, and that it shows exactly if the new
info gives another registration table.

Each call is looked at for two things, the info and the tables. Setting a mode changes the info
(`setVideoMode_tablesFollow_iff`), starting a depth stream makes the tables from it
(`startDepth_tablesFollow`), stopping it leaves nothing to follow, and the other calls do neither.
`step_tablesFollow_iff` puts the calls together, and the run is an instance of the library's rule
for an exact condition. `modeInfo` is a history variable: no function of the driver reads it.
-/

namespace Freenect

/-! ### The device

The device of the other modules with the data for the registration. The calls are theirs, with the
fetch added where the source makes it. -/

/-- The tables agree where the code uses them. -/
structure RegistrationTables.Same (t t' : RegistrationTables) : Prop where
  rawToMmShift : ∀ i < depthMaxRawValue, t.rawToMmShift i = t'.rawToMmShift i
  depthToRgbShift : ∀ i < depthMaxMetricValue.toNat, t.depthToRgbShift i = t'.depthToRgbShift i
  registrationTable : ∀ i < depthXRes * depthYRes, t.registrationTable i = t'.registrationTable i

/-- Tables agree with themselves. -/
theorem RegistrationTables.Same.refl (t : RegistrationTables) : t.Same t :=
  ⟨fun _ _ ↦ rfl, fun _ _ ↦ rfl, fun _ _ ↦ rfl⟩

/-- A device with the data for the registration, and with what its tables hold if there are any.
`modeInfo` is history: what the camera said about the current video mode, if it did. -/
structure RegisteredDevice (F D : Type) where
  camera : CameraDevice
  registration : RegistrationData F D
  tables : Option RegistrationTables
  modeInfo : Option RegInfo

/-- A call of the client, with what `freenect_fetch_reg_info` meets in it. -/
structure RegisteredCall where
  call : CameraDevice.Call
  fetch : FetchAnswers

/-- What `freenect_camera_init` meets. The zero plane is what `freenect_fetch_zero_plane_info` makes
of its reply. -/
structure InitAnswers (F : Type) where
  regPadInfo : FetchAnswers
  zeroPlaneInfo : Option (ZeroPlaneInfo F)
  regInfo : FetchAnswers
  regConstShift : FetchAnswers

namespace RegisteredDevice

section Calls

variable {F D : Type} [Mul F] [IntCast F] [Add D] [Sub D] [Mul D] [Div D] [IntCast D]
  [OfScientific D] [LT D] [DecidableLT D] [LE D] [DecidableLE D] [FloatConversions F D]

/-- `freenect_set_video_mode`. The result of the fetch is ignored. -/
def setVideoMode (big : Bool) (s : RegisteredDevice F D) (reserved : ℕ) (a : FetchAnswers) :
    RegisteredDevice F D × ℤ :=
  let r := s.camera.setVideoMode reserved
  if r.2 < 0 then (s, r.2)
  else
    match (fetchRegInfo big r.1.videoResolution r.1.videoFormat a).value.join with
    | some info =>
      ({ s with
        camera := r.1
        registration := { s.registration with regInfo := info }
        modeInfo := some info }, r.2)
    | none => ({ s with camera := r.1, modeInfo := none }, r.2)

/-- `freenect_start_depth`: the tables are filled once the stream is known to be stopped. -/
def startDepth (s : RegisteredDevice F D) (a : StartAnswers DepthFormat) (t : TableAnswers) :
    RegisteredDevice F D × ℤ :=
  ({ s with
    camera := (s.camera.startDepth a t).1
    tables :=
      if s.camera.depth.strm.running = false ∧ s.camera.depthFormat.Registers then
        some (completeTables s.registration)
      else s.tables }, (s.camera.startDepth a t).2)

/-- `freenect_stop_depth`. -/
def stopDepth (s : RegisteredDevice F D) : RegisteredDevice F D × ℤ :=
  ({ s with
    camera := s.camera.stopDepth.1
    tables := if s.camera.stopDepth.2 < 0 then s.tables else none },
    s.camera.stopDepth.2)

/-- A call that does nothing about the registration. -/
def other (s : RegisteredDevice F D) (call : CameraDevice.Call) : RegisteredDevice F D × ℤ :=
  ({ s with camera := (s.camera.step call).1 }, (s.camera.step call).2)

/-- One call. -/
def step (big : Bool) (s : RegisteredDevice F D) (c : RegisteredCall) : RegisteredDevice F D × ℤ :=
  match c.call with
  | .setVideoMode reserved => s.setVideoMode big reserved c.fetch
  | .startDepth a t => s.startDepth a t
  | .stopDepth => s.stopDepth
  | call => s.other call

/-- A zeroed device, but for its padding and zero plane. -/
def unset (regPadInfo : RegPadInfo) (zeroPlaneInfo : ZeroPlaneInfo F) : RegisteredDevice F D where
  camera := .zero
  registration := ⟨.ofReply false fun _ ↦ 0, regPadInfo, zeroPlaneInfo, ((0 : ℤ) : D)⟩
  tables := none
  modeInfo := none

/-- `freenect_camera_init` on a zeroed device, `none` if it fails. When the padding is fetched,
there is no current video mode. -/
def cameraInit (big : Bool) (a : InitAnswers F) : Option (RegisteredDevice F D) := do
  let regPadInfo ← (fetchRegPadInfo .low .rgb a.regPadInfo).value.join
  let zeroPlaneInfo ← a.zeroPlaneInfo
  let s : RegisteredDevice F D := unset regPadInfo zeroPlaneInfo
  let s := (s.setVideoMode big
    (makeReserved Resolution.medium.toNat VideoFormat.rgb.toNat) a.regInfo).1
  let s := (s.other
    (.setDepthMode (makeReserved Resolution.medium.toNat DepthFormat.d11Bit.toNat))).1
  let constShift ←
    (fetchRegConstShift D s.camera.videoResolution s.camera.videoFormat a.regConstShift).value.join
  some { s with registration := { s.registration with constShift := constShift } }

/-! ### Tables that follow

The tables are compared where the code uses them, that is inside the arrays. -/

/-- The depth stream runs with registration. -/
def DepthRegistered (s : RegisteredDevice F D) : Prop :=
  s.camera.depth.strm.running = true ∧ s.camera.depthFormat = .registered

/-- **The tables follow the video mode**: the device has the info that was fetched for the current
video mode, and while the depth stream runs with registration, its tables are those that
`complete_tables` computes from it. -/
structure TablesFollow (s : RegisteredDevice F D) : Prop where
  info : s.modeInfo = some s.registration.regInfo
  tables : s.DepthRegistered → ∃ t, s.tables = some t ∧ t.Same (completeTables s.registration)

/-- The transfers succeed whose failure a call can meet: those that fetch the registration info of a
new video mode. -/
def TransfersSucceed (big : Bool) (c : RegisteredCall) : Prop :=
  match c.call with
  | .setVideoMode _ => ∃ info, c.fetch.Fetches 118 (RegInfo.ofReply big) info
  | _ => True

/-- A video mode is accepted while the video stream is stopped, if it is a supported one. -/
def AcceptsVideoMode (s : RegisteredDevice F D) (reserved : ℕ) : Prop :=
  s.camera.video.strm.running = false ∧ ∃ mode ∈ supportedVideoModes, mode.reserved = reserved

/-- The call leaves the tables as they should be: if it sets the video mode next to a depth stream
that runs with registration, the new info gives the registration table in place. -/
def KeepsTables (big : Bool) (s : RegisteredDevice F D) (c : RegisteredCall) : Prop :=
  match c.call with
  | .setVideoMode reserved => s.AcceptsVideoMode reserved → s.DepthRegistered →
      ∀ info, c.fetch.Fetches 118 (RegInfo.ofReply big) info → ∀ i < depthXRes * depthYRes,
        initRegistrationTable F D info i = initRegistrationTable F D s.registration.regInfo i
  | _ => True

end Calls

/-! ### The modes

What the calls do to the depth stream and its format, which is all that matters here. -/

section Modes

variable {F D : Type} {big : Bool} {s : RegisteredDevice F D} {reserved : ℕ} {a : FetchAnswers}
  {info : RegInfo}

/-- A mode that is not accepted changes nothing. -/
theorem setVideoMode_of_not_accepts (h : ¬ s.AcceptsVideoMode reserved) :
    (s.setVideoMode big reserved a).1 = s := by
  have hcamera : s.camera.setVideoMode reserved = (s.camera, -1) := by
    rw [CameraDevice.setVideoMode]
    split
    · rfl
    next hrun =>
      refine if_pos (Option.isNone_iff_eq_none.2 (List.find?_eq_none.2 fun mode hmode ↦ ?_))
      rw [decide_eq_true_eq]
      exact fun hreserved ↦ h ⟨Bool.eq_false_iff.2 hrun, mode, hmode, hreserved⟩
  rw [setVideoMode, hcamera]
  exact congrArg Prod.fst (if_pos (Int.negSucc_lt_zero 0))

/-- Setting the video mode leaves the depth stream. -/
theorem setVideoMode_depth (s : CameraDevice) (reserved : ℕ) :
    (s.setVideoMode reserved).1.depth = s.depth ∧
      (s.setVideoMode reserved).1.depthFormat = s.depthFormat := by
  rw [CameraDevice.setVideoMode]
  split
  · exact ⟨rfl, rfl⟩
  · split
    · exact ⟨rfl, rfl⟩
    · exact ⟨rfl, rfl⟩

/-- **The video mode is set**, and its info fetched. -/
theorem setVideoMode_of_accepts (s : RegisteredDevice F D) (reserved : ℕ)
    (h : s.AcceptsVideoMode reserved)
    (hfetch : a.Fetches 118 (RegInfo.ofReply big) info) :
    (s.setVideoMode big reserved a).1 =
      { camera := (s.camera.setVideoMode reserved).1
        registration := { s.registration with regInfo := info }
        tables := s.tables
        modeInfo := some info } := by
  obtain ⟨hrun, mode, hmode, hreserved⟩ := h
  have hfound :
      ¬ (supportedVideoModes.find? fun mode ↦ mode.reserved = reserved).isNone = true := by
    rw [Option.isNone_iff_eq_none, List.find?_eq_none]
    exact fun hnone ↦ hnone mode hmode (decide_eq_true hreserved)
  have hret : (s.camera.setVideoMode reserved).2 = 0 := by
    rw [CameraDevice.setVideoMode, if_neg (by simp [hrun]), if_neg hfound]
  rw [setVideoMode]
  dsimp only
  rw [hret, if_neg (by decide), fetchRegInfo,
    fetchParams_of_fetches 0x40 (RegInfo.ofReply_congr big) _ _ hfetch]
  rfl

/-- Starting the depth stream leaves its format. -/
theorem startDepth_depthFormat (s : CameraDevice) (a : StartAnswers DepthFormat)
    (t : TableAnswers) : (s.startDepth a t).1.depthFormat = s.depthFormat := by
  rw [CameraDevice.startDepth]
  split
  · rfl
  · dsimp only
    split
    · rfl
    · rfl

/-- The depth mode is not changed while the stream runs. -/
theorem depthRegistered_of_setDepthMode
    (h : (s.other (.setDepthMode reserved)).1.DepthRegistered) : s.DepthRegistered := by
  have hcamera : (s.camera.setDepthMode reserved).1.depth.strm.running = true ∧
    (s.camera.setDepthMode reserved).1.depthFormat = .registered := h
  rw [CameraDevice.setDepthMode] at hcamera
  split at hcamera
  · exact hcamera
  next hrun =>
    split at hcamera
    · exact hcamera
    · exact absurd hcamera.1 hrun

/-- Starting the video stream leaves the depth stream. -/
theorem startVideo_depth (s : CameraDevice) (a : StartAnswers VideoFormat) :
    (s.startVideo a).1.depth = s.depth ∧ (s.startVideo a).1.depthFormat = s.depthFormat := by
  rw [CameraDevice.startVideo]
  split
  · exact ⟨rfl, rfl⟩
  · dsimp only
    split
    · exact ⟨rfl, rfl⟩
    · exact ⟨rfl, rfl⟩

/-- **A device as it is opened** has the info of its first video mode. -/
theorem cameraInit_eq_some_iff [IntCast D] {a : InitAnswers F}
    (hfetch : a.regInfo.Fetches 118 (RegInfo.ofReply big) info) :
    cameraInit big a = some s ↔ ∃ regPadInfo zeroPlaneInfo constShift,
      (fetchRegPadInfo .low .rgb a.regPadInfo).value.join = some regPadInfo ∧
      a.zeroPlaneInfo = some zeroPlaneInfo ∧
      (fetchRegConstShift D .medium .rgb a.regConstShift).value.join = some constShift ∧
      s = { camera := .opened
            registration := ⟨info, regPadInfo, zeroPlaneInfo, constShift⟩
            tables := none
            modeInfo := some info } := by
  have hset (pad : RegPadInfo) (zpi : ZeroPlaneInfo F) :=
    setVideoMode_of_accepts (unset pad zpi : RegisteredDevice F D)
      (makeReserved Resolution.medium.toNat VideoFormat.rgb.toNat) ⟨rfl, by decide⟩ hfetch
  simp only [cameraInit, Option.bind_eq_bind, Option.bind_eq_some_iff, hset]
  constructor
  · rintro ⟨pad, hpad, zpi, hzpi, shift, hshift, hs⟩
    exact ⟨pad, zpi, shift, hpad, hzpi, hshift, (Option.some.inj hs).symm⟩
  · rintro ⟨pad, zpi, shift, hpad, hzpi, hshift, rfl⟩
    exact ⟨pad, hpad, zpi, hzpi, shift, hshift, rfl⟩

end Modes

/-! ### One call

From a state in which the tables follow, call by call. -/

section Step

variable {F D : Type} [Mul F] [IntCast F] [Add D] [Sub D] [Mul D] [Div D] [IntCast D]
  [OfScientific D] [LT D] [DecidableLT D] [LE D] [DecidableLE D] [FloatConversions F D]
  {big : Bool} {s : RegisteredDevice F D} {reserved : ℕ} {a : FetchAnswers} {info : RegInfo}

/-- Without a registered depth stream the info alone has to be right. -/
theorem tablesFollow_of_not_registered (hinfo : s.modeInfo = some s.registration.regInfo)
    (h : ¬ s.DepthRegistered) : s.TablesFollow :=
  ⟨hinfo, fun h' ↦ absurd h' h⟩

/-- A call that does nothing about the registration keeps the tables right, if it does not start the
depth stream or set its mode while it runs. -/
theorem TablesFollow.of_camera (h : s.TablesFollow) {camera : CameraDevice}
    (hcamera : ({ s with camera := camera } : RegisteredDevice F D).DepthRegistered →
      s.DepthRegistered) : ({ s with camera := camera } : RegisteredDevice F D).TablesFollow :=
  ⟨h.info, fun hreg ↦ h.tables (hcamera hreg)⟩

/-- **Setting the video mode** keeps the tables right exactly if the new info does. -/
theorem setVideoMode_tablesFollow_iff (hs : s.TablesFollow)
    (hfetch : a.Fetches 118 (RegInfo.ofReply big) info) :
    (s.setVideoMode big reserved a).1.TablesFollow ↔
      (s.AcceptsVideoMode reserved → s.DepthRegistered → ∀ i < depthXRes * depthYRes,
        initRegistrationTable F D info i = initRegistrationTable F D s.registration.regInfo i) := by
  by_cases haccepts : s.AcceptsVideoMode reserved
  swap
  · rw [setVideoMode_of_not_accepts haccepts]
    exact iff_of_true hs fun h ↦ absurd h haccepts
  have heq := setVideoMode_of_accepts s reserved haccepts hfetch
  obtain ⟨hdepth, hformat⟩ := setVideoMode_depth s.camera reserved
  have hregistered : (s.setVideoMode big reserved a).1.DepthRegistered ↔ s.DepthRegistered := by
    rw [heq, DepthRegistered, DepthRegistered, hdepth, hformat]
  constructor
  · intro h _ hreg i hi
    obtain ⟨t, ht, hsame⟩ := hs.tables hreg
    obtain ⟨t', ht', hsame'⟩ := h.tables (hregistered.2 hreg)
    rw [heq] at ht' hsame'
    obtain rfl : t = t' := Option.some.inj (ht.symm.trans ht')
    exact (hsame'.registrationTable i hi).symm.trans (hsame.registrationTable i hi)
  · intro h
    refine ⟨by rw [heq], fun hreg ↦ ?_⟩
    have hreg := hregistered.1 hreg
    obtain ⟨t, ht, hsame⟩ := hs.tables hreg
    rw [heq]
    -- the other two tables do not depend on the info
    exact ⟨t, ht, hsame.rawToMmShift, hsame.depthToRgbShift, fun i hi ↦
      (hsame.registrationTable i hi).trans (h haccepts hreg i hi).symm⟩

/-- **Starting the depth stream** makes the tables. -/
theorem startDepth_tablesFollow (hs : s.TablesFollow) (a : StartAnswers DepthFormat)
    (t : TableAnswers) : (s.startDepth a t).1.TablesFollow := by
  refine ⟨hs.info, fun hreg ↦ ?_⟩
  have hformat : s.camera.depthFormat = .registered :=
    (startDepth_depthFormat s.camera a t).symm.trans hreg.2
  cases hrun : s.camera.depth.strm.running with
  | true =>
    obtain ⟨t', ht', hsame⟩ := hs.tables ⟨hrun, hformat⟩
    exact ⟨t', (if_neg (by simp [hrun])).trans ht', hsame⟩
  | false => exact ⟨_, if_pos ⟨hrun, Or.inl hformat⟩, .refl _⟩

/-- Once the depth stream is stopped there is nothing to follow. -/
theorem stopDepth_tablesFollow (hs : s.TablesFollow) : s.stopDepth.1.TablesFollow := by
  refine tablesFollow_of_not_registered hs.info fun hreg ↦ ?_
  have hrun : s.camera.depth.stop.1.strm.running = true := hreg.1
  rw [OwnedStream.stop_running] at hrun
  exact Bool.false_ne_true hrun

/-- **The exact condition of a call.** -/
theorem step_tablesFollow_iff (s : RegisteredDevice F D) (c : RegisteredCall) (hs : s.TablesFollow)
    (hc : TransfersSucceed big c) : (s.step big c).1.TablesFollow ↔ s.KeepsTables big c := by
  obtain ⟨call, fetch⟩ := c
  cases call with
  | setVideoMode reserved =>
    obtain ⟨info, hfetch⟩ := hc
    refine (setVideoMode_tablesFollow_iff hs hfetch).trans ?_
    refine forall₂_congr fun _ _ ↦ ⟨fun h info' hfetch' ↦ ?_, fun h ↦ h _ hfetch⟩
    rwa [hfetch'.unique hfetch]
  | startDepth a t => exact iff_of_true (startDepth_tablesFollow hs a t) trivial
  | stopDepth => exact iff_of_true (stopDepth_tablesFollow hs) trivial
  | setDepthMode reserved =>
    exact iff_of_true (hs.of_camera depthRegistered_of_setDepthMode) trivial
  | setVideoBuffer buf => exact iff_of_true (hs.of_camera id) trivial
  | setDepthBuffer buf =>
    refine iff_of_true (hs.of_camera fun hreg ↦ ⟨?_, hreg.2⟩) trivial
    exact OwnedStream.setbuf_running.symm.trans hreg.1
  | startVideo a =>
    refine iff_of_true (hs.of_camera fun hreg ↦ ?_) trivial
    obtain ⟨hdepth, hformat⟩ := startVideo_depth s.camera a
    exact ⟨hdepth ▸ hreg.1, hformat.symm.trans hreg.2⟩
  | stopVideo => exact iff_of_true (hs.of_camera id) trivial

/-- They follow when the device has been opened. -/
theorem cameraInit_tablesFollow {a : InitAnswers F} (h : cameraInit big a = some s)
    (hinfo : ∃ info, a.regInfo.Fetches 118 (RegInfo.ofReply big) info) : s.TablesFollow := by
  obtain ⟨info, hfetch⟩ := hinfo
  obtain ⟨pad, zpi, shift, -, -, -, rfl⟩ := (cameraInit_eq_some_iff hfetch).1 h
  exact tablesFollow_of_not_registered rfl fun hreg ↦ Bool.false_ne_true hreg.1

/-- **Registration tables follow the video mode**, in a run that opens a device and all of whose
transfers succeed, exactly when each video mode that is accepted while the depth stream runs with
registration has the registration table of the mode before. -/
theorem tables_follow_video_mode_iff (big : Bool) (a : InitAnswers F) (s : RegisteredDevice F D)
    (hopen : cameraInit big a = some s)
    (hinfo : ∃ info, a.regInfo.Fetches 118 (RegInfo.ofReply big) info) (calls : List RegisteredCall)
    (hcalls : Mealy.Along (step big) (fun _ c ↦ TransfersSucceed big c) s calls) :
    (∀ k, (Mealy.run (step big) s (calls.take k)).TablesFollow) ↔
      Mealy.Along (step big) (KeepsTables big) s calls :=
  Mealy.always_iff_along_of step_tablesFollow_iff (cameraInit_tablesFollow hopen hinfo) hcalls

end Step

/-! ### A change of mode next to depth

A camera whose second info differs from its first in one field, and one that sends the same info
twice. -/

/-- A request that is answered. -/
def replied (r : Reply) : FetchAnswers where
  camTag := r.tag
  junk := videoMode .low .rgb 0 0 0 0 0 0
  reply _ := 0
  x :=
    { res := 18
      received := true
      polls := [r.controlIn] }

/-- What a reply holds is fetched. -/
theorem fetches_replied {α : Type} {r : Reply} {replyLen : ℕ} (hcmd : r.cmd = 0x16)
    (hlen : replyLen = r.payload.length) (ofReply : (ℕ → UInt8) → α) :
    (replied r).Fetches replyLen ofReply (ofReply r.controlIn.payload) :=
  ⟨(by decide : (0 : ℤ) ≤ 18), _, r.poll_controlIn,
    Reply.isReply_controlIn_iff.2 ⟨hlen, hcmd, rfl⟩, rfl⟩

/-- A reply with a registration info all of whose fields are 0 but `dx_start`. -/
def infoReply (dxStart : UInt8) : Reply where
  call := 0
  cmd := 0x16
  tag := 0
  payload := List.replicate 23 0 ++ dxStart :: List.replicate 94 0
  payload_lt := by simp [camHdrSize]

/-- The info. -/
def replyInfo (dxStart : UInt8) : RegInfo := .ofReply false (infoReply dxStart).controlIn.payload

/-- The info of the reply. -/
theorem fetches_infoReply (dxStart : UInt8) :
    (replied (infoReply dxStart)).Fetches 118 (RegInfo.ofReply false) (replyInfo dxStart) :=
  fetches_replied rfl (by simp [infoReply]) _

/-- A camera whose first info is all 0. -/
def initReplies : InitAnswers ℚ where
  regPadInfo := replied ⟨0, 0x16, 0, List.replicate 8 0, by decide⟩
  zeroPlaneInfo := some ⟨7.5, 2.4, 120, 0.1⟩
  regInfo := replied (infoReply 0)
  regConstShift := replied ⟨0, 0x16, 0, [0, 0, 200, 0], by decide⟩

/-- The device, as it is opened. -/
def openedDevice : RegisteredDevice ℚ ℚ where
  camera := .opened
  registration := ⟨replyInfo 0, ⟨0, 0, 0⟩, ⟨7.5, 2.4, 120, 0.1⟩, 200⟩
  tables := none
  modeInfo := some (replyInfo 0)

/-- The device is opened. -/
theorem cameraInit_initReplies : cameraInit false initReplies = some openedDevice := by
  have hpad : initReplies.regPadInfo.Fetches 8 RegPadInfo.ofReply ⟨0, 0, 0⟩ :=
    fetches_replied rfl (by decide) _
  have hshift : initReplies.regConstShift.Fetches 4 (constShiftOfReply ℚ) 200 :=
    fetches_replied rfl (by decide) _
  refine (cameraInit_eq_some_iff (fetches_infoReply 0)).2 ⟨_, _, _, ?_, rfl, ?_, rfl⟩
  · exact congrArg Option.join (fetchParams_of_fetches 0x41 RegPadInfo.ofReply_congr _ _ hpad)
  · exact congrArg Option.join (fetchParams_of_fetches 0x00 (constShiftOfReply_congr ℚ) _ _ hshift)

/-- The depth stream is started with registration, and then the video mode is set. -/
def modeChange (r : Reply) : List RegisteredCall :=
  [⟨.setDepthMode (makeReserved Resolution.medium.toNat DepthFormat.registered.toNat), replied r⟩,
    ⟨.startDepth ⟨10, 11, depthMode .d11Bit 0 0 0⟩ ⟨12, 13, 14⟩, replied r⟩,
    ⟨.setVideoMode (makeReserved Resolution.medium.toNat VideoFormat.bayer.toNat), replied r⟩]

/-- The transfers of the run succeed. -/
theorem transfersSucceed_modeChange (dxStart : UInt8) :
    Mealy.Along (step false) (fun _ c ↦ TransfersSucceed false c) openedDevice
      (modeChange (infoReply dxStart)) :=
  ⟨trivial, trivial, ⟨_, fetches_infoReply dxStart⟩, trivial⟩

/-- A new mode with the info of the old one. -/
theorem tables_follow_same_info :
    (Mealy.run (step false) openedDevice (modeChange (infoReply 0))).TablesFollow := by
  refine (tables_follow_video_mode_iff false initReplies openedDevice cameraInit_initReplies
    ⟨_, fetches_infoReply 0⟩ (modeChange (infoReply 0)) (transfersSucceed_modeChange 0)).2
    ⟨trivial, trivial, fun _ _ info hfetch i _ ↦ ?_, trivial⟩ 3
  rw [hfetch.unique (fetches_infoReply 0)]
  rfl

/-- The device before the video mode is set. -/
def depthOn : RegisteredDevice ℚ ℚ where
  camera :=
    ((CameraDevice.opened.setDepthMode
      (makeReserved Resolution.medium.toNat DepthFormat.registered.toNat)).1.startDepth
        ⟨10, 11, depthMode .d11Bit 0 0 0⟩ ⟨12, 13, 14⟩).1
  registration := openedDevice.registration
  tables := some (completeTables openedDevice.registration)
  modeInfo := openedDevice.modeInfo

/-- The state behind the run. -/
theorem run_modeChange (r : Reply) : Mealy.run (step false) openedDevice (modeChange r) =
    (depthOn.setVideoMode false
      (makeReserved Resolution.medium.toNat VideoFormat.bayer.toNat) (replied r)).1 := rfl

/-- Any other info leaves the depth stream with the tables of the old mode. -/
theorem tables_do_not_follow :
    Mealy.Along (step false) (fun _ c ↦ TransfersSucceed false c) openedDevice
        (modeChange (infoReply 1)) ∧
      ¬ (Mealy.run (step false) openedDevice (modeChange (infoReply 1))).TablesFollow := by
  refine ⟨transfersSucceed_modeChange 1, fun h ↦ ?_⟩
  have hfollow : depthOn.TablesFollow := ⟨rfl, fun _ ↦ ⟨_, rfl, .refl _⟩⟩
  rw [run_modeChange, setVideoMode_tablesFollow_iff hfollow (fetches_infoReply 1)] at h
  exact absurd (h ⟨rfl, by decide⟩ ⟨rfl, rfl⟩ 0 (by decide)) (by decide +kernel)

end RegisteredDevice

end Freenect
