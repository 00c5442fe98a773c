import Freenect.Device.Device

/-!
# Closing devices

What `freenect_close_device` and `freenect_shutdown` leave behind. The teardown of the camera stops
the depth stream and returns, or stops the video stream and returns, and nothing stops the audio
stream. So the device that is freed is quiet exactly when at most one camera stream and no audio
stream ran (`Device.Stoppable`).

The argument follows a device through the call: no event and no waiting changes which streams run
(`Device.LeadsFrom.step`), and a device with no running stream that is at rest has no transfer in
flight.

**From one device to a context.** A context is a list of devices, and the closing of one of them is
a run in which any of the others may take a step too. `Context.Step.leadsFrom` is such a step seen
from one device: it is a step of its own closing, or it does not touch the device. So what has been
shown of a device alone holds of each device that `freenect_close_device` or `freenect_shutdown`
closes, and `closed_quiet_iff` says it of both.
-/

namespace Freenect

/-! ### One device

What may happen between `close` and `free` are events and the remaining steps of a stop. `Quiet` is
what one would want of the device that is freed. -/

/-- Whether an action is an event or the rest of a stopping call: what happens while the client's
thread waits. -/
def CameraStream.Action.waits : CameraStream.Action → Bool
  | event _ _ _ _ | cancel | finish => true
  | refuse _ _ | start _ | started | setbuf _ | stop => false

@[inherit_doc CameraStream.Action.waits]
def AudioStream.Action.waits : AudioStream.Action → Bool
  | eventIn _ _ _ | eventOut _ _ _ | stopOut | finish => true
  | start _ _ | stop => false

namespace Device

/-- Whether an action is one of the steps in between `close` and `free`. -/
def Action.waits : Action → Bool
  | depth a | video a => a.waits
  | audio a => a.waits
  | close | free => false

/-- Whether an action belongs to the closing of a device. -/
def Action.closes : Action → Bool
  | depth a | video a => a.waits
  | audio a => a.waits
  | close | free => true

/-- No stream of the device is running. -/
structure NoneRunning (d : Device) : Prop where
  depth : d.depth.strm.running = false
  video : d.video.strm.running = false
  audio : d.audio.running = false

/-- No stream is running and no transfer is in flight: no later event can call back into the
device. -/
structure Quiet (d : Device) : Prop extends NoneRunning d where
  depthXfers : d.depth.isoc.inFlight = 0
  videoXfers : d.video.isoc.inFlight = 0
  inXfers : d.audio.inIsoc.inFlight = 0
  outXfers : d.audio.outIsoc.inFlight = 0

/-- The devices that `freenect_close_device` stops all streams of. -/
def Stoppable (d : Device) : Prop :=
  ¬ (d.depth.strm.running = true ∧ d.video.strm.running = true) ∧ d.audio.running = false

variable {d e e' : Device} {a : Action}

/-! #### What waiting leaves alone -/

/-- Waiting does not change whether a camera stream runs. -/
theorem running_of_waits {s t : CameraStream} {a : CameraStream.Action}
    (h : CameraStream.Step s a t) (ha : a.waits = true) : t.strm.running = s.strm.running := by
  cases h with
  | event inFlight => exact CameraStream.onEvent_running
  | cancel stopping => rfl
  | finish draining done => rfl
  | refuse | start | started | setbuf | stop => cases ha

theorem audio_running_of_waits {s t : AudioStream} {a : AudioStream.Action}
    (h : AudioStream.Step s a t) (ha : a.waits = true) : t.running = s.running := by
  cases h with
  | eventIn | eventOut | stopOut | finish => rfl
  | start | stop => cases ha

/-! #### The invariant -/

/-- Between calls, a step that does not begin one is an event, and leaves the phase alone. -/
theorem phase_of_not_begins {s t : CameraStream} {a : CameraStream.Action}
    (h : CameraStream.Step s a t) (ha : a.begins = false)
    (hs : s.phase = .stopped ∨ s.phase = .streaming) : t.phase = s.phase := by
  cases h with
  | event inFlight => rfl
  | started hp => rw [hp] at hs; simp at hs
  | cancel hp => rw [hp] at hs; simp at hs
  | finish hp done => rw [hp] at hs; simp at hs
  | refuse | start | setbuf | stop => cases ha

/-- The same for the audio stream. -/
theorem audio_phase_of_not_begins {s t : AudioStream} {a : AudioStream.Action}
    (h : AudioStream.Step s a t) (ha : a.begins = false)
    (hs : s.phase = .stopped ∨ s.phase = .streaming) : t.phase = s.phase := by
  cases h with
  | eventIn | eventOut => rfl
  | stopOut hp done => rw [hp] at hs; simp at hs
  | finish hp done => rw [hp] at hs; simp at hs
  | start | stop => cases ha

/-- A stopped stream stays stopped unless it is started. -/
theorem stopped_of_not_begins {s t : CameraStream} {a : CameraStream.Action}
    (h : CameraStream.Step s a t) (ha : a.begins = false) (hs : s.phase = .stopped) :
    t.phase = .stopped :=
  (phase_of_not_begins h ha (Or.inl hs)).trans hs

/-- No call begins on a device that has been freed. -/
theorem not_begins_of_freed {b : Bool} {p : Prop} (h : b = true → d.Idle ∧ p)
    (hd : d.closing = .freed) : b = false := by
  cases b with
  | false => rfl
  | true =>
    have hopen := (h rfl).1.1
    rw [hd] at hopen
    cases hopen

theorem not_begins_of_noCam {b : Bool} (h : b = true → d.Idle ∧ d.hasCam = true)
    (hd : d.hasCam = false) : b = false := by
  cases b with
  | false => rfl
  | true =>
    have hcam := (h rfl).2
    rw [hd] at hcam
    cases hcam

/-- The beginning of a stop is a step of the stream. -/
theorem streamInv_beginStop {s : CameraStream} (h : s.StreamInv) (hrun : s.strm.running = true) :
    s.beginStop.StreamInv :=
  (CameraStream.Step.stop (h.running_iff.1 hrun) hrun).streamInv h

/-- The beginning of `freenect_close_device` keeps the invariant. -/
theorem deviceInv_beginClose (h : d.DeviceInv) : d.beginClose.DeviceInv := by
  rw [beginClose, cameraTeardown]
  by_cases hcam : d.hasCam = true
  · have hcam' : d.hasCam = false → False := fun hc ↦ by simp [hcam] at hc
    rw [if_pos hcam]
    by_cases hdepth : d.depth.strm.running = true
    · rw [if_pos hdepth]
      exact ⟨streamInv_beginStop h.depth hdepth, h.video, h.audio, fun hc ↦ (hcam' hc).elim,
        fun hf ↦ nomatch hf⟩
    · rw [if_neg hdepth]
      by_cases hvideo : d.video.strm.running = true
      · rw [if_pos hvideo]
        exact ⟨h.depth, streamInv_beginStop h.video hvideo, h.audio, fun hc ↦ (hcam' hc).elim,
          fun hf ↦ nomatch hf⟩
      · rw [if_neg hvideo]
        exact ⟨h.depth, h.video, h.audio, h.noCam, fun hf ↦ nomatch hf⟩
  · rw [if_neg hcam]
    exact ⟨h.depth, h.video, h.audio, h.noCam, fun hf ↦ nomatch hf⟩

/-- **Every step of a device keeps its invariant.** -/
theorem Step.deviceInv (h : Step d a e) (hd : d.DeviceInv) : e.DeviceInv := by
  cases h with
  | depth step idle =>
    refine ⟨step.streamInv hd.depth, hd.video, hd.audio, fun hc ↦ ?_, fun hf ↦ ?_⟩
    · exact ⟨stopped_of_not_begins step (not_begins_of_noCam idle hc) (hd.noCam hc).1,
        (hd.noCam hc).2⟩
    · have hrest := hd.freed hf
      refine ⟨?_, hrest.video, hrest.audio⟩
      rw [phase_of_not_begins step (not_begins_of_freed idle hf) hrest.depth]
      exact hrest.depth
  | video step idle =>
    refine ⟨hd.depth, step.streamInv hd.video, hd.audio, fun hc ↦ ?_, fun hf ↦ ?_⟩
    · exact ⟨(hd.noCam hc).1,
        stopped_of_not_begins step (not_begins_of_noCam idle hc) (hd.noCam hc).2⟩
    · have hrest := hd.freed hf
      refine ⟨hrest.depth, ?_, hrest.audio⟩
      rw [phase_of_not_begins step (not_begins_of_freed idle hf) hrest.video]
      exact hrest.video
  | audio step idle =>
    refine ⟨hd.depth, hd.video, step.audioInv hd.audio, hd.noCam, fun hf ↦ ?_⟩
    have hrest := hd.freed hf
    refine ⟨hrest.depth, hrest.video, ?_⟩
    rw [audio_phase_of_not_begins step (not_begins_of_freed idle hf) hrest.audio]
    exact hrest.audio
  | close idle => exact deviceInv_beginClose hd
  | free teardown rest =>
    exact ⟨hd.depth, hd.video, hd.audio, hd.noCam, fun _ ↦ ⟨rest.depth, rest.video, rest.audio⟩⟩

/-! #### Following a device through the call -/

/-- What the beginning of `freenect_close_device` does to the running streams. -/
theorem noneRunning_beginClose (h : d.DeviceInv) : d.beginClose.NoneRunning ↔ d.Stoppable := by
  rw [beginClose, cameraTeardown, Stoppable]
  by_cases hcam : d.hasCam = true
  · rw [if_pos hcam]
    -- the depth stream is looked at first, and if it runs the video stream is not looked at
    by_cases hdepth : d.depth.strm.running = true
    · rw [if_pos hdepth]
      constructor
      · rintro ⟨-, hvideo, haudio⟩
        have hstopped : d.video.strm.running = false := hvideo
        exact ⟨fun hrun ↦ Bool.false_ne_true (hstopped.symm.trans hrun.2), haudio⟩
      · rintro ⟨hboth, haudio⟩
        exact ⟨rfl, by simpa [hdepth] using hboth, haudio⟩
    · rw [if_neg hdepth]
      by_cases hvideo : d.video.strm.running = true
      · rw [if_pos hvideo]
        constructor
        · rintro ⟨-, -, haudio⟩
          exact ⟨fun hrun ↦ hdepth hrun.1, haudio⟩
        · rintro ⟨-, haudio⟩
          exact ⟨by simpa using hdepth, rfl, haudio⟩
      · rw [if_neg hvideo]
        constructor
        · rintro ⟨-, -, haudio⟩
          exact ⟨fun hrun ↦ hdepth hrun.1, haudio⟩
        · rintro ⟨-, haudio⟩
          exact ⟨by simpa using hdepth, by simpa using hvideo, haudio⟩
  · -- without a camera no camera stream runs, and none is stopped
    have hstop := h.noCam (by simpa using hcam)
    have hdepth := h.depth.not_running (by rw [hstop.1]; decide)
    have hvideo := h.video.not_running (by rw [hstop.2]; decide)
    rw [if_neg hcam]
    constructor
    · rintro ⟨-, -, haudio⟩
      exact ⟨fun hrun ↦ by simp [hdepth] at hrun, haudio⟩
    · rintro ⟨-, haudio⟩
      exact ⟨hdepth, hvideo, haudio⟩

/-- How a device `d` and a later state `e` of it are related while it is being closed. -/
structure LeadsFrom (d e : Device) : Prop where
  inv : e.DeviceInv
  before : e.closing = .open → (e.Stoppable ↔ d.Stoppable)
  after : e.closing ≠ .open → (e.NoneRunning ↔ d.Stoppable)

/-- Before the first step. -/
theorem leadsFrom_self (h : d.DeviceInv) (hopen : d.closing = .open) : LeadsFrom d d :=
  ⟨h, fun _ ↦ Iff.rfl, fun hne ↦ absurd hopen hne⟩

/-- **No step of the call changes what it will leave running.** -/
theorem LeadsFrom.step (h : LeadsFrom d e) (hstep : Step e a e') (ha : a.closes = true) :
    LeadsFrom d e' := by
  have hinv := hstep.deviceInv h.inv
  -- a step that only waits changes neither the running streams nor how far the call is
  have hwait : e'.depth.strm.running = e.depth.strm.running →
      e'.video.strm.running = e.video.strm.running → e'.audio.running = e.audio.running →
      e'.closing = e.closing → LeadsFrom d e' := by
    intro hdepth hvideo haudio hclosing
    refine ⟨hinv, fun hopen ↦ ?_, fun hne ↦ ?_⟩
    · rw [← h.before (hclosing ▸ hopen), Stoppable, Stoppable, hdepth, hvideo, haudio]
    · rw [← h.after (hclosing ▸ hne)]
      constructor
      · rintro ⟨h₁, h₂, h₃⟩
        exact ⟨hdepth ▸ h₁, hvideo ▸ h₂, haudio ▸ h₃⟩
      · rintro ⟨h₁, h₂, h₃⟩
        exact ⟨hdepth.trans h₁, hvideo.trans h₂, haudio.trans h₃⟩
  cases hstep with
  | depth step idle => exact hwait (running_of_waits step ha) rfl rfl rfl
  | video step idle => exact hwait rfl (running_of_waits step ha) rfl rfl
  | audio step idle => exact hwait rfl rfl (audio_running_of_waits step ha) rfl
  | close idle =>
    have hclosing : e.beginClose.closing = .teardown := by
      rw [beginClose]
      split
      · rfl
      · rfl
    refine ⟨hinv, fun hopen ↦ ?_, fun _ ↦ ?_⟩
    · rw [hclosing] at hopen
      cases hopen
    · rw [noneRunning_beginClose h.inv, h.before idle.1]
  | free teardown rest =>
    refine ⟨hinv, fun hopen ↦ (nomatch hopen), fun _ ↦ ?_⟩
    have hne : e.closing ≠ .open := by rw [teardown]; decide
    rw [← h.after hne]
    exact ⟨fun ⟨h₁, h₂, h₃⟩ ↦ ⟨h₁, h₂, h₃⟩, fun ⟨h₁, h₂, h₃⟩ ↦ ⟨h₁, h₂, h₃⟩⟩

/-! #### The freed device -/

/-- A camera stream that is at rest and does not run is stopped. -/
theorem stopped_of_rest {s : CameraStream} (h : s.StreamInv) (hrun : s.strm.running = false)
    (hrest : s.phase = .stopped ∨ s.phase = .streaming) : s.phase = .stopped := by
  rcases hrest with hp | hp
  · exact hp
  · simp [h.running_iff.2 hp] at hrun

theorem audio_stopped_of_rest {s : AudioStream} (h : s.AudioInv) (hrun : s.running = false)
    (hrest : s.phase = .stopped ∨ s.phase = .streaming) : s.phase = .stopped := by
  rcases hrest with hp | hp
  · exact hp
  · simp [h.running_iff.2 hp] at hrun

/-- A device at rest with no running stream is quiet. -/
theorem quiet_iff_noneRunning (h : d.DeviceInv) (hrest : d.AtRest) :
    d.Quiet ↔ d.NoneRunning := by
  refine ⟨Quiet.toNoneRunning, fun hnone ↦ ⟨hnone, ?_, ?_, ?_, ?_⟩⟩
  · exact h.depth.stopped (stopped_of_rest h.depth hnone.depth hrest.depth)
  · exact h.video.stopped (stopped_of_rest h.video hnone.video hrest.video)
  · exact h.audio.noneIn (Or.inr (audio_stopped_of_rest h.audio hnone.audio hrest.audio))
  · exact h.audio.noneOut (audio_stopped_of_rest h.audio hnone.audio hrest.audio)

/-- A device that was freed is quiet exactly when it could be stopped. -/
theorem LeadsFrom.quiet_iff (h : LeadsFrom d e) (hfreed : e.closing = .freed) :
    e.Quiet ↔ d.Stoppable := by
  rw [quiet_iff_noneRunning h.inv (h.inv.freed hfreed)]
  exact h.after (by rw [hfreed]; decide)

/-- Nothing happens to a stopped camera stream unless a call begins. -/
theorem not_step_of_stopped {s t : CameraStream} {a : CameraStream.Action} (h : s.StreamInv)
    (hs : s.phase = .stopped) (ha : a.begins = false) : ¬ CameraStream.Step s a t := by
  intro hstep
  cases hstep with
  | event inFlight => exact h.no_event hs inFlight
  | started hp => rw [hs] at hp; cases hp
  | cancel hp => rw [hs] at hp; cases hp
  | finish hp done => rw [hs] at hp; cases hp
  | refuse | start | setbuf | stop => cases ha

theorem not_audio_step_of_stopped {s t : AudioStream} {a : AudioStream.Action} (h : s.AudioInv)
    (hs : s.phase = .stopped) (ha : a.begins = false) : ¬ AudioStream.Step s a t := by
  intro hstep
  cases hstep with
  | eventIn inFlight => exact AudioStream.ne_inFlight (h.noneIn (Or.inr hs)) _ inFlight
  | eventOut inFlight => exact AudioStream.ne_inFlight (h.noneOut hs) _ inFlight
  | stopOut hp done => rw [hs] at hp; cases hp
  | finish hp done => rw [hs] at hp; cases hp
  | start | stop => cases ha

/-- **Nothing happens to a device that was quiet when it was freed.** -/
theorem Quiet.not_step (hd : d.DeviceInv) (hfreed : d.closing = .freed) (h : d.Quiet) :
    ¬ Step d a e := by
  have hrest := hd.freed hfreed
  intro hstep
  cases hstep with
  | depth step idle =>
    exact not_step_of_stopped hd.depth (stopped_of_rest hd.depth h.depth hrest.depth)
      (not_begins_of_freed idle hfreed) step
  | video step idle =>
    exact not_step_of_stopped hd.video (stopped_of_rest hd.video h.video hrest.video)
      (not_begins_of_freed idle hfreed) step
  | audio step idle =>
    exact not_audio_step_of_stopped hd.audio (audio_stopped_of_rest hd.audio h.audio hrest.audio)
      (not_begins_of_freed idle hfreed) step
  | close idle => cases hfreed.symm.trans idle.1
  | free teardown rest => cases hfreed.symm.trans teardown

end Device

/-! ### All devices of a context

The two public functions as runs of the context: `freenect_close_device` is a run between its first
and its last step, and `freenect_shutdown` closes the first device of the list until there is none.
-/

/-- The devices of `freenect_context`, in the order of its list. A device that has been freed keeps
its place. -/
abbrev Context := List Device

namespace Context

/-- `ctx->first`: the first device that has not been freed. -/
def first (ctx : Context) : Option ℕ := ctx.findIdx? fun d ↦ d.closing ≠ .freed

/-- What can happen in a context. -/
inductive Action
  | openDevice (hasCam hasAudio : Bool)
  | device (i : ℕ) (a : Device.Action)
  deriving DecidableEq, Repr

/-- The steps of a context. Nothing keeps calls on different devices apart, which only allows more
runs. -/
inductive Step : Context → Action → Context → Prop
  /-- `freenect_open_device`. -/
  | openDevice {ctx : Context} {hasCam hasAudio : Bool} :
      Step ctx (.openDevice hasCam hasAudio) (ctx ++ [Device.fresh hasCam hasAudio])
  | device {ctx : Context} {i : ℕ} {d d' : Device} {a : Device.Action} (get : ctx[i]? = some d)
      (step : Device.Step d a d') : Step ctx (.device i a) (ctx.set i d')

/-- A context and all that can happen in it. -/
def machine : Machine Context Action where
  init ctx := ctx = []
  step := Step

/-- `freenect_close_device` on device `i`. While it waits, transfers of any device complete. -/
def CloseDevice (i : ℕ) (ctx ctx' : Context) : Prop :=
  ∃ ctx₁ as ctx₂, Step ctx (.device i .close) ctx₁ ∧ machine.Path ctx₁ as ctx₂ ∧
    (∀ a ∈ as, ∃ j b, a = .device j b ∧ b.waits = true) ∧ Step ctx₂ (.device i .free) ctx'

/-- `freenect_shutdown`. -/
inductive Shutdown : Context → Context → Prop
  | done {ctx : Context} (none : ctx.first = none) : Shutdown ctx ctx
  | next {i : ℕ} {ctx ctx₁ ctx' : Context} (first : ctx.first = some i)
      (close : CloseDevice i ctx ctx₁) (rest : Shutdown ctx₁ ctx') : Shutdown ctx ctx'

variable {ctx ctx' : Context} {i : ℕ} {d : Device} {a : Action}

/-- A step in a context keeps the invariant of every device. -/
theorem Step.deviceInv (h : Step ctx a ctx') (hc : ∀ d ∈ ctx, d.DeviceInv) :
    ∀ d ∈ ctx', d.DeviceInv := by
  cases h with
  | openDevice =>
    intro d hd
    rcases List.mem_append.1 hd with hd | hd
    · exact hc d hd
    · rw [List.mem_singleton.1 hd]
      exact Device.deviceInv_fresh _ _
  | device get step =>
    intro d hd
    rcases List.mem_or_eq_of_mem_set hd with hd | rfl
    · exact hc d hd
    · exact step.deviceInv (hc _ (List.mem_of_getElem? get))

/-- **Every device of a reachable context has the invariant.** -/
theorem deviceInv_of_reachable (h : machine.Reachable ctx) : ∀ d ∈ ctx, d.DeviceInv :=
  machine.invariant (I := fun ctx ↦ ∀ d ∈ ctx, d.DeviceInv)
    (fun ctx hc d hd ↦ by rw [show ctx = [] from hc] at hd; cases hd)
    (fun _ _ _ hs hst ↦ Step.deviceInv hst hs) h

/-- A step of the closing of some device, seen from device `i`. -/
theorem Step.leadsFrom (h : Step ctx a ctx') (ha : ∃ j b, a = .device j b ∧ b.closes = true)
    (hi : ∃ e, ctx[i]? = some e ∧ d.LeadsFrom e) : ∃ e, ctx'[i]? = some e ∧ d.LeadsFrom e := by
  obtain ⟨e, he, hde⟩ := hi
  obtain ⟨j, b, rfl, hb⟩ := ha
  cases h with
  | @device _ e₁ e' _ get step =>
    by_cases hij : j = i
    · subst hij
      obtain rfl : e₁ = e := Option.some.inj (get.symm.trans he)
      have hlt : j < ctx.length := (List.getElem?_eq_some_iff.1 he).1
      exact ⟨e', List.getElem?_set_self hlt, hde.step step hb⟩
    · exact ⟨e, by rw [List.getElem?_set_ne hij, he], hde⟩

/-- A run of closing steps, seen from one device. -/
theorem path_leadsFrom {as : List Action} (h : machine.Path ctx as ctx')
    (has : ∀ a ∈ as, ∃ j b, a = .device j b ∧ b.closes = true) (hd : d.DeviceInv)
    (hopen : d.closing = .open) (hi : ctx[i]? = some d) :
    ∃ e, ctx'[i]? = some e ∧ d.LeadsFrom e :=
  h.invariant_on (I := fun ctx ↦ ∃ e, ctx[i]? = some e ∧ d.LeadsFrom e)
    (fun _ _ _ hs ha hst ↦ Step.leadsFrom hst ha hs) ⟨d, hi, Device.leadsFrom_self hd hopen⟩ has

/-- What waits is part of closing. -/
theorem closes_of_waits {b : Device.Action} (h : b.waits = true) : b.closes = true := by
  cases b with
  | close | free => cases h
  | _ => exact h

/-- The steps of `freenect_close_device`, its first and its last included. -/
theorem CloseDevice.path (h : CloseDevice i ctx ctx') :
    ∃ as, machine.Path ctx as ctx' ∧ ∀ a ∈ as, ∃ j b, a = .device j b ∧ b.closes = true := by
  obtain ⟨ctx₁, as, ctx₂, hclose, hpath, has, hfree⟩ := h
  refine ⟨_, .cons hclose (hpath.append (.single hfree)), fun a ha ↦ ?_⟩
  rcases List.mem_cons.1 ha with rfl | ha
  · exact ⟨i, .close, rfl, rfl⟩
  · rcases List.mem_append.1 ha with ha | ha
    · obtain ⟨j, b, rfl, hb⟩ := has a ha
      exact ⟨j, b, rfl, closes_of_waits hb⟩
    · exact ⟨i, .free, List.mem_singleton.1 ha, rfl⟩

/-- The steps of `freenect_shutdown`; when it ends, no device is left. -/
theorem Shutdown.path (h : Shutdown ctx ctx') :
    ∃ as, machine.Path ctx as ctx' ∧ (∀ a ∈ as, ∃ j b, a = .device j b ∧ b.closes = true) ∧
      ∀ d ∈ ctx', d.closing = .freed := by
  induction h with
  | done none =>
    refine ⟨[], .nil _, by simp, fun d hd ↦ ?_⟩
    simpa using List.findIdx?_eq_none_iff.1 none d hd
  | next first close rest ih =>
    obtain ⟨as, hpath, has⟩ := close.path
    obtain ⟨bs, hpath', hbs, hfreed⟩ := ih
    refine ⟨as ++ bs, hpath.append hpath', fun a ha ↦ ?_, hfreed⟩
    exact (List.mem_append.1 ha).elim (has a) (hbs a)

/-- What closing leaves of a device. -/
structure ClosedFrom (d d' : Device) : Prop where
  freed : d'.closing = .freed
  quiet_iff : d'.Quiet ↔ d.Stoppable
  silent : d.Stoppable → ∀ a e, ¬ Device.Step d' a e

/-- The end of the run. -/
theorem closedFrom_of_leadsFrom {e : Device} (h : d.LeadsFrom e) (hfreed : e.closing = .freed) :
    ClosedFrom d e :=
  ⟨hfreed, h.quiet_iff hfreed,
    fun hd _ _ ↦ ((h.quiet_iff hfreed).2 hd).not_step h.inv hfreed⟩

/-- **What is left of the devices that are closed.** A device that `freenect_close_device` or
`freenect_shutdown` has freed is quiet exactly when, at the beginning of the call, not both of its
camera streams and not its audio stream were running; then nothing happens to it any more. -/
theorem closed_quiet_iff (hc : machine.Reachable ctx) :
    (CloseDevice i ctx ctx' → ∃ d d', ctx[i]? = some d ∧ ctx'[i]? = some d' ∧ ClosedFrom d d') ∧
      (Shutdown ctx ctx' → ∀ d, ctx[i]? = some d → d.closing = .open →
        ∃ d', ctx'[i]? = some d' ∧ ClosedFrom d d') := by
  have hinv := deviceInv_of_reachable hc
  refine ⟨fun h ↦ ?_, fun h d hd hopen ↦ ?_⟩
  · obtain ⟨as, hpath, has⟩ := h.path
    obtain ⟨ctx₁, bs, ctx₂, hclose, -, -, hfree⟩ := h
    obtain ⟨d, hd, hopen⟩ : ∃ d, ctx[i]? = some d ∧ d.closing = .open := by
      cases hclose with
      | device get step => cases step with | close idle => exact ⟨_, get, idle.1⟩
    obtain ⟨e, he, hde⟩ := path_leadsFrom hpath has (hinv d (List.mem_of_getElem? hd)) hopen hd
    have hfreed : e.closing = .freed := by
      cases hfree with
      | device get step =>
        have hlt := (List.getElem?_eq_some_iff.1 get).1
        rw [List.getElem?_set_self hlt] at he
        cases step with | free teardown rest => exact (Option.some.inj he) ▸ rfl
    exact ⟨d, e, hd, he, closedFrom_of_leadsFrom hde hfreed⟩
  · obtain ⟨as, hpath, has, hfreed⟩ := h.path
    obtain ⟨e, he, hde⟩ := path_leadsFrom hpath has (hinv d (List.mem_of_getElem? hd)) hopen hd
    exact ⟨e, he, closedFrom_of_leadsFrom hde (hfreed e (List.mem_of_getElem? he))⟩

/-! ### Two running camera streams

A run that meets the condition and one that does not, up to the transfer that is still in flight. -/

/-- The default depth stream. -/
def depthArgs : StartArgs where
  pktSize := 1748
  flag := 0x70
  rlen := 422400
  plen := 614400
  libMalloc := 1
  rawMalloc := 2
  results := List.replicate 16 (.submitted .ok)

/-- The default video stream. -/
def videoArgs : StartArgs where
  pktSize := 1908
  flag := 0x80
  rlen := 307200
  plen := 921600
  libMalloc := 3
  rawMalloc := 4
  results := List.replicate 16 (.submitted .ok)

/-- A device with a running depth stream. -/
def depthDevice : Device := { Device.fresh true false with depth := .running depthArgs }

/-- A device with a running depth stream and a running video stream. -/
def busyDevice : Device := { depthDevice with video := .running videoArgs }

/-- The client may make a call on it. -/
theorem idle_depthDevice : depthDevice.Idle := ⟨rfl, Or.inr rfl, Or.inl rfl, Or.inl rfl⟩

/-- It can be reached. -/
theorem reachable_depthDevice : machine.Reachable [depthDevice] := by
  have hidle : (Device.fresh true false).Idle := ⟨rfl, Or.inl rfl, Or.inl rfl, Or.inl rfl⟩
  have hopen : machine.Reachable [Device.fresh true false] :=
    (Machine.Reachable.init (M := machine) rfl).step .openDevice
  have hstart : Device.Step (Device.fresh true false) (.depth (.start depthArgs)) _ :=
    .depth (.start rfl rfl) fun _ ↦ ⟨hidle, rfl⟩
  exact (hopen.step (.device (i := 0) rfl hstart)).step
    (.device (i := 0) rfl (.depth (.started rfl) fun h ↦ nomatch h))

theorem reachable_busyDevice : machine.Reachable [busyDevice] := by
  have hstart : Device.Step depthDevice (.video (.start videoArgs)) _ :=
    .video (.start rfl rfl) fun _ ↦ ⟨idle_depthDevice, rfl⟩
  exact (reachable_depthDevice.step (.device (i := 0) rfl hstart)).step
    (.device (i := 0) rfl (.video (.started rfl) fun h ↦ nomatch h))

/-- What the depth stream does while its stop waits, as part of a device that is alone. -/
theorem path_depth {s t : CameraStream} {as : List CameraStream.Action}
    (h : CameraStream.machine.Path s as t) (has : ∀ a ∈ as, a.waits = true) (d : Device) :
    machine.Path [{ d with depth := s }] (as.map fun a ↦ .device 0 (.depth a))
      [{ d with depth := t }] := by
  induction h with
  | nil => exact .nil _
  | @cons s u t a as hstep _ ih =>
    obtain ⟨ha, has⟩ := List.forall_mem_cons.1 has
    have hbegins : a.begins = true → Device.Idle { d with depth := s } ∧ d.hasCam = true := by
      intro hb
      cases a <;> cases ha <;> cases hb
    exact .cons (.device (i := 0) rfl (.depth hstep hbegins)) (ih has)

/-- A running depth stream of a device that is alone is stopped, and the device freed, in one run of
`freenect_close_device`. -/
theorem exists_closeDevice {d : Device} (hinv : d.DeviceInv) (hidle : d.Idle)
    (hcam : d.hasCam = true) (hrun : d.depth.strm.running = true) :
    ∃ s, CloseDevice 0 [d] [{ d with depth := s, closing := .freed }] := by
  have hbegin : d.beginClose = { d with depth := d.depth.beginStop, closing := .teardown } := by
    rw [Device.beginClose, if_pos hcam, Device.cameraTeardown, if_pos hrun]
  let s₁ : CameraStream :=
    { d.depth.beginStop with isoc := beginStopIso d.depth.isoc, phase := .draining }
  have hcancel : CameraStream.Step d.depth.beginStop .cancel s₁ := .cancel rfl
  have hs₁ : s₁.StreamInv := hcancel.streamInv (Device.streamInv_beginStop hinv.depth hrun)
  -- the wait comes to an end, whatever the transfers report
  obtain ⟨as, s₂, hpath, has, hphase, hdone⟩ := CameraStream.exists_drained _ rfl hs₁ rfl
  have hfinish := CameraStream.Step.finish hphase hdone
  have hwaits : ∀ a ∈ .cancel :: (as ++ [.finish]), CameraStream.Action.waits a = true := by
    intro a ha
    rcases List.mem_cons.1 ha with rfl | ha
    · rfl
    · rcases List.mem_append.1 ha with ha | ha
      · obtain ⟨i, rfl⟩ := has a ha
        rfl
      · rw [List.mem_singleton.1 ha]
        rfl
  have hwait := path_depth (.cons hcancel (hpath.append (.single hfinish))) hwaits
    { d with closing := .teardown }
  have hclose := Device.Step.close hidle
  rw [hbegin] at hclose
  refine ⟨_, _, _, _, .device (i := 0) rfl hclose, hwait, ?_,
    .device (i := 0) rfl (.free rfl ⟨Or.inl rfl, hidle.2.video, hidle.2.audio⟩)⟩
  intro a ha
  obtain ⟨b, hb, rfl⟩ := List.mem_map.1 ha
  exact ⟨0, .depth b, rfl, hwaits b hb⟩

/-- Closed while both camera streams run, a device is freed with the transfers of the video stream
in flight. -/
theorem close_leaves_video :
    machine.Reachable [busyDevice] ∧ ∃ ctx' d', CloseDevice 0 [busyDevice] ctx' ∧
      ctx'[0]? = some d' ∧ d'.closing = .freed ∧ d'.video.strm.running = true ∧
      d'.video.isoc.inFlight = 16 := by
  refine ⟨reachable_busyDevice, ?_⟩
  have hinv := deviceInv_of_reachable reachable_busyDevice _ List.mem_cons_self
  obtain ⟨s, hclose⟩ := exists_closeDevice hinv ⟨rfl, Or.inr rfl, Or.inr rfl, Or.inl rfl⟩ rfl rfl
  exact ⟨_, _, hclose, rfl, rfl, rfl, rfl⟩

/-- With the depth stream alone, closing leaves nothing behind. -/
theorem closed_quiet_iff_depthDevice :
    ∃ ctx' d', CloseDevice 0 [depthDevice] ctx' ∧ ctx'[0]? = some d' ∧ d'.Quiet := by
  have hinv := deviceInv_of_reachable reachable_depthDevice _ List.mem_cons_self
  obtain ⟨s, hclose⟩ := exists_closeDevice hinv idle_depthDevice rfl rfl
  obtain ⟨d, d', hd, hd', hclosed⟩ := (closed_quiet_iff reachable_depthDevice).1 hclose
  obtain rfl : depthDevice = d := Option.some.inj hd
  exact ⟨_, d', hclose, hd', hclosed.quiet_iff.2 ⟨fun hrun ↦ (nomatch hrun.2), rfl⟩⟩

end Context

end Freenect
