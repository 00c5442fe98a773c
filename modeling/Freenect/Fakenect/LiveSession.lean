import Freenect.Fakenect.DeviceFile
import Freenect.Fakenect.RecordPlay

/-!
# Recorded live, played back

The recorder next to a device, and the player in the place of that device. The recorder writes what
the driver's callbacks are handed in the 11-bit format, and the registration data into
`device.json`; the player reads the text of both. `playback_as_live` says that a client of the
player is handed, in every pass over the recording, what the callbacks of the live device were
handed, with the same timestamps and in the same order, in each of the formats that the player
supports.

Three things are brought together.

* The frame. Behind the unpacking in the 11-bit format the driver converts raw values to registered
  depth or to millimetres, and so does the player with what the recorder kept of them: on both sides
  it is the same function of the raw values and of the tables (`Watches.handDump_eq`).
* The device. The tables are those of the recorder's device, since the file holds every number that
  they are made of (`device_of_file`). What the file does not hold keeps the value it has in the
  player, and is not used there.
* The run. In a pass every dump is handed out once, and one more call opens the index again
  (`HandsOut.pass`). The client's buffers may hold anything in front of each call.

That the dumps have different names is needed: two dumps in one file would both be handed out as the
later one.
-/

namespace Freenect

open FloatConversions

/-! ### The live device

An event is a completed frame, packed as the camera sends it, or a turn of the main loop. The
recorder unpacks it in the 11-bit format, a client of the same device in a format of its own. -/

/-- What happens while the recorder runs: the driver completes a frame, or the main loop turns.
`raw` and `procBuf` are the packed frame and the buffer that `depth_process` converts it to. -/
inductive LiveEvent (D : Type)
  | depth (curTime : D) (timestamp : UInt32) (raw : Bytes) (procBuf : ℕ → UInt8)
  | video (curTime : D) (timestamp : UInt32) (rgb : List UInt8)
  | turn (curTime : D) (state : Vector UInt8 tiltStateSize)

variable {D : Type}

/-- What the recorder, which has set the 11-bit format, is called with. -/
def LiveEvent.call (big : Bool) : LiveEvent D → RecorderCall D
  | .depth curTime timestamp raw _ =>
    .depthCb curTime timestamp (hostFrame big (convertPacked11To16bit raw (640 * 480)))
  | .video curTime timestamp rgb => .rgbCb curTime timestamp rgb
  | .turn curTime state => .snapshotAccel curTime state

/-- What a client of the device is handed, when `depth_process` converts with `convert`. -/
def LiveEvent.handed (convert : Conversion) : LiveEvent D → Option Handed
  | .depth _ timestamp raw procBuf => some ⟨.depth, some timestamp, convert raw procBuf⟩
  | .video _ timestamp rgb => some ⟨.video, some timestamp, rgb.take videoBytes⟩
  | .turn _ _ => none

/-- The recorder's dumps of a live session. -/
def liveDumps (big : Bool) (events : List (LiveEvent D)) : List (Dump D) :=
  dumps 0 (events.map (LiveEvent.call big))

/-! ### The client of the player -/

section Client

variable (F : Type) [PixelFloat F] [DoubleText D]

/-- `freenect_process_events`, with what it hands out. `buffer` is what the client's buffer, or the
player's own, holds before. -/
def Player.playStep (D : Type) [DoubleText D] (big : Bool) (pad : RegPadInfo)
    (recording : Recording) (p : Player) (buffer : ℕ → UInt8) : Player × Option Handed :=
  ((Player.step big recording p .processEvents).1,
    if p.ended then none else p.handOut F big pad D recording buffer)

end Client

/-- A client that takes both streams, depth in the format `fmt`, in modes of the player. -/
structure Watches (fmt : DepthFormat) (t : RegistrationTables) (p : Player) : Prop where
  depthCb : p.depthCb = true
  depthRunning : p.depthRunning = true
  videoCb : p.videoCb = true
  rgbRunning : p.rgbRunning = true
  depthFormat : p.depthMode.format = fmt
  depthBytes : copyLength p.depthMode = frameBytes
  videoFormat : p.videoMode.format = .rgb
  videoBytes : copyLength p.videoMode = videoBytes
  tables : p.tables = some t
  loopPlayback : p.loopPlayback = true

/-- The formats of the player. -/
def Supported (fmt : DepthFormat) : Prop := fmt = .d11Bit ∨ fmt = .registered ∨ fmt = .mm

section Frames

variable {F : Type} [PixelFloat F] {big : Bool} {fmt : DepthFormat} {pad : RegPadInfo}
  {t : RegistrationTables} {p : Player} {convert : Conversion}

/-- A depth frame made of a recorded one is the driver's, whatever the buffers held. -/
theorem Watches.depthFrame_eq (hp : Watches fmt t p)
    (hfmt : Supported fmt) (hconvert : depthConversion big fmt pad t = some convert)
    (raw : Bytes) (procBuf depthBuffer : ℕ → UInt8) :
    p.depthFrame big pad
        ((hostFrame big (convertPacked11To16bit raw (640 * 480))).take frameBytes) depthBuffer =
      some (convert raw procBuf) := by
  rw [Player.depthFrame, hp.depthFormat, hp.tables]
  rcases hfmt with rfl | rfl | rfl <;> rw [← Option.some.inj hconvert]
  · -- 11 bit: the bytes of the file
    have hlength : (hostFrame big (convertPacked11To16bit raw (640 * 480))).length ≤
        frameBytes := by
      rw [length_hostFrame, convertPacked11To16bit_eq raw ⟨38400, by decide⟩, List.length_map,
        List.length_range]
      decide
    dsimp only
    rw [hp.depthBytes, List.take_take, Nat.min_self, List.take_of_length_le hlength]
  · -- registered: the two inputs have the same raw values
    refine congrArg (fun frame ↦ some (hostFrame big frame)) (registeredFrame_congr fun i hi ↦ ?_)
    exact hostWord_recorded big raw hi
  · -- millimetres: pixel by pixel
    refine congrArg (fun frame ↦ some (hostFrame big frame)) ?_
    rw [applyDepthToMm_eq, applyDepthUnpackedToMm_eq]
    refine List.map_congr_left fun i hi ↦ ?_
    have hi : i < pixelCount := List.mem_range.1 hi
    rw [if_pos hi, if_pos hi, hostWord_recorded big raw hi]

/-- **A dump is handed out as the event was.** -/
theorem Watches.handDump_eq (hp : Watches fmt t p) (hfmt : Supported fmt)
    (hconvert : depthConversion big fmt pad t = some convert) {event : LiveEvent D}
    {lastTimestamp : UInt32} {d : Dump D} (hd : (event.call big).dump lastTimestamp = some d)
    (buffer : ℕ → UInt8) :
    p.handDump F big pad d d.data buffer = event.handed convert := by
  cases event with
  | depth curTime timestamp raw procBuf =>
    rw [← Option.some.inj hd]
    show (if p.depthCb ∧ p.depthRunning then _ else _) = _
    rw [if_pos ⟨hp.depthCb, hp.depthRunning⟩, hp.depthFrame_eq hfmt hconvert raw procBuf buffer]
    rfl
  | video curTime timestamp rgb =>
    rw [← Option.some.inj hd]
    show (if p.videoCb ∧ p.rgbRunning then _ else _) = _
    rw [if_pos ⟨hp.videoCb, hp.rgbRunning⟩, Player.videoFrame, hp.videoFormat]
    dsimp only
    rw [hp.videoBytes, List.take_take, Nat.min_self]
    rfl
  | turn curTime state =>
    rw [LiveEvent.call, RecorderCall.dump] at hd
    split at hd
    · cases hd
    · rw [← Option.some.inj hd]
      rfl

/-- The frames of the dumps are those of the events. -/
theorem Watches.filterMap_handDump (hp : Watches fmt t p) (hfmt : Supported fmt)
    (hconvert : depthConversion big fmt pad t = some convert) (buffer : ℕ → UInt8)
    (events : List (LiveEvent D)) (lastTimestamp : UInt32) :
    (dumps lastTimestamp (events.map (LiveEvent.call big))).filterMap
        (fun d ↦ p.handDump F big pad d d.data buffer) =
      events.filterMap (LiveEvent.handed convert) := by
  induction events generalizing lastTimestamp with
  | nil => rfl
  | cons event events ih =>
    rw [List.map_cons, dumps, List.filterMap_cons]
    cases hd : (event.call big).dump lastTimestamp with
    | none =>
      have hnone : event.handed convert = none := by
        cases event with
        | turn => rfl
        | depth | video => exact absurd hd (Option.some_ne_none _)
      rw [hnone]
      exact ih lastTimestamp
    | some d =>
      rw [List.filterMap_cons, hp.handDump_eq hfmt hconvert hd, ih d.timestamp]

end Frames

/-! ### Passes

A watching client stays a watching client: the player changes none of its settings. -/

section Passes

variable {F : Type} [PixelFloat F] [DoubleText D] {big : Bool} {fmt : DepthFormat}
  {pad : RegPadInfo} {t : RegistrationTables} {recording : Recording} {ds rest : List (Dump D)}
  {d : Dump D} {p q : Player} {g : Dump D → Option Handed}

/-- Watching is a matter of the settings. -/
theorem Watches.of_settings (hp : Watches fmt t p) (h : q.settings = p.settings) :
    Watches fmt t q := by
  have hsettings : Watches fmt t p.settings := ⟨hp.1, hp.2, hp.3, hp.4, hp.5, hp.6, hp.7, hp.8,
    hp.9, hp.10⟩
  rw [← h] at hsettings
  exact ⟨hsettings.1, hsettings.2, hsettings.3, hsettings.4, hsettings.5, hsettings.6,
    hsettings.7, hsettings.8, hsettings.9, hsettings.10⟩

/-- A watching client in front of the dumps `rest`. -/
structure AtDumps (fmt : DepthFormat) (t : RegistrationTables) (recording : Recording)
    (rest : List (Dump D)) (p : Player) : Prop extends Watches fmt t p where
  ended : p.ended = false
  remaining : p.remaining recording = indexOf rest

/-- The conversions that a watching client asks for are known. -/
theorem Watches.depthAccesses_eq (hp : Watches fmt t p) (hfmt : Supported fmt) (header : ℕ)
    (cur : List UInt8) : ∃ accs, depthAccesses big p header cur = some accs := by
  rw [depthAccesses, hp.depthFormat]
  rcases hfmt with rfl | rfl | rfl <;> exact ⟨_, rfl⟩

/-- The same for video. -/
theorem Watches.videoAccesses_eq (hp : Watches fmt t p) (header : ℕ) (cur : List UInt8) :
    ∃ accs, videoAccesses p header cur = some accs := by
  rw [videoAccesses, hp.videoFormat]
  exact ⟨_, rfl⟩

/-- The state of a step is that of the call. -/
theorem playStep_fst (hended : p.ended = false) (buffer : ℕ → UInt8) :
    (Player.playStep F D big pad recording p buffer).1 = (playEvents big recording p).1 := by
  have hthere : ¬ p.ended = true := by simp [hended]
  rw [Player.playStep, Player.step]
  rw [if_neg hthere]

/-- What holds of a recording of a live session: every file has its own dump, and a watching client
is handed `g` of it. -/
structure HandsOut (F : Type) [PixelFloat F] (big : Bool) (pad : RegPadInfo) (fmt : DepthFormat)
    (t : RegistrationTables) (recording : Recording) (ds : List (Dump D))
    (g : Dump D → Option Handed) : Prop where
  holds : Holds recording ds
  supported : Supported fmt
  own : ∀ d ∈ ds, kept ds d = d
  handed : ∀ p, Watches fmt t p → ∀ d ∈ ds, ∀ buffer,
    p.handDump F big pad d d.data buffer = g d

/-- **A step of a pass.** -/
theorem HandsOut.step (h : HandsOut F big pad fmt t recording ds g) (hd : d ∈ ds)
    (hp : AtDumps fmt t recording (d :: rest) p) (buffer : ℕ → UInt8) :
    AtDumps fmt t recording rest (Player.playStep F D big pad recording p buffer).1 ∧
      (Player.playStep F D big pad recording p buffer).2 = g d := by
  constructor
  · rw [playStep_fst hp.ended]
    exact ⟨hp.of_settings playEvents_settings,
      h.holds.ended_cons hd hp.remaining (hp.depthAccesses_eq h.supported) hp.videoAccesses_eq,
      (h.holds.playEvents_cons hd hp.remaining).1⟩
  · have hthere : ¬ p.ended = true := by simp [hp.ended]
    show (if p.ended then none else p.handOut F big pad D recording buffer) = g d
    rw [if_neg hthere, h.holds.handOut_cons hd hp.remaining, h.own d hd,
      h.handed p hp.toWatches d hd]

/-- The call behind the last dump opens the index again. -/
theorem HandsOut.reopen (h : HandsOut F big pad fmt t recording ds g)
    (hp : AtDumps fmt t recording ([] : List (Dump D)) p) (buffer : ℕ → UInt8) :
    AtDumps fmt t recording ds (Player.playStep F D big pad recording p buffer).1 ∧
      (Player.playStep F D big pad recording p buffer).2 = none := by
  constructor
  · have hrem : (playEvents big recording p).1.remaining recording = _ :=
      (playEvents_nil h.holds hp.remaining).1
    rw [if_pos hp.loopPlayback] at hrem
    rw [playStep_fst hp.ended]
    refine ⟨hp.of_settings playEvents_settings, ?_, hrem⟩
    rw [playEvents]
    rw [hp.remaining, parseLine_nil]
    dsimp only
    rw [if_pos hp.loopPlayback]
    exact hp.ended
  · have hthere : ¬ p.ended = true := by simp [hp.ended]
    show (if p.ended then none else p.handOut F big pad D recording buffer) = none
    rw [if_neg hthere, handOut_nil hp.remaining]

/-- **A pass**, from any place. -/
theorem HandsOut.pass (h : HandsOut F big pad fmt t recording ds g) (hrest : ∀ d ∈ rest, d ∈ ds)
    (hp : AtDumps fmt t recording rest p) (buffers : List (ℕ → UInt8))
    (hlength : buffers.length = rest.length + 1) :
    AtDumps fmt t recording ds (Mealy.run (Player.playStep F D big pad recording) p buffers) ∧
      Mealy.trace (Player.playStep F D big pad recording) p buffers = rest.map g ++ [none] := by
  induction rest generalizing p buffers with
  | nil =>
    obtain ⟨buffer, rfl⟩ := List.length_eq_one_iff.1 hlength
    obtain ⟨hnext, hout⟩ := h.reopen hp buffer
    exact ⟨hnext, by rw [Mealy.trace_cons, hout]; rfl⟩
  | cons d rest ih =>
    obtain ⟨buffer, buffers, rfl⟩ := List.exists_cons_of_length_eq_add_one hlength
    obtain ⟨hnext, hout⟩ := h.step (hrest d List.mem_cons_self) hp buffer
    obtain ⟨hend, htrace⟩ := ih (fun d hd ↦ hrest d (List.mem_cons_of_mem _ hd)) hnext buffers
      (Nat.succ_injective hlength)
    refine ⟨hend, ?_⟩
    rw [Mealy.trace_cons, hout, htrace]
    rfl

/-- **Several passes.** -/
theorem HandsOut.passes (h : HandsOut F big pad fmt t recording ds g)
    (hp : AtDumps fmt t recording ds p) (n : ℕ) (buffers : List (ℕ → UInt8))
    (hlength : buffers.length = n * (ds.length + 1)) :
    (Mealy.trace (Player.playStep F D big pad recording) p buffers).filterMap id =
      (List.replicate n (ds.filterMap g)).flatten := by
  induction n generalizing p buffers with
  | zero =>
    rw [Nat.zero_mul] at hlength
    rw [List.length_eq_zero_iff.1 hlength]
    rfl
  | succ n ih =>
    rw [Nat.succ_mul] at hlength
    obtain ⟨hend, htrace⟩ := h.pass (fun _ hd ↦ hd) hp (buffers.take (ds.length + 1))
      (by rw [List.length_take]; omega)
    have hrest := ih hend (buffers.drop (ds.length + 1)) (by rw [List.length_drop]; omega)
    rw [← List.take_append_drop (ds.length + 1) buffers, Mealy.trace_append, htrace,
      List.filterMap_append, hrest, List.replicate_succ, List.flatten_cons]
    simp [List.filterMap_map]

end Passes

/-! ### The two together -/

section Live

variable {F : Type} [PixelFloat F] [JsonNumbers D] [Add D] [Sub D] [Mul D] [Div D] [IntCast D]
  [OfScientific D] [LT D] [DecidableLT D] [LE D] [DecidableLE D] [FloatConversions F D]

/-- The player's device after `device.json`: where it matters it is the recorder's. -/
theorem device_of_file {reg : RegistrationData F D} (fake : RegistrationData F D)
    (hstored : NumbersStored reg) :
    (readDeviceFile fake (writeDeviceFile reg)).regPadInfo = reg.regPadInfo ∧
      completeTables (readDeviceFile fake (writeDeviceFile reg)) = completeTables reg := by
  rw [readDeviceFile_eq fake hstored, readDeviceInfo_writeDeviceInfo]
  exact ⟨rfl, completeTables_recordedOver reg fake.regInfo⟩

variable [DoubleText D]

/-- **Playback is the live session again.** The recorder has run on a device with registration data
`reg`, with different names for its dumps. A player that had `fake` before it read `device.json`
hands out, in as many passes as its client likes, what the driver handed out of `events`. -/
theorem playback_as_live (big : Bool) {reg : RegistrationData F D} (fake : RegistrationData F D)
    (hstored : NumbersStored reg) {fmt : DepthFormat} (hfmt : Supported fmt)
    (events : List (LiveEvent D)) (hnames : ((liveDumps big events).map Dump.name).Nodup)
    {p : Player} (hp : Watches fmt (completeTables (readDeviceFile fake (writeDeviceFile reg))) p)
    (hstart : p.indexFp = none) (hended : p.ended = false) (passes : ℕ)
    (buffers : List (ℕ → UInt8))
    (hlength : buffers.length = passes * ((liveDumps big events).length + 1)) :
    ∃ convert, depthConversion big fmt reg.regPadInfo (completeTables reg) = some convert ∧
      (Mealy.trace (Player.playStep F D big
          (readDeviceFile fake (writeDeviceFile reg)).regPadInfo
          (recordingOf (events.map (LiveEvent.call big)))) p buffers).filterMap id =
        (List.replicate passes (events.filterMap (LiveEvent.handed convert))).flatten := by
  obtain ⟨hpad, htables⟩ := device_of_file fake hstored
  rw [htables] at hp
  rw [hpad]
  obtain ⟨convert, hconvert⟩ : ∃ convert,
      depthConversion big fmt reg.regPadInfo (completeTables reg) = some convert := by
    rcases hfmt with rfl | rfl | rfl <;> exact ⟨_, rfl⟩
  refine ⟨convert, hconvert, ?_⟩
  -- what is handed out for a dump does not depend on the buffer, so any will do
  let g : Dump D → Option Handed := fun d ↦
    p.handDump F big reg.regPadInfo d d.data fun _ ↦ 0
  have hhands : HandsOut F big reg.regPadInfo fmt (completeTables reg)
      (recordingOf (events.map (LiveEvent.call big))) (liveDumps big events) g := by
    refine ⟨holds_recordingOf _, hfmt, fun d hd ↦ ?_, fun q hq d hd buffer ↦ ?_⟩
    · rw [kept, lastDump_of_nodup hnames hd]
      rfl
    · obtain ⟨call, hcall, timestamp, hdump⟩ := exists_call_of_mem_dumps hd
      obtain ⟨event, -, rfl⟩ := List.mem_map.1 hcall
      show _ = p.handDump F big reg.regPadInfo d d.data _
      rw [hq.handDump_eq hfmt hconvert hdump, hp.handDump_eq hfmt hconvert hdump]
  -- in the beginning the client is in front of all dumps
  have hat : AtDumps fmt (completeTables reg) (recordingOf (events.map (LiveEvent.call big)))
      (liveDumps big events) p := by
    refine ⟨hp, hended, ?_⟩
    rw [Player.remaining, hstart]
    exact hhands.holds.index
  rw [hhands.passes hat passes buffers hlength]
  rw [show (liveDumps big events).filterMap g = events.filterMap (LiveEvent.handed convert) from
    hp.filterMap_handDump hfmt hconvert _ events 0]

end Live

/-! ### A sample -/

/-- The rational numbers in a JSON text, as far as they are integers. -/
instance rationalNumbers : JsonNumbers ℚ where
  format x := JsonNumbers.format (towardZero x)
  strtod string := ((JsonNumbers.strtod (D := ℤ) string).1, (JsonNumbers.strtod (D := ℤ) string).2)
  isFinite _ := true

/-- An integer is kept by the file. -/
theorem storable_intCast (i : ℤ) : Storable (i : ℚ) := by
  have hformat : JsonNumbers.format (i : ℚ) = JsonNumbers.format i :=
    congrArg JsonNumbers.format (towardZero_intCast i)
  obtain ⟨hnumeral, hread⟩ := stored_integer i
  refine ⟨rfl, ⟨by rwa [hformat], fun rest hrest ↦ ?_⟩⟩
  rw [hformat]
  show (((JsonNumbers.strtod (JsonNumbers.format i ++ rest) : ℤ × ℕ × Bool).1 : ℚ),
    (JsonNumbers.strtod (JsonNumbers.format i ++ rest) : ℤ × ℕ × Bool).2) = _
  rw [hread rest hrest]

/-- A device of a recorder. -/
def sampleDevice : RegistrationData ℚ ℚ where
  regInfo := (sampleRegistration 0).regInfo
  regPadInfo := ⟨0, 0, 0⟩
  zeroPlaneInfo := ⟨((75 : ℤ) : ℚ), ((23 : ℤ) : ℚ), ((1200 : ℤ) : ℚ), ((1 : ℤ) : ℚ)⟩
  constShift := ((200 : ℤ) : ℚ)

/-- All its numbers are integers. -/
theorem numbersStored_sampleDevice : NumbersStored sampleDevice :=
  ⟨fun _ ↦ storable_intCast _, fun _ ↦ storable_intCast _, storable_intCast _, storable_intCast _,
    storable_intCast _, storable_intCast _, storable_intCast _⟩

/-- Two frames with a state between them. -/
def sampleEvents (raw : Bytes) (video : List UInt8) : List (LiveEvent ℚ) :=
  [.depth 5 7 raw fun _ ↦ 0xff, .turn (11 / 2) (Vector.replicate tiltStateSize 9), .video 6 8 video]

/-- A client that asks for registered frames. -/
def samplePlayer (t : RegistrationTables) : Player :=
  { Player.init true (some t) with
    depthMode := { format := .registered, bytes := 640 * 480 * 2, width := 640, height := 480 }
    depthCb := true
    videoCb := true
    depthRunning := true
    rgbRunning := true }

/-- Two passes over the sample. -/
theorem playback_as_live_sample :
    let events := sampleEvents (fun _ ↦ 1) (List.replicate videoBytes 0x80)
    ∃ convert, depthConversion false .registered sampleDevice.regPadInfo
        (completeTables sampleDevice) = some convert ∧
      (Mealy.trace (Player.playStep ℚ ℚ false
          (readDeviceFile sampleDevice (writeDeviceFile sampleDevice)).regPadInfo
          (recordingOf (events.map (LiveEvent.call false))))
        (samplePlayer (completeTables (readDeviceFile sampleDevice (writeDeviceFile sampleDevice))))
        (List.replicate 8 fun _ ↦ 0)).filterMap id =
        (List.replicate 2 (events.filterMap (LiveEvent.handed convert))).flatten := by
  generalize List.replicate videoBytes (0x80 : UInt8) = video
  refine playback_as_live false sampleDevice numbersStored_sampleDevice (Or.inr (Or.inl rfl))
    (sampleEvents (fun _ ↦ 1) video) ?_ ⟨rfl, rfl, rfl, rfl, rfl, rfl, rfl, rfl, rfl, rfl⟩ rfl rfl 2
    (List.replicate 8 fun _ ↦ 0) rfl
  simp [liveDumps, sampleEvents, LiveEvent.call, dumps, RecorderCall.dump, Dump.name,
    DumpType.char]

end Freenect
