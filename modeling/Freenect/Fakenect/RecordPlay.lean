import Freenect.Fakenect.Recorder

/-!
# A recorded session, played back

What the recorder leaves behind is all that the player sees: names in `INDEX.txt`, and files.
`playback_in_order` is what the player makes of them, in any run of calls of its client: the `k`-th
`freenect_process_events` is about the `k`-th dump, in a loop or up to the end, and hands out that
dump's data under its timestamp, converted as the mode of the moment asks.

A dump whose name is used again shares its file with the later one, so that both are handed out with
the data of the later one (`kept`).

Where the player is, is a number, `k`, the calls of `freenect_process_events` so far. `PlaysAt` says
what the index and the tilt state are after `k` calls; one call takes it to `k + 1`
(`Holds.playsAt_succ`), the other calls of a client leave it (`Holds.playsAt_step`), and the run is
an induction over the client's calls. What is handed out in such a state does not need the run any
more: it is a fact about the next line (`Holds.handOut_cons`).

`%f` and `%lf` remain the parameters that they are in the recorder, and the `float` of
`convert_rgb_to_uyvy` is one as well: nothing here depends on what they compute.
-/

namespace Freenect

/-! ### The conversion of a picture -/

/-- `float`, as `convert_rgb_to_uyvy` uses it. -/
class PixelFloat (F : Type) extends Add F, Sub F, Neg F, Mul F, Div F, OfScientific F, IntCast F
  where
  /-- The assignment to a `uint8_t`. -/
  toByte : F → UInt8

instance rationalPixels : PixelFloat ℚ where
  toByte x := UInt8.ofNat (towardZero x).toNat

section Uyvy

variable (F : Type) [PixelFloat F]

/-- A component of a pixel. -/
def component (c : UInt8) : F := ((c.toNat : ℤ) : F)

/-- `y0` and `y1`. -/
def lumaOf (rgb : ℕ → UInt8) : F :=
  (0.257 * component F (rgb 0)) + (0.504 * component F (rgb 1)) + (0.098 * component F (rgb 2)) +
    ((16 : ℤ) : F)

/-- `u0` and `u1`. -/
def chromaUOf (rgb : ℕ → UInt8) : F :=
  -(0.148 * component F (rgb 0)) - (0.291 * component F (rgb 1)) + (0.439 * component F (rgb 2)) +
    ((128 : ℤ) : F)

/-- `v0` and `v1`. -/
def chromaVOf (rgb : ℕ → UInt8) : F :=
  (0.439 * component F (rgb 0)) - (0.368 * component F (rgb 1)) - (0.071 * component F (rgb 2)) +
    ((128 : ℤ) : F)

/-- The four bytes for two pixels. -/
def uyvyPair (rgb0 rgb1 : ℕ → UInt8) : List UInt8 :=
  [PixelFloat.toByte ((chromaUOf F rgb0 + chromaUOf F rgb1) / ((2 : ℤ) : F)),
    PixelFloat.toByte (lumaOf F rgb0),
    PixelFloat.toByte ((chromaVOf F rgb0 + chromaVOf F rgb1) / ((2 : ℤ) : F)),
    PixelFloat.toByte (lumaOf F rgb1)]

/-- `convert_rgb_to_uyvy`. -/
def convertRgbToUyvy (rgbBuffer : ℕ → UInt8) (mode : PlayMode VideoFormat) (yuvBuffer : ℕ → UInt8) :
    ℕ → UInt8 :=
  (List.range mode.height.toNat).foldl (fun yuv y ↦
    (List.range ((mode.width.toNat + 1) / 2)).foldl (fun yuv j ↦
      let pos := y * mode.width.toNat + 2 * j
      let uyvy := uyvyPair F (fun c ↦ rgbBuffer (pos * 3 + c)) fun c ↦ rgbBuffer ((pos + 1) * 3 + c)
      fun k ↦ if pos * 2 ≤ k then uyvy.getD (k - pos * 2) (yuv k) else yuv k) yuv) yuvBuffer

end Uyvy

/-! ### What a client is handed -/

/-- A callback: the timestamp, if the line had one, and the frame. -/
structure Handed where
  stream : PlayStream
  timestamp : Option UInt32
  frame : List UInt8
  deriving DecidableEq, Repr

section HandOut

variable (F : Type) {D : Type} [PixelFloat F] [DoubleText D] (big : Bool) (pad : RegPadInfo)

/-- The frame for a depth callback, in a buffer that held `depthBuffer`: none for a format that the
player does not know, and none without tables. -/
def Player.depthFrame (p : Player) (curDepth : List UInt8) (depthBuffer : ℕ → UInt8) :
    Option (List UInt8) :=
  match p.depthMode.format with
  | .d11Bit => some (curDepth.take (copyLength p.depthMode))
  | .registered | .mm =>
    p.tables.bind fun t ↦ replayFrame big p.depthMode.format pad t curDepth depthBuffer
  | .d10Bit | .d10BitPacked | .d11BitPacked | .dummy => none

/-- The frame for a video callback. -/
def Player.videoFrame (p : Player) (curVideo : List UInt8) (videoBuffer : ℕ → UInt8) :
    Option (List UInt8) :=
  match p.videoMode.format with
  | .rgb => some (curVideo.take (copyLength p.videoMode))
  | .yuvRaw =>
    some ((List.range (copyLength p.videoMode)).map
      (convertRgbToUyvy F (fun k ↦ curVideo.getD k 0) p.videoMode videoBuffer))
  | .bayer | .ir8Bit | .ir10Bit | .ir10BitPacked | .yuvRgb | .dummy => none

/-- The frame for either. -/
def Player.frame (p : Player) (stream : PlayStream) (cur : List UInt8) (buffer : ℕ → UInt8) :
    Option (List UInt8) :=
  match stream with
  | .depth => p.depthFrame big pad cur buffer
  | .video => p.videoFrame F cur buffer

/-- What the next `freenect_process_events` hands out: the callback that it reports, of the line
that it reads. -/
def Player.handOut (D : Type) [DoubleText D] (recording : Recording) (p : Player)
    (buffer : ℕ → UInt8) : Option Handed :=
  (parseLine recording (p.remaining recording)).bind fun line ↦
    (playEvents big recording p).2.callback.bind fun stream ↦
      (skipLine line.2).bind fun cur ↦
        (p.frame F big pad stream cur buffer).map fun frame ↦
          { stream := stream
            timestamp := (oneLine (p.remaining recording)).1.bind fun name ↦
              (scanLine name : Option D × Option UInt32).2
            frame := frame }

/-- What a client is to be handed of a dump: its timestamp, and a frame made of `data`. -/
def Player.handDump (p : Player) (d : Dump D) (data : List UInt8) (buffer : ℕ → UInt8) :
    Option Handed :=
  match d.type with
  | .depth =>
    if p.depthCb ∧ p.depthRunning then
      (p.depthFrame big pad (data.take frameBytes) buffer).map (⟨.depth, some d.timestamp, ·⟩)
    else none
  | .rgb =>
    if p.videoCb ∧ p.rgbRunning then
      (p.videoFrame F (data.take videoBytes) buffer).map (⟨.video, some d.timestamp, ·⟩)
    else none
  | .accel => none

end HandOut

/-! ### A recording

`Holds` is all that is needed of a recording: its index has the names of some dumps in order, and
each file has one of these dumps, of that name. The recorder leaves such a recording. -/

section Recordings

variable {D : Type} [DoubleText D]

/-- What the recorder has left behind. -/
def recordingOf (calls : List (RecorderCall D)) : Recording where
  index := (calls.foldl Recorder.step .init).index
  files := (calls.foldl Recorder.step .init).files
  names := by
    rw [(recorder_run .init calls).1]
    intro hmem
    obtain ⟨d, -, hd⟩ := List.mem_flatMap.1 hmem
    rcases List.mem_append.1 hd with hd | hd
    · exact (d.name_plain 0 hd).2 rfl
    · exact absurd hd (by decide)

/-- The lines of some dumps. -/
def indexOf (ds : List (Dump D)) : List UInt8 := ds.flatMap fun d ↦ d.name ++ [0x0a]

/-- The dump in the file of `d`. -/
def kept (ds : List (Dump D)) (d : Dump D) : Dump D := (lastDump ds d.name).getD d

/-- The first line of an index. -/
theorem oneLine_indexOf_cons (d : Dump D) (ds : List (Dump D)) :
    oneLine (indexOf (d :: ds)) = (some d.name, indexOf ds) := by
  have hplain : ∀ c ∈ d.name, decide (c ≠ 0x0a) = true := fun c hc ↦ by
    simpa using (d.name_plain c hc).1
  have hindex : indexOf (d :: ds) = d.name ++ 0x0a :: indexOf ds := by
    rw [indexOf, List.flatMap_cons, List.append_assoc]
    rfl
  rw [hindex, oneLine, List.takeWhile_append_of_pos hplain, List.dropWhile_append_of_pos hplain]
  simp [Dump.name]

/-- A recording of some dumps. -/
structure Holds (recording : Recording) (ds : List (Dump D)) : Prop where
  index : recording.index = indexOf ds
  files : ∀ d ∈ ds, recording.files d.name = (kept ds d).content
  accel : ∀ d ∈ ds, d.type = .accel → d.data.length = tiltStateSize

/-- What is kept is a dump of the same name. -/
theorem kept_mem {ds : List (Dump D)} {d : Dump D} (hd : d ∈ ds) :
    kept ds d ∈ ds ∧ (kept ds d).name = d.name := by
  obtain ⟨d', hd', hlast, hname⟩ := exists_lastDump hd
  rw [kept, hlast]
  exact ⟨hd', hname⟩

/-- **The recorder leaves such a recording.** -/
theorem holds_recordingOf (calls : List (RecorderCall D)) :
    Holds (recordingOf calls) (dumps 0 calls) where
  index := (recorder_run .init calls).1
  files d hd := by
    obtain ⟨d', -, hlast, -⟩ := exists_lastDump hd
    have hfile := (recorder_run .init calls).2 d.name
    rw [show (Recorder.init).lastTimestamp = 0 from rfl, hlast] at hfile
    rw [kept, hlast]
    exact hfile
  accel _ hd htype := length_of_mem_dumps hd htype

variable {recording : Recording} {ds rest : List (Dump D)} {d : Dump D}

variable (rest) in
/-- The line of a dump leads to its file. -/
theorem Holds.parseLine_cons (h : Holds recording ds) (hd : d ∈ ds) :
    parseLine recording (indexOf (d :: rest)) = some (d.type.char, (kept ds d).content) := by
  obtain ⟨hmem, -⟩ := kept_mem hd
  obtain ⟨hload, hne⟩ := Dump.loadFile_content (h.accel _ hmem)
  rw [parseLine, oneLine_indexOf_cons, Option.bind_some, h.files d hd, hload, if_neg hne]
  rfl

/-- Behind the last line there is none. -/
theorem parseLine_nil : parseLine recording (indexOf ([] : List (Dump D))) = none := rfl

end Recordings

/-! ### A call -/

/-- What the client has set, and nothing of what the player has read. -/
def Player.settings (p : Player) : Player :=
  { p with indexFp := none, state := [], alreadyWarned := false, ended := false }

section Calls

variable {F D : Type} [PixelFloat F] [DoubleText D] {big : Bool} {pad : RegPadInfo}
  {recording : Recording} {ds rest : List (Dump D)} {d : Dump D} {p : Player}

variable (big p) in
/-- A line changes neither the settings nor the place in the index. -/
theorem playLine_settings (type : UInt8) (data : List UInt8) :
    (playLine big p type data).1.settings = p.settings ∧
      (playLine big p type data).1.indexFp = p.indexFp := by
  rw [playLine, playTilt]
  split_ifs <;> exact ⟨rfl, rfl⟩

/-- The arms of the `switch` on the type, for the types that are recorded. -/
theorem playLine_char (type : DumpType) (data : List UInt8) :
    playLine big p type.char data =
      match type with
      | .depth =>
        if p.depthCb ∧ p.depthRunning then (p, playFrame data .depth (depthAccesses big p))
        else (p, .idle 0 data.length)
      | .rgb =>
        if p.videoCb ∧ p.rgbRunning then (p, playFrame data .video (videoAccesses p))
        else (p, .idle 0 data.length)
      | .accel => playTilt p data := by
  cases type
  · exact if_pos rfl
  · exact (if_neg (by decide)).trans (if_pos rfl)
  · exact (if_neg (by decide)).trans ((if_neg (by decide)).trans (if_pos rfl))

/-- Only an accelerometer record changes the state. -/
theorem playLine_state (type : DumpType) {data : List UInt8}
    (hdata : type = .accel → data.length = tiltStateSize) :
    (playLine big p type.char data).1.state = if type = .accel then data else p.state := by
  rw [playLine_char]
  cases type with
  | depth =>
    rw [if_neg (show ¬ DumpType.depth = .accel by decide)]
    dsimp only
    split
    · rfl
    · rfl
  | rgb =>
    rw [if_neg (show ¬ DumpType.rgb = .accel by decide)]
    dsimp only
    split
    · rfl
    · rfl
  | accel => rw [playTilt, if_pos (hdata rfl), if_pos rfl]

/-- The settings are the client's. -/
theorem playEvents_settings : (playEvents big recording p).1.settings = p.settings := by
  rw [playEvents]
  dsimp only
  split
  · split
    · rfl
    · rfl
  · exact (playLine_settings _ _ _ _).1

/-- **A call at a dump** moves on to the next one, and keeps a recorded state. -/
theorem Holds.playEvents_cons (h : Holds recording ds) (hd : d ∈ ds)
    (hrem : p.remaining recording = indexOf (d :: rest)) :
    (playEvents big recording p).1.remaining recording = indexOf rest ∧
      (playEvents big recording p).1.state =
        if d.type = .accel then (kept ds d).content else p.state := by
  have hparse := h.parseLine_cons rest hd
  have hindex := (playLine_settings big { p with indexFp := some (indexOf rest) } d.type.char
    (kept ds d).content).2
  rw [playEvents]
  rw [hrem, hparse, oneLine_indexOf_cons]
  refine ⟨?_, ?_⟩
  · rw [Player.remaining]
    exact congrArg (Option.getD · recording.index) hindex
  · obtain ⟨hmem, hname⟩ := kept_mem hd
    refine playLine_state d.type fun htype ↦ ?_
    rw [← Dump.type_eq_of_name hname] at htype
    have hlength : (kept ds d).content = (kept ds d).data.take tiltStateSize := by
      rw [Dump.content, htype]
      rfl
    rw [hlength, List.length_take, h.accel _ hmem htype, Nat.min_self]

/-- A call behind the last dump: the index is opened again, or the player stays there. -/
theorem playEvents_nil (h : Holds recording ds)
    (hrem : p.remaining recording = indexOf ([] : List (Dump D))) :
    (playEvents big recording p).1.remaining recording =
        indexOf (if p.loopPlayback then ds else []) ∧
      (playEvents big recording p).1.state = p.state := by
  rw [playEvents]
  rw [hrem, parseLine_nil]
  dsimp only
  split
  · exact ⟨h.index, rfl⟩
  · exact ⟨rfl, rfl⟩

/-- The accesses of the conversion for a stream. -/
def Player.accesses (big : Bool) (p : Player) :
    PlayStream → ℕ → List UInt8 → Option (List PlayAccess)
  | .depth => depthAccesses big p
  | .video => videoAccesses p

/-- A frame is made by a conversion whose accesses are reported. -/
theorem callback_of_frame {stream : PlayStream} {data cur frame : List UInt8} {buffer : ℕ → UInt8}
    (hskip : skipLine data = some cur) (hframe : p.frame F big pad stream cur buffer = some frame) :
    (playFrame data stream (p.accesses big stream)).callback = some stream := by
  unfold playFrame Player.accesses
  rw [hskip]
  cases stream with
  | depth =>
    rw [Player.frame, Player.depthFrame] at hframe
    unfold depthAccesses
    cases hformat : p.depthMode.format <;> rw [hformat] at hframe <;>
      first | rfl | exact nomatch hframe
  | video =>
    rw [Player.frame, Player.videoFrame] at hframe
    unfold videoAccesses
    cases hformat : p.videoMode.format <;> rw [hformat] at hframe <;>
      first | rfl | exact nomatch hframe

/-- What is handed out of a picture: its frame, if it has one. -/
theorem bind_callback (stream : PlayStream) {data cur : List UInt8} {buffer : ℕ → UInt8}
    (hskip : skipLine data = some cur) (make : PlayStream → List UInt8 → Handed) :
    ((playFrame data stream (p.accesses big stream)).callback.bind fun stream' ↦
        (skipLine data).bind fun cur ↦
          (p.frame F big pad stream' cur buffer).map (make stream')) =
      (p.frame F big pad stream cur buffer).map (make stream) := by
  cases hframe : p.frame F big pad stream cur buffer with
  | some frame =>
    rw [callback_of_frame hskip hframe, Option.bind_some, hskip, Option.bind_some, hframe]
  | none =>
    cases hcall : (playFrame data stream (p.accesses big stream)).callback with
    | none => rfl
    | some stream' =>
      obtain ⟨rfl, -⟩ := playFrame_callback hcall
      rw [Option.bind_some, hskip, Option.bind_some, hframe]

/-- **A call at a dump hands out the data in its file.** -/
theorem Holds.handOut_cons (h : Holds recording ds) (hd : d ∈ ds)
    (hrem : p.remaining recording = indexOf (d :: rest)) (buffer : ℕ → UInt8) :
    p.handOut F big pad D recording buffer =
      p.handDump F big pad d (kept ds d).data buffer := by
  have hparse := h.parseLine_cons rest hd
  have htype := Dump.type_eq_of_name (kept_mem hd).2
  have hreport : (playEvents big recording p).2 = _ := playEvents_report (hrem ▸ hparse)
  rw [Player.handOut, hreport, hrem, hparse, Option.bind_some, oneLine_indexOf_cons, playLine_char,
    Player.handDump]
  simp only [Option.bind_some, scanLine_name]
  -- the arm of the type, whose callback has the frame made of the file, or none
  cases hd : d.type with
  | depth =>
    rw [hd] at htype
    have hskip := Dump.skipLine_content (d := kept ds d) (by rw [htype]; decide)
    rw [htype] at hskip
    dsimp only
    split
    · exact bind_callback .depth hskip fun stream frame ↦
        ⟨stream, some d.timestamp, frame⟩
    · rfl
  | rgb =>
    rw [hd] at htype
    have hskip := Dump.skipLine_content (d := kept ds d) (by rw [htype]; decide)
    rw [htype] at hskip
    dsimp only
    split
    · exact bind_callback .video hskip fun stream frame ↦
        ⟨stream, some d.timestamp, frame⟩
    · rfl
  | accel =>
    dsimp only [playTilt]
    split
    · rfl
    · rfl

/-- A picture with a header, in a format that is known, does not end the process. -/
theorem playFrame_ends {data cur : List UInt8} {stream : PlayStream}
    {convert : ℕ → List UInt8 → Option (List PlayAccess)} (hskip : skipLine data = some cur)
    (h : ∃ accs, convert (data.length - cur.length) cur = some accs) :
    (playFrame data stream convert).result.ends = false := by
  obtain ⟨accs, haccs⟩ := h
  rw [playFrame]
  rw [hskip]
  dsimp only
  rw [haccs]
  rfl

/-- **The process survives a call at a dump**, in modes whose conversions the player knows. -/
theorem Holds.ended_cons (h : Holds recording ds) (hd : d ∈ ds)
    (hrem : p.remaining recording = indexOf (d :: rest))
    (hdepth : ∀ header cur, ∃ accs, depthAccesses big p header cur = some accs)
    (hvideo : ∀ header cur, ∃ accs, videoAccesses p header cur = some accs) :
    (playEvents big recording p).1.ended = false := by
  have hparse := h.parseLine_cons rest hd
  rw [← hrem] at hparse
  have hends : (playEvents big recording p).1.ended =
      (playEvents big recording p).2.result.ends := by
    rw [playEvents]
    rw [hparse]
  have hskip : d.type ≠ .accel → skipLine (kept ds d).content = some _ := fun hne ↦
    Dump.skipLine_content (by rwa [Dump.type_eq_of_name (kept_mem hd).2])
  rw [hends, playEvents_report hparse, playLine_char]
  cases hd : d.type with
  | depth =>
    dsimp only
    split
    · exact playFrame_ends (hskip (by rw [hd]; decide)) (hdepth _ _)
    · rfl
  | rgb =>
    dsimp only
    split
    · exact playFrame_ends (hskip (by rw [hd]; decide)) (hvideo _ _)
    · rfl
  | accel =>
    dsimp only [playTilt]
    split
    · rfl
    · rfl

/-- Nothing is handed out behind the last dump. -/
theorem handOut_nil (hrem : p.remaining recording = indexOf ([] : List (Dump D)))
    (buffer : ℕ → UInt8) : p.handOut F big pad D recording buffer = none := by
  rw [Player.handOut, hrem, parseLine_nil]
  rfl

end Calls

/-! ### Any run of a client -/

/-- The dump that the `k`-th call is about: in a loop there is one call more than there are dumps,
which opens the index again. -/
def dumpPosition (loopPlayback : Bool) (n k : ℕ) : ℕ :=
  if loopPlayback then k % (n + 1) else min k n

/-- One call moves to the next dump, and behind the last one to the first, in a loop. -/
theorem dumpPosition_succ (loopPlayback : Bool) (n k : ℕ) :
    dumpPosition loopPlayback n (k + 1) =
      if dumpPosition loopPlayback n k < n then dumpPosition loopPlayback n k + 1
      else if loopPlayback then 0 else n := by
  simp only [dumpPosition]
  cases loopPlayback with
  | false =>
    simp only [Bool.false_eq_true, if_false]
    split
    · omega
    · omega
  | true =>
    have hlt : k % (n + 1) < n + 1 := Nat.mod_lt k (Nat.succ_pos n)
    simp only [if_true]
    split
    next h =>
      rw [Nat.add_mod, Nat.mod_eq_of_lt (show 1 < n + 1 by omega), Nat.mod_eq_of_lt (by omega)]
    next h =>
      have hlast : k % (n + 1) = n := by omega
      rw [← Nat.mod_add_mod, hlast, Nat.mod_self]

/-- The dumps that `k` calls have been about. -/
def played {D : Type} (loopPlayback : Bool) (ds : List (Dump D)) (k : ℕ) : List (Dump D) :=
  (List.range k).filterMap fun j ↦ ds[dumpPosition loopPlayback ds.length j]?

/-- A call of `freenect_process_events`. -/
def PlayerCall.isProcessEvents : PlayerCall → Bool
  | .processEvents => true
  | _ => false

section Runs

variable {D : Type} [DoubleText D]

/-- The tilt state after `k` calls: the last one that was recorded, if there has been one. -/
def recordedState (loopPlayback : Bool) (ds : List (Dump D)) (k : ℕ) (initial : List UInt8) :
    List UInt8 :=
  (((played loopPlayback ds k).filter (·.type = .accel)).getLast?.map
    fun d ↦ (kept ds d).content).getD initial

/-- A call at a recorded state makes it the last one. -/
theorem recordedState_succ (loopPlayback : Bool) (ds : List (Dump D)) (k : ℕ)
    (initial : List UInt8) :
    recordedState loopPlayback ds (k + 1) initial =
      match ds[dumpPosition loopPlayback ds.length k]? with
      | none => recordedState loopPlayback ds k initial
      | some d =>
        if d.type = .accel then (kept ds d).content
        else recordedState loopPlayback ds k initial := by
  have hplayed : played loopPlayback ds (k + 1) = played loopPlayback ds k ++
      (ds[dumpPosition loopPlayback ds.length k]?).toList := by
    rw [played, List.range_succ, List.filterMap_append, ← played]
    cases h : ds[dumpPosition loopPlayback ds.length k]? <;> simp [h]
  rw [recordedState, hplayed, List.filter_append]
  cases ds[dumpPosition loopPlayback ds.length k]? with
  | none => simp [recordedState]
  | some d =>
    by_cases htype : d.type = .accel <;> simp [recordedState, htype]

variable {big : Bool} {recording : Recording} {ds : List (Dump D)} {initial : List UInt8} {k : ℕ}
  {p : Player}

/-- Where the player is after `k` calls. -/
structure PlaysAt (recording : Recording) (ds : List (Dump D)) (initial : List UInt8) (k : ℕ)
    (p : Player) : Prop where
  remaining : p.remaining recording =
    indexOf (ds.drop (dumpPosition p.loopPlayback ds.length k))
  state : p.state = recordedState p.loopPlayback ds k initial

/-- **One call is one position.** -/
theorem Holds.playsAt_succ (h : Holds recording ds) (hp : PlaysAt recording ds initial k p) :
    PlaysAt recording ds initial (k + 1) (playEvents big recording p).1 := by
  have hloop : (playEvents big recording p).1.loopPlayback = p.loopPlayback := by
    show (playEvents big recording p).1.settings.loopPlayback = p.settings.loopPlayback
    rw [playEvents_settings]
  have hrem := hp.remaining
  refine ⟨?_, ?_⟩ <;> rw [hloop]
  · rw [dumpPosition_succ]
    by_cases hlt : dumpPosition p.loopPlayback ds.length k < ds.length
    · rw [List.drop_eq_getElem_cons hlt] at hrem
      rw [(h.playEvents_cons (List.getElem_mem hlt) hrem).1, if_pos hlt]
    · rw [List.drop_of_length_le (by omega)] at hrem
      rw [(playEvents_nil h hrem).1, if_neg hlt]
      cases p.loopPlayback <;> simp
  · rw [recordedState_succ, ← hp.state]
    by_cases hlt : dumpPosition p.loopPlayback ds.length k < ds.length
    · rw [List.drop_eq_getElem_cons hlt] at hrem
      rw [(h.playEvents_cons (List.getElem_mem hlt) hrem).2, List.getElem?_eq_getElem hlt]
    · rw [List.drop_of_length_le (by omega)] at hrem
      rw [(playEvents_nil h hrem).2, List.getElem?_eq_none (by omega)]

/-- The other calls of a client move nothing. -/
theorem Holds.playsAt_step (h : Holds recording ds) (hp : PlaysAt recording ds initial k p)
    (hended : p.ended = false) (call : PlayerCall) :
    PlaysAt recording ds initial (k + (if call.isProcessEvents then 1 else 0))
      (Player.step big recording p call).1 := by
  have hthere : ¬ p.ended = true := by simp [hended]
  simp only [Player.step]
  rw [if_neg hthere]
  cases call with
  | processEvents => exact h.playsAt_succ hp
  | _ => exact ⟨hp.remaining, hp.state⟩

/-- Nothing happens any more when the process has ended. -/
theorem run_of_ended (hended : p.ended = true) (calls : List PlayerCall) :
    Mealy.run (Player.step big recording) p calls = p := by
  induction calls with
  | nil => rfl
  | cons call calls ih =>
    have hstep : Player.step big recording p call = (p, none) := if_pos hended
    rw [Mealy.run_cons, hstep]
    exact ih

/-- **The run**: calls and positions go together as long as the process is there. -/
theorem Holds.playsAt_run (h : Holds recording ds) (hp : PlaysAt recording ds initial k p)
    (calls : List PlayerCall)
    (hended : (Mealy.run (Player.step big recording) p calls).ended = false) :
    PlaysAt recording ds initial (k + calls.countP (·.isProcessEvents))
      (Mealy.run (Player.step big recording) p calls) := by
  induction calls generalizing k p with
  | nil => exact hp
  | cons call calls ih =>
    cases hnow : p.ended with
    | true =>
      rw [run_of_ended hnow] at hended
      exact absurd (hnow.symm.trans hended) (by decide)
    | false =>
      have hrun := ih (h.playsAt_step hp hnow call) hended
      rw [List.countP_cons, Nat.add_comm (calls.countP _), ← Nat.add_assoc]
      exact hrun

end Runs

section Order

variable (F : Type) {D : Type} [PixelFloat F] [DoubleText D]

/-- After `k` calls the next one is about the dump at its position, and the tilt state is the one
that was recorded last. -/
structure PlaysInOrder (big : Bool) (pad : RegPadInfo) (recording : Recording) (ds : List (Dump D))
    (initial : List UInt8) (k : ℕ) (p : Player) : Prop where
  handsOut : ∀ buffer, p.handOut F big pad D recording buffer =
    (ds[dumpPosition p.loopPlayback ds.length k]?).bind fun d ↦
      p.handDump F big pad d (kept ds d).data buffer
  state : p.state = recordedState p.loopPlayback ds k initial

/-- **A recording is played in order**, whatever the client does between two calls of
`freenect_process_events`: changes the modes, sets or resets callbacks, starts or stops a
stream. -/
theorem playback_in_order (big : Bool) (pad : RegPadInfo) (loopPlayback : Bool)
    (tables : Option RegistrationTables) (calls : List (RecorderCall D))
    (clientCalls : List PlayerCall)
    (hended : (Mealy.run (Player.step big (recordingOf calls)) (.init loopPlayback tables)
      clientCalls).ended = false) :
    PlaysInOrder F big pad (recordingOf calls) (dumps 0 calls) (List.replicate tiltStateSize 0)
      (clientCalls.countP (·.isProcessEvents))
      (Mealy.run (Player.step big (recordingOf calls)) (.init loopPlayback tables)
        clientCalls) := by
  have hholds := holds_recordingOf calls
  -- in the beginning the index has not been opened, and is read from the front
  have hinit : PlaysAt (recordingOf calls) (dumps 0 calls) (List.replicate tiltStateSize 0) 0
      (.init loopPlayback tables) := by
    refine ⟨?_, rfl⟩
    have hposition : dumpPosition loopPlayback (dumps 0 calls).length 0 = 0 := by
      cases loopPlayback <;> simp [dumpPosition]
    show (recordingOf calls).index =
      indexOf ((dumps 0 calls).drop (dumpPosition loopPlayback (dumps 0 calls).length 0))
    rw [hposition, List.drop_zero, hholds.index]
  have hrun := hholds.playsAt_run hinit clientCalls hended
  rw [Nat.zero_add] at hrun
  refine ⟨fun buffer ↦ ?_, hrun.state⟩
  have hrem := hrun.remaining
  generalize Mealy.run (Player.step big (recordingOf calls)) (.init loopPlayback tables)
    clientCalls = p at hrem ⊢
  -- the next call is about a dump, or behind the last one
  by_cases hlt : dumpPosition p.loopPlayback (dumps 0 calls).length
      (clientCalls.countP (·.isProcessEvents)) < (dumps 0 calls).length
  · rw [List.drop_eq_getElem_cons hlt] at hrem
    rw [hholds.handOut_cons (List.getElem_mem hlt) hrem, List.getElem?_eq_getElem hlt,
      Option.bind_some]
  · rw [List.drop_of_length_le (by omega)] at hrem
    rw [handOut_nil hrem, List.getElem?_eq_none (by omega)]
    rfl

end Order

/-- A depth and a video frame. -/
def sampleCalls (depth video : List UInt8) : List (RecorderCall ℚ) :=
  [.depthCb 5 7 depth, .rgbCb (11 / 2) 8 video]

/-- A client that asks for both streams, and changes the mode after the depth frame. -/
def sampleClient : List PlayerCall :=
  [.setDepthCallback true, .runDepth true, .setVideoCallback true, .runVideo true, .processEvents,
    .setVideoMode ⟨.yuvRaw, 640 * 480 * 2, 640, 480⟩]

/-- The player in front of `freenect_process_events`. -/
def sampleStreams : Player :=
  { Player.init true none with
    depthCb := true
    depthRunning := true
    videoCb := true
    rgbRunning := true }

/-- The calls of any recording, if the process survives the one of `freenect_process_events`. -/
theorem run_sampleClient_of_survives {recording : Recording}
    (hended : (playEvents false recording sampleStreams).1.ended = false) :
    Mealy.run (Player.step false recording) (.init true none) sampleClient =
      { (playEvents false recording sampleStreams).1 with
        videoMode := ⟨.yuvRaw, 640 * 480 * 2, 640, 480⟩ } := by
  have hthere : ¬ (playEvents false recording sampleStreams).1.ended = true := by simp [hended]
  exact congrArg Prod.fst (if_neg hthere)

/-- The player behind these calls, which the process survives. -/
theorem run_sampleClient (depth video : List UInt8) :
    ∃ p : Player, p.ended = false ∧ p.settings = sampleStreams.settings ∧
      Mealy.run (Player.step false (recordingOf (sampleCalls depth video))) (.init true none)
        sampleClient = { p with videoMode := ⟨.yuvRaw, 640 * 480 * 2, 640, 480⟩ } := by
  have hholds := holds_recordingOf (sampleCalls depth video)
  have hrem : sampleStreams.remaining (recordingOf (sampleCalls depth video)) =
      indexOf [⟨.depth, (5 : ℚ), 7, depth⟩, ⟨.rgb, 11 / 2, 8, video⟩] :=
    hholds.index
  have hended :
      (playEvents false (recordingOf (sampleCalls depth video)) sampleStreams).1.ended = false :=
    hholds.ended_cons List.mem_cons_self hrem (fun _ _ ↦ ⟨_, rfl⟩) fun _ _ ↦ ⟨_, rfl⟩
  exact ⟨_, hended, playEvents_settings, run_sampleClient_of_survives hended⟩

/-- The process survives them. -/
theorem ended_sampleClient (depth video : List UInt8) :
    (Mealy.run (Player.step false (recordingOf (sampleCalls depth video))) (.init true none)
      sampleClient).ended = false := by
  obtain ⟨p, hended, -, hrun⟩ := run_sampleClient depth video
  rw [hrun]
  exact hended

/-- A video frame is handed out, converted for its mode. -/
theorem handDump_yuvRaw {p : Player} (hcb : p.videoCb = true) (hrunning : p.rgbRunning = true)
    (hmode : p.videoMode.format = .yuvRaw) (pad : RegPadInfo) (d : Dump ℚ) (hd : d.type = .rgb)
    (data : List UInt8) (buffer : ℕ → UInt8) :
    ∃ frame, p.handDump ℚ false pad d data buffer = some ⟨.video, some d.timestamp, frame⟩ := by
  obtain ⟨frame, hframe⟩ : ∃ frame, p.videoFrame ℚ (data.take videoBytes) buffer = some frame := by
    rw [Player.videoFrame, hmode]
    exact ⟨_, rfl⟩
  refine ⟨frame, ?_⟩
  rw [Player.handDump, hd]
  dsimp only
  rw [if_pos ⟨hcb, hrunning⟩, hframe]
  rfl

/-- The call behind these hands out the video frame. -/
theorem handOut_sampleClient (depth video : List UInt8)
    (h : PlaysInOrder ℚ false ⟨0, 0, 0⟩ (recordingOf (sampleCalls depth video))
      (dumps 0 (sampleCalls depth video)) (List.replicate tiltStateSize 0) 1
      (Mealy.run (Player.step false (recordingOf (sampleCalls depth video))) (.init true none)
        sampleClient)) (buffer : ℕ → UInt8) :
    ∃ frame, (Mealy.run (Player.step false (recordingOf (sampleCalls depth video)))
        (.init true none) sampleClient).handOut ℚ false ⟨0, 0, 0⟩ ℚ
        (recordingOf (sampleCalls depth video)) buffer = some ⟨.video, some 8, frame⟩ := by
  obtain ⟨p, -, hsettings, hrun⟩ := run_sampleClient depth video
  have hloop : p.loopPlayback = true := congrArg Player.loopPlayback hsettings
  have hcb : p.videoCb = true := congrArg Player.videoCb hsettings
  have hrunning : p.rgbRunning = true := congrArg Player.rgbRunning hsettings
  rw [h.handsOut buffer, hrun]
  dsimp only
  rw [hloop]
  exact handDump_yuvRaw (p := { p with videoMode := ⟨.yuvRaw, 640 * 480 * 2, 640, 480⟩ })
    hcb hrunning rfl ⟨0, 0, 0⟩ ⟨.rgb, 11 / 2, 8, video⟩ rfl _ buffer

/-- A depth frame has been handed out, and the video frame is the next, converted for the new
mode. -/
theorem playback_in_order_sample :
    let calls := sampleCalls (List.replicate frameBytes 3) (List.replicate videoBytes 0x80)
    let p := Mealy.run (Player.step false (recordingOf calls)) (.init true none) sampleClient
    PlaysInOrder ℚ false ⟨0, 0, 0⟩ (recordingOf calls) (dumps 0 calls)
        (List.replicate tiltStateSize 0) 1 p ∧
      ∀ buffer, ∃ frame, p.handOut ℚ false ⟨0, 0, 0⟩ ℚ (recordingOf calls) buffer =
        some ⟨.video, some 8, frame⟩ := by
  have hplays := playback_in_order ℚ false ⟨0, 0, 0⟩ true none
    (sampleCalls (List.replicate frameBytes 3) (List.replicate videoBytes 0x80)) sampleClient
    (ended_sampleClient _ _)
  exact ⟨hplays, handOut_sampleClient _ _ hplays⟩

end Freenect
