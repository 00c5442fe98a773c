import Freenect.Fakenect.Replay
import Mathlib.Algebra.Group.Int.Defs
import Mathlib.Data.List.TakeWhile

/-!
# Playing back any recording

The player's `freenect_process_events` takes a line of `INDEX.txt`, loads the file it names and
converts it as the current mode asks for. How much the conversion reads is decided by the mode, how
much there is by the file, and nothing compares the two: only an accelerometer record is checked for
its size, and a picture for its header. What is read out of the file indexes `raw_to_mm_shift`, and
the registration tables are used whether or not the recording has brought any.

Each call reports what it accesses, in the file it has loaded and in the tables (`PlayAccess`).
`playback_survives_iff` is the exact condition on each line, along any sequence of calls of the
client. The frame itself is in `Freenect.replayFrame`.

The proof goes from the inside out. The accesses of each conversion are a list over the pixels, and
that all of them are inside is a condition on every pixel (`allInside_flatMap`); summed up it is a
length, together with the values that index the table (`allInside_depth`, `allInside_video`). In
front of a conversion there is the scan for the end of the header, which stays inside the file if it
finds a newline or a zero byte there (`playFrame_allInside_iff`). A call does this for one line or
for none (`survivesLine_iff`), and the run is the call, along any sequence.

Only what a call reads is counted, and not what it writes: the buffers that pictures are converted
into are left out.
-/

namespace Freenect

/-! ### The player -/

/-- A mode as the client sets it: `freenect_set_depth_mode` and `freenect_set_video_mode` accept
anything. -/
structure PlayMode (φ : Type) where
  format : φ
  bytes : ℤ
  width : ℤ
  height : ℤ

/-- A recording: the text of `INDEX.txt`, and the file each of its lines names. -/
structure Recording where
  index : List UInt8
  files : List UInt8 → List UInt8
  /-- A name has no zero byte. One in `INDEX.txt` would end the C string of its line, and the name
  with it. -/
  names : (0 : UInt8) ∉ index

/-- What `freenect_process_events` uses of the player. The tables are those of `fake_dev`, unless it
has none. -/
structure Player where
  indexFp : Option (List UInt8)
  loopPlayback : Bool
  depthMode : PlayMode DepthFormat
  videoMode : PlayMode VideoFormat
  depthCb : Bool
  videoCb : Bool
  depthRunning : Bool
  rgbRunning : Bool
  tables : Option RegistrationTables
  state : List UInt8
  alreadyWarned : Bool
  /-- The process has ended in a call. -/
  ended : Bool

/-- What a call accesses. -/
inductive PlayAccess
  /-- A byte of the file, at an offset into `data`. -/
  | data (offset : ℕ)
  /-- A byte whose offset is not an `int`. -/
  | wild
  | rawToMmShift (index : ℕ)
  | depthToRgbShift (index : ℕ)
  | registrationTable (index : ℕ)
  deriving DecidableEq, Repr

/-- The two callbacks. -/
inductive PlayStream
  | depth
  | video
  deriving DecidableEq, Repr

/-- How a call ends. -/
inductive PlayResult
  | returned (res : ℤ)
  | exits
  | asserts
  /-- The scan for the header has left the file. -/
  | strays
  deriving DecidableEq, Repr

/-- A call: the size of what it has loaded, what it accesses, and the callback it makes. -/
structure PlayReport where
  result : PlayResult
  dataSize : ℕ
  accesses : List PlayAccess
  callback : Option PlayStream
  deriving DecidableEq, Repr

/-! ### A line of the index -/

/-- `one_line`, and what is left to read. An empty line is none. -/
def oneLine (index : List UInt8) : Option (List UInt8) × List UInt8 :=
  let line := index.takeWhile (· ≠ 0x0a)
  (if line = [] then none else some line, (index.dropWhile (· ≠ 0x0a)).drop 1)

/-- `get_data_size` and `fread`: the size is an `int`, and then unsigned. -/
def loadFile (file : List UInt8) : List UInt8 := file.take (file.length % 2 ^ 32)

/-- `parse_line`: the type of the line, which is its first character, and its file. Nothing is read
of an empty file, which is an error. -/
def parseLine (recording : Recording) (index : List UInt8) : Option (UInt8 × List UInt8) :=
  (oneLine index).1.bind fun line ↦
    if loadFile (recording.files line) = [] then none
    else some (line.headD 0, loadFile (recording.files line))

/-! ### The conversions

Each conversion is the list of its accesses, in the order of the source. `header` is the length of
what is in front of the picture; the frame itself does not matter here. -/

/-- The bytes in front of the first newline or zero byte, where the scan of `skip_line` ends. -/
def beforeEnd (data : List UInt8) : List UInt8 := data.takeWhile fun c ↦ c ≠ 0x0a ∧ c ≠ 0

/-- `mode.bytes`, as the length of a `memcpy`. -/
def copyLength {φ : Type} (mode : PlayMode φ) : ℕ := (mode.bytes % 2 ^ 64).toNat

/-- `memcpy` from behind the header. -/
def copyAccesses (header length : ℕ) : List PlayAccess :=
  (List.range length).map fun k ↦ .data (header + k)

/-- A depth pixel of the file, and its entry of `raw_to_mm_shift`. -/
def wordAccesses (big : Bool) (header : ℕ) (cur : List UInt8) (i : ℕ) : List PlayAccess :=
  [.data (header + 2 * i), .data (header + (2 * i + 1)),
    .rawToMmShift (hostWord big (fun k ↦ cur.getD k 0) i).toNat]

/-- The tables that `freenect_apply_registration` uses for a pixel with a depth. -/
def tableAccesses (big : Bool) (tables : Option RegistrationTables) (cur : List UInt8) (i : ℕ) :
    List PlayAccess :=
  match tables with
  | none => []
  | some t =>
    let metricDepth := t.rawToMmShift (hostWord big (fun k ↦ cur.getD k 0) i).toNat
    if metricDepth = depthNoMmValue ∨ depthMaxMetricValue ≤ metricDepth then []
    else [.registrationTable i, .depthToRgbShift metricDepth.toNat]

/-- The conversion of a depth frame; the formats the player does not know end in `assert(0)`. -/
def depthAccesses (big : Bool) (p : Player) (header : ℕ) (cur : List UInt8) :
    Option (List PlayAccess) :=
  match p.depthMode.format with
  | .d11Bit => some (copyAccesses header (copyLength p.depthMode))
  | .registered =>
    some ((List.range pixelCount).flatMap fun i ↦
      wordAccesses big header cur i ++ tableAccesses big p.tables cur i)
  | .mm => some ((List.range pixelCount).flatMap (wordAccesses big header cur))
  | .d10Bit | .d10BitPacked | .d11BitPacked | .dummy => none

/-- The three bytes of a pixel, which are addressed with an `int`. -/
def rgbAccesses (header pixel : ℕ) : List PlayAccess :=
  (List.range 3).map fun c ↦
    if 3 * pixel < 2 ^ 31 then .data (header + (3 * pixel + c)) else .wild

/-- `convert_rgb_to_uyvy`: two pixels at a time. -/
def uyvyAccesses (header : ℕ) (mode : PlayMode VideoFormat) : List PlayAccess :=
  (List.range mode.height.toNat).flatMap fun y ↦
    (List.range ((mode.width.toNat + 1) / 2)).flatMap fun j ↦
      let pos := y * mode.width.toNat + 2 * j
      rgbAccesses header pos ++ rgbAccesses header (pos + 1)

/-- The conversion of a video frame. -/
def videoAccesses (p : Player) (header : ℕ) (_ : List UInt8) : Option (List PlayAccess) :=
  match p.videoMode.format with
  | .rgb => some (copyAccesses header (copyLength p.videoMode))
  | .yuvRaw => some (uyvyAccesses header p.videoMode)
  | .bayer | .ir8Bit | .ir10Bit | .ir10BitPacked | .yuvRgb | .dummy => none

/-! ### A call -/

/-- The two arms for a picture: skip the header, convert, call back. -/
def playFrame (data : List UInt8) (stream : PlayStream)
    (convert : ℕ → List UInt8 → Option (List PlayAccess)) : PlayReport :=
  let scan := (List.range ((beforeEnd data).length + 1)).map .data
  match skipLine data with
  | none =>
    { result := if beforeEnd data = data then .strays else .exits
      dataSize := data.length
      accesses := scan
      callback := none }
  | some cur =>
    match convert (data.length - cur.length) cur with
    | none => { result := .asserts, dataSize := data.length, accesses := scan, callback := none }
    | some accesses =>
      { result := .returned 0
        dataSize := data.length
        accesses := scan ++ accesses
        callback := some stream }

/-- `sizeof state`. -/
def tiltStateSize : ℕ := 12

/-- A call that only returns. -/
def PlayReport.idle (res : ℤ) (dataSize : ℕ) : PlayReport where
  result := .returned res
  dataSize := dataSize
  accesses := []
  callback := none

/-- The arm for an accelerometer record, the only one that looks at the size. -/
def playTilt (p : Player) (data : List UInt8) : Player × PlayReport :=
  if data.length = tiltStateSize then
    ({ p with state := data },
      { PlayReport.idle 0 data.length with
        accesses := (List.range tiltStateSize).map .data })
  else ({ p with alreadyWarned := true }, .idle 0 data.length)

/-- What a call does with a line: nothing, for a type it does not know. -/
def playLine (big : Bool) (p : Player) (type : UInt8) (data : List UInt8) : Player × PlayReport :=
  if type = 0x64 then
    if p.depthCb ∧ p.depthRunning then (p, playFrame data .depth (depthAccesses big p))
    else (p, .idle 0 data.length)
  else if type = 0x72 then
    if p.videoCb ∧ p.rgbRunning then (p, playFrame data .video (videoAccesses p))
    else (p, .idle 0 data.length)
  else if type = 0x61 then playTilt p data
  else (p, .idle 0 data.length)

/-- What is left of the index; `open_index` starts it over. -/
def Player.remaining (recording : Recording) (p : Player) : List UInt8 :=
  p.indexFp.getD recording.index

/-- The call ends the process unless it returns. -/
def PlayResult.ends : PlayResult → Bool
  | .returned _ => false
  | _ => true

/-- The player's `freenect_process_events`. -/
def playEvents (big : Bool) (recording : Recording) (p : Player) : Player × PlayReport :=
  let rest := (oneLine (p.remaining recording)).2
  match parseLine recording (p.remaining recording) with
  | none =>
    if p.loopPlayback then ({ p with indexFp := none }, .idle 0 0)
    else ({ p with indexFp := some rest }, .idle (-1) 0)
  | some (type, data) =>
    let played := playLine big { p with indexFp := some rest } type data
    ({ played.1 with ended := played.2.result.ends }, played.2)

/-- What a client does with the player. -/
inductive PlayerCall
  | setDepthMode (mode : PlayMode DepthFormat)
  | setVideoMode (mode : PlayMode VideoFormat)
  | setDepthCallback (isSet : Bool)
  | setVideoCallback (isSet : Bool)
  | runDepth (running : Bool)
  | runVideo (running : Bool)
  | processEvents

/-- One call of the client, as long as the process is there. Only `freenect_process_events` has
something to report. -/
def Player.step (big : Bool) (recording : Recording) (p : Player) (call : PlayerCall) :
    Player × Option PlayReport :=
  if p.ended then (p, none)
  else
    match call with
    | .setDepthMode mode => ({ p with depthMode := mode }, none)
    | .setVideoMode mode => ({ p with videoMode := mode }, none)
    | .setDepthCallback isSet => ({ p with depthCb := isSet }, none)
    | .setVideoCallback isSet => ({ p with videoCb := isSet }, none)
    | .runDepth running => ({ p with depthRunning := running }, none)
    | .runVideo running => ({ p with rgbRunning := running }, none)
    | .processEvents => ((playEvents big recording p).1, some (playEvents big recording p).2)

/-! ### What a line must be like -/

/-- An access is to what has been loaded, to a table that has been allocated, and inside
`raw_to_mm_shift`. -/
def PlayAccess.Inside (size : ℕ) (allocated : Bool) : PlayAccess → Prop
  | .data offset => offset < size
  | .wild => False
  | .rawToMmShift index => allocated = true ∧ index < depthMaxRawValue
  | .depthToRgbShift _ | .registrationTable _ => allocated = true

/-- How many pixels `convert_rgb_to_uyvy` reads. A line of odd width ends with the first pixel of
the next one. -/
def uyvyPixels (width height : ℕ) : ℕ := if height = 0 then 0 else width * height + width % 2

/-- What a frame takes behind the header, in bytes; nothing for a format that is not known. -/
def Player.wanted (p : Player) : PlayStream → ℕ
  | .depth =>
    match p.depthMode.format with
    | .d11Bit => copyLength p.depthMode
    | .registered | .mm => frameBytes
    | .d10Bit | .d10BitPacked | .d11BitPacked | .dummy => 0
  | .video =>
    match p.videoMode.format with
    | .rgb => copyLength p.videoMode
    | .yuvRaw => 3 * uyvyPixels p.videoMode.width.toNat p.videoMode.height.toNat
    | .bayer | .ir8Bit | .ir10Bit | .ir10BitPacked | .yuvRgb | .dummy => 0

/-- A file without a header line, or with less behind it than a frame takes. -/
def Malformed (data : List UInt8) (wanted : ℕ) : Prop :=
  ∀ cur, skipLine data = some cur → cur.length < wanted

/-- A call reads nothing it has not loaded and uses no table it does not have, and hands out no
frame of a malformed file. -/
structure SurvivesLine (big : Bool) (recording : Recording) (p : Player) : Prop where
  inside : ∀ acc ∈ (playEvents big recording p).2.accesses,
    acc.Inside (playEvents big recording p).2.dataSize p.tables.isSome
  rejects : ∀ type data stream, parseLine recording (p.remaining recording) = some (type, data) →
    (playEvents big recording p).2.callback = some stream → ¬ Malformed data (p.wanted stream)

/-- What the depth modes ask of the bytes behind the header: for millimetres, a whole frame of raw
values that the table has entries for, and the table. -/
def DepthFits (big : Bool) (p : Player) (cur : List UInt8) : Prop :=
  match p.depthMode.format with
  | .d11Bit => copyLength p.depthMode ≤ cur.length
  | .registered | .mm =>
    frameBytes ≤ cur.length ∧ p.tables.isSome = true ∧
      ∀ i < pixelCount, (hostWord big (fun k ↦ cur.getD k 0) i).toNat < depthMaxRawValue
  | .d10Bit | .d10BitPacked | .d11BitPacked | .dummy => True

/-- What the video modes ask of the bytes behind the header. -/
def VideoFits (p : Player) (cur : List UInt8) : Prop :=
  match p.videoMode.format with
  | .rgb => copyLength p.videoMode ≤ cur.length
  | .yuvRaw =>
    ∀ pixel < uyvyPixels p.videoMode.width.toNat p.videoMode.height.toNat,
      3 * pixel < 2 ^ 31 ∧ 3 * pixel + 3 ≤ cur.length
  | .bayer | .ir8Bit | .ir10Bit | .ir10BitPacked | .yuvRgb | .dummy => True

/-- A picture: its first line ends, and what follows fits. A zero byte in front of the newline ends
the process, and that is an end of the line too. -/
def PictureFits (data : List UInt8) (Fits : List UInt8 → Prop) : Prop :=
  (0x0a ∈ data ∨ 0 ∈ data) ∧ ∀ cur, skipLine data = some cur → Fits cur

/-- The condition on a line with its file. -/
def TypeFits (big : Bool) (p : Player) (type : UInt8) (data : List UInt8) : Prop :=
  (type = 0x64 → p.depthCb = true → p.depthRunning = true →
      PictureFits data (DepthFits big p)) ∧
    (type = 0x72 → p.videoCb = true → p.rgbRunning = true → PictureFits data (VideoFits p))

/-- The condition on the next line of the index. -/
def LineFits (big : Bool) (recording : Recording) (p : Player) : Prop :=
  ∀ type data, parseLine recording (p.remaining recording) = some (type, data) →
    TypeFits big p type data

/-! ### The header -/

section Header

variable {data cur : List UInt8}

/-- What is behind the header. -/
theorem eq_append_of_skipLine (h : skipLine data = some cur) :
    data = beforeEnd data ++ 0x0a :: cur := by
  induction data with
  | nil => exact nomatch h
  | cons c rest ih =>
    rw [skipLine] at h
    split_ifs at h with hnewline hzero
    · obtain rfl := Option.some.inj h
      subst hnewline
      rfl
    · have htake : beforeEnd (c :: rest) = c :: beforeEnd rest :=
        List.takeWhile_cons_of_pos (by simp [hnewline, hzero])
      rw [htake, List.cons_append, ← ih h]

/-- A file is scanned as a whole if there is no end of a header in it. -/
theorem beforeEnd_eq_self_iff : beforeEnd data = data ↔ ¬ (0x0a ∈ data ∨ 0 ∈ data) := by
  rw [beforeEnd, List.takeWhile_eq_self_iff, not_or]
  constructor
  · intro h
    exact ⟨fun hmem ↦ by simpa using h _ hmem, fun hmem ↦ by simpa using h _ hmem⟩
  · rintro ⟨hnewline, hzero⟩ c hc
    have h₁ : c ≠ 0x0a := fun h ↦ hnewline (h ▸ hc)
    have h₂ : c ≠ 0 := fun h ↦ hzero (h ▸ hc)
    simp [h₁, h₂]

/-- The scan stays in the file exactly if it ends there. -/
theorem scan_lt_iff : (beforeEnd data).length < data.length ↔ 0x0a ∈ data ∨ 0 ∈ data := by
  rw [← not_iff_not, ← beforeEnd_eq_self_iff, Nat.not_lt]
  constructor
  · exact fun h ↦ List.IsPrefix.eq_of_length_le (List.takeWhile_prefix _) h
  · exact fun h ↦ (congrArg List.length h).ge

/-- The header, the byte that ends it, and what is behind it. -/
theorem length_header (h : skipLine data = some cur) :
    data.length = (beforeEnd data).length + 1 + cur.length := by
  conv_lhs => rw [eq_append_of_skipLine h]
  rw [List.length_append, List.length_cons, Nat.add_assoc, Nat.add_comm 1]

end Header

/-! ### Pictures

Whether the accesses of a conversion are inside is asked of lists that are put together from parts:
of one pixel after the other, of several tables for a pixel. The first lemmas take them apart again.
-/

section Pictures

variable {data cur : List UInt8} {stream : PlayStream} {allocated : Bool} {n : ℕ}
  {convert : ℕ → List UInt8 → Option (List PlayAccess)} {Fits : List UInt8 → Prop}

/-- A list of accesses that are all inside. -/
def AllInside (size : ℕ) (allocated : Bool) (accesses : List PlayAccess) : Prop :=
  ∀ acc ∈ accesses, acc.Inside size allocated

/-- No access is outside. -/
theorem allInside_nil {size : ℕ} : AllInside size allocated [] :=
  fun _ hacc ↦ absurd hacc List.not_mem_nil

/-- Two parts. -/
theorem allInside_append {size : ℕ} {as bs : List PlayAccess} :
    AllInside size allocated (as ++ bs) ↔
      AllInside size allocated as ∧ AllInside size allocated bs :=
  List.forall_mem_append

/-- One part for each pixel. -/
theorem allInside_flatMap {size : ℕ} {f : ℕ → List PlayAccess} :
    AllInside size allocated ((List.range n).flatMap f) ↔
      ∀ i < n, AllInside size allocated (f i) := by
  constructor
  · exact fun h i hi acc hacc ↦
      h acc (List.mem_flatMap.2 ⟨i, List.mem_range.2 hi, hacc⟩)
  · intro h acc hacc
    obtain ⟨i, hi, hacc⟩ := List.mem_flatMap.1 hacc
    exact h i (List.mem_range.1 hi) acc hacc

/-- Bytes that follow each other. -/
theorem allInside_range {size k : ℕ} :
    AllInside size allocated ((List.range n).map fun i ↦ .data (k + i)) ↔
      n = 0 ∨ k + n ≤ size := by
  constructor
  · intro h
    by_contra hno
    have hlast : k + (n - 1) < size :=
      h _ (List.mem_map.2 ⟨n - 1, List.mem_range.2 (by omega), rfl⟩)
    omega
  · intro h acc hacc
    obtain ⟨i, hi, rfl⟩ := List.mem_map.1 hacc
    have hi := List.mem_range.1 hi
    show k + i < size
    omega

/-- Bytes from the beginning of the file on. -/
theorem allInside_first {size : ℕ} :
    AllInside size allocated ((List.range n).map .data) ↔ n ≤ size := by
  have hrange : AllInside size allocated ((List.range n).map fun i ↦ .data (0 + i)) ↔ _ :=
    allInside_range
  simp only [Nat.zero_add] at hrange
  rw [hrange]
  omega

/-- What is read of a picture: its header, and what the conversion reads. -/
theorem accesses_playFrame (hskip : skipLine data = some cur) :
    (playFrame data stream convert).accesses =
      (List.range ((beforeEnd data).length + 1)).map .data ++
        (convert (data.length - cur.length) cur).getD [] := by
  rw [playFrame]
  rw [hskip]
  dsimp only
  cases convert (data.length - cur.length) cur with
  | none => exact (List.append_nil _).symm
  | some accesses => rfl

/-- Without a header nothing is converted, but the file is scanned. -/
theorem accesses_playFrame_of_none (hskip : skipLine data = none) :
    (playFrame data stream convert).accesses =
      (List.range ((beforeEnd data).length + 1)).map .data := by
  rw [playFrame]
  rw [hskip]

/-- **A picture is converted inside its file** exactly if its first line ends there and the rest
fits, where fitting means that the conversion stays inside. -/
theorem playFrame_allInside_iff
    (hfits : ∀ header cur,
      AllInside (header + cur.length) allocated ((convert header cur).getD []) ↔ Fits cur) :
    AllInside data.length allocated (playFrame data stream convert).accesses ↔
      PictureFits data Fits := by
  have hscan : AllInside data.length allocated
      ((List.range ((beforeEnd data).length + 1)).map .data) ↔ 0x0a ∈ data ∨ 0 ∈ data := by
    rw [allInside_first, ← scan_lt_iff]
    exact Nat.succ_le_iff
  rw [PictureFits]
  cases hskip : skipLine data with
  | none =>
    rw [accesses_playFrame_of_none hskip]
    exact hscan.trans (and_iff_left fun cur hcur ↦ nomatch hcur).symm
  | some cur =>
    have hone : (∀ cur', some cur = some cur' → Fits cur') ↔ Fits cur :=
      ⟨fun h ↦ h cur rfl, fun h cur' hcur' ↦ Option.some.inj hcur' ▸ h⟩
    have hlength : data.length = data.length - cur.length + cur.length := by
      have := length_header hskip
      omega
    have hrest := hfits (data.length - cur.length) cur
    rw [← hlength] at hrest
    rw [accesses_playFrame hskip, allInside_append, hscan, hrest, hone]

/-- A callback is made after a conversion, behind a header. -/
theorem playFrame_callback {stream' : PlayStream}
    (h : (playFrame data stream convert).callback = some stream') :
    stream' = stream ∧ ∃ cur accesses, skipLine data = some cur ∧
      convert (data.length - cur.length) cur = some accesses := by
  rw [playFrame] at h
  cases hskip : skipLine data with
  | none => simp [hskip] at h
  | some cur =>
    cases hconvert : convert (data.length - cur.length) cur with
    | none => simp [hskip, hconvert] at h
    | some accesses =>
      simp only [hskip, hconvert] at h
      exact ⟨(Option.some.inj h).symm, cur, accesses, rfl, hconvert⟩

end Pictures

/-! ### The conversions stay inside -/

section Conversions

variable {data cur : List UInt8} {p : Player} {big : Bool} {header : ℕ} {allocated : Bool}

/-- A copy needs as many bytes as it copies. -/
theorem allInside_copy {n : ℕ} :
    AllInside (header + cur.length) allocated (copyAccesses header n) ↔ n ≤ cur.length := by
  rw [copyAccesses, allInside_range]
  omega

/-- A raw value needs its two bytes, and an entry of the table. -/
theorem allInside_word {i : ℕ} :
    AllInside (header + cur.length) allocated (wordAccesses big header cur i) ↔
      2 * i + 2 ≤ cur.length ∧ allocated = true ∧
        (hostWord big (fun k ↦ cur.getD k 0) i).toNat < depthMaxRawValue := by
  rw [AllInside, wordAccesses, List.forall_mem_cons, List.forall_mem_cons,
    List.forall_mem_singleton]
  show header + 2 * i < header + cur.length ∧ header + (2 * i + 1) < header + cur.length ∧ _ ↔ _
  rw [← and_assoc]
  refine and_congr ?_ Iff.rfl
  omega

/-- The tables of the registration are allocated together. -/
theorem allInside_tables {size i : ℕ} (tables : Option RegistrationTables) (cur : List UInt8) :
    AllInside size tables.isSome (tableAccesses big tables cur i) := by
  simp only [tableAccesses]
  cases tables with
  | none => exact allInside_nil
  | some t =>
    dsimp only
    split
    · exact allInside_nil
    · exact List.forall_mem_cons.2 ⟨rfl, List.forall_mem_singleton.2 rfl⟩

/-- A frame of raw values. -/
theorem allInside_words :
    (∀ i < pixelCount, AllInside (header + cur.length) allocated (wordAccesses big header cur i)) ↔
      frameBytes ≤ cur.length ∧ allocated = true ∧
        ∀ i < pixelCount,
          (hostWord big (fun k ↦ cur.getD k 0) i).toNat < depthMaxRawValue := by
  simp only [allInside_word]
  constructor
  · intro h
    have hlast := (h (pixelCount - 1) (by decide)).1
    refine ⟨?_, (h 0 (by decide)).2.1, fun i hi ↦ (h i hi).2.2⟩
    exact le_trans (by decide) hlast
  · rintro ⟨hbytes, hallocated, hraw⟩ i hi
    refine ⟨?_, hallocated, hraw i hi⟩
    have hframe : frameBytes = 2 * pixelCount := rfl
    omega

/-- **A depth frame is converted inside its file** exactly if it fits. -/
theorem allInside_depth :
    AllInside (header + cur.length) p.tables.isSome ((depthAccesses big p header cur).getD []) ↔
      DepthFits big p cur := by
  rw [depthAccesses, DepthFits]
  split
  · exact allInside_copy
  · rw [Option.getD_some, allInside_flatMap, ← allInside_words]
    exact forall₂_congr fun i _ ↦
      allInside_append.trans (and_iff_left (allInside_tables p.tables cur))
  · rw [Option.getD_some, allInside_flatMap]
    exact allInside_words
  all_goals exact iff_of_true allInside_nil trivial

/-- A pixel needs its three bytes, at an offset that an `int` holds. -/
theorem allInside_rgb {pixel : ℕ} :
    AllInside (header + cur.length) allocated (rgbAccesses header pixel) ↔
      3 * pixel < 2 ^ 31 ∧ 3 * pixel + 3 ≤ cur.length := by
  rw [rgbAccesses]
  by_cases hint : 3 * pixel < 2 ^ 31
  · simp only [if_pos hint, ← Nat.add_assoc]
    rw [allInside_range]
    omega
  · simp only [if_neg hint]
    refine iff_of_false (fun h ↦ ?_) fun h ↦ hint h.1
    exact h .wild (List.mem_map.2 ⟨0, by decide, rfl⟩)

/-- The pixels that `convert_rgb_to_uyvy` reads, two by two, are the first ones of the image. -/
theorem forall_pairs_iff (P : ℕ → Prop) (width height : ℕ) :
    (∀ y < height, ∀ j < (width + 1) / 2, P (y * width + 2 * j) ∧ P (y * width + 2 * j + 1)) ↔
      ∀ pixel < uyvyPixels width height, P pixel := by
  rw [uyvyPixels]
  constructor
  · intro h pixel hpixel
    split at hpixel
    · omega
    -- a pixel of the image is in the pair of its row and of half its column
    by_cases hlast : pixel < width * height
    · have hwidth : 0 < width := Nat.pos_of_mul_pos_right (Nat.zero_lt_of_lt hlast)
      have hy : pixel / width < height := (Nat.div_lt_iff_lt_mul hwidth).2 (by rwa [Nat.mul_comm])
      have hx := Nat.mod_lt pixel hwidth
      have hsum := Nat.div_add_mod' pixel width
      obtain ⟨hfirst, hsecond⟩ := h (pixel / width) hy (pixel % width / 2) (by omega)
      rcases Nat.mod_two_eq_zero_or_one (pixel % width) with heven | hodd
      · rwa [show pixel / width * width + 2 * (pixel % width / 2) = pixel by omega] at hfirst
      · rwa [show pixel / width * width + 2 * (pixel % width / 2) + 1 = pixel by omega] at hsecond
    · -- the pixel behind the image, beside the last one of an odd line
      have hpred : (height - 1) * width + width = width * height := by
        rw [← Nat.succ_mul, Nat.mul_comm]
        congr 1
        omega
      have hsecond := (h (height - 1) (by omega) ((width + 1) / 2 - 1) (by omega)).2
      rwa [show (height - 1) * width + 2 * ((width + 1) / 2 - 1) + 1 = pixel by omega] at hsecond
  · intro h y hy j hj
    have hline : y * width + width ≤ width * height := by
      rw [← Nat.succ_mul, Nat.mul_comm]
      exact Nat.mul_le_mul_left width hy
    rw [if_neg (by omega)] at h
    exact ⟨h _ (by omega), h _ (by omega)⟩

/-- The same for all pixels that `convert_rgb_to_uyvy` reads. -/
theorem allInside_uyvy {mode : PlayMode VideoFormat} :
    AllInside (header + cur.length) allocated (uyvyAccesses header mode) ↔
      ∀ pixel < uyvyPixels mode.width.toNat mode.height.toNat,
        3 * pixel < 2 ^ 31 ∧ 3 * pixel + 3 ≤ cur.length := by
  rw [uyvyAccesses, allInside_flatMap, ← forall_pairs_iff]
  simp only [allInside_flatMap, allInside_append, allInside_rgb]

/-- **A video frame is converted inside its file** exactly if it fits. -/
theorem allInside_video :
    AllInside (header + cur.length) allocated ((videoAccesses p header cur).getD []) ↔
      VideoFits p cur := by
  rw [videoAccesses, VideoFits]
  split
  · exact allInside_copy
  · exact allInside_uyvy
  all_goals exact iff_of_true allInside_nil trivial

/-- A depth frame that fits is as long as a frame takes. -/
theorem DepthFits.wanted_le (h : DepthFits big p cur) : p.wanted .depth ≤ cur.length := by
  rw [DepthFits] at h
  rw [Player.wanted]
  cases hformat : p.depthMode.format <;> rw [hformat] at h
  case d11Bit => exact h
  case registered => exact h.1
  case mm => exact h.1
  all_goals exact Nat.zero_le _

theorem VideoFits.wanted_le (h : VideoFits p cur) : p.wanted .video ≤ cur.length := by
  rw [VideoFits] at h
  rw [Player.wanted]
  cases hformat : p.videoMode.format <;> rw [hformat] at h
  case rgb => exact h
  case yuvRaw =>
    show 3 * uyvyPixels p.videoMode.width.toNat p.videoMode.height.toNat ≤ cur.length
    by_contra hlt
    have hlast := (h (uyvyPixels p.videoMode.width.toNat p.videoMode.height.toNat - 1)
      (by omega)).2
    omega
  all_goals exact Nat.zero_le _

end Conversions

/-! ### Whole calls -/

section Calls

variable {big : Bool} {recording : Recording} {p : Player} {type : UInt8} {data : List UInt8}
  {stream : PlayStream}

/-- The size of a picture is that of its file. -/
theorem dataSize_playFrame (convert : ℕ → List UInt8 → Option (List PlayAccess)) :
    (playFrame data stream convert).dataSize = data.length := by
  rw [playFrame]
  cases skipLine data with
  | none => rfl
  | some cur =>
    dsimp only
    cases convert (data.length - cur.length) cur <;> rfl

/-- A file in the arm for depth. -/
theorem playDepth_iff :
    AllInside data.length p.tables.isSome (playFrame data stream (depthAccesses big p)).accesses ↔
      PictureFits data (DepthFits big p) :=
  playFrame_allInside_iff fun _ _ ↦ allInside_depth

/-- A file in the arm for video. -/
theorem playVideo_iff {allocated : Bool} :
    AllInside data.length allocated (playFrame data stream (videoAccesses p)).accesses ↔
      PictureFits data (VideoFits p) :=
  playFrame_allInside_iff fun _ _ ↦ allInside_video

/-- Whatever the type is, a call reports the size of what it has loaded. -/
theorem dataSize_playLine : (playLine big p type data).2.dataSize = data.length := by
  rw [playLine, playTilt]
  split_ifs <;> first | exact dataSize_playFrame _ | rfl

/-- **A line is played inside its file** exactly if it fits: only a picture can be at fault. -/
theorem playLine_allInside_iff :
    AllInside data.length p.tables.isSome (playLine big p type data).2.accesses ↔
      TypeFits big p type data := by
  rw [playLine]
  -- the arms for depth and for video, each with a callback or without, then the record and the rest
  split_ifs with hdepth hrun hvideo hrun htilt
  · subst hdepth
    rw [playDepth_iff]
    exact ⟨fun h ↦ ⟨fun _ _ _ ↦ h, fun h' ↦ absurd h' (by decide)⟩,
      fun h ↦ h.1 rfl hrun.1 hrun.2⟩
  · subst hdepth
    exact iff_of_true allInside_nil
      ⟨fun _ hcb hrunning ↦ absurd ⟨hcb, hrunning⟩ hrun, fun h' ↦ absurd h' (by decide)⟩
  · rw [playVideo_iff]
    exact ⟨fun h ↦ ⟨fun h' ↦ absurd h' hdepth, fun _ _ _ ↦ h⟩,
      fun h ↦ h.2 hvideo hrun.1 hrun.2⟩
  · exact iff_of_true allInside_nil
      ⟨fun h' ↦ absurd h' hdepth, fun _ hcb hrunning ↦ absurd ⟨hcb, hrunning⟩ hrun⟩
  · refine iff_of_true ?_ ⟨fun h' ↦ absurd h' hdepth, fun h' ↦ absurd h' hvideo⟩
    rw [playTilt]
    split
    next hsize => exact allInside_first.2 hsize.ge
    next => exact allInside_nil
  · exact iff_of_true allInside_nil ⟨fun h' ↦ absurd h' hdepth, fun h' ↦ absurd h' hvideo⟩

/-- A frame that is handed out is not one of a malformed file, if the conversion stays inside. -/
theorem not_malformed_of_callback (hcall : (playLine big p type data).2.callback = some stream)
    (hinside : AllInside data.length p.tables.isSome (playLine big p type data).2.accesses) :
    ¬ Malformed data (p.wanted stream) := by
  rw [playLine] at hcall hinside
  split_ifs at hcall hinside
  · obtain ⟨rfl, cur, -, hskip, -⟩ := playFrame_callback hcall
    have hfits := (playDepth_iff.1 hinside).2 cur hskip
    exact fun h ↦ Nat.not_lt.2 hfits.wanted_le (h cur hskip)
  · exact nomatch hcall
  · obtain ⟨rfl, cur, -, hskip, -⟩ := playFrame_callback hcall
    have hfits := (playVideo_iff.1 hinside).2 cur hskip
    exact fun h ↦ Nat.not_lt.2 hfits.wanted_le (h cur hskip)
  · exact nomatch hcall
  · rw [playTilt] at hcall
    split at hcall
    · exact nomatch hcall
    · exact nomatch hcall
  · exact nomatch hcall

/-- What a call reports is what its line does. -/
theorem playEvents_report
    (hparse : parseLine recording (p.remaining recording) = some (type, data)) :
    (playEvents big recording p).2 = (playLine big p type data).2 := by
  rw [playEvents]
  rw [hparse]
  unfold playLine playTilt
  dsimp only
  split_ifs <;> rfl

/-- Without a line nothing is accessed. -/
theorem playEvents_report_of_none (hparse : parseLine recording (p.remaining recording) = none) :
    (playEvents big recording p).2.accesses = [] := by
  rw [playEvents]
  rw [hparse]
  dsimp only
  split
  · rfl
  · rfl

/-- **A call survives exactly if its line fits.** -/
theorem survivesLine_iff : SurvivesLine big recording p ↔ LineFits big recording p := by
  cases hparse : parseLine recording (p.remaining recording) with
  | none =>
    refine iff_of_true ⟨?_, ?_⟩ ?_
    · rw [playEvents_report_of_none hparse]
      exact allInside_nil
    · intro type data stream hline
      exact nomatch hparse.symm.trans hline
    · intro type data hline
      exact nomatch hparse.symm.trans hline
  | some line =>
    obtain ⟨type, data⟩ := line
    -- the line is there, so both sides are about its file
    have hline : LineFits big recording p ↔ TypeFits big p type data := by
      constructor
      · exact fun h ↦ h type data hparse
      · intro h type' data' hline
        obtain ⟨rfl, rfl⟩ := Prod.mk.inj (Option.some.inj (hparse.symm.trans hline))
        exact h
    rw [hline, ← playLine_allInside_iff]
    constructor
    · intro h
      have hinside := h.inside
      rw [playEvents_report hparse, dataSize_playLine] at hinside
      exact hinside
    · intro hinside
      refine ⟨?_, fun type' data' stream hline hcall ↦ ?_⟩
      · rw [playEvents_report hparse, dataSize_playLine]
        exact hinside
      · obtain ⟨rfl, rfl⟩ := Prod.mk.inj (Option.some.inj (hparse.symm.trans hline))
        rw [playEvents_report hparse] at hcall
        exact not_malformed_of_callback hcall hinside

end Calls

/-! ### Runs -/

/-- The next call of a run survives. -/
def SurvivesCall (big : Bool) (recording : Recording) (p : Player) (call : PlayerCall) : Prop :=
  call = .processEvents → p.ended = false → SurvivesLine big recording p

/-- The next call of a run finds a line that fits. -/
def CallFits (big : Bool) (recording : Recording) (p : Player) (call : PlayerCall) : Prop :=
  call = .processEvents → p.ended = false → LineFits big recording p

/-- **When playback survives**: every call of a run stays inside its file and its tables, and hands
out no frame of a malformed file, exactly if each line fits the modes it is played in. -/
theorem playback_survives_iff (big : Bool) (recording : Recording) (p : Player)
    (calls : List PlayerCall) :
    Mealy.Along (Player.step big recording) (SurvivesCall big recording) p calls ↔
      Mealy.Along (Player.step big recording) (CallFits big recording) p calls :=
  Mealy.Along.congr (I := fun _ ↦ True)
    (fun _ _ _ ↦ forall₂_congr fun _ _ ↦ survivesLine_iff) (fun _ _ _ _ ↦ trivial) trivial calls

/-- The player after `freenect_init`. -/
def Player.init (loopPlayback : Bool) (tables : Option RegistrationTables) : Player where
  indexFp := none
  loopPlayback := loopPlayback
  depthMode := { format := .d11Bit, bytes := 640 * 480 * 2, width := 640, height := 480 }
  videoMode := { format := .rgb, bytes := 640 * 480 * 3, width := 640, height := 480 }
  depthCb := false
  videoCb := false
  depthRunning := false
  rgbRunning := false
  tables := tables
  state := List.replicate tiltStateSize 0
  alreadyWarned := false
  ended := false

/-- A recording of one depth file, which ends behind its header. -/
def emptyFrame : Recording where
  index := [0x64, 0x0a]
  files _ := [0x0a]
  names := by decide

/-- The frame that is not there is copied. -/
theorem playback_not_survives :
    ¬ Mealy.Along (Player.step false emptyFrame) (SurvivesCall false emptyFrame) (.init true none)
      [.setDepthCallback true, .runDepth true, .processEvents] := by
  rintro ⟨-, -, hsurvives, -⟩
  have hfits := survivesLine_iff.1 (hsurvives rfl rfl)
  have hpicture := (hfits 0x64 [0x0a] (by decide)).1 rfl rfl rfl
  have hlength : 640 * 480 * 2 ≤ 0 := hpicture.2 [] rfl
  exact absurd hlength (by decide)

end Freenect
