import Freenect.Library.Runs
import Mathlib.Algebra.Group.Nat.Defs
import Mathlib.Data.List.Chain
import Mathlib.Data.List.Range
import Mathlib.Data.List.ReduceOption

/-!
# Frames of an OpenNI stream

`VideoStream::buildFrame`, to which the callbacks of the driver pass every frame, with its timestamp
of a 60 MHz clock. The timestamp has 32 bits and overflows every 72 seconds; `buildFrame` keeps the
time of the last frame in 64 bits, and finds the new one in one of two ways. A timestamp that is not
smaller is taken as it is. From a smaller one the last timestamp is subtracted in 32 bits, and the
difference added in 64: after the first overflow every timestamp is smaller, so that is what happens
from then on.

The invariant is that the 64 bits hold the true time (`unwrap_ofNat`), as far as they go: that is
`2 ^ 64` ticks, nearly ten thousand years.

What the driver gets is the last 32 bits of a clock that goes on, so a frame comes here with the
true value of the clock, and `step` cuts it off. Between two frames the clock is assumed to stay
below one overflow (`Ticks`); without that the 32 bits could not tell. `timestamps_exact` is about
all frames that a stream raises from its construction on, whatever is set, started and stopped in
between, and `timestamps_not_exact` is a run in which `2 ^ 64` is reached.
-/

namespace Freenect

/-! ### Streams and frames -/

/-- `OniVideoMode`. The pixel format is an enumeration, which the constructor of a stream sets to 0,
none of its values. -/
structure OniVideoMode where
  pixelFormat : Int32
  resolutionX : Int32
  resolutionY : Int32
  fps : Int32
  deriving DecidableEq

/-- `OniCropping`. -/
structure OniCropping where
  enabled : Bool
  originX : Int32
  originY : Int32
  width : Int32
  height : Int32

/-- The part of an `OniFrame` that is left to `populateFrame`. -/
structure FrameContents where
  dataSize : Int32
  data : ℕ → UInt8
  width : Int32
  height : Int32
  croppingEnabled : Bool
  cropOriginX : Int32
  cropOriginY : Int32
  stride : Int32

/-- `OniFrame`. -/
structure OniFrame extends FrameContents where
  timestamp : UInt64
  frameIndex : Int32
  videoMode : OniVideoMode

/-- `VideoStream`. -/
structure VideoStream where
  frameId : UInt32
  prevTimestamp : UInt64
  running : Bool
  videoMode : OniVideoMode
  cropping : OniCropping
  mirroring : Bool

/-- The constructor. -/
def VideoStream.new : VideoStream where
  frameId := 1
  prevTimestamp := 0
  running := false
  videoMode := ⟨0, 0, 0, 0⟩
  cropping := ⟨false, 0, 0, 0, 0⟩
  mirroring := false

/-- The time of a frame, from the time of the one before and a timestamp that may have overflowed
since. -/
def unwrapTimestamp (prevTimestamp : UInt64) (timestamp : UInt32) : UInt64 :=
  if timestamp.toUInt64 < prevTimestamp then
    let prevInt := prevTimestamp.toUInt32
    prevTimestamp + (timestamp - prevInt).toUInt64
  else timestamp.toUInt64

/-- What a stream does with the data it gets to fill in the frame it acquired. -/
abbrev PopulateFrame (Data : Type) := VideoStream → Data → FrameContents → FrameContents

/-- `VideoStream::buildFrame`, with the frame that it raises. -/
def VideoStream.buildFrame {Data : Type} (populateFrame : PopulateFrame Data) (s : VideoStream)
    (acquired : OniFrame) (data : Data) (timestamp : UInt32) : VideoStream × Option OniFrame :=
  if s.running = false then (s, none)
  else
    let contents :=
      { acquired.toFrameContents with
        width := s.videoMode.resolutionX
        height := s.videoMode.resolutionY }
    let s' :=
      { s with
        frameId := s.frameId + 1
        prevTimestamp := unwrapTimestamp s.prevTimestamp timestamp }
    (s', some
      { populateFrame s' data contents with
        frameIndex := s.frameId.toInt32
        videoMode := s.videoMode
        -- OpenNI wants the value in microseconds
        timestamp := s'.prevTimestamp / 60 })

/-- What happens to a stream. A frame comes with the true value of the clock. -/
inductive StreamEvent (Data : Type)
  | start
  | stop
  | setVideoMode (mode : OniVideoMode)
  | setCropping (cropping : OniCropping)
  | setMirroring (mirroring : Bool)
  | frame (acquired : OniFrame) (data : Data) (clock : ℕ)

/-- One event; the frame has the last 32 bits of the clock. -/
def VideoStream.step {Data : Type} (populateFrame : PopulateFrame Data) (s : VideoStream) :
    StreamEvent Data → VideoStream × Option OniFrame
  | .start => ({ s with running := true }, none)
  | .stop => ({ s with running := false }, none)
  | .setVideoMode mode => ({ s with videoMode := mode }, none)
  | .setCropping cropping => ({ s with cropping := cropping }, none)
  | .setMirroring mirroring => ({ s with mirroring := mirroring }, none)
  | .frame acquired data clock =>
    s.buildFrame populateFrame acquired data (UInt32.ofNat clock)

section Frames

variable {Data : Type} (populateFrame : PopulateFrame Data)

/-- The frames that a stream raises. -/
def VideoStream.frames (s : VideoStream) (events : List (StreamEvent Data)) : List OniFrame :=
  (Mealy.trace (VideoStream.step populateFrame) s events).reduceOption

/-- The values of the clock for the frames that come while the stream is running. -/
def clocks : Bool → List (StreamEvent Data) → List ℕ
  | _, [] => []
  | _, .start :: events => clocks true events
  | _, .stop :: events => clocks false events
  | running, .frame _ _ clock :: events =>
    if running = true then clock :: clocks running events else clocks running events
  | running, .setVideoMode _ :: events => clocks running events
  | running, .setCropping _ :: events => clocks running events
  | running, .setMirroring _ :: events => clocks running events

/-- Between two frames the clock does not go back, and goes ahead less than an overflow. -/
def Ticks (clock clock' : ℕ) : Prop := clock ≤ clock' ∧ clock' - clock < 2 ^ 32

end Frames

/-! ### One frame -/

/-- **The time of the last frame is the true one**, modulo `2 ^ 64`. -/
theorem unwrapTimestamp_ofNat {t t' : ℕ} (h : Ticks t t') :
    unwrapTimestamp (UInt64.ofNat t) (UInt32.ofNat t') = UInt64.ofNat t' := by
  obtain ⟨hle, hdelta⟩ := h
  rw [← UInt64.toNat_inj, unwrapTimestamp]
  split
  next hlt =>
    -- the 32-bit difference is that of the true times
    simp only [UInt64.toNat_add, UInt32.toNat_toUInt64, UInt32.toNat_sub, UInt64.toNat_toUInt32,
      UInt64.toNat_ofNat', UInt32.toNat_ofNat']
    omega
  next hge =>
    -- no overflow since the last frame, and none before it
    simp only [UInt64.lt_iff_toNat_lt, UInt32.toNat_toUInt64, UInt64.toNat_ofNat',
      UInt32.toNat_ofNat'] at hge ⊢
    omega

/-! ### All frames -/

section Run

variable {Data : Type} {populateFrame : PopulateFrame Data} {s : VideoStream} {t : ℕ}
  {events : List (StreamEvent Data)}

/-- A frame that comes while the stream is not running is dropped. -/
theorem buildFrame_of_not_running {acquired : OniFrame} {data : Data} {timestamp : UInt32}
    (h : s.running = false) :
    s.buildFrame populateFrame acquired data timestamp = (s, none) :=
  if_pos h

/-- A frame that comes while the stream is running gets the true time. -/
theorem buildFrame_of_running {t' : ℕ} (acquired : OniFrame) (data : Data)
    (h : s.running = true) (hprev : s.prevTimestamp = UInt64.ofNat t) (hticks : Ticks t t') :
    ∃ s' frame, s.buildFrame populateFrame acquired data (UInt32.ofNat t') = (s', some frame) ∧
      s'.running = true ∧ s'.prevTimestamp = UInt64.ofNat t' ∧
      frame.timestamp = UInt64.ofNat t' / 60 := by
  rw [VideoStream.buildFrame, if_neg (by simp [h]), hprev, unwrapTimestamp_ofNat hticks]
  exact ⟨_, _, rfl, h, rfl, rfl⟩

/-- The timestamps of a run are the true times modulo `2 ^ 64`, in microseconds. -/
theorem timestamps_frames (populateFrame : PopulateFrame Data)
    (hprev : s.prevTimestamp = UInt64.ofNat t)
    (hclock : (t :: clocks s.running events).IsChain Ticks) :
    (s.frames populateFrame events).map (·.timestamp) =
      (clocks s.running events).map fun t ↦ UInt64.ofNat t / 60 := by
  induction events generalizing s t with
  | nil => rfl
  | cons e events ih =>
    -- only a frame touches the timestamp, and only while the stream is running
    cases e with
    | start => exact ih (s := { s with running := true }) hprev hclock
    | stop => exact ih (s := { s with running := false }) hprev hclock
    | setVideoMode mode => exact ih (s := { s with videoMode := mode }) hprev hclock
    | setCropping cropping => exact ih (s := { s with cropping := cropping }) hprev hclock
    | setMirroring mirroring => exact ih (s := { s with mirroring := mirroring }) hprev hclock
    | frame acquired data t' =>
      cases hrunning : s.running with
      | false =>
        have hstep : VideoStream.step populateFrame s (.frame acquired data t') = (s, none) :=
          buildFrame_of_not_running hrunning
        rw [VideoStream.frames, Mealy.trace_cons, hstep, List.reduceOption_cons_of_none, clocks,
          if_neg Bool.false_ne_true, ← hrunning]
        refine ih hprev ?_
        rwa [hrunning] at hclock ⊢
      | true =>
        rw [hrunning, clocks, if_pos rfl, List.isChain_cons_cons] at hclock
        obtain ⟨s', frame, hbuild, hrunning', hprev', htimestamp⟩ :=
          buildFrame_of_running acquired data hrunning hprev hclock.1
        have hstep : VideoStream.step populateFrame s (.frame acquired data t') =
          (s', some frame) := hbuild
        rw [VideoStream.frames, Mealy.trace_cons, hstep, List.reduceOption_cons_of_some, clocks,
          if_pos rfl, List.map_cons, List.map_cons, htimestamp, ← hrunning']
        refine congrArg _ (ih hprev' ?_)
        rw [hrunning']
        exact hclock.2

/-- Along the run the clock does not go back. -/
theorem pairwise_of_isChain_ticks {ts : List ℕ} (h : ts.IsChain Ticks) : ts.Pairwise (· ≤ ·) :=
  List.isChain_iff_pairwise.1 (h.imp fun _ _ hticks ↦ hticks.1)

end Run

/-- **Timestamp unwrapping is exact** while the clock fits 64 bits: whatever happens to a new
stream, the `i`-th frame it raises has the `i`-th value of the clock, in microseconds; in particular
timestamps never decrease. -/
theorem timestamps_exact {Data : Type} (populateFrame : PopulateFrame Data)
    (events : List (StreamEvent Data)) (hclock : (0 :: clocks false events).IsChain Ticks)
    (hfits : ∀ t ∈ clocks false events, t < 2 ^ 64) :
    let timestamps := (VideoStream.new.frames populateFrame events).map (·.timestamp.toNat)
    timestamps = (clocks false events).map (· / 60) ∧ timestamps.Pairwise (· ≤ ·) := by
  have hexact : (VideoStream.new.frames populateFrame events).map (·.timestamp.toNat) =
      (clocks false events).map (· / 60) := by
    have hframes := timestamps_frames populateFrame (s := .new) rfl hclock
    have hnat := congrArg (List.map UInt64.toNat) hframes
    rw [List.map_map, List.map_map] at hnat
    refine hnat.trans (List.map_congr_left fun t ht ↦ ?_)
    show (UInt64.ofNat t / 60).toNat = t / 60
    rw [UInt64.toNat_div, UInt64.toNat_ofNat', Nat.mod_eq_of_lt (hfits t ht)]
    rfl
  refine ⟨hexact, ?_⟩
  rw [hexact, List.pairwise_map]
  exact (pairwise_of_isChain_ticks hclock).of_cons.imp fun hle ↦ Nat.div_le_div_right hle

/-- A stream that copies nothing. -/
def emptyFrames : PopulateFrame Unit := fun _ _ contents ↦ contents

/-- A frame as it is acquired. -/
def acquiredFrame : OniFrame where
  dataSize := 0
  data _ := 0
  width := 0
  height := 0
  croppingEnabled := false
  cropOriginX := 0
  cropOriginY := 0
  stride := 0
  timestamp := 0
  frameIndex := 0
  videoMode := ⟨0, 0, 0, 0⟩

/-- Two frames with an overflow between them. -/
theorem timestamps_exact_overflow :
    (VideoStream.new.frames emptyFrames
      [.start, .frame acquiredFrame () 600, .frame acquiredFrame () (2 ^ 32 + 60)]).map
        (·.timestamp.toNat) = [10, 71582789] :=
  (timestamps_exact emptyFrames
    [.start, .frame acquiredFrame () 600, .frame acquiredFrame () (2 ^ 32 + 60)]
    (.cons_cons ⟨by decide, by decide⟩ (.cons_cons ⟨by decide, by decide⟩ (.singleton _)))
    (by decide)).1

/-- The clock of a run that is frames only. -/
theorem clocks_map_frame (acquired : OniFrame) (ts : List ℕ) :
    clocks true (ts.map fun t ↦ .frame acquired () t) = ts := by
  induction ts with
  | nil => rfl
  | cons t ts ih =>
    rw [List.map_cons, clocks, if_pos rfl]
    exact congrArg _ ih

/-- `n` frames, one every `d` ticks. -/
def steadyRun (n d : ℕ) : List (StreamEvent Unit) :=
  .start :: ((List.range n).map fun i ↦ (i + 1) * d).map fun t ↦ .frame acquiredFrame () t

/-- The clock of a steady run. -/
theorem clocks_steadyRun (n d : ℕ) :
    clocks false (steadyRun n d) = (List.range n).map fun i ↦ (i + 1) * d :=
  clocks_map_frame _ _

/-- Its frames are less than an overflow apart. -/
theorem isChain_steadyRun (n : ℕ) {d : ℕ} (hd : d < 2 ^ 32) :
    (0 :: clocks false (steadyRun n d)).IsChain Ticks := by
  have hcons : 0 :: clocks false (steadyRun n d) = (List.range (n + 1)).map fun i ↦ i * d := by
    rw [clocks_steadyRun, List.range_succ_eq_map, List.map_cons, List.map_map, Nat.zero_mul]
    rfl
  rw [hcons, List.isChain_map, List.isChain_range]
  intro i _
  have hsucc : i.succ * d = i * d + d := Nat.succ_mul i d
  exact ⟨by omega, by omega⟩

/-- After ten thousand years timestamps start over. -/
theorem timestamps_not_exact :
    let events := steadyRun (2 ^ 32 + 2) (2 ^ 32 - 1)
    (0 :: clocks false events).IsChain Ticks ∧
      (VideoStream.new.frames emptyFrames events).map (·.timestamp.toNat) ≠
        (clocks false events).map (· / 60) := by
  intro events
  have hchain : (0 :: clocks false events).IsChain Ticks := isChain_steadyRun _ (by decide)
  refine ⟨hchain, fun hexact ↦ ?_⟩
  have hframes := timestamps_frames emptyFrames (s := .new) rfl hchain
  have hnat := congrArg (List.map UInt64.toNat) hframes
  rw [List.map_map, List.map_map] at hnat
  have hmem : (2 ^ 32 + 2) * (2 ^ 32 - 1) ∈ clocks false events := by
    rw [clocks_steadyRun, List.mem_map]
    exact ⟨2 ^ 32 + 1, List.mem_range.2 (by decide), by decide⟩
  have hlast := List.map_inj_left.1 (hnat.symm.trans hexact) _ hmem
  exact absurd hlast (by decide)

end Freenect
