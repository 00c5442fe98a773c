import Freenect.Camera.DepthProcess
import Freenect.Library.Runs
import Mathlib.Logic.Function.Basic

/-!
# The audio stream

`audio_stream` and the functions of `audio.c` for audio input: `freenect_start_audio` and the packet
callback `iso_in_callback`. The microphones send a window in nine packets, one for each channel; a
packet is copied to its half of a microphone's buffer, or to the buffer of the cancelled audio. When
the window changes, the client gets the buffers as they are then.

Buffers are memory byte by byte, and so is the array `last_seen_window` together with what lies
around it, since the index comes from the device. A call reports which entries of that array it
used, which block it copied, and what the client was called with.

Two equations describe a call: a packet that is no block of audio does nothing
(`isoInCallback_of_not_isBlock`), and any other packet is stored and noted, with a call of the
client in front of that if it opens a new window (`isoInCallback_of_isBlock`). The modules on input
are built on these two and do not unfold the callback again.
-/

namespace Freenect

/-! ### The data

The fields of `audio_stream` that the callbacks read or write, those of the sender included, because
both directions share the structure. -/

/-- The `n` cells from an offset of a buffer on. -/
def cells (p : ℕ → UInt8) (off n : ℕ) : List UInt8 := (List.range n).map fun x ↦ p (off + x)

/-- `memcpy` to an offset of a buffer. -/
def copyTo (p : ℕ → UInt8) (off : ℕ) (data : List UInt8) : ℕ → UInt8 := fun x ↦
  if off ≤ x then (data[x - off]?).getD (p x) else p x

/-- `audio_stream` as the packet callbacks see it, without the ring of samples to send, which is not
used yet. The part that the transfers depend on is `AudioStream`. -/
structure AudioState where
  running : Bool
  outWindow : UInt16
  outSeq : UInt8
  outCounterWithinWindow : UInt8
  outWeirdTimestamp : UInt16
  outWindowParity : UInt8
  inWindow : UInt16
  lastSeenWindow : ℤ → UInt16
  micBuffer : ℕ → ℕ → UInt8
  cancelledBuffer : ℕ → UInt8
  inUnknown : ℕ → UInt8

/-- The audio stream of a freshly opened device: `freenect_open_device` zeroes it. -/
def AudioState.zero : AudioState where
  running := false
  outWindow := 0
  outSeq := 0
  outCounterWithinWindow := 0
  outWeirdTimestamp := 0
  outWindowParity := 0
  inWindow := 0
  lastSeenWindow := fun _ ↦ 0
  micBuffer := fun _ _ ↦ 0
  cancelledBuffer := fun _ ↦ 0
  inUnknown := fun _ ↦ 0

/-- What `freenect_start_audio` is answered: what `malloc` left in `in_unknown`, and what the two
calls of `fnusb_start_iso` returned. -/
structure StartAudioAnswers where
  unknown : ℕ → UInt8
  isoIn : ℤ
  isoOut : ℤ

/-- `freenect_start_audio`: the stream afterwards and the return value. -/
def startAudio (s : AudioState) (a : StartAudioAnswers) : AudioState × ℤ :=
  if s.running then (s, -1)
  else
    let s : AudioState :=
      { running := false
        outWindow := 0
        outSeq := 0
        outCounterWithinWindow := 0
        outWeirdTimestamp := 0
        outWindowParity := 0
        inWindow := 0
        lastSeenWindow := fun t ↦ if 0 ≤ t ∧ t < 10 then 0 else s.lastSeenWindow t
        micBuffer := fun _ _ ↦ 0
        cancelledBuffer := fun _ ↦ 0
        inUnknown := a.unknown }
    if a.isoIn < 0 then (s, a.isoIn)
    else if a.isoOut < 0 then (s, a.isoOut)
    else ({ s with running := true }, 0)

/-! ### Packets -/

/-- `audio_in_block`, without its length and its unknown field. -/
structure AudioInBlock where
  magic : UInt32
  channel : UInt16
  window : UInt16
  samples : List UInt8

/-- The block of a packet; its fields are read in the byte order of the host. -/
def AudioInBlock.ofBytes (big : Bool) (pkt : List UInt8) : AudioInBlock :=
  let p (i : ℕ) := pkt.getD i 0
  { magic := if big then le32 (p 3) (p 2) (p 1) (p 0) else le32 (p 0) (p 1) (p 2) (p 3)
    channel := hostWord big p 2
    window := hostWord big p 4
    samples := pkt.drop 12 }

/-- The length of a packet with audio data. -/
def audioPacketSize : ℕ := 524

/-- The length of the samples in it. -/
def audioBlockSize : ℕ := 512

/-! ### `iso_in_callback`

A call in three steps, in the order of the source: the client, the copy, the note. -/

/-- What the client's callback is called with. -/
structure AudioIn where
  numSamples : ℕ
  mic : ℕ → ℕ → UInt8
  cancelled : ℕ → UInt8
  unknown : ℕ → UInt8

/-- The buffers a block may be copied to. -/
inductive AudioBuffer
  | mic (index : ℕ)
  | cancelled
  deriving DecidableEq, Repr

/-- The number of bytes of a buffer: 256 samples of 32 or of 16 bits. -/
def AudioBuffer.size : AudioBuffer → ℕ
  | mic _ => 256 * 4
  | cancelled => 256 * 2

/-- A `memcpy` of `iso_in_callback`. -/
structure BlockCopy where
  buffer : AudioBuffer
  off : ℕ
  data : List UInt8

/-- The copy for a block, chosen by its channel. -/
def AudioInBlock.copy (b : AudioInBlock) : Option BlockCopy :=
  let channel := b.channel.toNat
  if channel = 1 then some { buffer := .cancelled, off := 0, data := b.samples }
  else if 2 ≤ channel ∧ channel ≤ 9 then
    if channel % 2 = 1 then
      some { buffer := .mic ((channel - 2) / 2), off := 128 * 4, data := b.samples }
    else some { buffer := .mic ((channel - 2) / 2), off := 0, data := b.samples }
  else none

/-- The stream after a copy. -/
def AudioState.copied (s : AudioState) (c : BlockCopy) : AudioState :=
  match c.buffer with
  | .mic j =>
    { s with micBuffer := Function.update s.micBuffer j (copyTo (s.micBuffer j) c.off c.data) }
  | .cancelled => { s with cancelledBuffer := copyTo s.cancelledBuffer c.off c.data }

/-- What a call did: the indices it used into `last_seen_window`, the block it copied, and the call
of the client. -/
structure AudioReport where
  indices : List ℤ
  copy : Option BlockCopy
  callback : Option AudioIn

/-- A call that did nothing. -/
def AudioReport.nothing : AudioReport where
  indices := []
  copy := none
  callback := none

/-- What the client is called with. -/
def AudioState.audioIn (s : AudioState) : AudioIn where
  numSamples := 256
  mic := s.micBuffer
  cancelled := s.cancelledBuffer
  unknown := s.inUnknown

/-- `iso_in_callback`. The input is a packet, and whether the client has set a callback when it
arrives. -/
def isoInCallback (big : Bool) (s : AudioState) (call : List UInt8 × Bool) :
    AudioState × AudioReport :=
  if call.1.length = audioPacketSize then
    let block := AudioInBlock.ofBytes big call.1
    if block.magic ≠ 0x80000080 then (s, .nothing)
    else
      let changed := decide (block.window ≠ s.inWindow)
      let callback := if changed && call.2 then some s.audioIn else none
      -- the loop that looks for channels without data
      let seen : List ℤ := if changed then (List.range 10).map fun t : ℕ ↦ (t : ℤ) else []
      let s := { s with inWindow := block.window }
      let s :=
        match block.copy with
        | some c => s.copied c
        | none => s
      let index : ℤ := (block.channel.toNat : ℤ) - 1
      ({ s with lastSeenWindow := Function.update s.lastSeenWindow index block.window },
        { indices := seen ++ [index], copy := block.copy, callback := callback })
  else (s, .nothing)

/-! ### Buffers -/

section Buffers

variable {p : ℕ → UInt8} {data : List UInt8} {off off' n : ℕ}

/-- A range is cut in two. -/
theorem cells_add (p : ℕ → UInt8) (off m n : ℕ) :
    cells p off (m + n) = cells p off m ++ cells p (off + m) n := by
  simp only [cells]
  rw [List.range_add, List.map_append, List.map_map]
  simp only [Function.comp_def, Nat.add_assoc]

/-- What was copied is read back. -/
theorem cells_copyTo_self (p : ℕ → UInt8) (off : ℕ) (data : List UInt8) :
    cells (copyTo p off data) off data.length = data := by
  refine List.ext_getElem (by simp [cells]) fun i hi hi' ↦ ?_
  simp [cells, copyTo, hi']

/-- Other cells are not touched. -/
theorem cells_copyTo_of_disjoint (h : off' + n ≤ off ∨ off + data.length ≤ off') :
    cells (copyTo p off data) off' n = cells p off' n := by
  refine List.map_congr_left fun x hx ↦ ?_
  have hlt := List.mem_range.1 hx
  rw [copyTo]
  split
  · rw [List.getElem?_eq_none (by omega)]
    rfl
  · rfl

end Buffers

/-! ### What a call does

The header is checked for its length and its magic number; nothing else of it is looked at before
the samples are copied. -/

section Call

variable {big : Bool} {s : AudioState} {call : List UInt8 × Bool}

/-- A packet with a block of audio. -/
def IsBlock (big : Bool) (pkt : List UInt8) : Prop :=
  pkt.length = audioPacketSize ∧ (AudioInBlock.ofBytes big pkt).magic = 0x80000080

instance (big : Bool) (pkt : List UInt8) : Decidable (IsBlock big pkt) :=
  inferInstanceAs (Decidable (_ ∧ _))

/-- A packet without a block of audio does nothing. -/
theorem isoInCallback_of_not_isBlock (h : ¬ IsBlock big call.1) :
    isoInCallback big s call = (s, .nothing) := by
  rw [isoInCallback]
  split
  next hlen => exact if_pos fun hmagic ↦ h ⟨hlen, hmagic⟩
  · rfl

/-- The stream after a block was stored. -/
def AudioState.stored (s : AudioState) (b : AudioInBlock) : AudioState :=
  match b.copy with
  | some c => s.copied c
  | none => s

/-- **A call with a block of audio.** -/
theorem isoInCallback_of_isBlock (h : IsBlock big call.1) :
    isoInCallback big s call =
      let block := AudioInBlock.ofBytes big call.1
      let index : ℤ := (block.channel.toNat : ℤ) - 1
      ({ s.stored block with
          inWindow := block.window
          lastSeenWindow := Function.update s.lastSeenWindow index block.window },
        { indices := (if block.window ≠ s.inWindow then (List.range 10).map fun t : ℕ ↦ (t : ℤ)
            else []) ++ [index]
          copy := block.copy
          callback := if block.window ≠ s.inWindow ∧ call.2 = true then some s.audioIn
            else none }) := by
  unfold isoInCallback AudioState.stored AudioState.copied
  rw [if_pos h.1]
  dsimp only
  rw [if_neg (not_not.2 h.2)]
  simp only [Bool.and_eq_true, decide_eq_true_eq]
  split
  next c _ => cases c.buffer <;> rfl
  · rfl

/-- The samples of a block have the length that is copied. -/
theorem length_samples (call : List UInt8 × Bool) (h : IsBlock big call.1) :
    (AudioInBlock.ofBytes big call.1).samples.length = audioBlockSize := by
  show (call.1.drop 12).length = _
  rw [List.length_drop, h.1]
  rfl

end Call

/-- A packet of a little-endian host, with one value in all its samples. -/
def mkAudioPacket (channel window sample : UInt8) : List UInt8 :=
  [0x80, 0, 0, 0x80, channel, 0, 0, 0, window, 0, 0, 0] ++ List.replicate audioBlockSize sample

end Freenect
