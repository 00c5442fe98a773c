import Freenect.Camera.Sender
import Freenect.Camera.StreamBounds

/-!
# The reassembler stabilises itself

Whatever packets a stream has seen, once well-formed frames arrive it delivers every one of them
from the second on, and the first too if it was unsynced.

Two steps carry this.

* `run_packets`: from index `k` of a frame, feeding the rest of the frame stores each payload
  behind the ones before it and returns a frame on the last packet only. The induction is on the
  rest of the frame; `InFrame` is what it carries.
* `atFrame_after_frame`: a whole frame leaves *any* bounded stream ready for the next one. Its
  first packet either finds the stream at index zero, or it is out of place and unsyncs the stream,
  which then ignores the rest of the frame. The bounds are needed once: a synced stream at index
  zero has counted no packet.

The claim about a whole sequence follows by counting frames: one frame brings any bounded stream to
the start of the next (`atFrame_after_frame`), every further one keeps it there (`atFrame_frames`),
and a frame that meets a stream at its start is delivered (`run_frame`). What the stream has seen
before enters only as the bounds it satisfies, which hold after any calls whatever.
-/

namespace Freenect

/-- A stream and the memory it writes to. -/
structure Receiver where
  strm : PacketStream
  mem : Memory

namespace Receiver

/-- A packet arrives and no chunk callback is set; the output is the returned size. -/
def step (r : Receiver) (pkt : List UInt8) : Receiver × ℕ :=
  let o := streamProcess r.strm pkt false
  ({ strm := o.strm, mem := o.memory r.mem }, o.gotFrameSize)

/-- The stream is about to see the first packet of a frame that starts with `q`. -/
def AtFrame (s : PacketStream) (q : UInt8) : Prop :=
  s.synced = true → s.seq = q ∧ s.pktNum = 0 ∧ s.gotPkts = 0

/-- The stream has stored the first `k` packets of a frame, `stored` side by side, and waits for
the next with sequence number `q`. -/
structure InFrame (r : Receiver) (k : ℕ) (q : UInt8) (stored : List UInt8) : Prop where
  synced : r.strm.synced = true
  seq : r.strm.seq = q
  pktNum : r.strm.pktNum = k
  gotPkts : r.strm.gotPkts = k
  holds : r.mem.Holds r.strm.rawBuf 0 stored
  length : stored.length = k * r.strm.pktSize

end Receiver

open Receiver PacketStream

section Frame

variable {r : Receiver} {s : PacketStream} {k : ℕ} {q : UInt8} {pkt : List UInt8}
  {pkts : List (List UInt8)} {stored : List UInt8}

/-- A synced stream at index `k` takes packet `k`. -/
theorem step_packet (hg : s.Fixed) (hk : k < s.pktsPerFrame) (hs : s.synced = true)
    (hseq : s.seq = q) (hnum : s.pktNum = k) (h : IsPacket s.toStreamGeometry k q pkt) :
    streamProcess s pkt false =
      { strm := s.afterPacket (.ofBytes pkt)
        payload := some (.memcpy (k * s.pktSize) (pktData pkt))
        gotFrameSize := if k + 1 = s.pktsPerFrame then s.frameSize else 0 } := by
  rw [streamProcess_next h.header hs (hseq.trans h.seq.symm),
    h.finish hg hk hnum, payloadOp, hnum]
  rfl

/-- An unsynced stream takes the first packet of a frame as if it had been waiting for it. -/
theorem streamProcess_syncedOn (hs : s.synced = false) (h : IsPacket s.toStreamGeometry 0 q pkt) :
    streamProcess s pkt false = streamProcess (s.syncedOn (.ofBytes pkt)) pkt false := by
  have hsync : (s.syncedOn (.ofBytes pkt)).synced = true := rfl
  rw [streamProcess_sof h.header hs h.flag_sof, streamProcess_next h.header hsync rfl]

/-- The geometry and the buffers of the receiver's stream never change. -/
theorem step_setup (r : Receiver) (pkt : List UInt8) :
    (r.step pkt).1.strm.setup = r.strm.setup :=
  streamProcess_setup

/-- Nor do they change in a run. -/
theorem run_step_setup (r : Receiver) (pkts : List (List UInt8)) :
    (Mealy.run Receiver.step r pkts).strm.setup = r.strm.setup :=
  Mealy.run_invariant (I := fun x : Receiver ↦ x.strm.setup = r.strm.setup)
    (fun x pkt h ↦ (step_setup x pkt).trans h) rfl pkts

/-- **A packet inside the frame** is stored behind the others, and nothing is returned. -/
theorem Receiver.InFrame.step_of_lt (hg : r.strm.Fixed) (hk : k + 1 < r.strm.pktsPerFrame)
    (h : r.InFrame k q stored) (hpkt : IsPacket r.strm.toStreamGeometry k q pkt) :
    (r.step pkt).2 = 0 ∧ (r.step pkt).1.InFrame (k + 1) (q + 1) (stored ++ pktData pkt) := by
  have hne : k + 1 ≠ r.strm.pktsPerFrame := by omega
  have hcall := step_packet hg (by omega) h.synced h.seq h.pktNum hpkt
  have hafter : r.strm.afterPacket (.ofBytes pkt) = r.strm.stored (.ofBytes pkt) := by
    rw [afterPacket, h.pktNum, if_neg hne]
  have hsize : (pktData pkt).length = r.strm.pktSize := by rw [hpkt.size, if_neg hne]
  rw [hafter, if_neg hne] at hcall
  simp only [Receiver.step, hcall]
  refine ⟨trivial, ?_⟩
  constructor
  · exact h.synced
  · show r.strm.seq + 1 = q + 1
    rw [h.seq]
  · show r.strm.pktNum + 1 = k + 1
    rw [h.pktNum]
  · show r.strm.gotPkts + 1 = k + 1
    rw [h.gotPkts]
  · -- the new payload goes right behind the ones already stored
    refine BlockMemory.holds_append ?_ ?_
    · exact BlockMemory.holds_store_of_disjoint (Or.inl (by rw [h.length]; omega)) h.holds
    · rw [h.length, Nat.zero_add]
      exact BlockMemory.holds_store_self
  · rw [List.length_append, h.length, hsize, Nat.succ_mul]
    rfl

/-- **The last packet** completes the frame, and the call returns its size. -/
theorem Receiver.InFrame.step_of_eq (hg : r.strm.Fixed) (hk : k + 1 = r.strm.pktsPerFrame)
    (h : r.InFrame k q stored) (hpkt : IsPacket r.strm.toStreamGeometry k q pkt) :
    (r.step pkt).2 = r.strm.frameSize ∧
      (r.step pkt).1.strm = r.strm.storedLast (.ofBytes pkt) ∧
      (r.step pkt).1.mem.Holds r.strm.rawBuf 0 (stored ++ pktData pkt) := by
  have hcall := step_packet hg (by omega) h.synced h.seq h.pktNum hpkt
  have hafter : r.strm.afterPacket (.ofBytes pkt) = r.strm.storedLast (.ofBytes pkt) := by
    rw [afterPacket, h.pktNum, if_pos hk]
  rw [hafter, if_pos hk] at hcall
  simp only [Receiver.step, hcall]
  refine ⟨trivial, trivial, BlockMemory.holds_append ?_ ?_⟩
  · exact BlockMemory.holds_store_of_disjoint (Or.inl (by rw [h.length]; omega)) h.holds
  · rw [h.length, Nat.zero_add]
    exact BlockMemory.holds_store_self

/-- A frame was delivered: its payloads lie side by side in `rawBuf`, and timestamp and packet
count are the frame's. -/
structure Delivered (r : Receiver) (payloads : List UInt8) (ts : Option UInt32) : Prop where
  holds : r.mem.Holds r.strm.rawBuf 0 payloads
  timestamp : ts = some r.strm.timestamp
  validPkts : r.strm.validPkts = r.strm.pktsPerFrame

/-- The header timestamp of the last of some packets. -/
def lastTimestampOf (pkts : List (List UInt8)) : Option UInt32 :=
  pkts.getLast?.map fun pkt ↦ (PktHdr.ofBytes pkt).timestamp

/-- **The rest of a frame**: its packets return nothing up to the last, which delivers the frame
and leaves the stream ready for the next one. -/
theorem run_packets (hg : r.strm.Fixed) (h : r.InFrame k q stored)
    (hpkts : IsPackets r.strm.toStreamGeometry k q pkts) (hne : pkts ≠ [])
    (hlen : k + pkts.length = r.strm.pktsPerFrame) :
    Mealy.trace Receiver.step r pkts =
        List.replicate (pkts.length - 1) 0 ++ [r.strm.frameSize] ∧
      Delivered (Mealy.run Receiver.step r pkts) (stored ++ pkts.flatMap pktData)
        (lastTimestampOf pkts) ∧
      AtFrame (Mealy.run Receiver.step r pkts).strm (q + UInt8.ofNat pkts.length) := by
  induction pkts generalizing r k q stored with
  | nil => exact absurd rfl hne
  | cons pkt pkts ih =>
    obtain ⟨hpkt, hrest⟩ := hpkts
    rcases pkts with - | ⟨pkt', pkts⟩
    · -- the last packet of the frame
      simp only [List.length_singleton] at hlen
      obtain ⟨hret, hstrm, hmem⟩ := h.step_of_eq hg hlen hpkt
      refine ⟨by simp [hret], ⟨?_, ?_, ?_⟩, fun _ ↦ ⟨?_, ?_, ?_⟩⟩ <;>
        simp only [Mealy.run_cons, Mealy.run_nil, hstrm]
      · rw [List.flatMap_singleton]
        exact hmem
      · rfl
      · show r.strm.gotPkts + 1 = r.strm.pktsPerFrame
        rw [h.gotPkts, hlen]
      · show r.strm.seq + 1 = q + UInt8.ofNat 1
        rw [h.seq]
        rfl
      · rfl
      · rfl
    · -- a packet inside the frame
      simp only [List.length_cons] at hlen
      obtain ⟨hret, hin⟩ := h.step_of_lt hg (by omega) hpkt
      have hgeom : (r.step pkt).1.strm.toStreamGeometry = r.strm.toStreamGeometry :=
        congrArg Prod.fst (step_setup r pkt)
      obtain ⟨htrace, hdel, hat⟩ := ih (r := (r.step pkt).1) (hgeom ▸ hg) hin (hgeom ▸ hrest)
        (List.cons_ne_nil _ _) (by rw [hgeom, List.length_cons]; omega)
      refine ⟨?_, ?_, ?_⟩
      · rw [Mealy.trace_cons, hret, htrace, hgeom]
        simp [List.replicate_succ]
      · rw [Mealy.run_cons, List.flatMap_cons, ← List.append_assoc]
        exact hdel
      · rw [Mealy.run_cons, List.length_cons, ← seq_succ_add]
        exact hat

/-- A stream at the start of a frame stands in the frame as soon as it is synced on its first
packet. -/
theorem inFrame_of_atFrame (hat : AtFrame s q) (hs : s.synced = true) (m : Memory) :
    InFrame { strm := s, mem := m } 0 q [] := by
  obtain ⟨hseq, hnum, hgot⟩ := hat hs
  exact ⟨hs, hseq, hnum, hgot, BlockMemory.holds_nil, (Nat.zero_mul _).symm⟩

/-- **A whole frame** that meets a stream at its start is delivered. -/
theorem run_frame (hg : r.strm.Fixed) (hat : AtFrame r.strm q)
    (hframe : IsFrame r.strm.toStreamGeometry q pkts) :
    Mealy.trace Receiver.step r pkts =
        List.replicate (pkts.length - 1) 0 ++ [r.strm.frameSize] ∧
      Delivered (Mealy.run Receiver.step r pkts) (pkts.flatMap pktData) (lastTimestampOf pkts) ∧
      AtFrame (Mealy.run Receiver.step r pkts).strm (q + UInt8.ofNat pkts.length) := by
  have hne : pkts ≠ [] := by
    have := hg.two_le
    have := hframe.length
    rintro rfl
    simp only [List.length_nil] at *
    omega
  have hlen : 0 + pkts.length = r.strm.pktsPerFrame := by rw [Nat.zero_add, hframe.length]
  cases hs : r.strm.synced with
  | true =>
    exact run_packets hg (inFrame_of_atFrame hat hs r.mem) hframe.packets hne hlen
  | false =>
    obtain ⟨pkt, rest, rfl⟩ := List.exists_cons_of_ne_nil hne
    -- syncing on the first packet and then storing it is one call
    let r' : Receiver := { strm := r.strm.syncedOn (.ofBytes pkt), mem := r.mem }
    have hstep : r.step pkt = r'.step pkt := by
      simp only [Receiver.step, streamProcess_syncedOn hs hframe.packets.1, r']
    have hin : r'.InFrame 0 q [] := by
      refine ⟨rfl, hframe.packets.1.seq, rfl, rfl, BlockMemory.holds_nil, (Nat.zero_mul _).symm⟩
    have hrun := run_packets (r := r') hg hin hframe.packets hne hlen
    rw [Mealy.trace_cons, Mealy.run_cons] at hrun ⊢
    rw [hstep]
    exact hrun

/-- An unsynced stream ignores the inside of a frame. -/
theorem run_ignored (hg : r.strm.Fixed) (hs : r.strm.synced = false) (hk : k ≠ 0)
    (hpkts : IsPackets r.strm.toStreamGeometry k q pkts) :
    (Mealy.run Receiver.step r pkts).strm.synced = false := by
  induction pkts generalizing r k q with
  | nil => exact hs
  | cons pkt pkts ih =>
    obtain ⟨hpkt, hrest⟩ := hpkts
    have hcall : streamProcess r.strm pkt false =
        { strm := r.strm, payload := none, gotFrameSize := 0 } :=
      streamProcess_unsynced hpkt.header hs (hpkt.flag_ne_sof hg hk)
    rw [Mealy.run_cons]
    exact ih (r := (r.step pkt).1) (by simpa [Receiver.step, hcall] using hg)
      (by simpa [Receiver.step, hcall] using hs) (Nat.succ_ne_zero k)
      (by simpa [Receiver.step, hcall] using hrest)

/-- The stream has stored the first packet of a frame, and waits for the next with sequence number
`q`. -/
structure BehindFirst (s : PacketStream) (q : UInt8) : Prop where
  synced : s.synced = true
  seq : s.seq = q
  pktNum : s.pktNum = 1
  gotPkts : s.gotPkts = 1

/-- A synced stream at index zero that waits for the first packet takes it. -/
theorem behindFirst_finish (hg : s.Fixed) (h : IsPacket s.toStreamGeometry 0 q pkt)
    (hs : s.synced = true) (hseq : s.seq = q) (hnum : s.pktNum = 0) (hgot : s.gotPkts = 0)
    (got : ℕ) :
    BehindFirst (s.finish (.ofBytes pkt) (pktData pkt) false got).strm (q + 1) := by
  have hP := hg.two_le
  have hne : 0 + 1 ≠ s.pktsPerFrame := by omega
  rw [h.finish hg (by omega) hnum, afterPacket, hnum, if_neg hne]
  refine ⟨hs, ?_, ?_, ?_⟩
  · rw [← hseq]
    rfl
  · rw [stored, hnum]
  · rw [stored, hgot]

/-- Anywhere else the start flag is out of place. -/
theorem unsynced_finish (hg : s.Fixed) (h : IsPacket s.toStreamGeometry 0 q pkt)
    (hnum : s.pktNum ≠ 0) (got : ℕ) :
    (s.finish (.ofBytes pkt) (pktData pkt) false got).strm.synced = false := by
  rw [finish_of_not_inPlace hg.variableLength (h.not_inPlace hg hnum)]

/-- The first packet of a frame leaves a bounded stream either behind that packet or unsynced. -/
theorem first_packet (hg : s.Fixed) (hb : s.Bounded) (h : IsPacket s.toStreamGeometry 0 q pkt) :
    (streamProcess s pkt false).strm.synced = false ∨
      BehindFirst (streamProcess s pkt false).strm (q + 1) := by
  cases hs : s.synced with
  | false =>
    rw [streamProcess_sof h.header hs h.flag_sof]
    exact Or.inr (behindFirst_finish (s := s.syncedOn (.ofBytes pkt)) hg h rfl h.seq rfl rfl 0)
  | true =>
    rw [streamProcess_lost h.header hs]
    rcases handleLost_cases s (.ofBytes pkt) with
      ⟨heq, h'⟩ | ⟨-, -, h'⟩ | ⟨hne, -, hnear, hwrap, h'⟩ | ⟨hne, -, hnear, hin, h'⟩ <;>
        simp only [h']
    · -- the sequence number fits
      by_cases hnum : s.pktNum = 0
      · have hgot : s.gotPkts = 0 := by have := hb.gotPkts_le hs; omega
        exact Or.inr (behindFirst_finish hg h hs (heq.trans h.seq) hnum hgot 0)
      · exact Or.inl (unsynced_finish hg h hnum 0)
    · -- too many packets lost
      exact Or.inl rfl
    · -- the gap ends the old frame
      by_cases hnum : (s.wrappedTo (.ofBytes pkt)).pktNum = 0
      · exact Or.inr
          (behindFirst_finish (s := s.wrappedTo (.ofBytes pkt)) hg h hs h.seq hnum rfl _)
      · exact Or.inl (unsynced_finish (s := s.wrappedTo (.ofBytes pkt)) hg h hnum _)
    · -- the gap stays inside the old frame
      have hpos := gap_pos hne
      refine Or.inl (unsynced_finish (s := s.skippedTo (.ofBytes pkt)) hg h ?_ 0)
      show s.pktNum + s.gap (.ofBytes pkt) ≠ 0
      omega

/-- **Stabilisation**: a whole frame leaves any bounded stream at the start of the next frame. -/
theorem atFrame_after_frame (hg : r.strm.Fixed) (hb : r.strm.Bounded)
    (hframe : IsFrame r.strm.toStreamGeometry q pkts) :
    AtFrame (Mealy.run Receiver.step r pkts).strm (q + UInt8.ofNat pkts.length) := by
  have hP := hg.two_le
  rcases pkts with - | ⟨pkt, pkts⟩
  · have := hframe.length
    simp only [List.length_nil] at this
    omega
  obtain ⟨hpkt, hrest⟩ := hframe.packets
  have hlen := hframe.length
  rw [List.length_cons] at hlen
  have hgeom : (r.step pkt).1.strm.toStreamGeometry = r.strm.toStreamGeometry :=
    congrArg Prod.fst (step_setup r pkt)
  rw [Mealy.run_cons]
  -- the first packet decides: out of place, or taken
  rcases first_packet hg hb hpkt with hs | hbehind
  · intro hsynced
    have := run_ignored (r := (r.step pkt).1) (hgeom ▸ hg) hs Nat.one_ne_zero (hgeom ▸ hrest)
    rw [this] at hsynced
    cases hsynced
  · -- from here on the frame runs as in `run_packets`, whatever its first slot holds
    let r' := (r.step pkt).1
    let slot : List UInt8 := (List.range r'.strm.pktSize).map (r'.mem r'.strm.rawBuf)
    have hin : r'.InFrame 1 (q + 1) slot :=
      ⟨hbehind.synced, hbehind.seq, hbehind.pktNum, hbehind.gotPkts, fun i hi ↦ by simp [slot],
        by simp [slot]⟩
    have hne : pkts ≠ [] := by
      rintro rfl
      simp only [List.length_nil] at hlen
      omega
    have hrun := run_packets (r := r') (hgeom ▸ hg) hin (hgeom ▸ hrest) hne
      (by rw [hgeom, ← hlen]; omega)
    rw [List.length_cons, ← seq_succ_add]
    exact hrun.2.2

/-- Frames that reach a stream at the start of a frame are all delivered; the stream stays there
between them. -/
theorem atFrame_frames {frames : List (List (List UInt8))} (hg : r.strm.Fixed)
    (hat : AtFrame r.strm q) (hframes : IsFrames r.strm.toStreamGeometry q frames) :
    AtFrame (Mealy.run Receiver.step r frames.flatten).strm
      (q + UInt8.ofNat (frames.length * r.strm.pktsPerFrame)) := by
  induction frames generalizing r q with
  | nil =>
    rw [List.length_nil, Nat.zero_mul]
    simpa using hat
  | cons frame frames ih =>
    obtain ⟨hframe, hrest⟩ := hframes
    have hgeom : (Mealy.run Receiver.step r frame).strm.toStreamGeometry =
        r.strm.toStreamGeometry := congrArg Prod.fst (run_step_setup r frame)
    have hat' := (run_frame hg hat hframe).2.2
    rw [hframe.length] at hat'
    have := ih (r := Mealy.run Receiver.step r frame) (hgeom ▸ hg) hat' (hgeom ▸ hrest)
    rw [List.flatten_cons, Mealy.run_append]
    rw [hgeom] at this
    rw [List.length_cons, Nat.succ_mul, Nat.add_comm (frames.length * _), UInt8.ofNat_add,
      ← UInt8.add_assoc]
    exact this

/-- After some frames a stream is at the start of the next one, if it was unsynced before them or
there was at least one. -/
theorem atFrame_of_bounded {frames : List (List (List UInt8))} (hg : r.strm.Fixed)
    (hb : r.strm.Bounded) (hstart : frames ≠ [] ∨ r.strm.synced = false)
    (hframes : IsFrames r.strm.toStreamGeometry q frames) :
    AtFrame (Mealy.run Receiver.step r frames.flatten).strm
      (q + UInt8.ofNat (frames.length * r.strm.pktsPerFrame)) := by
  rcases frames with - | ⟨frame, frames⟩
  · intro hs
    rcases hstart with hstart | hstart
    · exact absurd rfl hstart
    · rw [List.flatten_nil, Mealy.run_nil, hstart] at hs
      cases hs
  · obtain ⟨hframe, hrest⟩ := hframes
    have hgeom : (Mealy.run Receiver.step r frame).strm.toStreamGeometry =
        r.strm.toStreamGeometry := congrArg Prod.fst (run_step_setup r frame)
    have hat := atFrame_after_frame hg hb hframe
    rw [hframe.length] at hat
    have hats := atFrame_frames (r := Mealy.run Receiver.step r frame) (hgeom ▸ hg) hat
      (by rw [hgeom]; exact hrest)
    rw [hgeom] at hats
    rw [List.flatten_cons, Mealy.run_append, List.length_cons, Nat.succ_mul,
      Nat.add_comm (frames.length * _), UInt8.ofNat_add, ← UInt8.add_assoc]
    exact hats

/-- A frame in a sequence, and what comes before it. -/
theorem IsFrames.of_append {g : StreamGeometry} {pre : List (List (List UInt8))}
    {frame : List (List UInt8)} {post : List (List (List UInt8))}
    (h : IsFrames g q (pre ++ frame :: post)) :
    IsFrames g q pre ∧ IsFrame g (q + UInt8.ofNat (pre.length * g.pktsPerFrame)) frame := by
  induction pre generalizing q with
  | nil =>
    rw [List.length_nil, Nat.zero_mul]
    refine ⟨trivial, ?_⟩
    simpa using h.1
  | cons f pre ih =>
    obtain ⟨hf, hrest⟩ := h
    obtain ⟨hpre, hframe⟩ := ih hrest
    refine ⟨⟨hf, hpre⟩, ?_⟩
    rw [List.length_cons, Nat.succ_mul, Nat.add_comm (pre.length * _), UInt8.ofNat_add,
      ← UInt8.add_assoc]
    exact hframe

end Frame

/-- **Self-stabilising reassembly.** A stream of fixed length that `stream_init` set up has seen any
calls whatever; then well-formed frames arrive. Every frame of them, except the first if the stream
was synced, returns `frameSize` on its last packet and nothing on the others, and at that return
`rawBuf` holds the frame's payloads side by side, with the last packet's timestamp and all packets
counted. -/
theorem reassembly_self_stabilising (prev : PacketStream) (rlen plen : ℕ) (lib raw : Ptr)
    (hflag : prev.FlagClear) (hv : prev.variableLength = false)
    (hP : 2 ≤ (streamInit prev rlen plen lib raw).pktsPerFrame)
    (earlier : List (List UInt8 × Bool)) (mem : Memory) (q : UInt8)
    (frames pre post : List (List (List UInt8))) (frame : List (List UInt8))
    (hframes : IsFrames (streamInit prev rlen plen lib raw).toStreamGeometry q frames)
    (hsplit : frames = pre ++ frame :: post)
    (hstart : pre ≠ [] ∨
      (Mealy.run streamStep (streamInit prev rlen plen lib raw) earlier).synced = false) :
    let s := Mealy.run streamStep (streamInit prev rlen plen lib raw) earlier
    let r := Mealy.run Receiver.step { strm := s, mem := mem } pre.flatten
    Mealy.trace Receiver.step r frame =
        List.replicate (s.pktsPerFrame - 1) 0 ++ [s.frameSize] ∧
      (frame.flatMap pktData).length = s.frameSize ∧
      Delivered (Mealy.run Receiver.step r frame) (frame.flatMap pktData)
        (lastTimestampOf frame) := by
  intro s r
  have hinit := streamInit_fixed hflag hv hP
  have hb := boundedFrom_run hinit.sized hinit.flagClear hP boundedFrom_init earlier
  have hgeom : s.toStreamGeometry = (streamInit prev rlen plen lib raw).toStreamGeometry :=
    hb.geometry
  have hfixed : s.Fixed := hgeom ▸ hinit
  -- the frames in front bring the stream to the start of this one
  obtain ⟨hpre, hframe⟩ := IsFrames.of_append (hsplit ▸ hframes)
  rw [← hgeom] at hpre hframe
  have hat := atFrame_of_bounded (r := { strm := s, mem := mem }) hfixed hb.bounded hstart hpre
  have hr : r.strm.toStreamGeometry = s.toStreamGeometry :=
    congrArg Prod.fst (run_step_setup { strm := s, mem := mem } pre.flatten)
  obtain ⟨htrace, hdel, -⟩ := run_frame (r := r) (hr ▸ hfixed) hat (by rw [hr]; exact hframe)
  rw [hr, hframe.length] at htrace
  exact ⟨htrace, hframe.payload_length hfixed, hdel⟩

/-- Stabilisation at work: a stream synced by a stray start of frame delivers the second of two
frames, whose sequence numbers wrap inside the first. -/
theorem reassembly_self_stabilising_tiny :
    let first := [mkPacket 0x71 255 7 [1], mkPacket 0x75 0 8 [2]]
    let second := [mkPacket 0x71 1 9 [3], mkPacket 0x75 2 10 [4]]
    let s := Mealy.run streamStep (streamInit tinyStream 0 2 1 2) [(mkPacket 0x71 9 0 [9], false)]
    let r := Mealy.run Receiver.step { strm := s, mem := fun _ _ ↦ 0 } first
    s.synced = true ∧ Mealy.trace Receiver.step r second = [0, 2] ∧
      Delivered (Mealy.run Receiver.step r second) [3, 4] (some 10) := by
  intro first second s r
  have hframes : IsFrames (streamInit tinyStream 0 2 1 2).toStreamGeometry 255 [first, second] := by
    refine ⟨⟨rfl, ⟨⟨?_, rfl, rfl, rfl⟩, ⟨?_, rfl, rfl, rfl⟩, trivial⟩⟩,
      ⟨rfl, ⟨⟨?_, rfl, rfl, rfl⟩, ⟨?_, rfl, rfl, rfl⟩, trivial⟩⟩, trivial⟩ <;>
      exact ⟨by decide, rfl, rfl⟩
  have h := reassembly_self_stabilising tinyStream 0 2 1 2 (by decide) rfl (by decide)
    [(mkPacket 0x71 9 0 [9], false)] (fun _ _ ↦ 0) 255 [first, second] [first] [] second hframes rfl
    (Or.inl (List.cons_ne_nil _ _))
  exact ⟨rfl, h.1, h.2.2⟩

end Freenect
