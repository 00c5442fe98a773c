import Freenect.Library.Runs
import Freenect.Camera.StreamSpec

/-!
# What a camera sends

The packets of a well-formed frame, as a predicate on bytes: `IsPacket g k q pkt` says that `pkt`
is packet `k` of a frame of geometry `g` with sequence number `q`. The sequence number is a `UInt8`
and wraps wherever it happens to, inside a frame or between frames.

The one lemma about the receiver here is `IsPacket.finish`: a packet that arrives when the stream
stands at its index is stored at its slot, whatever was lost before it. Everything else about
well-formed streams is built on it.

Three further facts are needed of a frame as a whole, and each is proved from the packets in turn:
its payloads fill the frame (`IsFrame.payload_length`), only its first packet has the start flag and
only its last the end flag (`IsPacket.flag_ne_sof`, `IsPacket.flag_eof_iff`), and the first packet
fits nowhere but at index zero (`IsPacket.not_inPlace`).
-/

namespace Freenect

variable {g : StreamGeometry} {k n : ℕ} {q : UInt8} {pkt : List UInt8}

/-- Packet `k` of a frame, with sequence number `q`. -/
structure IsPacket (g : StreamGeometry) (k : ℕ) (q : UInt8) (pkt : List UInt8) : Prop where
  header : HasHeader pkt
  flag : (PktHdr.ofBytes pkt).flag =
    if k = 0 then g.sof else if k + 1 = g.pktsPerFrame then g.eof else g.mof
  seq : (PktHdr.ofBytes pkt).seq = q
  size : (pktData pkt).length = if k + 1 = g.pktsPerFrame then g.lastPktSize else g.pktSize

/-- Consecutive packets of one frame, from packet `k` with sequence number `q` on. -/
def IsPackets (g : StreamGeometry) : ℕ → UInt8 → List (List UInt8) → Prop
  | _, _, [] => True
  | k, q, pkt :: pkts => IsPacket g k q pkt ∧ IsPackets g (k + 1) (q + 1) pkts

/-- A frame whose first packet has sequence number `q`. -/
structure IsFrame (g : StreamGeometry) (q : UInt8) (frame : List (List UInt8)) : Prop where
  length : frame.length = g.pktsPerFrame
  packets : IsPackets g 0 q frame

/-- Frames sent one after the other, with consecutive sequence numbers. -/
def IsFrames (g : StreamGeometry) : UInt8 → List (List (List UInt8)) → Prop
  | _, [] => True
  | q, frame :: frames =>
    IsFrame g q frame ∧ IsFrames g (q + UInt8.ofNat g.pktsPerFrame) frames

/-- Counting on from the next sequence number. -/
theorem seq_succ_add (q : UInt8) (n : ℕ) : q + 1 + UInt8.ofNat n = q + UInt8.ofNat (n + 1) := by
  rw [UInt8.ofNat_add, UInt8.add_assoc, UInt8.add_comm 1]
  rfl

/-- The first packet of a frame carries the start flag. -/
theorem IsPacket.flag_sof (h : IsPacket g 0 q pkt) : (PktHdr.ofBytes pkt).flag = g.sof := by
  rw [h.flag, if_pos rfl]

/-- Only the first packet of a frame carries the start flag. -/
theorem IsPacket.flag_ne_sof (hg : g.Fixed) (hk : k ≠ 0) (h : IsPacket g k q pkt) :
    (PktHdr.ofBytes pkt).flag ≠ g.sof := by
  rw [h.flag, if_neg hk]
  split
  · exact hg.flagClear.sof_ne_eof.symm
  · exact hg.flagClear.sof_ne_mof.symm

/-- Only the last packet of a frame carries the end flag. -/
theorem IsPacket.flag_eof_iff (hg : g.Fixed) (h : IsPacket g k q pkt) :
    (PktHdr.ofBytes pkt).flag = g.eof ↔ k + 1 = g.pktsPerFrame := by
  have hP := hg.two_le
  rw [h.flag]
  by_cases h0 : k = 0
  · rw [if_pos h0]
    exact iff_of_false hg.flagClear.sof_ne_eof (by omega)
  · rw [if_neg h0]
    by_cases hlast : k + 1 = g.pktsPerFrame
    · rw [if_pos hlast]
      exact iff_of_true rfl hlast
    · rw [if_neg hlast]
      exact iff_of_false hg.flagClear.mof_ne_eof hlast

/-- The payloads of the packets from some index on fill the frame from there. -/
theorem IsPackets.payload_length (hg : g.Fixed) {pkts : List (List UInt8)} (hne : pkts ≠ [])
    (h : IsPackets g k q pkts) (hlen : k + pkts.length = g.pktsPerFrame) :
    k * g.pktSize + (pkts.flatMap pktData).length = g.frameSize := by
  induction pkts generalizing k q with
  | nil => exact absurd rfl hne
  | cons pkt pkts ih =>
    obtain ⟨hpkt, hrest⟩ := h
    have hsize := hpkt.size
    rw [List.flatMap_cons, List.length_append]
    rcases pkts with - | ⟨pkt', pkts⟩
    · have hlast : k + 1 = g.pktsPerFrame := hlen
      rw [if_pos hlast] at hsize
      rw [← hg.sized.last_slot hlast, hsize]
      rfl
    · simp only [List.length_cons] at hlen
      rw [if_neg (by omega)] at hsize
      have hnext := ih (List.cons_ne_nil _ _) hrest (by simp only [List.length_cons]; omega)
      rw [Nat.succ_mul] at hnext
      omega

/-- The payloads of a frame fill it. -/
theorem IsFrame.payload_length (hg : g.Fixed) {frame : List (List UInt8)} (h : IsFrame g q frame) :
    (frame.flatMap pktData).length = g.frameSize := by
  have hlen : 0 + frame.length = g.pktsPerFrame := by rw [Nat.zero_add, h.length]
  have hne : frame ≠ [] := by
    have := hg.two_le
    rintro rfl
    simp only [List.length_nil] at hlen
    omega
  have := h.packets.payload_length hg hne hlen
  rwa [Nat.zero_mul, Nat.zero_add] at this

/-- A stream at index `k` finds packet `k` in place. -/
theorem IsPacket.inPlace {s : PacketStream} (hk : k < s.pktsPerFrame) (hnum : s.pktNum = k)
    (h : IsPacket s.toStreamGeometry k q pkt) :
    s.InPlace (PktHdr.ofBytes pkt).flag := by
  rw [h.flag]
  by_cases h0 : k = 0
  · rw [if_pos h0]
    exact Or.inl ⟨hnum.trans h0, rfl⟩
  · rw [if_neg h0]
    by_cases hlast : k + 1 = s.pktsPerFrame
    · rw [if_pos hlast]
      exact Or.inr (Or.inl ⟨by rw [hnum]; exact hlast, rfl⟩)
    · rw [if_neg hlast]
      exact Or.inr (Or.inr ⟨by omega, by omega, rfl⟩)

/-- A start of frame is out of place everywhere but at index zero. -/
theorem IsPacket.not_inPlace {s : PacketStream} (hg : s.Fixed) (hnum : s.pktNum ≠ 0)
    (h : IsPacket s.toStreamGeometry 0 q pkt) : ¬ s.InPlace (PktHdr.ofBytes pkt).flag := by
  rw [h.flag_sof]
  rintro (⟨h0, -⟩ | ⟨-, he⟩ | ⟨-, -, he⟩)
  · exact hnum h0
  · exact hg.flagClear.sof_ne_eof he
  · exact hg.flagClear.sof_ne_mof he

/-- The stream after packet `k` of a frame was stored. -/
def PacketStream.afterPacket (s : PacketStream) (hdr : PktHdr) : PacketStream :=
  if s.pktNum + 1 = s.pktsPerFrame then s.storedLast hdr else s.stored hdr

/-- **A packet at its index is stored at its slot**, and the call returns a frame exactly on the
frame's last packet or when the gap before it had already ended a frame. -/
theorem IsPacket.finish {s : PacketStream} {chunkCb : Bool} {got : ℕ}
    (hg : s.Fixed) (hk : k < s.pktsPerFrame) (hnum : s.pktNum = k)
    (h : IsPacket s.toStreamGeometry k q pkt) :
    s.finish (.ofBytes pkt) (pktData pkt) chunkCb got =
      { strm := s.afterPacket (.ofBytes pkt)
        payload := some (s.payloadOp (pktData pkt) chunkCb)
        gotFrameSize := if k + 1 = s.pktsPerFrame then s.frameSize else got } := by
  have hin := h.inPlace hk hnum
  have hlen : (pktData pkt).length ≤ s.expectedPktSize := by
    rw [h.size, PacketStream.expectedPktSize, hnum]
  have heof := h.flag_eof_iff hg
  have hv := hg.variableLength
  rw [PacketStream.finish_of_inPlace hv hin hlen, PacketStream.afterPacket, hnum]
  by_cases hlast : k + 1 = s.pktsPerFrame
  · rw [if_pos hlast, if_pos hlast, PacketStream.accept_of_eof (heof.2 hlast), hv]
    have hsize : s.pktNum * s.pktSize + s.lastPktSize = s.frameSize := by
      rw [hnum, hg.sized.last_slot hlast]
    simp only [Bool.false_eq_true, if_false, hsize]
  · rw [if_neg hlast, if_neg hlast, PacketStream.accept_of_ne_eof (fun he ↦ hlast (heof.1 he))]

end Freenect
