import Freenect.Camera.StreamBounds

/-!
# Frames that received nothing

A frame is complete when its last packet is stored, or when lost packets reach its end. The second
way does not ask whether any packet of the frame was stored. A packet that is too long is dropped
without being counted, and the next one finds it lost; so a frame whose packets were all dropped is
delivered, without a valid packet and with the timestamp of an earlier frame.

The history of a run is kept beside the stream: the timestamps of the packets accepted since the
last delivery or resync. `real_frames_iff` says which runs deliver only frames that received
something, and `along_of_fits` that these include all runs without a packet that is too long.

`Counts` relates the counters of the stream to the history: `got_pkts` is how many timestamps were
accepted, and `last_timestamp` is one of them. It is kept by every way a call can go
(`finish_counts`, `finish_wrapped`), and when a frame is delivered it says whether the frame has
received something. The only call that delivers one that has not is a gap over the end of a frame
whose counter stands at zero, `CompletesEmpty`, which is the condition on the state before the step.
-/

namespace Freenect

/-! ### The history of a run

The history is not part of the driver. It is fed by the same calls, and forgetting it gives the
reassembler's own run back. -/

/-- The timestamp of the packet of a call, if its payload was accepted. -/
def Processed.own (o : Processed) (hdr : PktHdr) : List UInt32 :=
  if o.payload.isSome then [hdr.timestamp] else []

/-- A stream and the header timestamps of the packets it has accepted since the last delivery or
resync. -/
structure Reception where
  strm : PacketStream
  accepted : List UInt32

/-- The result of a call, and the timestamps accepted for the frame it may deliver. -/
structure Arrival where
  processed : Processed
  frame : List UInt32

/-- A call of the reassembler with its history. The last packet of a frame belongs to the frame
that it completes; a packet that comes behind lost packets belongs to the next one. -/
def Reception.step (r : Reception) (call : List UInt8 × Bool) : Reception × Arrival :=
  let o := streamProcess r.strm call.1 call.2
  let hdr := PktHdr.ofBytes call.1
  ({ strm := o.strm
     accepted :=
      if o.strm.synced = false then []
      else if o.gotFrameSize = 0 then r.accepted ++ o.own hdr
      else if hdr.flag = r.strm.eof then []
      else o.own hdr },
   { processed := o
     frame := if hdr.flag = r.strm.eof then r.accepted ++ o.own hdr else r.accepted })

/-- **A real frame**: it has a valid packet, and its timestamp is that of a packet accepted for
it. -/
structure Arrival.Real (a : Arrival) : Prop where
  validPkts : 1 ≤ a.processed.strm.validPkts
  timestamp : a.processed.strm.timestamp ∈ a.frame

/-- Lost packets reach the end of a frame of which nothing was accepted. -/
structure CompletesEmpty (strm : PacketStream) (pkt : List UInt8) : Prop where
  header : HasHeader pkt
  synced : strm.synced = true
  lost : strm.seq ≠ (PktHdr.ofBytes pkt).seq
  near : strm.gap (.ofBytes pkt) ≤ 5
  wraps : strm.pktsPerFrame ≤ strm.pktNum + strm.gap (.ofBytes pkt)
  empty : strm.gotPkts = 0

/-! ### What the counters say about the history

The counters are cleared on a sync and at the end of a frame, and the history is cleared with them.
-/

/-- The counters of a stream agree with the timestamps accepted for its frame. -/
structure PacketStream.Counts (s : PacketStream) (accepted : List UInt32) : Prop where
  gotPkts : s.gotPkts = accepted.length
  lastTimestamp : accepted ≠ [] → s.lastTimestamp ∈ accepted

section Finish

variable {s : PacketStream} {hdr : PktHdr} {data : List UInt8} {chunkCb : Bool} {got : ℕ}
  {accepted : List UInt32}

/-- The four ways of a packet of a stream of fixed length. -/
theorem finish_ways (hg : s.Fixed) (hdr : PktHdr) (data : List UInt8) (chunkCb : Bool) (got : ℕ) :
    s.finish hdr data chunkCb got =
        { strm := { s with synced := false }, payload := none, gotFrameSize := got } ∨
    s.finish hdr data chunkCb got = { strm := s, payload := none, gotFrameSize := got } ∨
    (hdr.flag ≠ s.eof ∧ s.finish hdr data chunkCb got =
        { strm := s.stored hdr, payload := some (s.payloadOp data chunkCb), gotFrameSize := got }) ∨
    (hdr.flag = s.eof ∧ s.pktNum + 1 = s.pktsPerFrame ∧ s.finish hdr data chunkCb got =
        { strm := s.storedLast hdr, payload := some (s.payloadOp data chunkCb)
          gotFrameSize := s.pktNum * s.pktSize + s.lastPktSize }) := by
  cases hc : s.check hdr.flag data.length with
  | resync => exact Or.inl (by simp only [PacketStream.finish, hc])
  | drop => exact Or.inr (Or.inl (by simp only [PacketStream.finish, hc]))
  | accept =>
    obtain ⟨-, -, heof⟩ := check_accept hg.flagClear hg.two_le hc
    by_cases he : hdr.flag = s.eof
    · refine Or.inr (Or.inr (Or.inr ⟨he, (heof hg.variableLength).1 he, ?_⟩))
      simp only [PacketStream.finish, hc, PacketStream.accept_of_eof he, hg.variableLength,
        Bool.false_eq_true, if_false]
    · refine Or.inr (Or.inr (Or.inl ⟨he, ?_⟩))
      simp only [PacketStream.finish, hc, PacketStream.accept_of_ne_eof he]

/-- A payload is stored: one more timestamp. -/
theorem PacketStream.Counts.stored (h : s.Counts accepted) :
    (s.stored hdr).Counts (accepted ++ [hdr.timestamp]) where
  gotPkts := by
    rw [List.length_append, ← h.gotPkts]
    rfl
  lastTimestamp _ := List.mem_append_right _ (List.mem_singleton_self _)

/-- A packet behind which no frame was completed: the counters go on, and if it completes its frame,
the frame is a real one. -/
theorem finish_counts (hdr : PktHdr) (data : List UInt8) (chunkCb : Bool) (hg : s.Fixed)
    (h : s.Counts accepted) :
    let o := s.finish hdr data chunkCb 0
    (o.strm.synced = true → o.strm.Counts
      (if o.gotFrameSize = 0 then accepted ++ o.own hdr
        else if hdr.flag = s.eof then [] else o.own hdr)) ∧
    (o.gotFrameSize ≠ 0 → 1 ≤ o.strm.validPkts ∧
      o.strm.timestamp ∈ if hdr.flag = s.eof then accepted ++ o.own hdr else accepted) := by
  have hpos := hg.sized.lastPktSize_pos
  rcases finish_ways hg hdr data chunkCb 0 with heq | heq | ⟨he, heq⟩ | ⟨he, -, heq⟩ <;> rw [heq]
  · exact ⟨fun hs ↦ absurd hs Bool.false_ne_true, fun hgot ↦ absurd rfl hgot⟩
  · refine ⟨fun _ ↦ ?_, fun hgot ↦ absurd rfl hgot⟩
    simpa [Processed.own] using h
  · refine ⟨fun _ ↦ ?_, fun hgot ↦ absurd rfl hgot⟩
    exact h.stored
  · have hsize : s.pktNum * s.pktSize + s.lastPktSize ≠ 0 := by omega
    refine ⟨fun _ ↦ ?_, fun _ ↦ ⟨Nat.le_add_left 1 _, ?_⟩⟩
    · rw [if_neg hsize, if_pos he]
      exact ⟨rfl, fun hne ↦ absurd rfl hne⟩
    · rw [if_pos he]
      exact List.mem_append_right _ (List.mem_singleton_self _)

/-- A packet behind the end of a frame: it is the first that the next frame may accept. -/
theorem finish_wrapped (hdr : PktHdr) (data : List UInt8) (chunkCb : Bool)
    (accepted : List UInt32) (hg : s.Fixed) (hgot : got ≠ 0)
    (hnum : s.pktNum + 1 < s.pktsPerFrame) (h : s.Counts []) :
    let o := s.finish hdr data chunkCb got
    (o.strm.synced = true → o.strm.Counts
      (if o.gotFrameSize = 0 then accepted ++ o.own hdr
        else if hdr.flag = s.eof then [] else o.own hdr)) ∧
    o.gotFrameSize ≠ 0 ∧ o.strm.validPkts = s.validPkts ∧ o.strm.timestamp = s.timestamp ∧
    (hdr.flag = s.eof → o.own hdr = []) := by
  rcases finish_ways hg hdr data chunkCb got with heq | heq | ⟨he, heq⟩ | ⟨-, hlast, -⟩
  · rw [heq]
    exact ⟨fun hs ↦ absurd hs Bool.false_ne_true, hgot, rfl, rfl, fun _ ↦ rfl⟩
  · rw [heq]
    refine ⟨fun _ ↦ ?_, hgot, rfl, rfl, fun _ ↦ rfl⟩
    simpa [Processed.own, hgot] using h
  · rw [heq]
    refine ⟨fun _ ↦ ?_, hgot, rfl, rfl, fun heof ↦ absurd heof he⟩
    rw [if_neg hgot, if_neg he]
    exact h.stored
  · omega

end Finish

/-! ### One call

The cases are those of the inversion rule for a call. Each of them either keeps the account or
completes an empty frame. -/

section Step

variable {g : StreamGeometry} {r : Reception} {call : List UInt8 × Bool}

/-- A packet without the header of the camera is skipped. -/
theorem streamProcess_of_not_hasHeader {strm : PacketStream} {pkt : List UInt8} {chunkCb : Bool}
    (h : ¬ HasHeader pkt) :
    streamProcess strm pkt chunkCb = { strm := strm, payload := none, gotFrameSize := 0 } := by
  rw [streamProcess]
  split
  · rfl
  next hlen =>
    split
    · rfl
    next hmagic =>
      obtain ⟨h0, h1⟩ := not_or.1 hmagic
      exact absurd ⟨Nat.not_lt.1 hlen, not_not.1 h0, not_not.1 h1⟩ h

/-- What is known between two calls. -/
structure Reception.Good (g : StreamGeometry) (r : Reception) : Prop where
  geometry : r.strm.toStreamGeometry = g
  bounded : r.strm.Bounded
  synced : r.strm.synced = true → r.strm.Counts r.accepted
  unsynced : r.strm.synced = false → r.accepted = []

/-- The call goes on counting, and it delivers a real frame or none, unless lost packets complete an
empty one. -/
structure Reception.Goes (r : Reception) (call : List UInt8 × Bool) : Prop where
  counts : (r.step call).1.strm.synced = true →
    (r.step call).1.strm.Counts (r.step call).1.accepted
  real : ((r.step call).2.processed.gotFrameSize ≠ 0 → (r.step call).2.Real) ↔
    ¬ CompletesEmpty r.strm call.1

/-- What a synced stream has accepted after a call. -/
theorem Reception.step_accepted (hs : (r.step call).1.strm.synced = true) :
    (r.step call).1.accepted =
      if (streamProcess r.strm call.1 call.2).gotFrameSize = 0 then
        r.accepted ++ (streamProcess r.strm call.1 call.2).own (.ofBytes call.1)
      else if (PktHdr.ofBytes call.1).flag = r.strm.eof then []
      else (streamProcess r.strm call.1 call.2).own (.ofBytes call.1) := by
  refine if_neg fun hsync ↦ ?_
  exact Bool.false_ne_true (hsync.symm.trans hs)

/-- A packet that is skipped. -/
theorem Reception.goes_of_skip (h : r.Good g) (hempty : ¬ CompletesEmpty r.strm call.1)
    (hskip : streamProcess r.strm call.1 call.2 =
      { strm := r.strm, payload := none, gotFrameSize := 0 }) : r.Goes call where
  counts hs := by
    rw [step_accepted hs]
    rw [Reception.step] at hs ⊢
    rw [hskip] at hs ⊢
    simpa [Processed.own] using h.synced hs
  real := by
    rw [Reception.step]
    rw [hskip]
    exact iff_of_true (fun hgot ↦ absurd rfl hgot) hempty

/-- A packet before which no frame ended: `s` is the stream that is left for it. -/
theorem Reception.goes_of_finish {s : PacketStream} (hg : s.Fixed) (hs : s.Counts r.accepted)
    (heof : s.eof = r.strm.eof) (hempty : ¬ CompletesEmpty r.strm call.1)
    (hfinish : streamProcess r.strm call.1 call.2 =
      s.finish (.ofBytes call.1) (pktData call.1) call.2 0) : r.Goes call := by
  obtain ⟨hcounts, hreal⟩ :=
    finish_counts (.ofBytes call.1) (pktData call.1) call.2 hg hs
  rw [heof, ← hfinish] at hcounts hreal
  refine ⟨fun hsync ↦ ?_, iff_of_true (fun hgot ↦ ?_) hempty⟩
  · rw [step_accepted hsync]
    exact hcounts hsync
  · exact ⟨(hreal hgot).1, (hreal hgot).2⟩

/-- A packet before which lost packets completed a frame. -/
theorem Reception.goes_of_wrapped (h : r.Good g) (hg : r.strm.Fixed) (hP : 6 ≤ r.strm.pktsPerFrame)
    (hs : r.strm.synced = true) (hempty : CompletesEmpty r.strm call.1 ↔ r.strm.gotPkts = 0)
    (hnear : r.strm.gap (.ofBytes call.1) ≤ 5)
    (hfinish : streamProcess r.strm call.1 call.2 =
      (r.strm.wrappedTo (.ofBytes call.1)).finish (.ofBytes call.1) (pktData call.1) call.2
        r.strm.frameSize) : r.Goes call := by
  have hsize : r.strm.frameSize ≠ 0 := hg.sized.frameSize_ne_zero
  have hin := h.bounded.pktNum_lt hs hg.variableLength
  have hnum : (r.strm.wrappedTo (.ofBytes call.1)).pktNum + 1 < r.strm.pktsPerFrame := by
    show r.strm.pktNum + r.strm.gap _ - r.strm.pktsPerFrame + 1 < _
    omega
  have hnone : (r.strm.wrappedTo (.ofBytes call.1)).Counts [] := ⟨rfl, fun hne ↦ absurd rfl hne⟩
  obtain ⟨hcounts, hgot, hvalid, htimestamp, hown⟩ :=
    finish_wrapped (s := r.strm.wrappedTo (.ofBytes call.1)) (.ofBytes call.1) (pktData call.1)
      call.2 r.accepted hg hsize hnum hnone
  rw [← hfinish] at hcounts hgot hvalid htimestamp hown
  have hr := h.synced hs
  refine ⟨fun hsync ↦ ?_, ?_⟩
  · rw [step_accepted hsync]
    exact hcounts hsync
  · -- the frame has the packets counted before, and the timestamp of the last of them
    rw [hempty]
    constructor
    · intro hreal hzero
      have hvalidPkts := (hreal hgot).validPkts
      have hcount : (r.step call).2.processed.strm.validPkts = 0 := hvalid.trans hzero
      omega
    · intro hne _
      have haccepted : r.accepted ≠ [] := by
        intro hnil
        rw [hr.gotPkts, hnil] at hne
        exact hne rfl
      refine ⟨(Nat.pos_of_ne_zero hne).trans_eq hvalid.symm, ?_⟩
      have hmem : r.strm.lastTimestamp ∈ r.accepted := hr.lastTimestamp haccepted
      show _ ∈ if _ then _ else _
      rw [show (r.step call).2.processed.strm.timestamp = r.strm.lastTimestamp from htimestamp]
      split
      · exact List.mem_append_left _ hmem
      · exact hmem

/-- **The step lemma.** -/
theorem Reception.Good.goes (h : r.Good g) (hg : g.Fixed) (hP : 6 ≤ g.pktsPerFrame)
    (call : List UInt8 × Bool) : r.Goes call := by
  have hfixed : r.strm.Fixed := h.geometry ▸ hg
  have hlen : 6 ≤ r.strm.pktsPerFrame := h.geometry ▸ hP
  by_cases hpkt : HasHeader call.1
  swap
  · exact goes_of_skip h (fun hc ↦ hpkt hc.header) (streamProcess_of_not_hasHeader hpkt)
  cases hs : r.strm.synced with
  | false =>
    have hempty : ¬ CompletesEmpty r.strm call.1 := fun hc ↦
      Bool.false_ne_true (hs.symm.trans hc.synced)
    -- an unsynced stream: it syncs on a start of frame with nothing accepted, or skips the packet
    by_cases hsof : (PktHdr.ofBytes call.1).flag = r.strm.sof
    · have hcounts : (r.strm.syncedOn (.ofBytes call.1)).Counts r.accepted := by
        rw [h.unsynced hs]
        exact ⟨rfl, fun hne ↦ absurd rfl hne⟩
      exact goes_of_finish (s := r.strm.syncedOn (.ofBytes call.1)) hfixed hcounts rfl hempty
        (streamProcess_sof hpkt hs hsof)
    · exact goes_of_skip h hempty (streamProcess_unsynced hpkt hs hsof)
  | true =>
    have hcall : streamProcess r.strm call.1 call.2 = _ := streamProcess_lost hpkt hs
    have hr := h.synced hs
    -- the four ways of a gap; only the one over the end of a frame can complete an empty one
    rcases PacketStream.handleLost_cases r.strm (.ofBytes call.1) with
      ⟨hseq, heq⟩ | ⟨hseq, hfar, heq⟩ | ⟨hseq, -, hnear, hwrap, heq⟩ | ⟨hseq, -, hnear, hin, heq⟩
    · rw [heq] at hcall
      exact goes_of_finish hfixed hr rfl (fun hc ↦ hc.lost hseq) hcall
    · rw [heq] at hcall
      have hempty : ¬ CompletesEmpty r.strm call.1 := fun hc ↦ by
        have hnear := hc.near
        rcases hfar with hfar | hvar
        · omega
        · exact Bool.false_ne_true (hfixed.variableLength.symm.trans hvar)
      refine ⟨fun hsync ↦ ?_, ?_⟩
      · have hsync : (streamProcess r.strm call.1 call.2).strm.synced = true := hsync
        rw [hcall] at hsync
        cases hsync
      · rw [Reception.step]
        rw [hcall]
        exact iff_of_true (fun hgot ↦ absurd rfl hgot) hempty
    · rw [heq] at hcall
      exact goes_of_wrapped h hfixed hlen hs
        ⟨CompletesEmpty.empty, fun hzero ↦ ⟨hpkt, hs, hseq, hnear, hwrap, hzero⟩⟩ hnear hcall
    · rw [heq] at hcall
      have hempty : ¬ CompletesEmpty r.strm call.1 := fun hc ↦ by
        have hwraps := hc.wraps
        omega
      exact goes_of_finish (s := r.strm.skippedTo (.ofBytes call.1)) hfixed
        ⟨hr.gotPkts, hr.lastTimestamp⟩ rfl hempty hcall

/-- What is known between two calls is known after the next one. -/
theorem Reception.Good.step (h : r.Good g) (hg : g.Fixed) (hP : 6 ≤ g.pktsPerFrame)
    (call : List UInt8 × Bool) : (r.step call).1.Good g where
  geometry := streamProcess_geometry.trans h.geometry
  bounded :=
    (streamProcess_bounds call.1 call.2 (h.geometry ▸ hg.sized) (h.geometry ▸ hg.flagClear)
      (h.geometry ▸ hg.two_le) h.bounded).1
  synced := (h.goes hg hP call).counts
  unsynced hs := if_pos hs

end Step

/-! ### Runs

From the step lemma to a whole run with the rule for an exact condition, and that runs without a
packet that is too long meet the condition. -/

section Runs

variable {g : StreamGeometry} {r : Reception}

/-- A condition on the stream holds along a run with its history if it holds along the run. -/
theorem along_strm {P : PacketStream → List UInt8 × Bool → Prop} (r : Reception)
    (calls : List (List UInt8 × Bool)) :
    Mealy.Along Reception.step (fun r call ↦ P r.strm call) r calls ↔
      Mealy.Along streamStep P r.strm calls := by
  induction calls generalizing r with
  | nil => exact Iff.rfl
  | cons call calls ih => exact and_congr_right fun _ ↦ ih _

/-- A packet that is not too long: the last of a frame may be shorter than the others. -/
def Fits (g : StreamGeometry) (pkt : List UInt8) : Prop :=
  (pktData pkt).length ≤ if (PktHdr.ofBytes pkt).flag = g.eof then g.lastPktSize else g.pktSize

/-- A stream that drops nothing has either stored a packet of its frame or not got beyond its
start. -/
def Started (s : PacketStream) : Prop := s.synced = true → s.pktNum = 0 ∨ s.gotPkts ≠ 0

/-- A packet that is not too long is not dropped. -/
theorem check_ne_drop {s : PacketStream} {pkt : List UInt8} (hg : s.Fixed)
    (hfits : Fits s.toStreamGeometry pkt) :
    s.check (PktHdr.ofBytes pkt).flag (pktData pkt).length ≠ .drop := by
  have htwo := hg.two_le
  rcases PacketStream.check_fixed hg.variableLength (PktHdr.ofBytes pkt).flag (pktData pkt).length
    with ⟨-, hc⟩ | ⟨hin, hlong, -⟩ | ⟨-, -, hc⟩
  · rw [hc]
    exact nofun
  · -- in its place, a packet is expected to have the length that its flag allows
    rw [Fits] at hfits
    rw [PacketStream.expectedPktSize] at hlong
    rcases hin with ⟨h0, hflag⟩ | ⟨hlast, hflag⟩ | ⟨-, hmid, hflag⟩
    · rw [hflag, if_neg hg.flagClear.sof_ne_eof] at hfits
      rw [if_neg (by omega)] at hlong
      omega
    · rw [hflag, if_pos rfl] at hfits
      rw [if_pos hlast] at hlong
      omega
    · rw [hflag, if_neg hg.flagClear.mof_ne_eof] at hfits
      rw [if_neg (by omega)] at hlong
      omega
  · rw [hc]
    exact nofun

/-- So a stream stays one that has stored something of its frame, or has not got beyond its start.
-/
theorem Started.step {s : PacketStream} (h : Started s) (hg : s.Fixed)
    (call : List UInt8 × Bool) (hfits : Fits s.toStreamGeometry call.1) :
    Started (streamStep s call).1 := by
  refine streamProcess_cases (P := fun o ↦ Started o.strm) h
    (fun _ _ hsync ↦ absurd hsync Bool.false_ne_true) ?_
  intro s₁ s₂ got hs₁ hs₂
  have hgeom : s₂.toStreamGeometry = s.toStreamGeometry :=
    congrArg Prod.fst ((PacketStream.setup_of_handleLost hs₂).trans
      (PacketStream.setup_of_sync hs₁))
  have hdrop := check_ne_drop (s := s₂) (hgeom ▸ hg) (hgeom ▸ hfits)
  cases hc : s₂.check (PktHdr.ofBytes call.1).flag (pktData call.1).length with
  | resync =>
    rw [PacketStream.finish, hc]
    exact fun hsync ↦ absurd hsync Bool.false_ne_true
  | drop => exact absurd hc hdrop
  | accept =>
    rw [PacketStream.finish, hc]
    by_cases he : (PktHdr.ofBytes call.1).flag = s₂.eof
    · rw [PacketStream.accept_of_eof he]
      exact fun _ ↦ Or.inl rfl
    · rw [PacketStream.accept_of_ne_eof he]
      exact fun _ ↦ Or.inr (Nat.succ_ne_zero _)

/-- **Without packets that are too long**, all delivered frames are real. -/
theorem along_of_fits {s : PacketStream} (hg : s.Fixed) (hP : 6 ≤ s.pktsPerFrame)
    (hs : s.synced = false) {calls : List (List UInt8 × Bool)}
    (hfits : ∀ call ∈ calls, Fits s.toStreamGeometry call.1) :
    Mealy.Along streamStep (fun strm call ↦ ¬ CompletesEmpty strm call.1) s calls := by
  have hstart : Started s := fun hsync ↦ absurd (hs.symm.trans hsync) Bool.false_ne_true
  clear hs
  induction calls generalizing s with
  | nil => trivial
  | cons call calls ih =>
    obtain ⟨hcall, hrest⟩ := List.forall_mem_cons.1 hfits
    have hgeom : (streamStep s call).1.toStreamGeometry = s.toStreamGeometry :=
      streamProcess_geometry
    refine ⟨fun hc ↦ ?_, ih (hgeom ▸ hg) (hgeom ▸ hP) (hgeom ▸ hrest) (hstart.step hg call hcall)⟩
    have hwraps := hc.wraps
    have hnear := hc.near
    rcases hstart hc.synced with h0 | hne
    · omega
    · exact hne hc.empty

/-- **When all delivered frames are real**: exactly in the runs in which lost packets never complete
a frame of which nothing was accepted. -/
theorem real_frames_iff (prev : PacketStream) (rlen plen : ℕ) (lib raw : Ptr)
    (hflag : prev.FlagClear) (hv : prev.variableLength = false)
    (hP : 6 ≤ (streamInit prev rlen plen lib raw).pktsPerFrame)
    (calls : List (List UInt8 × Bool)) :
    let s := streamInit prev rlen plen lib raw
    (∀ a ∈ Mealy.trace Reception.step { strm := s, accepted := [] } calls,
      a.processed.gotFrameSize ≠ 0 → a.Real) ↔
    Mealy.Along streamStep (fun strm call ↦ ¬ CompletesEmpty strm call.1) s calls := by
  intro s
  have hfixed : s.Fixed := streamInit_fixed hflag hv (by omega)
  have hs : s.synced = false := streamInit_synced _ _ _ _ _
  have hgood : Reception.Good s.toStreamGeometry { strm := s, accepted := [] } :=
    ⟨rfl, PacketStream.bounded_of_unsynced hs,
      fun hsync ↦ absurd (hs.symm.trans hsync) Bool.false_ne_true, fun _ ↦ rfl⟩
  have halong := along_strm (P := fun strm call ↦ ¬ CompletesEmpty strm call.1)
    { strm := s, accepted := [] } calls
  rw [Mealy.forall_trace_iff_along, ← halong]
  exact Mealy.Along.congr (I := Reception.Good s.toStreamGeometry)
    (fun r call h ↦ (h.goes hfixed hP call).real) (fun r call h _ ↦ h.step hfixed hP call) hgood
    calls

end Runs

/-- The packets of a frame, with two bytes of payload each, and the first of the next one. -/
def tooLong : List (List UInt8 × Bool) :=
  [(mkPacket 0x71 0 9 [1, 2], false), (mkPacket 0x72 1 9 [1, 2], false),
    (mkPacket 0x72 2 9 [1, 2], false), (mkPacket 0x72 3 9 [1, 2], false),
    (mkPacket 0x72 4 9 [1, 2], false), (mkPacket 0x75 5 9 [1, 2], false),
    (mkPacket 0x71 6 10 [1], false)]

/-- A frame all of whose packets are too long is delivered. -/
theorem too_long_frame :
    ¬ ∀ a ∈ Mealy.trace Reception.step { strm := streamInit tinyStream 0 6 1 2, accepted := [] }
      tooLong, a.processed.gotFrameSize ≠ 0 → a.Real := by
  intro h
  have hframe := h (Reception.step (Mealy.run Reception.step
    { strm := streamInit tinyStream 0 6 1 2, accepted := [] } (tooLong.take 6))
      (mkPacket 0x71 6 10 [1], false)).2 ?_ (by decide)
  · exact absurd hframe.validPkts (by decide)
  · exact List.mem_of_getElem? (i := 6) rfl

/-- The equivalence for this run. -/
theorem real_frames_iff_tiny :
    (∀ a ∈ Mealy.trace Reception.step { strm := streamInit tinyStream 0 6 1 2, accepted := [] }
      tooLong, a.processed.gotFrameSize ≠ 0 → a.Real) ↔
    Mealy.Along streamStep (fun strm call ↦ ¬ CompletesEmpty strm call.1)
      (streamInit tinyStream 0 6 1 2) tooLong :=
  real_frames_iff tinyStream 0 6 1 2 (by decide) rfl (by decide) tooLong

end Freenect
