import Freenect.Camera.Sender
import Freenect.Camera.StreamBounds
import Mathlib.Algebra.Order.Interval.Finset.SuccPred
import Mathlib.Data.Finset.Card
import Mathlib.Data.Nat.SuccPred
import Mathlib.Order.Interval.Finset.Nat

/-!
# Alignment under loss

A camera sends frames without end and some packets never arrive. The receiver sees eight bits of
sequence number and keeps an index `pktNum` into a frame; the sender's packet index is unbounded.
`AlignedAt q₀ n s` relates the two: a synced stream that waits for packet `n` has sequence number
`q₀ + n` modulo 256 and index `n` modulo the packets of a frame.

* `aligned_call` is the one case analysis: what a synced, aligned stream does with the next packet
  that arrives, as long as fewer than 256 were lost before it. A gap of more than five resyncs; a
  smaller one moves the index along, over the end of the frame or not, and the packet is then
  stored at its own slot.
* `AlignedAt.step` and `AlignedAt.step_near` are the two step lemmas drawn from it, for any loss
  and for losses of at most five, and the run lemmas follow by induction.

The number of lost packets and the number of frame ends passed are functions of the packet
indices alone (`lostBetween`, `frameEnds`).

**Why 256 and why five.** The receiver sees a gap modulo 256, so a run of 256 lost packets would
look like none, and nothing could be said of where the next payload goes. A gap of more than five
makes the stream unsynced, and then it stores nothing until the next start of frame. So any loss
below 256 stores payloads at their own slots or not at all, while losses of at most five keep the
stream synced and, beyond that, make every frame end produce exactly one returned frame.
-/

namespace Freenect

/-- The packets of well-formed frames sent without end; packet zero has sequence number `q₀`. -/
def IsSender (g : StreamGeometry) (q₀ : UInt8) (packets : ℕ → List UInt8) : Prop :=
  ∀ i, IsPacket g (i % g.pktsPerFrame) (q₀ + UInt8.ofNat i) (packets i)

/-- Packet `call.1` arrives, and `call.2` says whether a chunk callback is set. -/
def linkStep (packets : ℕ → List UInt8) (s : PacketStream) (call : ℕ × Bool) :
    PacketStream × (ℕ × Processed) :=
  ((streamProcess s (packets call.1) call.2).strm,
    (call.1, streamProcess s (packets call.1) call.2))

/-- The packets arrive in the order of sending, and never are 256 or more in a row lost while the
stream is synced; `next` is the first packet that can still arrive. -/
def LossBelow256 (packets : ℕ → List UInt8) : PacketStream → ℕ → List (ℕ × Bool) → Prop
  | _, _, [] => True
  | s, next, call :: calls =>
    next ≤ call.1 ∧ (s.synced = true → call.1 < next + 256) ∧
      LossBelow256 packets (linkStep packets s call).1 (call.1 + 1) calls

/-- The packets arrive in the order of sending, with at most five lost before each. What else comes
with a packet does not matter here. -/
def LossWithin5 {α : Type} : ℕ → List (ℕ × α) → Prop
  | _, [] => True
  | next, call :: calls => next ≤ call.1 ∧ call.1 ≤ next + 5 ∧ LossWithin5 (call.1 + 1) calls

/-- The packet the receiver waits for after some arrivals. -/
def nextAfter {α : Type} : ℕ → List (ℕ × α) → ℕ
  | next, [] => next
  | _, call :: calls => nextAfter (call.1 + 1) calls

/-- How many packets were lost on the way. -/
def lostBetween {α : Type} : ℕ → List (ℕ × α) → ℕ
  | _, [] => 0
  | next, call :: calls => (call.1 - next) + lostBetween (call.1 + 1) calls

/-- How many of the packets from `a` on and before `b` are the last of their frame. -/
def frameEnds (P a b : ℕ) : ℕ := ((Finset.Ico a b).filter fun e ↦ P ∣ e + 1).card

/-! ### Indices and sequence numbers

Facts about division and remainder by the packets of a frame, and about sequence numbers in eight
bits. A frame has more than five packets, so a small gap passes at most one end. -/

/-- The ends on the way are the difference of the two frame numbers. -/
theorem frameEnds_eq {P a b : ℕ} (h : a ≤ b) : frameEnds P a b + a / P = b / P := by
  induction b, h using Nat.le_induction with
  | base => simp [frameEnds]
  | succ b h ih =>
    have hnot : b ∉ (Finset.Ico a b).filter fun e ↦ P ∣ e + 1 := by simp
    rw [frameEnds] at ih ⊢
    rw [← Finset.insert_Ico_right_eq_Ico_add_one h, Finset.filter_insert, Nat.succ_div]
    split
    · rw [Finset.card_insert_of_notMem hnot]
      omega
    · omega

/-- The difference of two sequence numbers, as the receiver computes it. -/
theorem seq_sub_seq (q : UInt8) {n j : ℕ} (hnj : n ≤ j) (hlt : j < n + 256) :
    ((q + UInt8.ofNat j) - (q + UInt8.ofNat n)).toNat = j - n := by
  simp only [UInt8.toNat_sub, UInt8.toNat_add, UInt8.toNat_ofNat']
  omega

/-- Within 256 packets a sequence number tells them apart. -/
theorem seq_eq_iff (q : UInt8) {n j : ℕ} (hnj : n ≤ j) (hlt : j < n + 256) :
    q + UInt8.ofNat n = q + UInt8.ofNat j ↔ n = j := by
  rw [← UInt8.toNat_inj]
  simp only [UInt8.toNat_add, UInt8.toNat_ofNat']
  omega

/-- Moving `d` places along a frame of more than five packets, over its end or not. -/
theorem index_of_gap {P n j : ℕ} (hP : 6 ≤ P) (hnj : n ≤ j) (h5 : j ≤ n + 5) :
    (n % P + (j - n) < P ∧ j % P = n % P + (j - n) ∧ j / P = n / P) ∨
    (P ≤ n % P + (j - n) ∧ j % P = n % P + (j - n) - P ∧ j / P = n / P + 1) := by
  have hdiv := Nat.div_add_mod n P
  have hmod := Nat.mod_lt n (show 0 < P by omega)
  rcases Nat.lt_or_ge (n % P + (j - n)) P with hlt | hge
  · have hj : j = n % P + (j - n) + P * (n / P) := by omega
    refine Or.inl ⟨hlt, ?_, ?_⟩
    · conv_lhs => rw [hj, Nat.add_mul_mod_self_left, Nat.mod_eq_of_lt hlt]
    · conv_lhs => rw [hj, Nat.add_mul_div_left _ _ (by omega), Nat.div_eq_of_lt hlt, Nat.zero_add]
  · have hj : j = n % P + (j - n) - P + P * (n / P + 1) := by rw [Nat.mul_succ]; omega
    have hlt : n % P + (j - n) - P < P := by omega
    refine Or.inr ⟨hge, ?_, ?_⟩
    · conv_lhs => rw [hj, Nat.add_mul_mod_self_left, Nat.mod_eq_of_lt hlt]
    · conv_lhs => rw [hj, Nat.add_mul_div_left _ _ (by omega), Nat.div_eq_of_lt hlt, Nat.zero_add]

/-- The packet behind the last one of a frame. -/
theorem succ_of_last {P j : ℕ} (hP : 2 ≤ P) (h : j % P + 1 = P) :
    (j + 1) % P = 0 ∧ j / P < (j + 1) / P := by
  have hmod : (j + 1) % P = 0 := by
    rw [Nat.add_mod, Nat.mod_eq_of_lt (show 1 < P by omega), h, Nat.mod_self]
  refine ⟨hmod, ?_⟩
  rw [Nat.succ_div_of_dvd (Nat.dvd_of_mod_eq_zero hmod)]
  exact Nat.lt_succ_self _

/-- The packet behind any other one. -/
theorem succ_of_inner {P j : ℕ} (hP : 2 ≤ P) (h : j % P + 1 ≠ P) :
    (j + 1) % P = j % P + 1 ∧ (j + 1) / P = j / P := by
  have hlt := Nat.mod_lt j (show 0 < P by omega)
  have hmod : (j + 1) % P = j % P + 1 := by
    rw [Nat.add_mod, Nat.mod_eq_of_lt (show 1 < P by omega)]
    exact Nat.mod_eq_of_lt (by omega)
  refine ⟨hmod, Nat.succ_div_of_not_dvd fun hdvd ↦ ?_⟩
  rw [Nat.mod_eq_zero_of_dvd hdvd] at hmod
  cases hmod

/-- At most one frame ends between the packet waited for and one that arrives after a small gap. -/
theorem ends_of_gap {P n j : ℕ} (hP : 6 ≤ P) (hnj : n ≤ j) (h5 : j ≤ n + 5) :
    n / P ≤ (j + 1) / P ∧ (j + 1) / P ≤ n / P + 1 := by
  refine ⟨Nat.div_le_div_right (by omega), ?_⟩
  calc (j + 1) / P ≤ (n + P) / P := Nat.div_le_div_right (by omega)
    _ = n / P + 1 := Nat.add_div_right n (by omega)

/-- The packet waited for only moves on. -/
theorem nextAfter_le {α : Type} {n : ℕ} {calls : List (ℕ × α)} (h : LossWithin5 n calls) :
    n ≤ nextAfter n calls := by
  induction calls generalizing n with
  | nil => exact Nat.le_refl n
  | cons call calls ih =>
    have := ih h.2.2
    have := h.1
    simp only [nextAfter]
    omega

/-! ### One packet

`Taken` is what is said of a call that stores its packet, whatever had been lost before; the
difference between the cases is in what was known of the stream. -/

open PacketStream

section Aligned

variable {s : PacketStream} {q₀ : UInt8} {packets : ℕ → List UInt8} {n j : ℕ} (chunkCb : Bool)

/-- A synced stream waits for packet `n` and stands at its index. -/
structure AlignedAt (q₀ : UInt8) (n : ℕ) (s : PacketStream) : Prop where
  seq : s.synced = true → s.seq = q₀ + UInt8.ofNat n
  pktNum : s.synced = true → s.pktNum = n % s.pktsPerFrame

/-- Of an unsynced stream nothing is said. -/
theorem alignedAt_of_unsynced (h : s.synced = false) : AlignedAt q₀ n s := by
  constructor <;> intro hs <;> rw [h] at hs <;> cases hs

/-- Packet `j` was taken by a stream that waited for packet `n`: it is stored at its own slot, the
lost packets are counted, and the call returns a frame if one ended on the way. -/
structure Taken (q₀ : UInt8) (s : PacketStream) (n j : ℕ) (data : List UInt8) (chunkCb : Bool)
    (o : Processed) : Prop where
  synced : o.strm.synced = true
  seq : o.strm.seq = q₀ + UInt8.ofNat (j + 1)
  pktNum : o.strm.pktNum = (j + 1) % s.pktsPerFrame
  payload : o.payload = some
    (if chunkCb then .chunk (j % s.pktsPerFrame) data
      else .memcpy (j % s.pktsPerFrame * s.pktSize) data)
  lostPkts : o.strm.lostPkts = s.lostPkts + UInt32.ofNat (j - n)
  size : o.gotFrameSize =
    if n / s.pktsPerFrame < (j + 1) / s.pktsPerFrame then s.frameSize else 0

/-- Packet `j` of the sender, in its place in its frame. -/
theorem IsSender.packet (hsend : IsSender s.toStreamGeometry q₀ packets) (j : ℕ) :
    IsPacket s.toStreamGeometry (j % s.pktsPerFrame) (q₀ + UInt8.ofNat j) (packets j) :=
  hsend j

/-- A stream that stands at the index of packet `j` takes it. It is the stream `s` that waited for
packet `n`, after the gap: the lost packets are counted, and the frame may have ended in it. -/
theorem taken_of_finish {t : PacketStream} {got : ℕ} (hg : s.Fixed)
    (hsend : IsSender s.toStreamGeometry q₀ packets) (hnj : n ≤ j)
    (hgeom : t.toStreamGeometry = s.toStreamGeometry) (hs : t.synced = true)
    (hseq : t.seq = q₀ + UInt8.ofNat j) (hnum : t.pktNum = j % s.pktsPerFrame)
    (hlost : t.lostPkts = s.lostPkts + UInt32.ofNat (j - n))
    (hgot : got = if n / s.pktsPerFrame < j / s.pktsPerFrame then s.frameSize else 0) :
    Taken q₀ s n j (pktData (packets j)) chunkCb
      (t.finish (.ofBytes (packets j)) (pktData (packets j)) chunkCb got) := by
  have hP := hg.two_le
  have hmod := Nat.mod_lt j (show 0 < s.pktsPerFrame by omega)
  have hdiv : n / s.pktsPerFrame ≤ j / s.pktsPerFrame := Nat.div_le_div_right hnj
  have hsucc : t.seq + 1 = q₀ + UInt8.ofNat (j + 1) := by
    rw [hseq, UInt8.ofNat_add, ← UInt8.add_assoc]
    rfl
  have hpayload : t.payloadOp (pktData (packets j)) chunkCb =
      if chunkCb then .chunk (j % s.pktsPerFrame) (pktData (packets j))
      else .memcpy (j % s.pktsPerFrame * s.pktSize) (pktData (packets j)) := by
    rw [payloadOp, hnum, hgeom]
  have hpkt := hsend.packet j
  rw [← hgeom] at hg hpkt hmod
  rw [hpkt.finish hg hmod (by rw [hgeom]; exact hnum), hpayload, afterPacket, hnum, hgeom]
  -- the last packet of its frame returns the frame, any other one what the gap has left
  by_cases hlast : j % s.pktsPerFrame + 1 = s.pktsPerFrame
  · obtain ⟨hmod', hend⟩ := succ_of_last hP hlast
    rw [if_pos hlast, if_pos hlast]
    exact ⟨hs, hsucc, hmod'.symm, rfl, hlost, (if_pos (hdiv.trans_lt hend)).symm⟩
  · obtain ⟨hmod', hsame⟩ := succ_of_inner hP hlast
    rw [if_neg hlast, if_neg hlast]
    refine ⟨hs, hsucc, ?_, rfl, hlost, ?_⟩
    · rw [hmod', ← hnum]
      rfl
    · rw [hsame]
      exact hgot

/-- **A packet behind a small gap**: at most five packets were lost before packet `j` reaches a
synced, aligned stream. -/
theorem aligned_call (hg : s.Fixed) (hP : 6 ≤ s.pktsPerFrame)
    (hsend : IsSender s.toStreamGeometry q₀ packets) (hal : AlignedAt q₀ n s)
    (hs : s.synced = true) (hnj : n ≤ j) (h5 : j ≤ n + 5) :
    Taken q₀ s n j (pktData (packets j)) chunkCb (streamProcess s (packets j) chunkCb) := by
  have hpkt := hsend.packet j
  have hseq := hal.seq hs
  have hnum := hal.pktNum hs
  have hgap : s.gap (.ofBytes (packets j)) = j - n := by
    rw [gap, hpkt.seq, hseq, seq_sub_seq q₀ hnj (by omega)]
  have hlost : ((PktHdr.ofBytes (packets j)).seq - s.seq).toUInt32 = UInt32.ofNat (j - n) := by
    rw [← hgap]
    exact UInt32.toNat_inj.1 (by simp [gap])
  rw [streamProcess_lost hpkt.header hs]
  by_cases heq : n = j
  · -- nothing was lost
    subst heq
    rw [handleLost_of_eq (hseq.trans hpkt.seq.symm)]
    refine taken_of_finish chunkCb hg hsend hnj rfl hs hseq hnum ?_
      (if_neg (Nat.lt_irrefl _)).symm
    rw [Nat.sub_self]
    exact (UInt32.add_zero s.lostPkts).symm
  have hne : s.seq ≠ (PktHdr.ofBytes (packets j)).seq := by
    rw [hseq, hpkt.seq]
    exact fun h ↦ heq ((seq_eq_iff q₀ hnj (by omega)).1 h)
  have hnear : s.gap (.ofBytes (packets j)) ≤ 5 := by omega
  rcases index_of_gap hP hnj h5 with ⟨hin, hmod, hdiv⟩ | ⟨hwrap, hmod, hdiv⟩
  · -- the gap stays inside the frame
    rw [handleLost_of_within hne hg.variableLength hnear (by rw [hgap, hnum]; exact hin)]
    refine taken_of_finish (t := s.skippedTo (.ofBytes (packets j))) chunkCb hg hsend hnj rfl hs
      hpkt.seq ?_ ?_ ?_
    · show s.pktNum + s.gap _ = _
      rw [hgap, hnum, hmod]
    · rw [← hlost]
      rfl
    · rw [hdiv, if_neg (Nat.lt_irrefl _)]
  · -- the gap ends the frame: the call returns it, whatever the packet itself is
    rw [handleLost_of_wrap hne hg.variableLength hnear (by rw [hgap, hnum]; exact hwrap)]
    refine taken_of_finish (t := s.wrappedTo (.ofBytes (packets j))) chunkCb hg hsend hnj rfl hs
      hpkt.seq ?_ ?_ ?_
    · show s.pktNum + s.gap _ - s.pktsPerFrame = _
      rw [hgap, hnum, hmod]
    · rw [← hlost]
      rfl
    · rw [hdiv, if_pos (Nat.lt_succ_self _)]

/-- An unsynced stream ignores every packet but the first of a frame, and takes that. -/
theorem unsynced_call (hg : s.Fixed) (hsend : IsSender s.toStreamGeometry q₀ packets)
    (hs : s.synced = false) :
    streamProcess s (packets j) chunkCb = { strm := s, payload := none, gotFrameSize := 0 } ∨
      (j % s.pktsPerFrame = 0 ∧
        Taken q₀ s j j (pktData (packets j)) chunkCb (streamProcess s (packets j) chunkCb)) := by
  have hpkt := hsend.packet j
  by_cases h0 : j % s.pktsPerFrame = 0
  · refine Or.inr ⟨h0, ?_⟩
    have hflag : (PktHdr.ofBytes (packets j)).flag = s.sof := by rw [hpkt.flag, if_pos h0]
    rw [streamProcess_sof hpkt.header hs hflag]
    refine taken_of_finish (t := s.syncedOn (.ofBytes (packets j))) chunkCb hg hsend
      (Nat.le_refl j) rfl rfl hpkt.seq h0.symm ?_ (if_neg (Nat.lt_irrefl _)).symm
    rw [Nat.sub_self]
    exact (UInt32.add_zero s.lostPkts).symm
  · exact Or.inl (streamProcess_unsynced hpkt.header hs (hpkt.flag_ne_sof hg h0))

/-- A stream of more than five packets a frame gives up after a gap of more than five. -/
theorem far_call (hsend : IsSender s.toStreamGeometry q₀ packets) (hal : AlignedAt q₀ n s)
    (hs : s.synced = true) (h5 : n + 5 < j) (hlt : j < n + 256) :
    streamProcess s (packets j) chunkCb =
      { strm := s.unsyncedBy (.ofBytes (packets j)), payload := none, gotFrameSize := 0 } := by
  have hpkt := hsend.packet j
  have hgap : s.gap (.ofBytes (packets j)) = j - n := by
    rw [gap, hpkt.seq, hal.seq hs, seq_sub_seq q₀ (by omega) hlt]
  have hne : s.seq ≠ (PktHdr.ofBytes (packets j)).seq := by
    rw [hal.seq hs, hpkt.seq]
    exact fun h ↦ absurd ((seq_eq_iff q₀ (by omega) hlt).1 h) (by omega)
  rw [streamProcess_lost hpkt.header hs, handleLost_of_far hne (Or.inl (by omega))]

/-- A stream that took packet `j` waits for the next. -/
theorem Taken.alignedAt {chunkCb : Bool} {o : Processed} {data : List UInt8}
    (hgeom : o.strm.pktsPerFrame = s.pktsPerFrame) (h : Taken q₀ s n j data chunkCb o) :
    AlignedAt q₀ (j + 1) o.strm :=
  ⟨fun _ ↦ h.seq, fun _ ↦ by rw [h.pktNum, hgeom]⟩

/-- **The step lemma for any loss** below 256: the stream stays aligned, and what it stores is
the packet's payload at the packet's slot. -/
theorem AlignedAt.step (hg : s.Fixed) (hP : 6 ≤ s.pktsPerFrame)
    (hsend : IsSender s.toStreamGeometry q₀ packets) (hal : AlignedAt q₀ n s) (hnj : n ≤ j)
    (hloss : s.synced = true → j < n + 256) :
    AlignedAt q₀ (j + 1) (streamProcess s (packets j) chunkCb).strm ∧
      ∀ off data, (streamProcess s (packets j) chunkCb).payload = some (.memcpy off data) →
        off = j % s.pktsPerFrame * s.pktSize ∧ data = pktData (packets j) := by
  have hgeom : (streamProcess s (packets j) chunkCb).strm.pktsPerFrame = s.pktsPerFrame :=
    congrArg StreamGeometry.pktsPerFrame streamProcess_geometry
  have hstored : ∀ m, Taken q₀ s m j (pktData (packets j)) chunkCb
      (streamProcess s (packets j) chunkCb) →
      ∀ off data, (streamProcess s (packets j) chunkCb).payload = some (.memcpy off data) →
        off = j % s.pktsPerFrame * s.pktSize ∧ data = pktData (packets j) := by
    intro m ht off data hop
    rw [ht.payload] at hop
    cases chunkCb with
    | true => cases hop
    | false =>
      injection Option.some.inj hop with hoff hdata
      exact ⟨hoff.symm, hdata.symm⟩
  -- an unsynced stream can only sync; a synced one may also give up on a large gap
  cases hs : s.synced with
  | false =>
    rcases unsynced_call (j := j) chunkCb hg hsend hs with hcall | ⟨-, ht⟩
    · rw [hcall]
      exact ⟨alignedAt_of_unsynced hs, fun _ _ h ↦ by simp at h⟩
    · exact ⟨ht.alignedAt hgeom, hstored j ht⟩
  | true =>
    rcases Nat.lt_or_ge (n + 5) j with hfar | hnear
    · rw [far_call chunkCb hsend hal hs hfar (hloss hs)]
      exact ⟨alignedAt_of_unsynced rfl, fun _ _ h ↦ by simp at h⟩
    · have ht := aligned_call chunkCb hg hP hsend hal hs hnj hnear
      exact ⟨ht.alignedAt hgeom, hstored n ht⟩

/-- What a run stores under any loss below 256. -/
theorem run_stores (hg : s.Fixed) (hP : 6 ≤ s.pktsPerFrame)
    (hsend : IsSender s.toStreamGeometry q₀ packets) (calls : List (ℕ × Bool))
    (hal : AlignedAt q₀ n s) (hloss : LossBelow256 packets s n calls) :
    ∀ o ∈ Mealy.trace (linkStep packets) s calls, ∀ off data,
      o.2.payload = some (.memcpy off data) →
        off = o.1 % s.pktsPerFrame * s.pktSize ∧ data = pktData (packets o.1) := by
  induction calls generalizing s n with
  | nil => simp
  | cons call calls ih =>
    obtain ⟨hnj, hlt, hrest⟩ := hloss
    obtain ⟨hal', hstored⟩ := AlignedAt.step call.2 hg hP hsend hal hnj hlt
    have hgeom : (linkStep packets s call).1.toStreamGeometry = s.toStreamGeometry :=
      streamProcess_geometry
    intro o ho
    rcases List.mem_cons.1 ho with rfl | ho
    · exact hstored
    · have := ih (s := (linkStep packets s call).1) (hgeom ▸ hg) (hgeom ▸ hP) (hgeom ▸ hsend)
        hal' hrest o ho
      rwa [hgeom] at this

/-- The state a run with small losses is in: synced, aligned, all lost packets counted. -/
theorem run_near (hg : s.Fixed) (hP : 6 ≤ s.pktsPerFrame)
    (hsend : IsSender s.toStreamGeometry q₀ packets) (calls : List (ℕ × Bool))
    (hal : AlignedAt q₀ n s) (hs : s.synced = true) (hloss : LossWithin5 n calls) :
    (∀ o ∈ Mealy.trace (linkStep packets) s calls, o.2.strm.synced = true) ∧
      (Mealy.run (linkStep packets) s calls).lostPkts =
        s.lostPkts + UInt32.ofNat (lostBetween n calls) ∧
      (Mealy.trace (linkStep packets) s calls).countP (fun o ↦ o.2.gotFrameSize ≠ 0) =
        frameEnds s.pktsPerFrame n (nextAfter n calls) := by
  induction calls generalizing s n with
  | nil =>
    refine ⟨by simp, ?_, ?_⟩
    · exact (UInt32.add_zero s.lostPkts).symm
    · simp [frameEnds, nextAfter]
  | cons call calls ih =>
    obtain ⟨hnj, h5, hrest⟩ := hloss
    have ht := aligned_call call.2 hg hP hsend hal hs hnj h5
    have hgeom : (linkStep packets s call).1.toStreamGeometry = s.toStreamGeometry :=
      streamProcess_geometry
    have hframe : (linkStep packets s call).1.pktsPerFrame = s.pktsPerFrame :=
      congrArg StreamGeometry.pktsPerFrame hgeom
    obtain ⟨hsynced, hlost, hcount⟩ := ih (s := (linkStep packets s call).1) (hgeom ▸ hg)
      (hgeom ▸ hP) (hgeom ▸ hsend) (ht.alignedAt hframe) ht.synced hrest
    -- synced all along, the lost packets add up, and so do the frame ends
    refine ⟨?_, ?_, ?_⟩
    · intro o ho
      rcases List.mem_cons.1 ho with rfl | ho
      · exact ht.synced
      · exact hsynced o ho
    · rw [Mealy.run_cons, hlost, lostBetween, UInt32.ofNat_add, ← UInt32.add_assoc]
      exact congrArg (· + _) ht.lostPkts
    · -- the call returns a frame exactly when it passes one of the frame's ends
      have hpos := hg.sized.frameSize_ne_zero
      have hle := nextAfter_le hrest
      have hsum := frameEnds_eq (P := s.pktsPerFrame) hle
      have hall := frameEnds_eq (P := s.pktsPerFrame)
        (show n ≤ nextAfter (call.1 + 1) calls by omega)
      have hone := ends_of_gap hP hnj h5
      rw [Mealy.trace_cons, List.countP_cons, hcount, hframe, nextAfter]
      show frameEnds _ (call.1 + 1) _ +
        (if decide ((streamProcess s (packets call.1) call.2).gotFrameSize ≠ 0) then 1 else 0) = _
      rw [ht.size]
      by_cases hend : n / s.pktsPerFrame < (call.1 + 1) / s.pktsPerFrame
      · rw [if_pos hend, if_pos (by simpa using hpos)]
        omega
      · rw [if_neg hend, if_neg (by simp)]
        omega

/-- A run under any loss below 256 ends aligned, and the rest of the arrivals goes on from there. -/
theorem run_aligned (hg : s.Fixed) (hP : 6 ≤ s.pktsPerFrame)
    (hsend : IsSender s.toStreamGeometry q₀ packets) (pre post : List (ℕ × Bool))
    (hal : AlignedAt q₀ n s) (hloss : LossBelow256 packets s n (pre ++ post)) :
    AlignedAt q₀ (nextAfter n pre) (Mealy.run (linkStep packets) s pre) := by
  induction pre generalizing s n with
  | nil => exact hal
  | cons call pre ih =>
    obtain ⟨hnj, hlt, hrest⟩ := hloss
    have hgeom : (linkStep packets s call).1.toStreamGeometry = s.toStreamGeometry :=
      streamProcess_geometry
    exact ih (s := (linkStep packets s call).1) (hgeom ▸ hg) (hgeom ▸ hP) (hgeom ▸ hsend)
      (AlignedAt.step call.2 hg hP hsend hal hnj hlt).1 hrest

/-- A run does not change the geometry. -/
theorem run_linkStep_geometry (s : PacketStream) (calls : List (ℕ × Bool)) :
    (Mealy.run (linkStep packets) s calls).toStreamGeometry = s.toStreamGeometry :=
  Mealy.run_invariant (I := fun x : PacketStream ↦ x.toStreamGeometry = s.toStreamGeometry)
    (fun _ _ h ↦ streamProcess_geometry.trans h) rfl calls

end Aligned

/-- **Loss-tolerant alignment.** An unsynced stream of fixed length with six packets a frame or more
receives what the loss leaves of endless frames, never losing 256 packets in a row while it is
synced. Every payload it stores goes to the packet's own slot. Once it is synced (after `pre`), and
as long as no more than five packets in a row are lost, it stays synced, counts the lost packets
exactly, and returns a frame once for each end of a frame it passes. -/
theorem loss_tolerant_alignment (prev : PacketStream) (rlen plen : ℕ) (lib raw : Ptr)
    (hflag : prev.FlagClear) (hv : prev.variableLength = false)
    (hP : 6 ≤ (streamInit prev rlen plen lib raw).pktsPerFrame)
    (earlier : List (List UInt8 × Bool))
    (hstart : (Mealy.run streamStep (streamInit prev rlen plen lib raw) earlier).synced = false)
    (q₀ : UInt8) (packets : ℕ → List UInt8)
    (hsend : IsSender (streamInit prev rlen plen lib raw).toStreamGeometry q₀ packets)
    (first : ℕ) (pre post : List (ℕ × Bool))
    (hloss : LossBelow256 packets
      (Mealy.run streamStep (streamInit prev rlen plen lib raw) earlier) first (pre ++ post)) :
    let s := Mealy.run streamStep (streamInit prev rlen plen lib raw) earlier
    (∀ o ∈ Mealy.trace (linkStep packets) s (pre ++ post), ∀ off data,
      o.2.payload = some (.memcpy off data) →
        off = o.1 % s.pktsPerFrame * s.pktSize ∧ data = pktData (packets o.1)) ∧
    let s₁ := Mealy.run (linkStep packets) s pre
    let n := nextAfter first pre
    s₁.synced = true → LossWithin5 n post →
      (∀ o ∈ Mealy.trace (linkStep packets) s₁ post, o.2.strm.synced = true) ∧
      (Mealy.run (linkStep packets) s₁ post).lostPkts =
        s₁.lostPkts + UInt32.ofNat (lostBetween n post) ∧
      (Mealy.trace (linkStep packets) s₁ post).countP (fun o ↦ o.2.gotFrameSize ≠ 0) =
        frameEnds s.pktsPerFrame n (nextAfter n post) := by
  intro s
  have hinit : (streamInit prev rlen plen lib raw).Fixed := streamInit_fixed hflag hv (by omega)
  have hgeom : s.toStreamGeometry = (streamInit prev rlen plen lib raw).toStreamGeometry :=
    run_geometry _ earlier
  have hfixed : s.Fixed := hgeom ▸ hinit
  have hlen : 6 ≤ s.pktsPerFrame := hgeom ▸ hP
  have hsend' : IsSender s.toStreamGeometry q₀ packets := hgeom ▸ hsend
  have hal : AlignedAt q₀ first s := alignedAt_of_unsynced hstart
  refine ⟨run_stores hfixed hlen hsend' (pre ++ post) hal hloss, ?_⟩
  intro s₁ n hs₁ hpost
  have hgeom₁ : s₁.toStreamGeometry = s.toStreamGeometry := run_linkStep_geometry s pre
  -- from the first synced time on, the second part of the run has small losses only
  have hrun := run_near (hgeom₁ ▸ hfixed) (hgeom₁ ▸ hlen) (hgeom₁ ▸ hsend') post
    (run_aligned hfixed hlen hsend' pre post hal hloss) hs₁ hpost
  rwa [hgeom₁] at hrun

/-- Frames of six one-byte packets, numbered in their payload too. -/
def tinySender (i : ℕ) : List UInt8 :=
  mkPacket (if i % 6 = 0 then 0x71 else if i % 6 + 1 = 6 then 0x75 else 0x72)
    (UInt8.ofNat i) 0 [UInt8.ofNat i]

theorem isSender_tiny : IsSender (streamInit tinyStream 0 6 1 2).toStreamGeometry 0 tinySender := by
  intro i
  refine ⟨⟨?_, rfl, rfl⟩, rfl, ?_, ?_⟩
  · simp [tinySender, mkPacket, pktHdrSize]
  · exact (UInt8.zero_add _).symm
  · show 1 = if _ then 1 else 1
    split
    · rfl
    · rfl

/-- Alignment at work: the last packet of the first frame is lost, and the stream returns that
frame when the second packet of the next one arrives. -/
theorem loss_tolerant_alignment_tiny :
    let s := streamInit tinyStream 0 6 1 2
    let s₁ := Mealy.run (linkStep tinySender) s [(0, false)]
    let post := [(1, false), (2, false), (4, false), (7, false)]
    (∀ o ∈ Mealy.trace (linkStep tinySender) s₁ post, o.2.strm.synced = true) ∧
      (Mealy.run (linkStep tinySender) s₁ post).lostPkts = s₁.lostPkts + 3 ∧
      (Mealy.trace (linkStep tinySender) s₁ post).countP (fun o ↦ o.2.gotFrameSize ≠ 0) =
        frameEnds 6 1 8 := by
  intro s s₁ post
  refine (loss_tolerant_alignment tinyStream 0 6 1 2 (by decide) rfl (by decide) [] rfl 0 tinySender
    isSender_tiny 0 [(0, false)] post ?_).2 rfl ?_
  · simp [post, LossBelow256]
  · simp [post, LossWithin5, nextAfter]

end Freenect
