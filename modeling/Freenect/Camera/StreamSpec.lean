import Freenect.Camera.PacketStream
import Mathlib.Data.Nat.Basic
import Mathlib.Order.Basic
import Mathlib.Tactic.Common

/-!
# What one call of the reassembler can do

The specification lemmas of `streamProcess`; later modules cite these and do not unfold the
definitions of `PacketStream` again.

* `streamProcess_cases` is the inversion rule: a call skips the packet, resyncs on a large gap, or
  hands the packet to `finish` with the stream that `sync` and `handleLost` left.
* `handleLost_cases` says which of its four ways a gap goes.
* `check_accept` and `finish_cases` say when a payload is stored and what is counted then.
* `streamProcess_setup`: geometry, buffers and `running` are the set-up's, a call never changes
  them.

`StreamGeometry.Sized` collects what `stream_init` establishes about the sizes, and `FlagClear`
what both callers of `stream_init` promise about the flag (`0x70` and `0x80`): the three bits that
tell the packets of a frame apart are clear.

The lemmas come in the order of the source. Each of the four paragraphs gets the equations for its
cases, under hypotheses that exclude each other, and a lemma that lists the cases; the whole call is
the composition. A proof about the reassembler begins with `streamProcess_cases` if the packet may
be anything, and with one of `streamProcess_next`, `streamProcess_sof`, `streamProcess_unsynced` and
`streamProcess_lost` if something is known of the stream.
-/

namespace Freenect

/-! ### The flag of a stream

A packet's flag is the stream's flag with one of three values or-ed into its low bits. If those bits
of the stream's own flag are clear, the three results are different. -/

namespace StreamGeometry

/-- The low three bits of the stream's flag are clear. `freenect_start_depth` sets `0x70`,
`freenect_start_video` sets `0x80`. -/
def FlagClear (g : StreamGeometry) : Prop := g.flag &&& 7 = 0

instance (g : StreamGeometry) : Decidable g.FlagClear :=
  inferInstanceAs (Decidable (g.flag &&& 7 = 0))

/-- With a clear flag, what is or-ed into it can be read back. -/
theorem low_bits_eq_of_or_eq {f x y : UInt8} (hf : f &&& 7 = 0) (h : f ||| x = f ||| y) :
    x &&& 7 = y &&& 7 := by
  have hread : ∀ z : UInt8, (f ||| z) &&& 7 = z &&& 7 := by
    intro z
    rw [← UInt8.toBitVec_inj] at hf ⊢
    simp only [UInt8.toBitVec_and, UInt8.toBitVec_or] at hf ⊢
    rw [BitVec.and_or_distrib_right, hf]
    exact BitVec.zero_or
  rw [← hread x, ← hread y, h]

variable {g : StreamGeometry}

/-- The start flag is not the end flag. -/
theorem FlagClear.sof_ne_eof (hf : g.FlagClear) : g.sof ≠ g.eof := fun h ↦
  absurd (low_bits_eq_of_or_eq hf h) (by decide)

theorem FlagClear.mof_ne_eof (hf : g.FlagClear) : g.mof ≠ g.eof := fun h ↦
  absurd (low_bits_eq_of_or_eq hf h) (by decide)

theorem FlagClear.sof_ne_mof (hf : g.FlagClear) : g.sof ≠ g.mof := fun h ↦
  absurd (low_bits_eq_of_or_eq hf h) (by decide)

/-! ### The sizes of a stream

`stream_init` divides the frame into packets, the last of which takes what is left over. The source
rounds the number of packets up with an unsigned division and asks for the remainder separately;
`packets_of_frame` is why the two agree. -/

/-- What `stream_init` establishes about the sizes of a frame's packets. -/
structure Sized (g : StreamGeometry) : Prop where
  pktSize_pos : 0 < g.pktSize
  lastPktSize_pos : 0 < g.lastPktSize
  lastPktSize_le : g.lastPktSize ≤ g.pktSize
  pktsPerFrame_pos : 0 < g.pktsPerFrame
  frameSize_eq : g.frameSize = (g.pktsPerFrame - 1) * g.pktSize + g.lastPktSize

/-- A frame is not empty. -/
theorem Sized.frameSize_ne_zero (hg : g.Sized) : g.frameSize ≠ 0 := by
  have := hg.lastPktSize_pos
  rw [hg.frameSize_eq]
  omega

/-- The last packet's payload ends where the frame ends. -/
theorem Sized.last_slot (hg : g.Sized) {k : ℕ} (hlast : k + 1 = g.pktsPerFrame) :
    k * g.pktSize + g.lastPktSize = g.frameSize := by
  rw [hg.frameSize_eq, ← hlast, Nat.add_sub_cancel]

/-- A payload that is stored where a packet of the frame belongs, and is no longer than what the
stream waits for there, ends inside the frame. -/
theorem Sized.slot_le (hg : g.Sized) {k n : ℕ} (hk : k < g.pktsPerFrame)
    (hn : n ≤ if k + 1 = g.pktsPerFrame then g.lastPktSize else g.pktSize) :
    k * g.pktSize + n ≤ g.frameSize := by
  by_cases hlast : k + 1 = g.pktsPerFrame
  · rw [if_pos hlast] at hn
    rw [← hg.last_slot hlast]
    omega
  · rw [if_neg hlast] at hn
    rw [hg.frameSize_eq]
    have hle : (k + 1) * g.pktSize ≤ (g.pktsPerFrame - 1) * g.pktSize :=
      Nat.mul_le_mul_right _ (by omega)
    rw [Nat.succ_mul] at hle
    omega

/-- A stream of fixed packet length as its callers set it up. -/
structure Fixed (g : StreamGeometry) : Prop where
  variableLength : g.variableLength = false
  sized : g.Sized
  flagClear : g.FlagClear
  two_le : 2 ≤ g.pktsPerFrame

end StreamGeometry

section Init

variable (strm : PacketStream) (rlen plen : ℕ) (lib raw : Ptr)

/-- `stream_init`, field by field. -/
theorem streamInit_eq : streamInit strm rlen plen lib raw =
    let procBuf := if strm.usrBuf = NULL then lib else strm.usrBuf
    let frameSize := if rlen = 0 then plen else rlen
    { strm with
      validFrames := 0
      synced := false
      libBuf := if strm.usrBuf = NULL then lib else NULL
      procBuf := procBuf
      splitBufs := if rlen = 0 then false else true
      rawBuf := if rlen = 0 then procBuf else raw
      frameSize := frameSize
      lastPktSize :=
        if frameSize % strm.pktSize = 0 then strm.pktSize else frameSize % strm.pktSize
      pktsPerFrame := (frameSize + strm.pktSize - 1) / strm.pktSize } := by
  rw [streamInit]
  by_cases hr : rlen = 0 <;> by_cases hu : strm.usrBuf = NULL <;> simp [hr, hu]

/-- A stream that was set up is not synced. -/
@[simp] theorem streamInit_synced : (streamInit strm rlen plen lib raw).synced = false := by
  rw [streamInit_eq]

/-- The flag is the one that the caller has set. -/
@[simp] theorem streamInit_flag : (streamInit strm rlen plen lib raw).flag = strm.flag := by
  rw [streamInit_eq]

/-- So is the kind of stream. -/
@[simp] theorem streamInit_variableLength :
    (streamInit strm rlen plen lib raw).variableLength = strm.variableLength := by
  rw [streamInit_eq]

@[simp] theorem streamInit_pktSize :
    (streamInit strm rlen plen lib raw).pktSize = strm.pktSize := by
  rw [streamInit_eq]

/-- Setting up a stream does not start it. -/
@[simp] theorem streamInit_running :
    (streamInit strm rlen plen lib raw).running = strm.running := by
  rw [streamInit_eq]

/-- The number of packets: the quotient, rounded up. -/
theorem streamInit_pktsPerFrame :
    (streamInit strm rlen plen lib raw).pktsPerFrame =
      ((streamInit strm rlen plen lib raw).frameSize + strm.pktSize - 1) / strm.pktSize := by
  rw [streamInit_eq]

/-- The size of the last packet: the remainder, or a full packet if there is none. -/
theorem streamInit_lastPktSize :
    (streamInit strm rlen plen lib raw).lastPktSize =
      if (streamInit strm rlen plen lib raw).frameSize % strm.pktSize = 0 then strm.pktSize
      else (streamInit strm rlen plen lib raw).frameSize % strm.pktSize := by
  rw [streamInit_eq]

end Init

/-- The three outcomes of `stream_setbuf`. -/
theorem streamSetbuf_cases (strm : PacketStream) (pbuf : Ptr) :
    (strm.running = false ∧ streamSetbuf strm pbuf = ({ strm with usrBuf := pbuf }, 0)) ∨
    (strm.running = true ∧ pbuf = NULL ∧ strm.libBuf = NULL ∧
      streamSetbuf strm pbuf = (strm, -1)) ∨
    (strm.running = true ∧ ¬ (pbuf = NULL ∧ strm.libBuf = NULL) ∧
      streamSetbuf strm pbuf =
        ({ strm with
          usrBuf := pbuf
          procBuf := if pbuf = NULL then strm.libBuf else pbuf
          rawBuf := if strm.splitBufs then strm.rawBuf
            else if pbuf = NULL then strm.libBuf else pbuf }, 0)) := by
  rw [streamSetbuf]
  cases hrun : strm.running with
  | false => exact Or.inl ⟨rfl, rfl⟩
  | true =>
    refine Or.inr ?_
    by_cases hnull : pbuf = NULL ∧ strm.libBuf = NULL
    · exact Or.inl ⟨rfl, hnull.1, hnull.2, by simp [hnull]⟩
    · refine Or.inr ⟨rfl, hnull, ?_⟩
      cases strm.splitBufs <;> simp [hnull]

/-- A new buffer neither starts nor stops the stream. -/
theorem streamSetbuf_running (strm : PacketStream) (pbuf : Ptr) :
    (streamSetbuf strm pbuf).1.running = strm.running := by
  rcases streamSetbuf_cases strm pbuf with ⟨-, hset⟩ | ⟨-, -, -, hset⟩ | ⟨-, -, hset⟩ <;> rw [hset]

/-- Splitting `n` bytes into packets of `p`: full ones and a last one of between `1` and `p`. -/
theorem packets_of_frame {n p : ℕ} (hn : 0 < n) (hp : 0 < p) :
    0 < (n + p - 1) / p ∧
      n = ((n + p - 1) / p - 1) * p + if n % p = 0 then p else n % p := by
  have hdiv := Nat.div_add_mod n p
  have hmod := Nat.mod_lt n hp
  -- whether a packet is left over decides which packet is the last
  by_cases h0 : n % p = 0
  · have hq : n = p * (n / p) := by omega
    have hqpos : 0 < n / p := Nat.div_pos (Nat.le_of_dvd hn (Nat.dvd_of_mod_eq_zero h0)) hp
    have hval : (n + p - 1) / p = n / p := by
      rw [show n + p - 1 = (p - 1) + p * (n / p) by omega, Nat.add_mul_div_left _ _ hp,
        Nat.div_eq_of_lt (by omega), Nat.zero_add]
    rw [if_pos h0, hval]
    refine ⟨hqpos, ?_⟩
    calc n = p * (n / p) := hq
      _ = (n / p - 1) * p + p := by
        rw [Nat.mul_comm, ← Nat.succ_mul]
        congr 1
        omega
  · have hval : (n + p - 1) / p = n / p + 1 := by
      rw [show n + p - 1 = (n % p - 1) + p * (n / p + 1) by rw [Nat.mul_succ]; omega,
        Nat.add_mul_div_left _ _ hp, Nat.div_eq_of_lt (by omega), Nat.zero_add]
    rw [if_neg h0, hval]
    refine ⟨Nat.succ_pos _, ?_⟩
    rw [Nat.add_sub_cancel, Nat.mul_comm]
    exact hdiv.symm

/-- A stream with two packets a frame was set up with a packet size and a frame size. -/
theorem sizes_pos {n p : ℕ} (h : 2 ≤ (n + p - 1) / p) : 0 < p ∧ 0 < n := by
  have hp : 0 < p := by
    refine Nat.pos_of_ne_zero ?_
    rintro rfl
    simp at h
  refine ⟨hp, Nat.pos_of_ne_zero ?_⟩
  rintro rfl
  rw [Nat.div_eq_of_lt (by omega)] at h
  omega

/-- `stream_init` sizes the stream. -/
theorem streamInit_sized {strm : PacketStream} {rlen plen : ℕ} {lib raw : Ptr}
    (hpkt : 0 < strm.pktSize) (hframe : 0 < (streamInit strm rlen plen lib raw).frameSize) :
    (streamInit strm rlen plen lib raw).Sized := by
  obtain ⟨hpos, heq⟩ := packets_of_frame hframe hpkt
  have hmod := Nat.mod_lt (streamInit strm rlen plen lib raw).frameSize hpkt
  refine ⟨?_, ?_, ?_, ?_, ?_⟩
  · rwa [streamInit_pktSize]
  · rw [streamInit_lastPktSize]
    split
    · omega
    · omega
  · rw [streamInit_lastPktSize, streamInit_pktSize]
    split
    · omega
    · omega
  · rwa [streamInit_pktsPerFrame]
  · rwa [streamInit_pktsPerFrame, streamInit_pktSize, streamInit_lastPktSize]

/-- A stream of fixed length with at least two packets a frame. -/
theorem streamInit_fixed {strm : PacketStream} {rlen plen : ℕ} {lib raw : Ptr}
    (hflag : strm.FlagClear) (hv : strm.variableLength = false)
    (hP : 2 ≤ (streamInit strm rlen plen lib raw).pktsPerFrame) :
    (streamInit strm rlen plen lib raw).Fixed := by
  have hsizes := sizes_pos (by rwa [streamInit_pktsPerFrame] at hP)
  refine ⟨by rwa [streamInit_variableLength], streamInit_sized hsizes.1 hsizes.2, ?_, hP⟩
  rwa [StreamGeometry.FlagClear, streamInit_flag]

/-! ### Sync and lost packets

Here `seq` is compared with the header. What is lost is the difference modulo 256; a stream of
variable length gives up on any gap, one of fixed length on a gap of more than five. -/

namespace PacketStream

variable {strm s : PacketStream} {hdr : PktHdr} {data : List UInt8} {chunkCb : Bool} {got : ℕ}

/-- How far the packet's sequence number is ahead of the one waited for, in the eight bits the
receiver sees. -/
def gap (strm : PacketStream) (hdr : PktHdr) : ℕ := (hdr.seq - strm.seq).toNat

/-- Where the numbers differ there is a gap. -/
theorem gap_pos (h : strm.seq ≠ hdr.seq) : 0 < strm.gap hdr := by
  refine Nat.pos_of_ne_zero fun h0 ↦ h ?_
  have hzero : hdr.seq - strm.seq = 0 := UInt8.toNat_inj.1 h0
  rw [UInt8.sub_eq_iff_eq_add, UInt8.zero_add] at hzero
  exact hzero.symm

/-- A stream as `sync` leaves it on a start of frame. -/
def syncedOn (strm : PacketStream) (hdr : PktHdr) : PacketStream :=
  { strm with synced := true, seq := hdr.seq, pktNum := 0, validPkts := 0, gotPkts := 0 }

/-- A stream that gave up after a gap. -/
def unsyncedBy (strm : PacketStream) (hdr : PktHdr) : PacketStream :=
  { strm with
    synced := false
    lostPkts := strm.lostPkts + (hdr.seq - strm.seq).toUInt32 }

/-- A stream moved over a gap inside the frame. -/
def skippedTo (strm : PacketStream) (hdr : PktHdr) : PacketStream :=
  { strm with
    seq := hdr.seq
    lostPkts := strm.lostPkts + (hdr.seq - strm.seq).toUInt32
    pktNum := strm.pktNum + strm.gap hdr }

/-- A stream moved over a gap that reaches the end of the frame: the frame is declared complete. -/
def wrappedTo (strm : PacketStream) (hdr : PktHdr) : PacketStream :=
  { strm with
    seq := hdr.seq
    lostPkts := strm.lostPkts + (hdr.seq - strm.seq).toUInt32
    pktNum := strm.pktNum + strm.gap hdr - strm.pktsPerFrame
    validPkts := strm.gotPkts
    gotPkts := 0
    timestamp := strm.lastTimestamp
    validFrames := strm.validFrames + 1 }

/-- A synced stream goes on. -/
theorem sync_of_synced (h : strm.synced = true) : strm.sync hdr = some strm := by
  simp [sync, h]

/-- An unsynced stream syncs on a start of frame. -/
theorem sync_of_sof (h : strm.synced = false) (hf : hdr.flag = strm.sof) :
    strm.sync hdr = some (strm.syncedOn hdr) := by
  simp [sync, h, hf, syncedOn]

/-- An unsynced stream drops every other packet. -/
theorem sync_of_ne_sof (h : strm.synced = false) (hf : hdr.flag ≠ strm.sof) :
    strm.sync hdr = none := by
  simp [sync, h, hf]

/-- The two ways past `sync`. -/
theorem sync_cases (h : strm.sync hdr = some s) :
    (strm.synced = true ∧ s = strm) ∨
      (strm.synced = false ∧ hdr.flag = strm.sof ∧ s = strm.syncedOn hdr) := by
  cases hs : strm.synced with
  | true =>
    rw [sync_of_synced hs] at h
    exact Or.inl ⟨rfl, (Option.some.inj h).symm⟩
  | false =>
    by_cases hf : hdr.flag = strm.sof
    · rw [sync_of_sof hs hf] at h
      exact Or.inr ⟨rfl, hf, (Option.some.inj h).symm⟩
    · rw [sync_of_ne_sof hs hf] at h
      cases h

/-- No packet was lost. -/
theorem handleLost_of_eq (h : strm.seq = hdr.seq) : strm.handleLost hdr = .ok (strm, 0) := by
  simp [handleLost, h]

/-- **Too many were lost**: the stream gives up, as it does on any gap if the packets have no fixed
length. -/
theorem handleLost_of_far (h : strm.seq ≠ hdr.seq)
    (hfar : 5 < strm.gap hdr ∨ strm.variableLength = true) :
    strm.handleLost hdr = .error (strm.unsyncedBy hdr) := by
  have hcond : 5 < (hdr.seq - strm.seq).toNat ∨ strm.variableLength = true := hfar
  simp only [handleLost, if_neg h, if_pos hcond, unsyncedBy]

/-- **The gap reaches the end of the frame**, which is declared complete; the stream goes on in the
next one. -/
theorem handleLost_of_wrap (h : strm.seq ≠ hdr.seq) (hv : strm.variableLength = false)
    (hnear : strm.gap hdr ≤ 5) (hwrap : strm.pktsPerFrame ≤ strm.pktNum + strm.gap hdr) :
    strm.handleLost hdr = .ok (strm.wrappedTo hdr, strm.frameSize) := by
  have hcond : ¬ (5 < (hdr.seq - strm.seq).toNat ∨ strm.variableLength = true) := by
    rw [hv]
    exact fun hor ↦ hor.elim (Nat.not_lt.2 hnear) Bool.false_ne_true
  have hleft : (strm.pktsPerFrame : ℤ) - strm.pktNum ≤ (hdr.seq - strm.seq).toNat := by
    have : strm.pktsPerFrame ≤ strm.pktNum + (hdr.seq - strm.seq).toNat := hwrap
    omega
  have hnum : (((hdr.seq - strm.seq).toNat : ℤ) - (strm.pktsPerFrame - strm.pktNum)).toNat =
      strm.pktNum + (hdr.seq - strm.seq).toNat - strm.pktsPerFrame := by
    omega
  simp only [handleLost, if_neg h, if_neg hcond, if_pos hleft, hnum, wrappedTo, gap]

/-- **The gap stays inside the frame**: the stream moves on by as many packets. -/
theorem handleLost_of_within (h : strm.seq ≠ hdr.seq) (hv : strm.variableLength = false)
    (hnear : strm.gap hdr ≤ 5) (hin : strm.pktNum + strm.gap hdr < strm.pktsPerFrame) :
    strm.handleLost hdr = .ok (strm.skippedTo hdr, 0) := by
  have hcond : ¬ (5 < (hdr.seq - strm.seq).toNat ∨ strm.variableLength = true) := by
    rw [hv]
    exact fun hor ↦ hor.elim (Nat.not_lt.2 hnear) Bool.false_ne_true
  have hleft : ¬ (strm.pktsPerFrame : ℤ) - strm.pktNum ≤ (hdr.seq - strm.seq).toNat := by
    have : strm.pktNum + (hdr.seq - strm.seq).toNat < strm.pktsPerFrame := hin
    omega
  simp only [handleLost, if_neg h, if_neg hcond, if_neg hleft, skippedTo, gap]

/-- The four ways of a gap. -/
theorem handleLost_cases (strm : PacketStream) (hdr : PktHdr) :
    (strm.seq = hdr.seq ∧ strm.handleLost hdr = .ok (strm, 0)) ∨
    (strm.seq ≠ hdr.seq ∧ (5 < strm.gap hdr ∨ strm.variableLength = true) ∧
      strm.handleLost hdr = .error (strm.unsyncedBy hdr)) ∨
    (strm.seq ≠ hdr.seq ∧ strm.variableLength = false ∧ strm.gap hdr ≤ 5 ∧
      strm.pktsPerFrame ≤ strm.pktNum + strm.gap hdr ∧
      strm.handleLost hdr = .ok (strm.wrappedTo hdr, strm.frameSize)) ∨
    (strm.seq ≠ hdr.seq ∧ strm.variableLength = false ∧ strm.gap hdr ≤ 5 ∧
      strm.pktNum + strm.gap hdr < strm.pktsPerFrame ∧
      strm.handleLost hdr = .ok (strm.skippedTo hdr, 0)) := by
  by_cases h : strm.seq = hdr.seq
  · exact Or.inl ⟨h, handleLost_of_eq h⟩
  by_cases hfar : 5 < strm.gap hdr ∨ strm.variableLength = true
  · exact Or.inr (Or.inl ⟨h, hfar, handleLost_of_far h hfar⟩)
  obtain ⟨hnear, hv⟩ := not_or.1 hfar
  have hv : strm.variableLength = false := by simpa using hv
  have hnear := Nat.not_lt.1 hnear
  by_cases hwrap : strm.pktsPerFrame ≤ strm.pktNum + strm.gap hdr
  · exact Or.inr (Or.inr (Or.inl ⟨h, hv, hnear, hwrap, handleLost_of_wrap h hv hnear hwrap⟩))
  · have hin := Nat.not_le.1 hwrap
    exact Or.inr (Or.inr (Or.inr ⟨h, hv, hnear, hin, handleLost_of_within h hv hnear hin⟩))

/-- There is one way to give up. -/
theorem eq_of_handleLost_error (h : strm.handleLost hdr = .error s) : s = strm.unsyncedBy hdr := by
  rcases handleLost_cases strm hdr with
    ⟨-, h'⟩ | ⟨-, -, h'⟩ | ⟨-, -, -, -, h'⟩ | ⟨-, -, -, -, h'⟩ <;> rw [h'] at h
  · cases h
  · exact (Except.error.inj h).symm
  · cases h
  · cases h

/-! ### The checks and the copy

`check` compares the flag with the position, and the length with the one expected. A stream of fixed
length has three outcomes, one of variable length two: it never drops a packet and stays synced. -/

/-- The flag and position of a packet that a fixed-length stream accepts. -/
def InPlace (strm : PacketStream) (flag : UInt8) : Prop :=
  (strm.pktNum = 0 ∧ flag = strm.sof) ∨
  (strm.pktNum + 1 = strm.pktsPerFrame ∧ flag = strm.eof) ∨
  (0 < strm.pktNum ∧ strm.pktNum + 1 < strm.pktsPerFrame ∧ flag = strm.mof)

/-- The same for a stream of variable length. -/
def InPlaceVar (strm : PacketStream) (flag : UInt8) : Prop :=
  (strm.pktNum = 0 ∧ flag = strm.sof) ∨
  (strm.pktNum < strm.pktsPerFrame ∧ (flag = strm.eof ∨ flag = strm.mof))

/-- The three outcomes for a stream of fixed length. -/
theorem check_fixed (hv : strm.variableLength = false) (flag : UInt8) (n : ℕ) :
    (¬ strm.InPlace flag ∧ strm.check flag n = .resync) ∨
    (strm.InPlace flag ∧ strm.expectedPktSize < n ∧ strm.check flag n = .drop) ∨
    (strm.InPlace flag ∧ n ≤ strm.expectedPktSize ∧ strm.check flag n = .accept) := by
  have hfix : ¬ strm.variableLength = true := by simp [hv]
  by_cases hin : strm.InPlace flag
  · have hpass : ¬ (¬ (strm.pktNum = 0 ∧ flag = strm.sof) ∧
        ¬ (strm.pktNum + 1 = strm.pktsPerFrame ∧ flag = strm.eof) ∧
        ¬ (0 < strm.pktNum ∧ strm.pktNum + 1 < strm.pktsPerFrame ∧ flag = strm.mof)) := by
      rintro ⟨h₁, h₂, h₃⟩
      exact hin.elim h₁ fun h ↦ h.elim h₂ h₃
    by_cases hlong : strm.expectedPktSize < n
    · refine Or.inr (Or.inl ⟨hin, hlong, ?_⟩)
      rw [check, if_pos hfix, if_neg hpass, if_pos hlong]
    · refine Or.inr (Or.inr ⟨hin, Nat.not_lt.1 hlong, ?_⟩)
      rw [check, if_pos hfix, if_neg hpass, if_neg hlong]
  · refine Or.inl ⟨hin, ?_⟩
    obtain ⟨h₁, h₂⟩ := not_or.1 hin
    rw [check, if_pos hfix, if_pos ⟨h₁, not_or.1 h₂⟩]

/-- The two outcomes for a stream of variable length. -/
theorem check_variable (hv : strm.variableLength = true) (flag : UInt8) (n : ℕ) :
    strm.check flag n = .resync ∨
    (strm.InPlaceVar flag ∧ n ≤ strm.expectedPktSize ∧ strm.check flag n = .accept) := by
  have hvar : ¬ ¬ strm.variableLength = true := not_not.2 hv
  by_cases hin : strm.InPlaceVar flag
  · have hpass : ¬ (¬ (strm.pktNum = 0 ∧ flag = strm.sof) ∧
        ¬ (strm.pktNum < strm.pktsPerFrame ∧ (flag = strm.eof ∨ flag = strm.mof))) := by
      rintro ⟨h₁, h₂⟩
      exact hin.elim h₁ h₂
    by_cases hlong : strm.expectedPktSize < n
    · exact Or.inl (by rw [check, if_neg hvar, if_neg hpass, if_pos hlong])
    by_cases hshort : n < strm.expectedPktSize ∧ flag ≠ strm.eof
    · exact Or.inl (by rw [check, if_neg hvar, if_neg hpass, if_neg hlong, if_pos hshort])
    · refine Or.inr ⟨hin, Nat.not_lt.1 hlong, ?_⟩
      rw [check, if_neg hvar, if_neg hpass, if_neg hlong, if_neg hshort]
  · exact Or.inl (by rw [check, if_neg hvar, if_pos (not_or.1 hin)])

/-- The stream after a payload was stored in the middle of a frame. -/
def stored (strm : PacketStream) (hdr : PktHdr) : PacketStream :=
  { strm with
    pktNum := strm.pktNum + 1
    seq := strm.seq + 1
    gotPkts := strm.gotPkts + 1
    lastTimestamp := hdr.timestamp }

/-- The stream after the last payload of a frame was stored. -/
def storedLast (strm : PacketStream) (hdr : PktHdr) : PacketStream :=
  { strm with
    pktNum := 0
    seq := strm.seq + 1
    validPkts := strm.gotPkts + 1
    gotPkts := 0
    lastTimestamp := hdr.timestamp
    timestamp := hdr.timestamp
    validFrames := strm.validFrames + 1 }

/-- What the call does with an accepted payload. -/
def payloadOp (strm : PacketStream) (data : List UInt8) (chunkCb : Bool) : PayloadOp :=
  if chunkCb then .chunk strm.pktNum data else .memcpy (strm.pktNum * strm.pktSize) data

/-- A payload inside a frame. -/
theorem accept_of_ne_eof (h : hdr.flag ≠ strm.eof) :
    strm.accept hdr data chunkCb got =
      { strm := strm.stored hdr, payload := some (strm.payloadOp data chunkCb)
        gotFrameSize := got } := by
  simp only [accept, if_neg h, stored, payloadOp]

/-- **The payload of the last packet**: the frame is published, and the call returns its size. -/
theorem accept_of_eof (h : hdr.flag = strm.eof) :
    strm.accept hdr data chunkCb got =
      { strm := strm.storedLast hdr, payload := some (strm.payloadOp data chunkCb)
        gotFrameSize := strm.pktNum * strm.pktSize +
          if strm.variableLength then data.length else strm.lastPktSize } := by
  simp only [accept, if_pos h, storedLast, payloadOp]
  cases strm.variableLength <;> rfl

/-- A packet with the right flag at its place is stored, whatever was lost before it. -/
theorem finish_of_inPlace (hv : strm.variableLength = false) (hin : strm.InPlace hdr.flag)
    (hlen : data.length ≤ strm.expectedPktSize) :
    strm.finish hdr data chunkCb got = strm.accept hdr data chunkCb got := by
  rcases check_fixed hv hdr.flag data.length with ⟨h, -⟩ | ⟨-, h, -⟩ | ⟨-, -, h⟩
  · exact absurd hin h
  · omega
  · simp only [finish, h]

/-- A packet that is out of place unsyncs the stream; a frame that lost packets have completed is
returned nevertheless. -/
theorem finish_of_not_inPlace (hv : strm.variableLength = false) (hin : ¬ strm.InPlace hdr.flag) :
    strm.finish hdr data chunkCb got =
      { strm := { strm with synced := false }, payload := none, gotFrameSize := got } := by
  rcases check_fixed hv hdr.flag data.length with ⟨-, h⟩ | ⟨h, -⟩ | ⟨h, -⟩
  · simp only [finish, h]
  · exact absurd h hin
  · exact absurd h hin

/-! ### The whole call

What is in front of `sync`: the length of the packet and the two magic bytes of its header. -/

/-- What a call never changes. -/
def setup (strm : PacketStream) : StreamGeometry × StreamBufs × Bool :=
  (strm.toStreamGeometry, strm.toStreamBufs, strm.running)

/-- Syncing does not change the set-up. -/
theorem setup_of_sync (h : strm.sync hdr = some s) : s.setup = strm.setup := by
  rcases sync_cases h with ⟨-, rfl⟩ | ⟨-, -, rfl⟩ <;> rfl

theorem setup_of_handleLost (h : strm.handleLost hdr = .ok (s, got)) : s.setup = strm.setup := by
  rcases handleLost_cases strm hdr with
    ⟨-, h'⟩ | ⟨-, -, h'⟩ | ⟨-, -, -, -, h'⟩ | ⟨-, -, -, -, h'⟩ <;> rw [h'] at h <;> cases h <;> rfl

theorem setup_finish : (strm.finish hdr data chunkCb got).strm.setup = strm.setup := by
  rw [finish]
  cases strm.check hdr.flag data.length with
  | resync => rfl
  | drop => rfl
  | accept =>
    by_cases he : hdr.flag = strm.eof
    · rw [accept_of_eof he]
      rfl
    · rw [accept_of_ne_eof he]
      rfl

end PacketStream

/-- A packet long enough for a header, with the header's magic. -/
def HasHeader (pkt : List UInt8) : Prop :=
  pktHdrSize ≤ pkt.length ∧
    (PktHdr.ofBytes pkt).magic0 = 0x52 ∧ (PktHdr.ofBytes pkt).magic1 = 0x42

section Call

variable {strm : PacketStream} {pkt : List UInt8} {chunkCb : Bool}

/-- **Inversion of a call**: it skips the packet, resyncs on a gap, or finishes the packet with the
stream that `sync` and `handleLost` left. -/
theorem streamProcess_cases {P : Processed → Prop}
    (hskip : P { strm := strm, payload := none, gotFrameSize := 0 })
    (hresync : ∀ s, strm.sync (.ofBytes pkt) = some s →
      P { strm := s.unsyncedBy (.ofBytes pkt), payload := none, gotFrameSize := 0 })
    (hfinish : ∀ s s' got, strm.sync (.ofBytes pkt) = some s →
      s.handleLost (.ofBytes pkt) = .ok (s', got) →
      P (s'.finish (.ofBytes pkt) (pktData pkt) chunkCb got)) :
    P (streamProcess strm pkt chunkCb) := by
  rw [streamProcess]
  -- three ways to skip the packet come first: too short, wrong magic, not synced
  by_cases hlen : pkt.length < pktHdrSize
  · rwa [if_pos hlen]
  rw [if_neg hlen]
  by_cases hmagic : (PktHdr.ofBytes pkt).magic0 ≠ 0x52 ∨ (PktHdr.ofBytes pkt).magic1 ≠ 0x42
  · rwa [if_pos hmagic]
  rw [if_neg hmagic]
  cases hsync : strm.sync (.ofBytes pkt) with
  | none => exact hskip
  | some s =>
    cases hlost : s.handleLost (.ofBytes pkt) with
    | ok r =>
      obtain ⟨s', got⟩ := r
      simp only [hlost]
      exact hfinish s s' got hsync hlost
    | error s' =>
      simp only [hlost]
      rw [PacketStream.eq_of_handleLost_error hlost]
      exact hresync s hsync

/-- A call changes neither the geometry nor the buffers, and does not start or stop the stream. -/
theorem streamProcess_setup : (streamProcess strm pkt chunkCb).strm.setup = strm.setup := by
  refine streamProcess_cases (P := fun o ↦ o.strm.setup = strm.setup) rfl ?_ ?_
  · intro s hs
    show s.setup = strm.setup
    exact PacketStream.setup_of_sync hs
  · intro s s' got hs hl
    rw [PacketStream.setup_finish, PacketStream.setup_of_handleLost hl,
      PacketStream.setup_of_sync hs]

/-- The geometry is that of the set-up. -/
@[simp] theorem streamProcess_geometry :
    (streamProcess strm pkt chunkCb).strm.toStreamGeometry = strm.toStreamGeometry :=
  congrArg Prod.fst streamProcess_setup

/-- The buffers stay. -/
@[simp] theorem streamProcess_bufs :
    (streamProcess strm pkt chunkCb).strm.toStreamBufs = strm.toStreamBufs :=
  congrArg (fun p ↦ p.2.1) streamProcess_setup

/-- A packet neither starts nor stops the stream. -/
@[simp] theorem streamProcess_running :
    (streamProcess strm pkt chunkCb).strm.running = strm.running :=
  congrArg (fun p ↦ p.2.2) streamProcess_setup

/-- A packet with a header, as the composition of the four paragraphs. -/
theorem streamProcess_eq (hpkt : HasHeader pkt) :
    streamProcess strm pkt chunkCb =
      match strm.sync (.ofBytes pkt) with
      | none => { strm := strm, payload := none, gotFrameSize := 0 }
      | some s =>
        match s.handleLost (.ofBytes pkt) with
        | .error s => { strm := s, payload := none, gotFrameSize := 0 }
        | .ok (s, got) => s.finish (.ofBytes pkt) (pktData pkt) chunkCb got := by
  obtain ⟨hlen, h0, h1⟩ := hpkt
  have hmagic : ¬ ((PktHdr.ofBytes pkt).magic0 ≠ 0x52 ∨ (PktHdr.ofBytes pkt).magic1 ≠ 0x42) := by
    simp [h0, h1]
  rw [streamProcess]
  exact (if_neg (Nat.not_lt.2 hlen)).trans (if_neg hmagic)

/-- The packet the stream waits for. -/
theorem streamProcess_next (hpkt : HasHeader pkt) (hs : strm.synced = true)
    (hseq : strm.seq = (PktHdr.ofBytes pkt).seq) :
    streamProcess strm pkt chunkCb =
      strm.finish (.ofBytes pkt) (pktData pkt) chunkCb 0 := by
  rw [streamProcess_eq hpkt, PacketStream.sync_of_synced hs]
  simp only [PacketStream.handleLost_of_eq hseq]

/-- The packet on which an unsynced stream syncs. -/
theorem streamProcess_sof (hpkt : HasHeader pkt) (hs : strm.synced = false)
    (hf : (PktHdr.ofBytes pkt).flag = strm.sof) :
    streamProcess strm pkt chunkCb =
      (strm.syncedOn (.ofBytes pkt)).finish (.ofBytes pkt) (pktData pkt) chunkCb 0 := by
  have heq : (strm.syncedOn (.ofBytes pkt)).seq = (PktHdr.ofBytes pkt).seq := rfl
  rw [streamProcess_eq hpkt, PacketStream.sync_of_sof hs hf]
  simp only [PacketStream.handleLost_of_eq heq]

/-- A packet an unsynced stream drops. -/
theorem streamProcess_unsynced (hpkt : HasHeader pkt) (hs : strm.synced = false)
    (hf : (PktHdr.ofBytes pkt).flag ≠ strm.sof) :
    streamProcess strm pkt chunkCb =
      { strm := strm, payload := none, gotFrameSize := 0 } := by
  rw [streamProcess_eq hpkt, PacketStream.sync_of_ne_sof hs hf]

/-- A packet behind a gap. -/
theorem streamProcess_lost (hpkt : HasHeader pkt) (hs : strm.synced = true) :
    streamProcess strm pkt chunkCb =
      match strm.handleLost (.ofBytes pkt) with
      | .error s => { strm := s, payload := none, gotFrameSize := 0 }
      | .ok (s, got) => s.finish (.ofBytes pkt) (pktData pkt) chunkCb got := by
  rw [streamProcess_eq hpkt, PacketStream.sync_of_synced hs]

end Call

end Freenect
