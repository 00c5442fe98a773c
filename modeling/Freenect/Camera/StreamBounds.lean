import Freenect.Library.Runs
import Freenect.Camera.StreamSpec

/-!
# Bounds of the reassembler

Whatever bytes a device sends, a synced stream counts no more packets than it has passed
(`gotPkts ≤ pktNum`), stays inside its frame, and copies only into the `frameSize` bytes of
`rawBuf`. `pktNum` moves on three paths, the loss that stays in the frame, the loss that wraps
into the next one, and the ordinary increment; the second may leave it beyond the frame, and then
the flag check unsyncs the stream before anything is stored.

The invariant is `Bounded`. It speaks of synced streams only: an unsynced stream keeps whatever
its counters were, and `sync` clears them before they are used again. That is also why
`validPkts` is bounded only from the first sync on: `stream_init` does not clear it, so until then
it is what an earlier use of the stream left (`stale_validPkts`).

The proof follows the paragraphs of the call. `sync` makes a stream bounded by clearing its counters
(`bounded_of_sync`); behind `handleLost` only the weaker `Staged` holds, in which the position may
have left the frame; and a packet that passes the checks is at a position inside it
(`check_accept`). So whatever is stored is stored inside the frame, and the stream is bounded again
(`accept_bounded`). `streamProcess_bounds` puts this together for one call, and the run is an
induction with `BoundedFrom`, which adds what is known of a stream that has never been synced.
-/

namespace Freenect

/-- One call of the reassembler as a step; the input is a packet and whether a chunk callback is
set when it arrives. -/
def streamStep (strm : PacketStream) (call : List UInt8 × Bool) : PacketStream × Processed :=
  ((streamProcess strm call.1 call.2).strm, streamProcess strm call.1 call.2)

/-- The stream after the step. -/
@[simp] theorem streamStep_fst (strm : PacketStream) (call : List UInt8 × Bool) :
    (streamStep strm call).1 = (streamProcess strm call.1 call.2).strm := rfl

/-- A run never changes the set-up. -/
theorem run_setup (strm : PacketStream) (calls : List (List UInt8 × Bool)) :
    (Mealy.run streamStep strm calls).setup = strm.setup :=
  Mealy.run_invariant (I := fun s : PacketStream ↦ s.setup = strm.setup)
    (fun _ _ h ↦ streamProcess_setup.trans h) rfl calls

/-- In particular it never changes the geometry. -/
theorem run_geometry (strm : PacketStream) (calls : List (List UInt8 × Bool)) :
    (Mealy.run streamStep strm calls).toStreamGeometry = strm.toStreamGeometry :=
  congrArg Prod.fst (run_setup strm calls)

namespace PacketStream

/-- The invariant: a synced stream counts at most the packets it has passed and is inside its
frame; a stream of variable length may stand right behind the frame's last packet. -/
structure Bounded (s : PacketStream) : Prop where
  gotPkts_le : s.synced = true → s.gotPkts ≤ s.pktNum
  pktNum_le : s.synced = true → s.pktNum ≤ s.pktsPerFrame
  pktNum_lt : s.synced = true → s.variableLength = false → s.pktNum < s.pktsPerFrame
  validPkts_le : s.synced = true → s.validPkts ≤ s.pktsPerFrame

variable {s s' : PacketStream} {hdr : PktHdr} {data : List UInt8} {chunkCb : Bool} {got : ℕ}

/-- Of an unsynced stream nothing is said. -/
theorem bounded_of_unsynced (h : s.synced = false) : s.Bounded := by
  constructor <;> intro hs <;> rw [h] at hs <;> cases hs

/-- What holds between `handleLost` and the checks: the position may have left the frame. -/
structure Staged (s : PacketStream) : Prop where
  gotPkts_le : s.gotPkts ≤ s.pktNum
  validPkts_le : s.validPkts ≤ s.pktsPerFrame

/-- A stream that has just synced is bounded. -/
theorem bounded_syncedOn (hP : 0 < s.pktsPerFrame) : (s.syncedOn hdr).Bounded where
  gotPkts_le _ := le_refl 0
  pktNum_le _ := Nat.zero_le _
  pktNum_lt _ _ := hP
  validPkts_le _ := Nat.zero_le _

/-- A stream that gets past `sync` is synced, and bounded. -/
theorem bounded_of_sync (hP : 0 < s.pktsPerFrame) (hb : s.Bounded) (h : s.sync hdr = some s') :
    s'.Bounded ∧ s'.synced = true := by
  rcases sync_cases h with ⟨hs, rfl⟩ | ⟨-, -, rfl⟩
  · exact ⟨hb, hs⟩
  · exact ⟨bounded_syncedOn hP, rfl⟩

/-- What is left of the bounds behind a gap. -/
theorem staged_of_handleLost (hb : s.Bounded) (hs : s.synced = true)
    (h : s.handleLost hdr = .ok (s', got)) : s'.Staged := by
  have hgot := hb.gotPkts_le hs
  have hnum := hb.pktNum_le hs
  rcases handleLost_cases s hdr with
    ⟨-, h'⟩ | ⟨-, -, h'⟩ | ⟨-, -, -, -, h'⟩ | ⟨-, -, -, -, h'⟩ <;> rw [h'] at h <;> cases h
  · exact ⟨hgot, hb.validPkts_le hs⟩
  · -- the gap reaches the end of the frame: the counters start afresh
    exact ⟨Nat.zero_le _, hgot.trans hnum⟩
  · exact ⟨hgot.trans (Nat.le_add_right _ _), hb.validPkts_le hs⟩

/-- The value with which `handleLost` enters the rest of the call. -/
theorem got_of_handleLost (h : s.handleLost hdr = .ok (s', got)) :
    got = 0 ∨ got = s.frameSize := by
  rcases handleLost_cases s hdr with
    ⟨-, h'⟩ | ⟨-, -, h'⟩ | ⟨-, -, -, -, h'⟩ | ⟨-, -, -, -, h'⟩ <;> rw [h'] at h <;> cases h
  · exact Or.inl rfl
  · exact Or.inr rfl
  · exact Or.inl rfl

end PacketStream

open PacketStream

variable {s s₀ : PacketStream} {hdr : PktHdr} {data : List UInt8} {chunkCb : Bool} {got : ℕ}

/-- What one call guarantees. The stream `s₀` is the one `stream_init` set up. -/
structure CallBounds (s₀ : PacketStream) (o : Processed) : Prop where
  /-- A synced stream of fixed length is inside its frame. -/
  fixed_pos : o.strm.synced = true → s₀.variableLength = false →
    o.strm.gotPkts ≤ o.strm.pktNum ∧ o.strm.pktNum < s₀.pktsPerFrame
  /-- A synced stream of variable length is inside its frame or right behind it. -/
  variable_pos : o.strm.synced = true → s₀.variableLength = true →
    o.strm.gotPkts ≤ o.strm.pktNum ∧ o.strm.pktNum ≤ s₀.pktsPerFrame
  /-- `validPkts` is bounded, unless the stream is still as it was set up. -/
  valid : o.strm.validPkts ≤ s₀.pktsPerFrame ∨ o.strm = s₀
  /-- Every copy lies inside the frame. -/
  copy : ∀ off data, o.payload = some (.memcpy off data) → off + data.length ≤ s₀.frameSize
  /-- The returned size is at most a frame. -/
  size : o.gotFrameSize ≤ s₀.frameSize
  /-- A stream of fixed length returns nothing or a whole frame. -/
  fixed_size : s₀.variableLength = false → o.gotFrameSize = 0 ∨ o.gotFrameSize = s₀.frameSize

/-- A packet that passes the checks is at a position inside the frame and no longer than expected;
only an end of frame may stand at the last position of a fixed-length stream, and only there. -/
theorem check_accept (hf : s.FlagClear) (hP : 2 ≤ s.pktsPerFrame)
    (h : s.check hdr.flag data.length = .accept) :
    s.pktNum < s.pktsPerFrame ∧ data.length ≤ s.expectedPktSize ∧
      (s.variableLength = false →
        (hdr.flag = s.eof ↔ s.pktNum + 1 = s.pktsPerFrame)) := by
  -- the two kinds of stream have checks of their own
  cases hv : s.variableLength with
  | true =>
    rcases check_variable hv hdr.flag data.length with h' | ⟨hin, hlen, -⟩
    · rw [h'] at h
      cases h
    · refine ⟨?_, hlen, fun hfalse ↦ absurd hfalse (by simp)⟩
      rcases hin with ⟨h0, -⟩ | ⟨hlt, -⟩
      · omega
      · exact hlt
  | false =>
    rcases check_fixed hv hdr.flag data.length with ⟨-, h'⟩ | ⟨-, -, h'⟩ | ⟨hin, hlen, -⟩
    · rw [h'] at h
      cases h
    · rw [h'] at h
      cases h
    · rcases hin with ⟨h0, hflag⟩ | ⟨hlast, hflag⟩ | ⟨-, hmid, hflag⟩
      · refine ⟨by omega, hlen, fun _ ↦ ?_⟩
        rw [hflag]
        exact iff_of_false hf.sof_ne_eof (by omega)
      · exact ⟨by omega, hlen, fun _ ↦ iff_of_true hflag hlast⟩
      · refine ⟨by omega, hlen, fun _ ↦ ?_⟩
        rw [hflag]
        exact iff_of_false hf.mof_ne_eof (by omega)

/-- Only a stream of fixed length drops a packet and keeps its place, which is inside the frame. -/
theorem check_drop (hP : 2 ≤ s.pktsPerFrame) (h : s.check hdr.flag data.length = .drop) :
    s.pktNum < s.pktsPerFrame := by
  cases hv : s.variableLength with
  | true =>
    rcases check_variable hv hdr.flag data.length with h' | ⟨-, -, h'⟩ <;> rw [h'] at h <;> cases h
  | false =>
    rcases check_fixed hv hdr.flag data.length with ⟨-, h'⟩ | ⟨hin, -, -⟩ | ⟨-, -, h'⟩
    · rw [h'] at h
      cases h
    · rcases hin with ⟨h0, -⟩ | ⟨hlast, -⟩ | ⟨-, hmid, -⟩ <;> omega
    · rw [h'] at h
      cases h

/-- A staged stream that stores a payload is bounded afterwards. -/
theorem accept_bounded (chunkCb : Bool) (got : ℕ) (hf : s.FlagClear) (hP : 2 ≤ s.pktsPerFrame)
    (hst : s.Staged) (hacc : s.check hdr.flag data.length = .accept) :
    (s.accept hdr data chunkCb got).strm.Bounded ∧
      (s.accept hdr data chunkCb got).strm.validPkts ≤ s.pktsPerFrame := by
  obtain ⟨hlt, -, heof⟩ := check_accept hf hP hacc
  by_cases he : hdr.flag = s.eof
  · have hvalid : s.gotPkts + 1 ≤ s.pktsPerFrame := by
      have := hst.gotPkts_le
      omega
    rw [accept_of_eof he]
    refine ⟨⟨fun _ ↦ Nat.zero_le _, fun _ ↦ Nat.zero_le _, fun _ _ ↦ ?_, fun _ ↦ hvalid⟩, hvalid⟩
    simp only [storedLast]
    omega
  · rw [accept_of_ne_eof he]
    refine ⟨⟨fun _ ↦ Nat.succ_le_succ hst.gotPkts_le, fun _ ↦ hlt, fun _ hv ↦ ?_,
      fun _ ↦ hst.validPkts_le⟩, hst.validPkts_le⟩
    have hne : s.pktNum + 1 ≠ s.pktsPerFrame := fun hlast ↦ he ((heof hv).2 hlast)
    simp only [stored]
    omega

/-- What an accepted packet copies, and where to. -/
theorem copy_of_accept {off : ℕ} {d : List UInt8}
    (h : (s.accept hdr data chunkCb got).payload = some (.memcpy off d)) :
    off = s.pktNum * s.pktSize ∧ d = data := by
  have hop : s.payloadOp data chunkCb = .memcpy off d := by
    by_cases he : hdr.flag = s.eof
    · rw [accept_of_eof he] at h
      exact Option.some.inj h
    · rw [accept_of_ne_eof he] at h
      exact Option.some.inj h
  cases chunkCb with
  | true => simp [payloadOp] at hop
  | false =>
    simp only [payloadOp, Bool.false_eq_true, if_false, PayloadOp.memcpy.injEq] at hop
    exact ⟨hop.1.symm, hop.2.symm⟩

/-- What a call does with a frame of geometry `g`: it copies inside it and returns at most its size,
and for fixed length nothing else. -/
structure FrameBounds (g : StreamGeometry) (o : Processed) : Prop where
  copy : ∀ off d, o.payload = some (.memcpy off d) → off + d.length ≤ g.frameSize
  size : o.gotFrameSize ≤ g.frameSize
  fixed : g.variableLength = false → o.gotFrameSize = 0 ∨ o.gotFrameSize = g.frameSize

/-- A call that copies inside the frame and returns nothing or a frame. -/
theorem frameBounds_of_gotFrameSize {g : StreamGeometry} {o : Processed}
    (hcopy : ∀ off d, o.payload = some (.memcpy off d) → off + d.length ≤ g.frameSize)
    (h : o.gotFrameSize = 0 ∨ o.gotFrameSize = g.frameSize) : FrameBounds g o := by
  refine ⟨hcopy, ?_, fun _ ↦ h⟩
  rcases h with h | h <;> rw [h]
  exact Nat.zero_le _

/-- A call that neither copies nor returns anything. -/
theorem frameBounds_of_none {g : StreamGeometry} (strm : PacketStream) :
    FrameBounds g { strm := strm, payload := none, gotFrameSize := 0 } :=
  frameBounds_of_gotFrameSize (fun _ _ h ↦ by cases h) (Or.inl rfl)

/-- The payload of an accepted packet stays inside the frame. -/
theorem accept_frameBounds (chunkCb : Bool) (hg : s.Sized) (hf : s.FlagClear)
    (hP : 2 ≤ s.pktsPerFrame) (hgot : got = 0 ∨ got = s.frameSize)
    (hacc : s.check hdr.flag data.length = .accept) :
    FrameBounds s.toStreamGeometry (s.accept hdr data chunkCb got) := by
  obtain ⟨hlt, hlen, heof⟩ := check_accept hf hP hacc
  have hslot : s.pktNum * s.pktSize + data.length ≤ s.frameSize := hg.slot_le hlt hlen
  have hcopy : ∀ off d, (s.accept hdr data chunkCb got).payload = some (.memcpy off d) →
      off + d.length ≤ s.frameSize := by
    intro off d h
    obtain ⟨rfl, rfl⟩ := copy_of_accept h
    exact hslot
  by_cases he : hdr.flag = s.eof
  · rw [accept_of_eof he] at hcopy ⊢
    cases hv : s.variableLength with
    | true => exact ⟨hcopy, hslot, fun hfalse ↦ absurd (hv.symm.trans hfalse) (by decide)⟩
    | false => exact frameBounds_of_gotFrameSize hcopy (Or.inr (hg.last_slot ((heof hv).1 he)))
  · rw [accept_of_ne_eof he] at hcopy ⊢
    exact frameBounds_of_gotFrameSize hcopy hgot

/-- What `finish` guarantees from a staged stream. -/
theorem finish_bounds (hdr : PktHdr) (data : List UInt8) (chunkCb : Bool) (hg : s.Sized)
    (hf : s.FlagClear) (hP : 2 ≤ s.pktsPerFrame) (hst : s.Staged)
    (hgot : got = 0 ∨ got = s.frameSize) :
    (s.finish hdr data chunkCb got).strm.Bounded ∧
      (s.finish hdr data chunkCb got).strm.validPkts ≤ s.pktsPerFrame ∧
      FrameBounds s.toStreamGeometry (s.finish hdr data chunkCb got) := by
  cases hc : s.check hdr.flag data.length with
  | resync =>
    simp only [finish, hc]
    exact ⟨bounded_of_unsynced rfl, hst.validPkts_le,
      frameBounds_of_gotFrameSize (fun _ _ h ↦ by cases h) hgot⟩
  | drop =>
    have hlt := check_drop hP hc
    simp only [finish, hc]
    exact ⟨⟨fun _ ↦ hst.gotPkts_le, fun _ ↦ hlt.le, fun _ _ ↦ hlt, fun _ ↦ hst.validPkts_le⟩,
      hst.validPkts_le, frameBounds_of_gotFrameSize (fun _ _ h ↦ by cases h) hgot⟩
  | accept =>
    obtain ⟨hb, hvalid⟩ := accept_bounded chunkCb got hf hP hst hc
    have hframe := accept_frameBounds chunkCb hg hf hP hgot hc
    simp only [finish, hc]
    exact ⟨hb, hvalid, hframe⟩

/-- **The step lemma**: a call keeps the invariant, copies inside the frame and returns at most a
frame; `validPkts` is bounded unless the packet was dropped by an unsynced stream. -/
theorem streamProcess_bounds (pkt : List UInt8) (chunkCb : Bool) (hg : s.Sized) (hf : s.FlagClear)
    (hP : 2 ≤ s.pktsPerFrame) (hb : s.Bounded) :
    (streamProcess s pkt chunkCb).strm.Bounded ∧
      ((streamProcess s pkt chunkCb).strm.validPkts ≤ s.pktsPerFrame ∨
        (streamProcess s pkt chunkCb).strm = s) ∧
      FrameBounds s.toStreamGeometry (streamProcess s pkt chunkCb) := by
  refine streamProcess_cases (P := fun o ↦ o.strm.Bounded ∧
    (o.strm.validPkts ≤ s.pktsPerFrame ∨ o.strm = s) ∧
    FrameBounds s.toStreamGeometry o) ?_ ?_ ?_
  -- the packet is skipped
  · exact ⟨hb, Or.inr rfl, frameBounds_of_none s⟩
  -- the stream gives up on a gap
  · intro s₁ hs₁
    obtain ⟨hb₁, hsync⟩ := bounded_of_sync (by omega) hb hs₁
    have hgeom : s₁.toStreamGeometry = s.toStreamGeometry :=
      congrArg Prod.fst (setup_of_sync hs₁)
    have hvalid := hb₁.validPkts_le hsync
    rw [hgeom] at hvalid
    exact ⟨bounded_of_unsynced rfl, Or.inl hvalid, frameBounds_of_none _⟩
  -- the packet comes to the checks
  · intro s₁ s₂ got hs₁ hs₂
    obtain ⟨hb₁, hsync⟩ := bounded_of_sync (by omega) hb hs₁
    have hgeom₁ : s₁.toStreamGeometry = s.toStreamGeometry :=
      congrArg Prod.fst (setup_of_sync hs₁)
    have hgeom : s₂.toStreamGeometry = s.toStreamGeometry :=
      (congrArg Prod.fst (setup_of_handleLost hs₂)).trans hgeom₁
    have hgot := got_of_handleLost hs₂
    rw [hgeom₁, ← hgeom] at hgot
    obtain ⟨hb₂, hvalid, hframe⟩ :=
      finish_bounds (.ofBytes pkt) (pktData pkt) chunkCb
        (hgeom ▸ hg) (hgeom ▸ hf) (hgeom ▸ hP) (staged_of_handleLost hb₁ hsync hs₂) hgot
    rw [hgeom] at hvalid hframe
    exact ⟨hb₂, Or.inl hvalid, hframe⟩

/-- What is known of a stream between two calls: it is bounded, and it has the geometry it was set
up with; until the first sync it is as it was set up. -/
structure BoundedFrom (s₀ s : PacketStream) : Prop where
  geometry : s.toStreamGeometry = s₀.toStreamGeometry
  bounded : s.Bounded
  validPkts_le : s.validPkts ≤ s₀.pktsPerFrame ∨ s = s₀

/-- **The step of the invariant**, for a stream since its set-up. -/
theorem BoundedFrom.step (h : BoundedFrom s₀ s) (call : List UInt8 × Bool) (hg : s₀.Sized)
    (hf : s₀.FlagClear) (hP : 2 ≤ s₀.pktsPerFrame) : BoundedFrom s₀ (streamStep s call).1 := by
  have hgeom := h.geometry
  obtain ⟨hb, hvalid, -⟩ := streamProcess_bounds call.1 call.2
    (hgeom ▸ hg) (hgeom ▸ hf) (hgeom ▸ hP) h.bounded
  refine ⟨streamProcess_geometry.trans hgeom, hb, ?_⟩
  rcases hvalid with hvalid | hsame
  · rw [hgeom] at hvalid
    exact Or.inl hvalid
  · rw [streamStep_fst, hsame]
    exact h.validPkts_le

/-- It holds of the stream as it was set up. -/
theorem boundedFrom_init {prev : PacketStream} {rlen plen : ℕ} {lib raw : Ptr} :
    BoundedFrom (streamInit prev rlen plen lib raw) (streamInit prev rlen plen lib raw) :=
  ⟨rfl, bounded_of_unsynced (streamInit_synced _ _ _ _ _), Or.inr rfl⟩

/-- The bounds of a stream that `stream_init` set up hold after any calls. -/
theorem boundedFrom_run (hg : s₀.Sized) (hf : s₀.FlagClear) (hP : 2 ≤ s₀.pktsPerFrame)
    (h : BoundedFrom s₀ s) (calls : List (List UInt8 × Bool)) :
    BoundedFrom s₀ (Mealy.run streamStep s calls) :=
  Mealy.run_invariant (fun _ call hs ↦ hs.step call hg hf hP) h calls

/-- A stream that is synced at one time of a run counts the packets of a frame from then on. -/
theorem validPkts_le_of_synced (hg : s₀.Sized) (hf : s₀.FlagClear) (hP : 2 ≤ s₀.pktsPerFrame)
    (h : BoundedFrom s₀ s) {calls : List (List UInt8 × Bool)} {j k : ℕ} (hjk : j ≤ k)
    (hsynced : (Mealy.run streamStep s (calls.take j)).synced = true) :
    (Mealy.run streamStep s (calls.take k)).validPkts ≤ s₀.pktsPerFrame := by
  have hj := boundedFrom_run hg hf hP h (calls.take j)
  have hvalid := hj.bounded.validPkts_le hsynced
  rw [hj.geometry] at hvalid
  refine (Mealy.run_take_mono (I := fun s ↦ BoundedFrom s₀ s ∧ s.validPkts ≤ s₀.pktsPerFrame)
    (fun s call hs ↦ ⟨hs.1.step call hg hf hP, ?_⟩) hjk ⟨hj, hvalid⟩).2
  have hgeom := hs.1.geometry
  obtain ⟨-, hvalid', -⟩ := streamProcess_bounds call.1 call.2
    (hgeom ▸ hg) (hgeom ▸ hf) (hgeom ▸ hP) hs.1.bounded
  rcases hvalid' with hle | hsame
  · rwa [hgeom] at hle
  · rw [streamStep_fst, hsame]
    exact hs.2

/-- What is known between two calls, and the next call, give what the call guarantees. -/
theorem callBounds_of_boundedFrom {call : List UInt8 × Bool} (hg : s₀.Sized)
    (hf : s₀.FlagClear) (hP : 2 ≤ s₀.pktsPerFrame) (h : BoundedFrom s₀ s) :
    CallBounds s₀ (streamStep s call).2 := by
  have hnext := h.step call hg hf hP
  have hgeom := h.geometry
  have hgeom' := hnext.geometry
  obtain ⟨-, -, hframe⟩ := streamProcess_bounds call.1 call.2
    (hgeom ▸ hg) (hgeom ▸ hf) (hgeom ▸ hP) h.bounded
  rw [hgeom] at hframe
  refine ⟨fun hs hv ↦ ⟨hnext.bounded.gotPkts_le hs, ?_⟩,
    fun hs _ ↦ ⟨hnext.bounded.gotPkts_le hs, ?_⟩, hnext.validPkts_le, hframe.copy,
    hframe.size, hframe.fixed⟩
  · have := hnext.bounded.pktNum_lt hs (by rw [hgeom']; exact hv)
    rwa [hgeom'] at this
  · have := hnext.bounded.pktNum_le hs
    rwa [hgeom'] at this

/-- **Bounds of the reassembler.** After every call of every run of a stream that `stream_init` set
up, a synced stream is inside its frame, every copy the call made lies inside the `frameSize` bytes
of `rawBuf`, and the returned size is at most a frame; and from the first call on that leaves the
stream synced, `validPkts` is at most `pktsPerFrame`. -/
theorem stream_bounds (prev : PacketStream) (rlen plen : ℕ) (lib raw : Ptr)
    (hflag : prev.FlagClear) (hpkt : 0 < prev.pktSize)
    (hframe : 0 < (streamInit prev rlen plen lib raw).frameSize)
    (hP : 2 ≤ (streamInit prev rlen plen lib raw).pktsPerFrame)
    (calls : List (List UInt8 × Bool)) :
    (∀ o ∈ Mealy.trace streamStep (streamInit prev rlen plen lib raw) calls,
      CallBounds (streamInit prev rlen plen lib raw) o) ∧
    ∀ j k, j ≤ k →
      (Mealy.run streamStep (streamInit prev rlen plen lib raw) (calls.take j)).synced = true →
      (Mealy.run streamStep (streamInit prev rlen plen lib raw) (calls.take k)).validPkts ≤
        (streamInit prev rlen plen lib raw).pktsPerFrame := by
  have hg := streamInit_sized hpkt hframe
  have hf : (streamInit prev rlen plen lib raw).FlagClear := by
    rwa [StreamGeometry.FlagClear, streamInit_flag]
  constructor
  · exact Mealy.trace_forall (I := BoundedFrom (streamInit prev rlen plen lib raw))
      (fun _ call h ↦ h.step call hg hf hP) (fun _ _ h ↦ callBounds_of_boundedFrom hg hf hP h)
      boundedFrom_init calls
  · intro j k hjk hsynced
    exact validPkts_le_of_synced hg hf hP boundedFrom_init hjk hsynced

/-- A packet of the camera's format: what the driver does not read is zero. -/
def mkPacket (flag seq : UInt8) (ts : UInt8) (payload : List UInt8) : List UInt8 :=
  [0x52, 0x42, 0, flag, 0, seq, 0, 0, ts, 0, 0, 0] ++ payload

/-- A depth stream with one-byte packets. -/
def tinyStream : PacketStream := { PacketStream.zero with flag := 0x70, pktSize := 1 }

/-- `tinyStream` after it was set up for three packets a frame and has delivered one frame. -/
def tinyStreamUsed : PacketStream :=
  Mealy.run streamStep (streamInit tinyStream 0 3 1 2)
    [(mkPacket 0x71 0 9 [1], false), (mkPacket 0x72 1 9 [2], false), (mkPacket 0x75 2 9 [3], false)]

/-- `stream_init` leaves `validPkts` alone: a stream set up again for smaller frames carries the
old count, beyond its frame, until it syncs. -/
theorem stale_validPkts :
    ¬ ∀ (prev : PacketStream) (rlen plen : ℕ) (lib raw : Ptr), prev.FlagClear →
      0 < prev.pktSize → 0 < (streamInit prev rlen plen lib raw).frameSize →
      2 ≤ (streamInit prev rlen plen lib raw).pktsPerFrame →
      ∀ calls, ∀ o ∈ Mealy.trace streamStep (streamInit prev rlen plen lib raw) calls,
        o.strm.validPkts ≤ o.strm.pktsPerFrame := by
  intro h
  have hstale := h tinyStreamUsed 0 2 1 2 (by decide) (by decide) (by decide) (by decide)
    [([], false)] _ (List.mem_singleton.2 rfl)
  exact absurd hstale (by decide)

/-- The two packets of a frame. -/
def tinyFrame : List (List UInt8 × Bool) :=
  [(mkPacket 0x71 0 9 [1], false), (mkPacket 0x75 1 9 [2], false)]

/-- The bounds at work on a frame of two packets. -/
theorem stream_bounds_tiny :
    (Mealy.run streamStep (streamInit tinyStreamUsed 0 2 1 2) tinyFrame).synced = true ∧
      (∀ o ∈ Mealy.trace streamStep (streamInit tinyStreamUsed 0 2 1 2) tinyFrame,
        CallBounds (streamInit tinyStreamUsed 0 2 1 2) o) ∧
      ∀ j k, j ≤ k →
        (Mealy.run streamStep (streamInit tinyStreamUsed 0 2 1 2) (tinyFrame.take j)).synced =
          true →
        (Mealy.run streamStep (streamInit tinyStreamUsed 0 2 1 2) (tinyFrame.take k)).validPkts ≤
          (streamInit tinyStreamUsed 0 2 1 2).pktsPerFrame :=
  ⟨by decide, stream_bounds tinyStreamUsed 0 2 1 2 (by decide) (by decide) (by decide) (by decide)
    tinyFrame⟩

end Freenect
