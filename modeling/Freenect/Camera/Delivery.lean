import Freenect.Camera.Alignment

/-!
# Whose packets a delivered frame holds

When a gap reaches the end of a frame, `stream_process` declares the frame complete and goes on
with the packet that arrived, which belongs to the next frame: it is copied to `raw_buf` before the
caller sees the old frame. So the delivered frame holds a payload of its successor, and if the
frame callback then swaps the buffer of an unsplit stream, that payload is missing from its own
frame. As long as no lost packet is the last of its frame, neither can happen; this is the exact
condition (`delivered_frames_own_packets_iff`).

To say where a byte came from, memory is instrumented: a `Cell` is a byte with the index of the
packet that brought it. `Link.step` is `frameProcess` on such a memory, and erasing the origins
gives `frameProcess` back (`erase_step`).

One packet is `Link.step_cases`, which has three outcomes: ignored, stored, or stored with a
delivery. The rest is about runs. A payload stays in its slot until its frame is delivered, because
packets of one frame have disjoint slots (`holds_of_delivery`); this gives one direction. For the
other, a frame end that is lost while the stream is synced makes the next packet land in the buffer
before the delivery (`losesNoFrameEnd_of_noLaterPacket`), and its first byte is the witness.
-/

namespace Freenect

/-- A byte, and the packet whose payload it is part of; `none` for what no packet brought. -/
structure Cell where
  byte : UInt8
  origin : Option ℕ
  deriving DecidableEq, Repr

/-- The payload of packet `j`. -/
def payloadCells (j : ℕ) (data : List UInt8) : List Cell := data.map (Cell.mk · (some j))

/-- Memory without the origins. -/
def erase (m : BlockMemory Cell) : Memory := fun b x ↦ (m b x).byte

/-- `Processed.memory`, remembering the packet. -/
def Processed.cells (o : Processed) (j : ℕ) (m : BlockMemory Cell) : BlockMemory Cell :=
  match o.payload with
  | some (.memcpy off data) => m.store o.strm.rawBuf off (payloadCells j data)
  | _ => m

/-- What a conversion writes no longer belongs to any one packet. -/
def convertCells (f : Conversion) (raw proc : ℕ → Cell) : List Cell :=
  (f (fun x ↦ (raw x).byte) fun x ↦ (proc x).byte).map (Cell.mk · none)

/-- The `switch` on the format, remembering the origins. -/
def convertInto (convert : Option Conversion) (m : BlockMemory Cell)
    (rawBuf procBuf : Ptr) : BlockMemory Cell :=
  match convert with
  | some f => m.store procBuf 0 (convertCells f (m rawBuf) (m procBuf))
  | none => m

/-- A stream, its memory and the packet expected next. -/
structure Link where
  strm : PacketStream
  mem : BlockMemory Cell
  next : ℕ

/-- A frame is delivered: which frame of the sender's it is, and the buffers when `stream_process`
returns. -/
structure Delivery where
  frame : ℕ
  rawBuf : Ptr
  mem : BlockMemory Cell

/-- What is observed of a call: the packet, whether its payload was accepted, and the frame the
call delivered. -/
structure Report where
  index : ℕ
  accepted : Bool
  delivery : Option Delivery

/-- Packet `a.1` arrives; if it completes a frame, the frame callback sets the buffer `a.2`. The
delivered frame is the one of the packet that was expected. -/
def Link.step (convert : Option Conversion) (packets : ℕ → List UInt8) (l : Link)
    (a : ℕ × Option Ptr) : Link × Report :=
  let idle : Link × Report :=
    ({ l with next := a.1 + 1 }, { index := a.1, accepted := false, delivery := none })
  if (packets a.1).length = 0 then idle
  else if ¬ l.strm.running then idle
  else
    let o := streamProcess l.strm (packets a.1) false
    let mem := o.cells a.1 l.mem
    if o.gotFrameSize = 0 then
      ({ strm := o.strm, mem := mem, next := a.1 + 1 },
        { index := a.1, accepted := o.payload.isSome, delivery := none })
    else
      ({ strm := frameCallback o.strm a.2
         mem := convertInto convert mem o.strm.rawBuf o.strm.procBuf
         next := a.1 + 1 },
        { index := a.1, accepted := o.payload.isSome
          delivery := some
            { frame := l.next / l.strm.pktsPerFrame, rawBuf := o.strm.rawBuf, mem := mem } })

/-! ### Erasing the origins

The instrumented step computes the same as the driver's. The origins are of no consequence for it.
-/

/-- Storing and erasing commute. -/
theorem erase_store (m : BlockMemory Cell) (b off : ℕ) (cells : List Cell) :
    erase (m.store b off cells) = (erase m).store b off (cells.map Cell.byte) := by
  funext b' x
  by_cases h : b' = b ∧ off ≤ x
  · cases hc : cells[x - off]? <;> simp [erase, BlockMemory.store, h, hc]
  · simp [erase, BlockMemory.store, h]

/-- What a call does to memory, with and without origins. -/
theorem erase_cells (o : Processed) (j : ℕ) (m : BlockMemory Cell) :
    erase (o.cells j m) = o.memory (erase m) := by
  rw [Processed.cells, Processed.memory]
  rcases o.payload with - | ⟨off, data⟩ | ⟨k, data⟩
  · rfl
  · rw [erase_store]
    simp [payloadCells, PayloadOp.apply, Function.comp_def]
  · rfl

/-- **`Link.step` is `frameProcess`** as soon as the origins are forgotten. -/
theorem erase_step (convert : Option Conversion) (packets : ℕ → List UInt8)
    (l : Link) (a : ℕ × Option Ptr) :
    let out := frameProcess convert l.strm (erase l.mem) (packets a.1) false a.2
    (l.step convert packets a).1.strm = out.1 ∧
      erase (l.step convert packets a).1.mem = out.2.1 ∧
      (l.step convert packets a).2.delivery.isSome = out.2.2.isSome := by
  intro out
  by_cases hlen : (packets a.1).length = 0
  · simp [out, Link.step, frameProcess, hlen]
  by_cases hrun : l.strm.running = true
  · by_cases hsize : (streamProcess l.strm (packets a.1) false).gotFrameSize = 0
    · simp [out, Link.step, frameProcess, hlen, hrun, hsize, erase_cells]
    · cases convert with
      | none => simp [out, Link.step, frameProcess, hlen, hrun, hsize, erase_cells, convertInto]
      | some f =>
        simp [out, Link.step, frameProcess, hlen, hrun, hsize, erase_store, convertInto,
          convertCells, Function.comp_def, ← erase_cells _ a.1]
        rfl
  · simp [out, Link.step, frameProcess, hlen, hrun]

/-! ### One packet

A packet arrives with at most five lost before it. The alignment with the sender says where its
payload goes; what is new here is what the buffers then hold. -/

/-- A new buffer changes nothing but the buffers. -/
theorem streamSetbuf_eq (strm : PacketStream) (pbuf : Ptr) :
    (streamSetbuf strm pbuf).1 =
      { strm with toStreamBufs := (streamSetbuf strm pbuf).1.toStreamBufs } := by
  rcases streamSetbuf_cases strm pbuf with ⟨-, hset⟩ | ⟨-, -, -, hset⟩ | ⟨-, -, hset⟩ <;> rw [hset]

/-- A frame callback changes nothing of the stream but its buffers. -/
theorem frameCallback_eq (strm : PacketStream) (newBuf : Option Ptr) :
    frameCallback strm newBuf =
      { strm with toStreamBufs := (frameCallback strm newBuf).toStreamBufs } := by
  cases newBuf with
  | none => rfl
  | some pbuf => exact streamSetbuf_eq strm pbuf

section Link

variable {convert : Option Conversion} {packets : ℕ → List UInt8} {q₀ : UInt8}
  {l : Link} {a : ℕ × Option Ptr}

/-- The running stream is aligned with the sender, and memory holds packets of the past only. -/
structure Link.Tracked (q₀ : UInt8) (packets : ℕ → List UInt8) (l : Link) : Prop where
  fixed : l.strm.Fixed
  six_le : 6 ≤ l.strm.pktsPerFrame
  running : l.strm.running = true
  sender : IsSender l.strm.toStreamGeometry q₀ packets
  aligned : AlignedAt q₀ l.next l.strm
  past : ∀ b x i, (l.mem b x).origin = some i → i < l.next

/-- Where the payload of packet `j` belongs. -/
def Link.slot (l : Link) (j : ℕ) : ℕ := j % l.strm.pktsPerFrame * l.strm.pktSize

/-- Memory after the payload of packet `j` was stored at its slot. -/
def Link.stored (l : Link) (packets : ℕ → List UInt8) (j : ℕ) : BlockMemory Cell :=
  l.mem.store l.strm.rawBuf (l.slot j) (payloadCells j (pktData (packets j)))

/-- No packet of the sender is empty. -/
theorem Link.Tracked.length_ne_zero (h : l.Tracked q₀ packets) (j : ℕ) :
    ¬ (packets j).length = 0 := by
  have := (h.sender.packet j).header.1
  rw [pktHdrSize] at this
  omega

section Taken

variable {n : ℕ}

/-- A call keeps the number of packets of a frame. -/
theorem pktsPerFrame_streamProcess (strm : PacketStream) (pkt : List UInt8) :
    (streamProcess strm pkt false).strm.pktsPerFrame = strm.pktsPerFrame :=
  congrArg (fun p ↦ p.1.pktsPerFrame) streamProcess_setup

theorem rawBuf_streamProcess (strm : PacketStream) (pkt : List UInt8) :
    (streamProcess strm pkt false).strm.rawBuf = strm.rawBuf :=
  congrArg (fun p ↦ p.2.1.rawBuf) streamProcess_setup

/-- A packet that is taken lands at its slot. -/
theorem cells_of_taken (ht : Taken q₀ l.strm n a.1 (pktData (packets a.1)) false
      (streamProcess l.strm (packets a.1) false)) :
    (streamProcess l.strm (packets a.1) false).cells a.1 l.mem = l.stored packets a.1 := by
  rw [Processed.cells, ht.payload, rawBuf_streamProcess]
  rfl

/-- A packet that is taken and ends no frame since packet `n` is only stored. -/
theorem Link.Tracked.step_of_taken_within (convert : Option Conversion) (h : l.Tracked q₀ packets)
    (ht : Taken q₀ l.strm n a.1 (pktData (packets a.1)) false
      (streamProcess l.strm (packets a.1) false))
    (hend : ¬ n / l.strm.pktsPerFrame < (a.1 + 1) / l.strm.pktsPerFrame) :
    l.step convert packets a =
      ({ strm := (streamProcess l.strm (packets a.1) false).strm
         mem := l.stored packets a.1
         next := a.1 + 1 },
        { index := a.1, accepted := true, delivery := none }) := by
  have hsize : (streamProcess l.strm (packets a.1) false).gotFrameSize = 0 := by
    rw [ht.size, if_neg hend]
  simp only [Link.step, if_neg (h.length_ne_zero a.1), if_neg (not_not.2 h.running), if_pos hsize,
    cells_of_taken ht, ht.payload]
  rfl

/-- A packet that is taken and ends a frame is stored, and the frame is delivered. -/
theorem Link.Tracked.step_of_taken_across (convert : Option Conversion) (h : l.Tracked q₀ packets)
    (ht : Taken q₀ l.strm n a.1 (pktData (packets a.1)) false
      (streamProcess l.strm (packets a.1) false))
    (hend : n / l.strm.pktsPerFrame < (a.1 + 1) / l.strm.pktsPerFrame) :
    l.step convert packets a =
      ({ strm := frameCallback (streamProcess l.strm (packets a.1) false).strm a.2
         mem := convertInto convert (l.stored packets a.1) l.strm.rawBuf
           (streamProcess l.strm (packets a.1) false).strm.procBuf
         next := a.1 + 1 },
        { index := a.1, accepted := true
          delivery := some
            { frame := l.next / l.strm.pktsPerFrame, rawBuf := l.strm.rawBuf
              mem := l.stored packets a.1 } }) := by
  have hsize : ¬ (streamProcess l.strm (packets a.1) false).gotFrameSize = 0 := by
    rw [ht.size, if_pos hend]
    exact h.fixed.sized.frameSize_ne_zero
  simp only [Link.step, if_neg (h.length_ne_zero a.1), if_neg (not_not.2 h.running), if_neg hsize,
    cells_of_taken ht, ht.payload, rawBuf_streamProcess]
  rfl

end Taken

/-- The first packet of a frame of several packets ends none. -/
theorem not_div_lt_succ_div {P j : ℕ} (hP : 2 ≤ P) (h0 : j % P = 0) : ¬ j / P < (j + 1) / P := by
  rw [(succ_of_inner hP (by omega)).2]
  exact Nat.lt_irrefl _

/-- **One packet, at most five lost before it**: an unsynced stream may ignore it; else it is stored
at its slot, and a frame is delivered if one ended since the packet expected. -/
theorem Link.step_cases (convert : Option Conversion) (h : l.Tracked q₀ packets)
    (hnj : l.next ≤ a.1) (h5 : a.1 ≤ l.next + 5) :
    (l.strm.synced = false ∧ l.step convert packets a =
      ({ l with next := a.1 + 1 }, { index := a.1, accepted := false, delivery := none })) ∨
    (∃ strm', strm'.setup = l.strm.setup ∧ strm'.synced = true ∧ AlignedAt q₀ (a.1 + 1) strm' ∧
      (l.strm.synced = true → l.next / l.strm.pktsPerFrame = (a.1 + 1) / l.strm.pktsPerFrame) ∧
      l.step convert packets a = ({ strm := strm', mem := l.stored packets a.1, next := a.1 + 1 },
        { index := a.1, accepted := true, delivery := none })) ∨
    (l.strm.synced = true ∧ l.next / l.strm.pktsPerFrame < (a.1 + 1) / l.strm.pktsPerFrame ∧
      ∃ strm' procBuf, strm'.setup = l.strm.setup ∧ strm'.synced = true ∧
        AlignedAt q₀ (a.1 + 1) strm' ∧
        l.step convert packets a =
          ({ strm := frameCallback strm' a.2
             mem := convertInto convert (l.stored packets a.1) l.strm.rawBuf procBuf
             next := a.1 + 1 },
            { index := a.1, accepted := true
              delivery := some
                { frame := l.next / l.strm.pktsPerFrame, rawBuf := l.strm.rawBuf
                  mem := l.stored packets a.1 } })) := by
  have hframe := pktsPerFrame_streamProcess l.strm (packets a.1)
  cases hs : l.strm.synced with
  | false =>
    rcases unsynced_call (j := a.1) false h.fixed h.sender hs with hcall | ⟨h0, ht⟩
    · -- the packet is not the first of a frame
      refine Or.inl ⟨rfl, ?_⟩
      simp only [Link.step, if_neg (h.length_ne_zero a.1), if_neg (not_not.2 h.running), hcall,
        Processed.cells]
      rfl
    · -- the stream syncs, and a first packet ends no frame
      have hsame := not_div_lt_succ_div (Nat.le_trans (by decide) h.six_le) h0
      exact Or.inr (Or.inl ⟨_, streamProcess_setup, ht.synced, ht.alignedAt hframe,
        fun h ↦ (by cases h), h.step_of_taken_within convert ht hsame⟩)
  | true =>
    have ht := aligned_call false h.fixed h.six_le h.sender h.aligned hs hnj h5
    by_cases hend : l.next / l.strm.pktsPerFrame < (a.1 + 1) / l.strm.pktsPerFrame
    · exact Or.inr (Or.inr ⟨rfl, hend, _, _, streamProcess_setup, ht.synced, ht.alignedAt hframe,
        h.step_of_taken_across convert ht hend⟩)
    · have hle := (ends_of_gap h.six_le hnj h5).1
      exact Or.inr (Or.inl ⟨_, streamProcess_setup, ht.synced, ht.alignedAt hframe,
        fun _ ↦ (by omega), h.step_of_taken_within convert ht hend⟩)

/-- The packet expected next is the one behind the packet that arrived. -/
@[simp] theorem Link.step_next : (l.step convert packets a).1.next = a.1 + 1 := by
  rw [Link.step]
  dsimp only
  split
  · rfl
  · split
    · rfl
    · split
      · rfl
      · rfl

/-- The report is about the packet that arrived. -/
@[simp] theorem Link.step_index : (l.step convert packets a).2.index = a.1 := by
  rw [Link.step]
  dsimp only
  split
  · rfl
  · split
    · rfl
    · split
      · rfl
      · rfl

/-- The cells of a payload have its packet as their origin. -/
theorem origin_of_mem_payloadCells {j i : ℕ} {data : List UInt8} {c : Cell}
    (hc : c ∈ payloadCells j data) (hi : c.origin = some i) : i = j := by
  obtain ⟨b, -, rfl⟩ := List.mem_map.1 hc
  exact (Option.some.inj hi).symm

/-- What the buffers hold after packet `j` was stored is packet `j` or older. -/
theorem Link.Tracked.origin_stored (h : l.Tracked q₀ packets) {j : ℕ} (hnj : l.next ≤ j) {b x i : ℕ}
    (hi : (l.stored packets j b x).origin = some i) : i ≤ j := by
  rcases BlockMemory.store_cases l.mem l.strm.rawBuf (l.slot j)
    (payloadCells j (pktData (packets j))) b x with hc | hc
  · have := h.past b x i (hc ▸ hi)
    omega
  · exact (origin_of_mem_payloadCells hc hi).le

/-- A conversion brings in no new origins. -/
theorem origin_convertInto {m : BlockMemory Cell} {rawBuf procBuf b x i : ℕ}
    (hi : (convertInto convert m rawBuf procBuf b x).origin = some i) :
    (m b x).origin = some i := by
  cases convert with
  | none => exact hi
  | some f =>
    rcases BlockMemory.store_cases m procBuf 0
      (convertCells f (m rawBuf) (m procBuf)) b x with hc | hc
    · exact hc ▸ hi
    · obtain ⟨byte, -, hcell⟩ := List.mem_map.1 hc
      rw [convertInto, ← hcell] at hi
      cases hi

/-- The geometry of the link's stream, which no step changes. -/
theorem Link.Tracked.geometry_step (h : l.Tracked q₀ packets)
    (convert : Option Conversion) (hnj : l.next ≤ a.1)
    (h5 : a.1 ≤ l.next + 5) :
    (l.step convert packets a).1.strm.toStreamGeometry = l.strm.toStreamGeometry := by
  rcases Link.step_cases convert h hnj h5 with
    ⟨-, hstep⟩ | ⟨strm', hset, -, -, -, hstep⟩ | ⟨-, -, strm', _, hset, -, -, hstep⟩ <;> rw [hstep]
  · exact congrArg Prod.fst hset
  · rw [frameCallback_eq]
    exact congrArg Prod.fst hset

/-- Nor does a step change the number of packets of a frame. -/
theorem Link.Tracked.pktsPerFrame_step (h : l.Tracked q₀ packets) (convert : Option Conversion)
    (hnj : l.next ≤ a.1) (h5 : a.1 ≤ l.next + 5) :
    (l.step convert packets a).1.strm.pktsPerFrame = l.strm.pktsPerFrame :=
  congrArg StreamGeometry.pktsPerFrame (h.geometry_step convert hnj h5)

theorem Link.Tracked.slot_step (h : l.Tracked q₀ packets) (convert : Option Conversion)
    (hnj : l.next ≤ a.1) (h5 : a.1 ≤ l.next + 5) (j : ℕ) :
    (l.step convert packets a).1.slot j = l.slot j := by
  simp only [Link.slot, h.geometry_step convert hnj h5]

/-- **A delivery** is of the frame expected, which has ended, and what is delivered is the buffer as
it is behind the packet. -/
theorem Link.Tracked.delivery_step (h : l.Tracked q₀ packets) (hnj : l.next ≤ a.1)
    (h5 : a.1 ≤ l.next + 5) {d : Delivery}
    (hd : (l.step convert packets a).2.delivery = some d) :
    l.strm.synced = true ∧ l.next / l.strm.pktsPerFrame < (a.1 + 1) / l.strm.pktsPerFrame ∧
      d = { frame := l.next / l.strm.pktsPerFrame, rawBuf := l.strm.rawBuf
            mem := l.stored packets a.1 } := by
  rcases Link.step_cases convert h hnj h5 with
    ⟨-, hstep⟩ | ⟨_, -, -, -, -, hstep⟩ | ⟨hs, hend, _, _, -, -, -, hstep⟩ <;>
    rw [hstep] at hd <;> cases hd
  exact ⟨hs, hend, rfl⟩

/-- A packet that is stored and ends no frame: the stream is synced, and what the buffer holds stays
in it. -/
theorem Link.Tracked.holds_step (h : l.Tracked q₀ packets) (convert : Option Conversion)
    (hnj : l.next ≤ a.1) (h5 : a.1 ≤ l.next + 5)
    (hacc : l.strm.synced = true ∨ (l.step convert packets a).2.accepted = true)
    (hend : l.strm.synced = true →
      l.next / l.strm.pktsPerFrame = (a.1 + 1) / l.strm.pktsPerFrame) :
    (l.step convert packets a).1.strm.synced = true ∧ ∀ off cells,
      (l.stored packets a.1).Holds l.strm.rawBuf off cells →
        (l.step convert packets a).1.mem.Holds (l.step convert packets a).1.strm.rawBuf off
          cells := by
  rcases Link.step_cases convert h hnj h5 with
    ⟨hs, hstep⟩ | ⟨strm', hset, hs', -, -, hstep⟩ | ⟨hs, hlt, -⟩
  · rw [hs, hstep] at hacc
    rcases hacc with hacc | hacc <;> cases hacc
  · have hraw : strm'.rawBuf = l.strm.rawBuf := congrArg (fun p ↦ p.2.1.rawBuf) hset
    rw [hstep]
    refine ⟨hs', fun off cells hheld ↦ ?_⟩
    show (l.stored packets a.1).Holds strm'.rawBuf off cells
    rwa [hraw]
  · exact absurd (hend hs) hlt.ne

/-- **The step lemma.** -/
theorem Link.Tracked.step (h : l.Tracked q₀ packets) (convert : Option Conversion)
    (hnj : l.next ≤ a.1)
    (h5 : a.1 ≤ l.next + 5) : (l.step convert packets a).1.Tracked q₀ packets := by
  have hgeom := h.geometry_step convert hnj h5
  -- aligned and running in each of the three outcomes, and nothing in memory is from the future
  have hrest : (l.step convert packets a).1.strm.running = true ∧
      AlignedAt q₀ (l.step convert packets a).1.next (l.step convert packets a).1.strm ∧
      ∀ b x i, ((l.step convert packets a).1.mem b x).origin = some i →
        i < (l.step convert packets a).1.next := by
    rcases Link.step_cases convert h hnj h5 with
      ⟨hs, hstep⟩ | ⟨strm', hset, -, hal, -, hstep⟩ | ⟨-, -, strm', _, hset, -, hal, hstep⟩ <;>
      rw [hstep]
    · refine ⟨h.running, alignedAt_of_unsynced hs, fun b x i hi ↦ ?_⟩
      have := h.past b x i hi
      simp only
      omega
    · have hrun : strm'.running = true := (congrArg (fun p ↦ p.2.2) hset).trans h.running
      exact ⟨hrun, hal, fun b x i hi ↦ Nat.lt_succ_of_le (h.origin_stored hnj hi)⟩
    · have hrun : strm'.running = true := (congrArg (fun p ↦ p.2.2) hset).trans h.running
      refine ⟨?_, ?_, fun b x i hi ↦ ?_⟩
      · rw [frameCallback_eq]
        exact hrun
      · rw [frameCallback_eq]
        exact ⟨hal.seq, hal.pktNum⟩
      · exact Nat.lt_succ_of_le (h.origin_stored hnj (origin_convertInto hi))
  exact ⟨hgeom ▸ h.fixed, hgeom ▸ h.six_le, hrest.1, hgeom ▸ h.sender, hrest.2.1, hrest.2.2⟩

end Link

/-! ### Runs

A delivery and the packets around it are related through the order of arrival: what came before it
is of its frame or earlier, what comes after it of later ones. -/

/-- A delivered buffer holds no packet of a later frame. -/
def NoLaterPacket (P : ℕ) (reports : List Report) : Prop :=
  ∀ o ∈ reports, ∀ d, o.delivery = some d → ∀ x i, (d.mem d.rawBuf x).origin = some i →
    i / P ≤ d.frame

/-- Every accepted payload is at its slot in the buffer delivered for its frame. -/
def OwnPacketsPresent (g : StreamGeometry) (packets : ℕ → List UInt8) (reports : List Report) :
    Prop :=
  ∀ o ∈ reports, o.accepted = true → ∀ o' ∈ reports, ∀ d, o'.delivery = some d →
    d.frame = o.index / g.pktsPerFrame →
    d.mem.Holds d.rawBuf (o.index % g.pktsPerFrame * g.pktSize)
      (payloadCells o.index (pktData (packets o.index)))

/-- While the stream is synced, no packet that is lost is the last of its frame. -/
def LosesNoFrameEnd (convert : Option Conversion) (packets : ℕ → List UInt8) :
    Link → List (ℕ × Option Ptr) → Prop
  | _, [] => True
  | l, a :: as =>
    (l.strm.synced = true → frameEnds l.strm.pktsPerFrame l.next a.1 = 0) ∧
      LosesNoFrameEnd convert packets (l.step convert packets a).1 as

section Run

variable {convert : Option Conversion} {packets : ℕ → List UInt8} {q₀ : UInt8}
  {l : Link} {as : List (ℕ × Option Ptr)}

/-- Deliveries are of the frame expected or later ones. -/
theorem frame_of_delivery (h : l.Tracked q₀ packets) (hloss : LossWithin5 l.next as) :
    ∀ o ∈ Mealy.trace (Link.step convert packets) l as, ∀ d, o.delivery = some d →
      l.next / l.strm.pktsPerFrame ≤ d.frame := by
  induction as generalizing l with
  | nil => simp
  | cons a as ih =>
    obtain ⟨hnj, h5, hrest⟩ := hloss
    have hgeom := h.geometry_step convert hnj h5
    have hnext := h.step convert hnj h5
    intro o ho d hd
    rcases List.mem_cons.1 ho with rfl | ho
    · obtain ⟨-, -, rfl⟩ := h.delivery_step hnj h5 hd
      exact le_refl _
    · have := ih hnext (by rwa [Link.step_next]) o ho d hd
      rw [Link.step_next, hgeom] at this
      exact (ends_of_gap h.six_le hnj h5).1.trans this

/-- Packets arrive in the order of sending. -/
theorem index_of_report (hloss : LossWithin5 l.next as) :
    ∀ o ∈ Mealy.trace (Link.step convert packets) l as, l.next ≤ o.index := by
  induction as generalizing l with
  | nil => simp
  | cons a as ih =>
    obtain ⟨hnj, -, hrest⟩ := hloss
    intro o ho
    rcases List.mem_cons.1 ho with rfl | ho
    · rwa [Link.step_index]
    · have := ih (l := (l.step convert packets a).1) (by rwa [Link.step_next]) o ho
      rw [Link.step_next] at this
      omega

/-- Two packets of one frame have disjoint slots. -/
theorem slots_disjoint {P size i j m n : ℕ} (hij : i ≠ j) (hframe : i / P = j / P)
    (hm : m ≤ size) (hn : n ≤ size) :
    i % P * size + m ≤ j % P * size ∨ j % P * size + n ≤ i % P * size := by
  have hmod : i % P ≠ j % P := fun h ↦ hij (by
    rw [← Nat.div_add_mod i P, ← Nat.div_add_mod j P, h, hframe])
  rcases Nat.lt_or_gt_of_ne hmod with hlt | hgt
  · left
    have := Nat.mul_le_mul_right size (Nat.succ_le_of_lt hlt)
    rw [Nat.succ_mul] at this
    omega
  · right
    have := Nat.mul_le_mul_right size (Nat.succ_le_of_lt hgt)
    rw [Nat.succ_mul] at this
    omega

/-- A payload is no longer than a slot. -/
theorem Link.Tracked.payload_le (h : l.Tracked q₀ packets) (j : ℕ) :
    (pktData (packets j)).length ≤ l.strm.pktSize := by
  have := h.fixed.sized.lastPktSize_le
  rw [(h.sender.packet j).size]
  split
  · omega
  · omega

theorem Link.Tracked.payload_pos (h : l.Tracked q₀ packets) (j : ℕ) :
    0 < (pktData (packets j)).length := by
  have := h.fixed.sized.lastPktSize_pos
  have := h.fixed.sized.pktSize_pos
  rw [(h.sender.packet j).size]
  split
  · omega
  · omega

/-- Storing a later packet of the same frame leaves an earlier one alone. -/
theorem Link.Tracked.holds_stored (h : l.Tracked q₀ packets) {i j : ℕ} (hij : i ≠ j)
    (hframe : i / l.strm.pktsPerFrame = j / l.strm.pktsPerFrame)
    (hheld : l.mem.Holds l.strm.rawBuf (l.slot i) (payloadCells i (pktData (packets i)))) :
    (l.stored packets j).Holds l.strm.rawBuf (l.slot i)
      (payloadCells i (pktData (packets i))) := by
  refine BlockMemory.holds_store_of_disjoint ?_ hheld
  simp only [payloadCells, List.length_map]
  exact slots_disjoint hij hframe (h.payload_le i) (h.payload_le j)

/-- A packet of the frame being received stays in its slot until that frame is delivered. -/
theorem holds_of_delivery (h : l.Tracked q₀ packets) (hs : l.strm.synced = true)
    (hloss : LossWithin5 l.next as) (hkeep : LosesNoFrameEnd convert packets l as) {i : ℕ}
    (hi : i < l.next) (hframe : i / l.strm.pktsPerFrame = l.next / l.strm.pktsPerFrame)
    (hheld : l.mem.Holds l.strm.rawBuf (l.slot i) (payloadCells i (pktData (packets i)))) :
    ∀ o ∈ Mealy.trace (Link.step convert packets) l as, ∀ d, o.delivery = some d →
      d.frame = i / l.strm.pktsPerFrame →
      d.mem.Holds d.rawBuf (l.slot i) (payloadCells i (pktData (packets i))) := by
  induction as generalizing l with
  | nil => simp
  | cons a as ih =>
    obtain ⟨hnj, h5, hrest⟩ := hloss
    obtain ⟨hsame, hkeep⟩ := hkeep
    have hP := h.pktsPerFrame_step convert hnj h5
    have hnext := h.step convert hnj h5
    have hj : l.next / l.strm.pktsPerFrame = a.1 / l.strm.pktsPerFrame := by
      have := frameEnds_eq (P := l.strm.pktsPerFrame) hnj
      have := hsame hs
      omega
    have hheld' := h.holds_stored (show i ≠ a.1 by omega) (hframe.trans hj) hheld
    have hrest' : LossWithin5 (l.step convert packets a).1.next as := by rwa [Link.step_next]
    intro o ho d hd hdframe
    -- this delivery, if it is of the frame, or one that comes later
    rcases List.mem_cons.1 ho with rfl | ho
    · obtain ⟨-, -, rfl⟩ := h.delivery_step hnj h5 hd
      exact hheld'
    by_cases hend : l.next / l.strm.pktsPerFrame = (a.1 + 1) / l.strm.pktsPerFrame
    · -- no frame ends: the payload is still there for the rest of the run
      obtain ⟨hs', hstays⟩ := h.holds_step convert hnj h5 (Or.inl hs) fun _ ↦ hend
      rw [← h.slot_step convert hnj h5] at hheld' ⊢
      refine ih hnext hs' hrest' hkeep ?_ ?_ (hstays _ _ hheld') o ho d hd (by rwa [hP])
      · rw [Link.step_next]
        omega
      · rw [hP, Link.step_next, hframe, hend]
    · -- later deliveries are of later frames
      have hlater := frame_of_delivery hnext hrest' o ho d hd
      have hle := (ends_of_gap h.six_le hnj h5).1
      rw [Link.step_next, hP] at hlater
      omega

/-- A packet that was just accepted, and did not end its frame, is in the buffer when that frame is
delivered. -/
theorem holds_of_accepted {a : ℕ × Option Ptr} (h : l.Tracked q₀ packets) (hnj : l.next ≤ a.1)
    (h5 : a.1 ≤ l.next + 5) (hacc : (l.step convert packets a).2.accepted = true)
    (hsame : l.strm.synced = true → frameEnds l.strm.pktsPerFrame l.next a.1 = 0)
    (hrest : LossWithin5 (a.1 + 1) as)
    (hkeep : LosesNoFrameEnd convert packets (l.step convert packets a).1 as)
    (hend : a.1 / l.strm.pktsPerFrame = (a.1 + 1) / l.strm.pktsPerFrame) :
    ∀ o ∈ Mealy.trace (Link.step convert packets) (l.step convert packets a).1 as, ∀ d,
      o.delivery = some d → d.frame = a.1 / l.strm.pktsPerFrame →
      d.mem.Holds d.rawBuf (l.slot a.1) (payloadCells a.1 (pktData (packets a.1))) := by
  have hP := h.pktsPerFrame_step convert hnj h5
  have hnext := h.step convert hnj h5
  have hrest' : LossWithin5 (l.step convert packets a).1.next as := by rwa [Link.step_next]
  have hsame' : l.strm.synced = true →
      l.next / l.strm.pktsPerFrame = (a.1 + 1) / l.strm.pktsPerFrame := by
    intro hs
    have := frameEnds_eq (P := l.strm.pktsPerFrame) hnj
    have := hsame hs
    omega
  obtain ⟨hs', hstays⟩ := h.holds_step convert hnj h5 (Or.inr hacc) hsame'
  intro o ho d hd hdframe
  rw [← h.slot_step convert hnj h5]
  refine holds_of_delivery hnext hs' hrest' hkeep ?_ ?_ ?_ o ho d hd (by rwa [hP])
  · rw [Link.step_next]
    omega
  · rw [hP, Link.step_next, hend]
  · rw [h.slot_step convert hnj h5]
    exact hstays _ _ BlockMemory.holds_store_self

/-- **If no frame end is lost, every delivered frame is made of its own packets.** -/
theorem own_packets_of_losesNoFrameEnd (h : l.Tracked q₀ packets) (hloss : LossWithin5 l.next as)
    (hkeep : LosesNoFrameEnd convert packets l as) :
    NoLaterPacket l.strm.pktsPerFrame (Mealy.trace (Link.step convert packets) l as) ∧
      OwnPacketsPresent l.strm.toStreamGeometry packets
        (Mealy.trace (Link.step convert packets) l as) := by
  induction as generalizing l with
  | nil => exact ⟨by simp [NoLaterPacket], by simp [OwnPacketsPresent]⟩
  | cons a as ih =>
    obtain ⟨hnj, h5, hrest⟩ := hloss
    obtain ⟨hsame, hkeep⟩ := hkeep
    have hgeom := h.geometry_step convert hnj h5
    have hnext := h.step convert hnj h5
    have hrest' : LossWithin5 (l.step convert packets a).1.next as := by rwa [Link.step_next]
    obtain ⟨hlater, hpresent⟩ := ih hnext hrest' hkeep
    rw [hgeom] at hlater hpresent
    have hle := frameEnds_eq (P := l.strm.pktsPerFrame) hnj
    refine ⟨?_, ?_⟩
    · intro o ho d hd x i hi
      rcases List.mem_cons.1 ho with rfl | ho
      · obtain ⟨hs, -, rfl⟩ := h.delivery_step hnj h5 hd
        have hframe := hsame hs
        calc i / l.strm.pktsPerFrame
            ≤ a.1 / l.strm.pktsPerFrame := Nat.div_le_div_right (h.origin_stored hnj hi)
          _ = l.next / l.strm.pktsPerFrame := by omega
      · exact hlater o ho d hd x i hi
    · intro o ho hacc o' ho' d hd hdframe
      rcases List.mem_cons.1 ho with rfl | ho <;> rcases List.mem_cons.1 ho' with rfl | ho'
      · -- the packet that completes its own frame
        obtain ⟨-, -, rfl⟩ := h.delivery_step hnj h5 hd
        rw [Link.step_index]
        exact BlockMemory.holds_store_self
      · -- a packet whose frame is delivered later
        rw [Link.step_index] at hdframe ⊢
        have hfuture := frame_of_delivery hnext hrest' o' ho' d hd
        rw [Link.step_next, hgeom] at hfuture
        have hend : a.1 / l.strm.pktsPerFrame = (a.1 + 1) / l.strm.pktsPerFrame := by
          have := Nat.div_le_div_right (c := l.strm.pktsPerFrame) (show a.1 ≤ a.1 + 1 by omega)
          omega
        exact holds_of_accepted h hnj h5 hacc hsame hrest hkeep hend o' ho' d hd hdframe
      · -- a packet that arrives after its frame was delivered
        obtain ⟨-, hend, rfl⟩ := h.delivery_step hnj h5 hd
        have hlate := index_of_report hrest' o ho
        rw [Link.step_next] at hlate
        have := Nat.div_le_div_right (c := l.strm.pktsPerFrame) hlate
        simp only at hdframe
        omega
      · exact hpresent o ho hacc o' ho' d hd hdframe

/-- A frame end that is lost while the stream is synced puts a packet of the next frame into the
delivered buffer. -/
theorem losesNoFrameEnd_of_noLaterPacket (h : l.Tracked q₀ packets)
    (hloss : LossWithin5 l.next as)
    (hno : NoLaterPacket l.strm.pktsPerFrame (Mealy.trace (Link.step convert packets) l as)) :
    LosesNoFrameEnd convert packets l as := by
  induction as generalizing l with
  | nil => trivial
  | cons a as ih =>
    obtain ⟨hnj, h5, hrest⟩ := hloss
    have hgeom := h.geometry_step convert hnj h5
    have hP : (l.step convert packets a).1.strm.pktsPerFrame = l.strm.pktsPerFrame :=
      congrArg StreamGeometry.pktsPerFrame hgeom
    refine ⟨fun hs ↦ ?_, ?_⟩
    -- suppose the end of a frame is lost here; then the gap crosses it
    · by_contra hlost
      have hcross : l.next / l.strm.pktsPerFrame < a.1 / l.strm.pktsPerFrame := by
        have := frameEnds_eq (P := l.strm.pktsPerFrame) hnj
        omega
      have hsucc := Nat.div_le_div_right (c := l.strm.pktsPerFrame) (show a.1 ≤ a.1 + 1 by omega)
      rcases Link.step_cases convert h hnj h5 with
        ⟨hs', -⟩ | ⟨_, -, -, -, hsame, -⟩ | ⟨-, -, _, _, -, -, -, hstep⟩
      · rw [hs'] at hs
        cases hs
      · have := hsame hs
        omega
      · -- the first byte of the packet that arrived is in the delivered buffer
        have hcell : (l.stored packets a.1 l.strm.rawBuf (l.slot a.1 + 0)).origin = some a.1 := by
          have hpos : 0 < (payloadCells a.1 (pktData (packets a.1))).length := by
            rw [payloadCells, List.length_map]
            exact h.payload_pos a.1
          have hheld : (l.stored packets a.1).Holds l.strm.rawBuf (l.slot a.1)
              (payloadCells a.1 (pktData (packets a.1))) := BlockMemory.holds_store_self
          rw [hheld 0 hpos]
          simp [payloadCells]
        have := hno _ List.mem_cons_self _ (by rw [hstep]) _ _ hcell
        simp only at this
        omega
    · refine ih (h.step convert hnj h5) (by rwa [Link.step_next]) ?_
      rw [hP]
      exact fun o ho ↦ hno o (List.mem_cons_of_mem _ ho)

end Run

/-- **Delivered frames and their own packets.** An unsynced, running stream of fixed length with six
packets a frame or more receives endless frames with at most five packets lost between two received
ones; each frame callback may set a new buffer. Its deliveries hold no packet of a later frame, and
every accepted payload is in the buffer delivered for its own frame, exactly when no packet lost
while the stream is synced is the last of its frame. -/
theorem delivered_frames_own_packets_iff (prev : PacketStream) (rlen plen : ℕ) (lib raw : Ptr)
    (hflag : prev.FlagClear) (hv : prev.variableLength = false)
    (hP : 6 ≤ (streamInit prev rlen plen lib raw).pktsPerFrame)
    (earlier : List (List UInt8 × Bool))
    (hstart : (Mealy.run streamStep (streamInit prev rlen plen lib raw) earlier).synced = false)
    (q₀ : UInt8) (packets : ℕ → List UInt8)
    (hsend : IsSender (streamInit prev rlen plen lib raw).toStreamGeometry q₀ packets)
    (convert : Option Conversion) (mem : BlockMemory Cell)
    (hmem : ∀ b x, (mem b x).origin = none) (first : ℕ) (arrivals : List (ℕ × Option Ptr))
    (hloss : LossWithin5 first arrivals) :
    let s := Mealy.run streamStep (streamInit prev rlen plen lib raw) earlier
    let l : Link := { strm := { s with running := true }, mem := mem, next := first }
    let reports := Mealy.trace (Link.step convert packets) l arrivals
    NoLaterPacket s.pktsPerFrame reports ∧
        OwnPacketsPresent s.toStreamGeometry packets reports ↔
      LosesNoFrameEnd convert packets l arrivals := by
  intro s l reports
  have hinit : (streamInit prev rlen plen lib raw).Fixed := streamInit_fixed hflag hv (by omega)
  have hgeom : s.toStreamGeometry = (streamInit prev rlen plen lib raw).toStreamGeometry :=
    run_geometry _ earlier
  have htracked : l.Tracked q₀ packets := by
    refine ⟨hgeom ▸ hinit, hgeom ▸ hP, rfl, hgeom ▸ hsend, alignedAt_of_unsynced hstart, ?_⟩
    intro b x i hi
    rw [hmem] at hi
    cases hi
  exact ⟨fun h ↦ losesNoFrameEnd_of_noLaterPacket htracked hloss h.1,
    own_packets_of_losesNoFrameEnd htracked hloss⟩

/-- The last packet of the first frame is lost: packet 6 lands in the buffer delivered for it. -/
theorem lost_frame_end :
    ¬ ∀ (prev : PacketStream) (rlen plen : ℕ) (lib raw : Ptr), prev.FlagClear →
      prev.variableLength = false → 6 ≤ (streamInit prev rlen plen lib raw).pktsPerFrame →
      ∀ (q₀ : UInt8) (packets : ℕ → List UInt8),
      IsSender (streamInit prev rlen plen lib raw).toStreamGeometry q₀ packets →
      ∀ (convert : Option Conversion) (mem : BlockMemory Cell),
      (∀ b x, (mem b x).origin = none) →
      ∀ (first : ℕ) (arrivals : List (ℕ × Option Ptr)), LossWithin5 first arrivals →
      let s := streamInit prev rlen plen lib raw
      let l : Link := { strm := { s with running := true }, mem := mem, next := first }
      let reports := Mealy.trace (Link.step convert packets) l arrivals
      NoLaterPacket s.pktsPerFrame reports ∧
        OwnPacketsPresent s.toStreamGeometry packets reports := by
  intro h
  have hreports := (h tinyStream 0 6 1 2 (by decide) rfl (by decide) 0 tinySender isSender_tiny none
    (fun _ _ ↦ { byte := 0, origin := none }) (fun _ _ ↦ rfl) 0
    [(0, none), (1, none), (2, none), (3, none), (4, none), (6, some 3)]
    (by simp [LossWithin5])).1
  have hlate := hreports _ (List.getLast_mem (List.cons_ne_nil _ _)) _ rfl 0 6 rfl
  exact absurd hlate (by decide)

/-- The condition at work: a packet is lost in the middle of the frame, the callback swaps the
buffer, and both frames are made of their own packets. -/
theorem delivered_frames_own_packets_tiny :
    let s := streamInit tinyStream 0 6 1 2
    let l : Link :=
      { strm := { s with running := true }, mem := fun _ _ ↦ { byte := 0, origin := none }
        next := 0 }
    let reports := Mealy.trace (Link.step none tinySender) l
      [(0, none), (1, none), (3, none), (4, none), (5, some 3), (6, none)]
    NoLaterPacket 6 reports ∧ OwnPacketsPresent s.toStreamGeometry tinySender reports := by
  intro s l reports
  refine (delivered_frames_own_packets_iff tinyStream 0 6 1 2 (by decide) rfl (by decide) [] rfl 0
    tinySender isSender_tiny none (fun _ _ ↦ { byte := 0, origin := none }) (fun _ _ ↦ rfl) 0
    [(0, none), (1, none), (3, none), (4, none), (5, some 3), (6, none)]
    (by simp [LossWithin5])).2 ?_
  exact ⟨fun _ ↦ rfl, fun _ ↦ rfl, fun _ ↦ rfl, fun _ ↦ rfl, fun _ ↦ rfl, fun _ ↦ rfl, trivial⟩

end Freenect
