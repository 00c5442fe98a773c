import Freenect.Camera.StreamBounds
import Freenect.Camera.VideoProcess
import Freenect.Device.Buffers

/-!
# What a packet touches

An open device as a whole: the calls of its client, and the packets of both cameras between them, in
any order and of any content. A packet is copied into the raw buffer, and when it completes a frame
the raw buffer is converted into the frame of the client, in millimetres by way of the table
`raw_to_mm_shift`; `packetAccesses` lists the bytes that this touches. `packets_stay_inside` says
that each of them lies inside its block, which is one that the library has allocated and not freed,
or the buffer that the client has set.

The frame size, the packets it takes, the buffers and the conversion are fixed by four different
functions when a stream is started; `OwnedStream.Framed` and `CameraDevice.Streams` are what holds
them together. Assumed is what `Buffers` assumes, and that the client's buffer holds a frame of the
mode in which the stream runs.

The proof goes from one packet to a run. `Framed.mem_packetAccesses` sorts what a packet touches
into the raw frame, the frame and the table; `WellOwned.packetSafe` finds the three blocks; and
`Streams.step` keeps what both need, call by call and packet by packet. The sizes meet in the
lookups of the mode tables (`video_lookups`, `depth_lookups`), which are checked row by row.
-/

namespace Freenect

/-! ### Accesses

An access is a byte of a block. The blocks are named by the pointers of the stream and of the
tables, so that freeing one makes every access to it unsafe. -/

/-- A block of memory, in one of the heaps of a device: a buffer of the stream, which may be the
client's, or a registration table. -/
inductive Block
  | buffer (p : Ptr)
  | table (p : Ptr)
  deriving DecidableEq, Repr

/-- A byte of a block. -/
structure ByteAccess where
  block : Block
  offset : ℕ
  deriving DecidableEq, Repr

/-- The bytes that the payload is copied to. -/
def Processed.accesses (o : Processed) : List ByteAccess :=
  match o.payload with
  | some (.memcpy off data) =>
    (List.range data.length).map fun k ↦ ⟨.buffer o.strm.rawBuf, off + k⟩
  | some (.chunk _ _) | none => []

/-- The two bytes of entry `i` of the table `raw_to_mm_shift`. -/
def entryAccesses (rawToMmShift : Ptr) (i : ℕ) : List ByteAccess :=
  [⟨.table rawToMmShift, 2 * i⟩, ⟨.table rawToMmShift, 2 * i + 1⟩]

/-- What the library touches in `depth_process` or `video_process`: the payload in `raw_buf`, and
for the last packet of a frame what the arm of the format reads there, the entries of
`raw_to_mm_shift` that it looks up and what it writes to `proc_buf`. -/
def packetAccesses (arm : Option ConversionArm) (rawToMmShift : Ptr) (strm : PacketStream)
    (mem : Memory) (p : IsoPacket) : List ByteAccess :=
  if p.pkt.length = 0 ∨ ¬ strm.running then []
  else
    let o := streamProcess strm p.pkt p.chunkCb
    let mem := o.memory mem
    o.accesses ++
      if o.gotFrameSize = 0 then []
      else
        match arm with
        | none => []
        | some arm =>
          (arm.reads (mem o.strm.rawBuf)).map (ByteAccess.mk (.buffer o.strm.rawBuf)) ++
            (arm.lookups (mem o.strm.rawBuf)).flatMap (entryAccesses rawToMmShift) ++
            (List.range (arm.convert (mem o.strm.rawBuf) (mem o.strm.procBuf)).length).map
              (ByteAccess.mk (.buffer o.strm.procBuf))

/-! ### One stream

For one packet: what is touched lies in three ranges (`Framed.mem_packetAccesses`), and the three
blocks are there (`WellOwned.packetSafe`). Both survive a packet, since it changes no pointer but
the one a callback may set. -/

namespace OwnedStream

/-- The stream after a packet. -/
def packet (s : OwnedStream) (p : IsoPacket) : OwnedStream :=
  { s with strm := (processPacket s.strm p).1 }

/-- The size of a buffer: what the library asked for, or of the client's buffer `clientBytes`. -/
def room (s : OwnedStream) (clientBytes : ℕ) (p : Ptr) : Option ℕ :=
  if p ≠ NULL ∧ p = s.strm.usrBuf then some clientBytes else s.heap.live p

/-- The size of a block, `none` if it has been freed or never was one. -/
def blockSize (s : OwnedStream) (t : OwnedTables) (clientBytes : ℕ) : Block → Option ℕ
  | .buffer p => s.room clientBytes p
  | .table p => t.heap.live p

/-- **A running stream** whose raw frames have `rawBytes` bytes and whose frames `frameBytes`. -/
structure Framed (s : OwnedStream) (rawBytes frameBytes : ℕ) : Prop where
  fixed : s.strm.Fixed
  bounded : s.strm.Bounded
  frameSize : s.strm.frameSize = rawBytes
  lib : s.strm.libBuf ≠ NULL → s.heap.live s.strm.libBuf = some frameBytes
  unsplit : s.strm.splitBufs = false → rawBytes = frameBytes

/-- **No packet is dangerous**: whatever comes next and whatever is in memory, the library stays
inside its blocks, and the block of a frame that it hands out has a frame's size. -/
structure PacketSafe (s : OwnedStream) (t : OwnedTables) (frameBytes : ℕ)
    (arm : Option ConversionArm) : Prop where
  inside : ∀ mem p, ∀ a ∈ packetAccesses arm t.rawToMmShift s.strm mem p,
    ∃ n, s.blockSize t frameBytes a.block = some n ∧ a.offset < n
  frame : ∀ p out, (processPacket s.strm p).2 = some out →
    s.room frameBytes out.frame = some frameBytes

section Stream

variable {s : OwnedStream} {t : OwnedTables} {rawBytes frameBytes : ℕ}
  {arm : Option ConversionArm}

/-- The buffer for frames has room for one. -/
theorem InUse.room_procBuf (h : s.InUse) (hf : s.Framed rawBytes frameBytes) :
    s.room frameBytes s.strm.procBuf = some frameBytes := by
  rw [h.procBuf, room]
  by_cases husr : s.strm.usrBuf = NULL
  · have hlib := h.libBuf_ne husr
    rw [if_pos husr, if_neg fun hp ↦ hlib (hp.2.trans husr)]
    exact hf.lib hlib
  · rw [if_neg husr, if_pos ⟨husr, rfl⟩]

/-- The raw buffer has room for a raw frame. -/
theorem InUse.room_rawBuf (h : s.InUse) (hclient : s.heap.live s.strm.usrBuf = none)
    (hf : s.Framed rawBytes frameBytes) : s.room frameBytes s.strm.rawBuf = some rawBytes := by
  cases hsplit : s.strm.splitBufs with
  | false => rw [h.unsplit hsplit, h.room_procBuf hf, hf.unsplit hsplit]
  | true =>
    obtain ⟨-, -, hlive⟩ := h.split hsplit
    -- the raw buffer is live, the client's is none of the library's
    have hne : ¬ (s.strm.rawBuf ≠ NULL ∧ s.strm.rawBuf = s.strm.usrBuf) := by
      rintro ⟨-, heq⟩
      rw [heq, hclient] at hlive
      cases hlive
    rw [room, if_neg hne, hlive, hf.frameSize]

/-- An arm that looks the table up finds one with an entry for every raw value. -/
def FindsTable (arm : Option ConversionArm) (t : OwnedTables) : Prop :=
  ∀ a, arm = some a → ∀ raw, a.lookups raw ≠ [] →
    t.heap.live t.rawToMmShift = some (2 * depthMaxRawValue)

/-- **Everything a packet touches** lies in the raw frame, in the frame, or in the table if the arm
looks it up. -/
theorem Framed.mem_packetAccesses (hf : s.Framed rawBytes frameBytes)
    (harm : ∀ a, arm = some a → a.Fits rawBytes frameBytes) {table : Ptr} {mem : Memory}
    {p : IsoPacket} {a : ByteAccess} (ha : a ∈ packetAccesses arm table s.strm mem p) :
    (a.block = .buffer s.strm.rawBuf ∧ a.offset < rawBytes) ∨
      (a.block = .buffer s.strm.procBuf ∧ a.offset < frameBytes) ∨
        (a.block = .table table ∧ a.offset < 2 * depthMaxRawValue ∧
          ∃ arm', arm = some arm' ∧ ∃ raw, arm'.lookups raw ≠ []) := by
  have hbufs : (streamProcess s.strm p.pkt p.chunkCb).strm.toStreamBufs = s.strm.toStreamBufs :=
    streamProcess_bufs
  have hraw : (streamProcess s.strm p.pkt p.chunkCb).strm.rawBuf = s.strm.rawBuf :=
    congrArg StreamBufs.rawBuf hbufs
  have hproc : (streamProcess s.strm p.pkt p.chunkCb).strm.procBuf = s.strm.procBuf :=
    congrArg StreamBufs.procBuf hbufs
  obtain ⟨-, -, hbounds⟩ := streamProcess_bounds p.pkt p.chunkCb hf.fixed.sized hf.fixed.flagClear
    hf.fixed.two_le hf.bounded
  rw [packetAccesses] at ha
  split at ha
  · cases ha
  · dsimp only at ha
    rcases List.mem_append.1 ha with ha | ha
    · -- the payload
      left
      rw [Processed.accesses] at ha
      split at ha
      · rename_i off data hpayload
        obtain ⟨k, hk, rfl⟩ := List.mem_map.1 ha
        have hcopy := hbounds.copy off data hpayload
        have hk := List.mem_range.1 hk
        rw [hf.frameSize] at hcopy
        exact ⟨congrArg Block.buffer hraw, by dsimp only; omega⟩
      · cases ha
      · cases ha
    · split at ha
      · cases ha
      -- a frame is complete: the reads of the conversion, its lookups, and what it writes
      · cases arm with
        | none => cases ha
        | some arm =>
          have hfits := harm arm rfl
          rcases List.mem_append.1 ha with ha | ha
          · rcases List.mem_append.1 ha with ha | ha
            · obtain ⟨k, hk, rfl⟩ := List.mem_map.1 ha
              exact Or.inl ⟨congrArg Block.buffer hraw, hfits.reads _ k hk⟩
            · -- an entry of the table, of which both bytes are read
              obtain ⟨i, hi, ha⟩ := List.mem_flatMap.1 ha
              have hlt := hfits.lookups _ i hi
              have hbyte : a.block = .table table ∧ a.offset < 2 * depthMaxRawValue := by
                simp only [entryAccesses, List.mem_cons, List.not_mem_nil, or_false] at ha
                rcases ha with rfl | rfl
                exacts [⟨rfl, by dsimp only; omega⟩, ⟨rfl, by dsimp only; omega⟩]
              exact Or.inr (Or.inr ⟨hbyte.1, hbyte.2, arm, rfl, _, List.ne_nil_of_mem hi⟩)
          · obtain ⟨k, hk, rfl⟩ := List.mem_map.1 ha
            rw [hfits.written] at hk
            exact Or.inr (Or.inl ⟨congrArg Block.buffer hproc, List.mem_range.1 hk⟩)

/-- What is handed out is `proc_buf`, and only while the stream runs. -/
theorem processPacket_frame {strm : PacketStream} {p : IsoPacket} {out : FrameOut}
    (h : (processPacket strm p).2 = some out) :
    strm.running = true ∧ out.frame = strm.procBuf := by
  have hbufs : (streamProcess strm p.pkt p.chunkCb).strm.toStreamBufs = strm.toStreamBufs :=
    streamProcess_bufs
  rw [processPacket] at h
  split at h
  · cases h
  · split at h
    · cases h
    · rename_i hrun
      dsimp only at h
      split at h
      · cases h
      · obtain rfl := Option.some.inj h
        exact ⟨not_not.1 hrun, congrArg StreamBufs.procBuf hbufs⟩

/-- **A stream in order is safe.** -/
theorem WellOwned.packetSafe (h : s.WellOwned)
    (hf : s.strm.running = true → s.Framed rawBytes frameBytes)
    (harm : ∀ a, arm = some a → a.Fits rawBytes frameBytes)
    (htable : s.strm.running = true → FindsTable arm t) : s.PacketSafe t frameBytes arm where
  inside mem p a ha := by
    cases hrun : s.strm.running with
    | false =>
      rw [packetAccesses, if_pos (Or.inr (by simp [hrun]))] at ha
      cases ha
    | true =>
      have hf := hf hrun
      rcases hf.mem_packetAccesses harm ha with
        ⟨hblock, hlt⟩ | ⟨hblock, hlt⟩ | ⟨hblock, hlt, arm', harm', raw, hlookups⟩
      · exact ⟨rawBytes, hblock ▸ (h.inUse hrun).room_rawBuf h.client hf, hlt⟩
      · exact ⟨frameBytes, hblock ▸ (h.inUse hrun).room_procBuf hf, hlt⟩
      · exact ⟨_, hblock ▸ htable hrun arm' harm' raw hlookups, hlt⟩
  frame p out hout := by
    obtain ⟨hrun, hframe⟩ := processPacket_frame hout
    exact hframe ▸ (h.inUse hrun).room_procBuf (hf hrun)

/-- A new buffer of the client leaves the frames as they are. -/
theorem Framed.setbuf (hf : s.Framed rawBytes frameBytes) (pbuf : Ptr) :
    (s.setbuf pbuf).1.Framed rawBytes frameBytes := by
  rw [OwnedStream.setbuf]
  rcases streamSetbuf_cases s.strm pbuf with ⟨-, hset⟩ | ⟨-, -, -, hset⟩ | ⟨-, -, hset⟩ <;>
    rw [hset]
  · exact ⟨hf.fixed, ⟨hf.bounded.gotPkts_le, hf.bounded.pktNum_le, hf.bounded.pktNum_lt,
      hf.bounded.validPkts_le⟩, hf.frameSize, hf.lib, hf.unsplit⟩
  · exact hf
  · exact ⟨hf.fixed, ⟨hf.bounded.gotPkts_le, hf.bounded.pktNum_le, hf.bounded.pktNum_lt,
      hf.bounded.validPkts_le⟩, hf.frameSize, hf.lib, hf.unsplit⟩

/-- The stream after `stream_process`. -/
def received (s : OwnedStream) (p : IsoPacket) : OwnedStream :=
  { s with strm := (streamProcess s.strm p.pkt p.chunkCb).strm }

/-- `stream_process` leaves the buffers. -/
theorem received_bufs (s : OwnedStream) (p : IsoPacket) :
    (s.received p).strm.toStreamBufs = s.strm.toStreamBufs :=
  streamProcess_bufs

/-- A packet is ignored, received, or completes a frame whose callback may set a buffer. -/
theorem packet_cases (s : OwnedStream) (p : IsoPacket) :
    s.packet p = s ∨ s.packet p = s.received p ∨
      ∃ pbuf, p.newBuf = some pbuf ∧ s.packet p = ((s.received p).setbuf pbuf).1 := by
  rw [packet, processPacket]
  split
  · exact Or.inl rfl
  · split
    · exact Or.inl rfl
    · dsimp only
      split
      · exact Or.inr (Or.inl rfl)
      · cases hbuf : p.newBuf with
        | none => exact Or.inr (Or.inl rfl)
        | some pbuf => exact Or.inr (Or.inr ⟨pbuf, rfl, rfl⟩)

/-- The sizes stay while a packet is received. -/
theorem Framed.received (hf : s.Framed rawBytes frameBytes) (p : IsoPacket) :
    (s.received p).Framed rawBytes frameBytes := by
  obtain ⟨hbounded, -, -⟩ := streamProcess_bounds p.pkt p.chunkCb hf.fixed.sized
    hf.fixed.flagClear hf.fixed.two_le hf.bounded
  have hgeom : (s.received p).strm.toStreamGeometry = s.strm.toStreamGeometry :=
    streamProcess_geometry
  have hbufs : (s.received p).strm.toStreamBufs = s.strm.toStreamBufs := streamProcess_bufs
  have hlib := congrArg StreamBufs.libBuf hbufs
  have hsplit := congrArg StreamBufs.splitBufs hbufs
  refine ⟨hgeom ▸ hf.fixed, hbounded, (congrArg StreamGeometry.frameSize hgeom).trans hf.frameSize,
    ?_, ?_⟩
  · rw [hlib]
    exact hf.lib
  · rw [hsplit]
    exact hf.unsplit

theorem Framed.packet (hf : s.Framed rawBytes frameBytes) (p : IsoPacket) :
    (s.packet p).Framed rawBytes frameBytes := by
  rcases s.packet_cases p with h | h | ⟨pbuf, -, h⟩ <;> rw [h]
  exacts [hf, hf.received p, (hf.received p).setbuf pbuf]

/-- The buffers do not change while a packet is received. -/
theorem WellOwned.received (h : s.WellOwned) (p : IsoPacket) : (s.received p).WellOwned := by
  have hgeom : (s.received p).strm.toStreamGeometry = s.strm.toStreamGeometry :=
    streamProcess_geometry
  have hbufs : (s.received p).strm.toStreamBufs = s.strm.toStreamBufs := streamProcess_bufs
  have hrun : (s.received p).strm.running = s.strm.running := streamProcess_running
  have hsize := congrArg StreamGeometry.frameSize hgeom
  have husr := congrArg StreamBufs.usrBuf hbufs
  have hlib := congrArg StreamBufs.libBuf hbufs
  have hraw := congrArg StreamBufs.rawBuf hbufs
  have hproc := congrArg StreamBufs.procBuf hbufs
  have hsplit := congrArg StreamBufs.splitBufs hbufs
  refine ⟨fun hr ↦ ?_, fun hr ↦ h.freed (hrun ▸ hr), h.noFault, husr ▸ h.client, h.null⟩
  obtain ⟨h1, h2, h3, h4, h5, h6⟩ := h.inUse (hrun ▸ hr)
  refine ⟨?_, ?_, ?_, ?_, ?_, fun q ↦ ?_⟩
  · rw [hproc, husr, hlib]
    exact h1
  · rw [husr, hlib]
    exact h2
  · rw [hsplit, hraw, hproc]
    exact h3
  · rw [hsplit, hraw, hproc, hlib, hsize]
    exact h4
  · rw [hlib]
    exact h5
  · rw [mem_blocks, hsplit, hraw, hlib, ← mem_blocks]
    exact h6 q

/-- **A stream is started**: its sizes are those of the two modes it was started with. -/
theorem framed_start {φ : Type} {a : StartAnswers φ} {rlen plen : ℕ} (h : s.WellOwned)
    (hrun : s.strm.running = false) (hflag : s.strm.FlagClear)
    (hfixed : s.strm.variableLength = false)
    (hsize : 2 ≤ ((if rlen = 0 then plen else rlen) + s.strm.pktSize - 1) / s.strm.pktSize)
    (hne : a.rawMalloc ≠ a.libMalloc) :
    (s.start rlen plen a).1.Framed (if rlen = 0 then plen else rlen) plen := by
  rw [OwnedStream.start]
  have hstrm := streamInit_eq s.strm rlen plen a.libMalloc a.rawMalloc
  have hframe : (streamInit s.strm rlen plen a.libMalloc a.rawMalloc).frameSize =
      if rlen = 0 then plen else rlen := by
    rw [hstrm]
  have hP : 2 ≤ (streamInit s.strm rlen plen a.libMalloc a.rawMalloc).pktsPerFrame := by
    rw [streamInit_pktsPerFrame, hframe]
    exact hsize
  -- the library's block has the size of a frame, and without a split the raw frame is the frame
  refine ⟨streamInit_fixed hflag hfixed hP, ?_, hframe, fun hlib ↦ ?_, fun hsplit ↦ ?_⟩
  · obtain ⟨h1, h2, h3, h4⟩ := PacketStream.bounded_of_unsynced
      (streamInit_synced s.strm rlen plen a.libMalloc a.rawMalloc)
    exact ⟨h1, h2, h3, h4⟩
  · have hlibBuf : (streamInit s.strm rlen plen a.libMalloc a.rawMalloc).libBuf = _ :=
      streamInit_libBuf
    have hlib : (streamInit s.strm rlen plen a.libMalloc a.rawMalloc).libBuf ≠ NULL := hlib
    have husr : s.strm.usrBuf = NULL := by
      by_contra husr
      rw [hlibBuf, if_neg husr] at hlib
      exact hlib rfl
    show (s.init rlen plen a).heap.live
      (streamInit s.strm rlen plen a.libMalloc a.rawMalloc).libBuf = some plen
    rw [hlibBuf, if_pos husr, live_init (h.freed hrun), if_neg fun hp ↦ hne hp.2.symm,
      if_pos ⟨husr, rfl⟩]
  · have hsplit : (streamInit s.strm rlen plen a.libMalloc a.rawMalloc).splitBufs = false := hsplit
    by_cases hr : rlen = 0
    · rw [if_pos hr]
    · rw [(streamInit_split s.strm plen a.libMalloc a.rawMalloc hr).1] at hsplit
      cases hsplit

end Stream

end OwnedStream

/-! ### The mode of a stream

The mode is decided when the stream is started and cannot change while it runs. So a running stream
is framed for the row of the table that its resolution and format select. -/

/-- The row of a table that a stream's resolution and format select. -/
structure CurrentMode {φ : Type} (modes : List (FrameMode φ)) (res : Resolution) (fmt : φ)
    (mode : FrameMode φ) : Prop where
  mem : mode ∈ modes
  resolution : mode.resolution = res
  format : mode.format = fmt

/-- **A stream is framed for its mode**, if it runs. -/
def FramedFor {φ : Type} (modes : List (FrameMode φ)) (rawBytes : FrameMode φ → ℕ)
    (res : Resolution) (fmt : φ) (s : OwnedStream) : Prop :=
  ∃ mode, CurrentMode modes res fmt mode ∧
    (s.strm.running = true → s.Framed (rawBytes mode) mode.bytes)

section FramedFor

variable {φ : Type} {modes : List (FrameMode φ)} {rawBytes : FrameMode φ → ℕ} {res : Resolution}
  {fmt : φ} {s : OwnedStream}

/-- A stopped stream needs a mode only. -/
theorem FramedFor.of_stopped (h : FramedFor modes rawBytes res fmt s) {s' : OwnedStream}
    (hstop : s'.strm.running = false) : FramedFor modes rawBytes res fmt s' := by
  obtain ⟨mode, hmode, -⟩ := h
  exact ⟨mode, hmode, fun hrun ↦ absurd (hstop.symm.trans hrun) (by decide)⟩

/-- A new buffer changes nothing about that. -/
theorem FramedFor.setbuf (h : FramedFor modes rawBytes res fmt s) (pbuf : Ptr) :
    FramedFor modes rawBytes res fmt (s.setbuf pbuf).1 := by
  obtain ⟨mode, hmode, hframed⟩ := h
  refine ⟨mode, hmode, fun hrun ↦ (hframed ?_).setbuf pbuf⟩
  rwa [OwnedStream.setbuf, streamSetbuf_running] at hrun

theorem FramedFor.packet (h : FramedFor modes rawBytes res fmt s) (p : IsoPacket) :
    FramedFor modes rawBytes res fmt (s.packet p) := by
  obtain ⟨mode, hmode, hframed⟩ := h
  refine ⟨mode, hmode, fun hrun ↦ (hframed ?_).packet p⟩
  rwa [OwnedStream.packet, processPacket_running] at hrun

/-- A stopped stream needs a mode only. -/
theorem FramedFor.stop (h : FramedFor modes rawBytes res fmt s) :
    FramedFor modes rawBytes res fmt s.stop.1 :=
  h.of_stopped OwnedStream.stop_running

/-- A stopped stream is started with the sizes of its mode. -/
theorem FramedFor.start (h : FramedFor modes rawBytes res fmt s) (hw : s.WellOwned)
    (hrun : s.strm.running = false) (hflag : s.strm.FlagClear)
    (hfixed : s.strm.variableLength = false) {rlen plen : ℕ} {a : StartAnswers φ}
    (hsizes : ∀ mode, CurrentMode modes res fmt mode → plen = mode.bytes ∧
      (if rlen = 0 then plen else rlen) = rawBytes mode ∧
      2 ≤ (rawBytes mode + s.strm.pktSize - 1) / s.strm.pktSize)
    (hne : a.rawMalloc ≠ a.libMalloc) :
    FramedFor modes rawBytes res fmt (s.start rlen plen a).1 := by
  obtain ⟨mode, hmode, -⟩ := h
  obtain ⟨hplen, hframe, hsize⟩ := hsizes mode hmode
  refine ⟨mode, hmode, fun _ ↦ ?_⟩
  rw [← hframe, ← hplen]
  rw [← hframe] at hsize
  exact OwnedStream.framed_start hw hrun hflag hfixed hsize hne

/-- A mode that was found under its number is the one the number is decoded to. -/
theorem currentMode_of_reserved {reserved : ℕ} {decode : ℕ → φ}
    (hdecode : ∀ mode ∈ modes,
      mode.resolution = reservedToResolution mode.reserved ∧ mode.format = decode mode.reserved)
    (hfound : ¬ (modes.find? fun mode ↦ mode.reserved = reserved).isNone = true) :
    ∃ mode, CurrentMode modes (reservedToResolution reserved) (decode reserved) mode := by
  cases hfind : modes.find? fun mode ↦ mode.reserved = reserved with
  | none => exact absurd (congrArg Option.isNone hfind) hfound
  | some mode =>
    have hmem := List.mem_of_find?_eq_some hfind
    have hreserved : mode.reserved = reserved := by simpa using List.find?_some hfind
    obtain ⟨hres, hfmt⟩ := hdecode mode hmem
    exact ⟨mode, hmem, hreserved ▸ hres, hreserved ▸ hfmt⟩

end FramedFor

/-! ### The tables

Facts about the two tables of modes, checked for all rows at once: what their numbers decode to, and
what the start functions find when they look them up. -/

/-- The number of a video mode decodes to its resolution and format. -/
theorem decode_supportedVideoModes : ∀ mode ∈ supportedVideoModes,
    mode.resolution = reservedToResolution mode.reserved ∧
      mode.format = reservedToVideoFormat mode.reserved := by
  decide

/-- So does that of a depth mode. -/
theorem decode_supportedDepthModes : ∀ mode ∈ supportedDepthModes,
    mode.resolution = reservedToResolution mode.reserved ∧
      mode.format = reservedToDepthFormat mode.reserved := by
  decide

/-- A lookup that finds a row. -/
def Finds {φ : Type} (modes : List (FrameMode φ)) (uniqueId : ℕ) (mode : FrameMode φ) : Prop :=
  modes.find? (fun m ↦ m.reserved = uniqueId) = some mode

instance {φ : Type} [DecidableEq φ] (modes : List (FrameMode φ)) (uniqueId : ℕ)
    (mode : FrameMode φ) : Decidable (Finds modes uniqueId mode) :=
  inferInstanceAs (Decidable (_ = _))

/-- A lookup that finds a row does not depend on what a failed one would leave. -/
theorem Finds.findMode_eq {φ : Type} {modes : List (FrameMode φ)} {uniqueId : ℕ}
    {mode : FrameMode φ} (h : Finds modes uniqueId mode) (junk : FrameMode φ) :
    findMode modes junk uniqueId = mode := by
  rw [Finds] at h
  rw [findMode, h]

/-- What `freenect_start_video` looks up for a mode: the mode itself, and the one in which the
camera sends the frames. -/
theorem video_lookups : ∀ mode ∈ supportedVideoModes,
    Finds supportedVideoModes (makeReserved mode.resolution.toNat mode.format.toNat) mode ∧
    (∀ fmt ∈ rawVideoFormat mode.format, ∃ raw ∈ supportedVideoModes,
      Finds supportedVideoModes (makeReserved mode.resolution.toNat fmt.toNat) raw ∧
        raw.bytes = rawFrameBytes mode mode.format) ∧
    (rawVideoFormat mode.format = none → mode.bytes = rawFrameBytes mode mode.format) ∧
    2 ≤ (rawFrameBytes mode mode.format + 1908 - 1) / 1908 := by
  decide

/-- What `freenect_start_depth` looks up. -/
theorem depth_lookups : ∀ mode ∈ supportedDepthModes,
    Finds supportedDepthModes (makeReserved mode.resolution.toNat mode.format.toNat) mode ∧
    (∀ formats ∈ depthFormats mode.format,
      (∃ frame ∈ supportedDepthModes,
        Finds supportedDepthModes (makeReserved mode.resolution.toNat formats.2.toNat) frame ∧
          frame.bytes = mode.bytes) ∧
      (∀ fmt ∈ formats.1, ∃ raw ∈ supportedDepthModes,
        Finds supportedDepthModes (makeReserved mode.resolution.toNat fmt.toNat) raw ∧
          raw.bytes = packedFrameBytes mode.format) ∧
      (formats.1 = none → mode.bytes = packedFrameBytes mode.format)) ∧
    2 ≤ (packedFrameBytes mode.format + 1748 - 1) / 1748 := by
  decide

/-- The depth modes for unpacked formats have the frames that the conversions make. -/
theorem bytes_of_depthArm : ∀ mode ∈ supportedDepthModes,
    mode.format ≠ .d11BitPacked → mode.format ≠ .d10BitPacked → mode.bytes = 640 * 480 * 2 := by
  decide

/-! ### The device

Calls and packets of both streams, in any order. The invariant is kept by each of them, and the
theorem is read off it for the next packet. -/

namespace CameraDevice

/-- `freenect_get_current_video_mode`. -/
def currentVideoMode (s : CameraDevice) (junk : FrameMode VideoFormat) : FrameMode VideoFormat :=
  findVideoMode junk s.videoResolution s.videoFormat

/-- `freenect_get_current_depth_mode`. -/
def currentDepthMode (s : CameraDevice) (junk : FrameMode DepthFormat) : FrameMode DepthFormat :=
  findDepthMode junk s.depthResolution s.depthFormat

/-- What can happen to an open device. -/
inductive Event
  | call (call : Call)
  | videoPacket (p : IsoPacket)
  | depthPacket (p : IsoPacket)

/-- One event. -/
def eventStep (s : CameraDevice) : Event → CameraDevice × Unit
  | .call call => ((s.step call).1, ())
  | .videoPacket p => ({ s with video := s.video.packet p }, ())
  | .depthPacket p => ({ s with depth := s.depth.packet p }, ())

/-- What is assumed of an event: of a call what `Succeeds` says, and of a packet, whose bytes may be
any, that a buffer the client sets from its callback is not a block of the library. -/
def Permits (s : CameraDevice) : Event → Prop
  | .call call => s.Succeeds call
  | .videoPacket p | .depthPacket p => ∀ pbuf ∈ p.newBuf, ¬ s.IsLive pbuf

instance (s : CameraDevice) : (e : Event) → Decidable (s.Permits e)
  | .call call => inferInstanceAs (Decidable (s.Succeeds call))
  | .videoPacket p | .depthPacket p =>
    inferInstanceAs (Decidable (∀ pbuf ∈ p.newBuf, ¬ s.IsLive pbuf))

/-- **The invariant**: the buffers are in order, and a running stream is framed for its mode. -/
structure Streams (s : CameraDevice) : Prop where
  owned : s.BuffersOwned
  video : FramedFor supportedVideoModes (fun mode ↦ rawFrameBytes mode mode.format)
    s.videoResolution s.videoFormat s.video
  depth : FramedFor supportedDepthModes (fun mode ↦ packedFrameBytes mode.format)
    s.depthResolution s.depthFormat s.depth

variable {s : CameraDevice}

/-- **A device as it is opened.** -/
theorem streams_opened : opened.Streams := by
  refine ⟨buffersOwned_opened, ?_, ?_⟩
  · exact ⟨videoMode .medium .rgb (640 * 480 * 3) 640 480 24 0 30, ⟨by decide, rfl, rfl⟩,
      fun h ↦ nomatch h⟩
  · exact ⟨depthMode .d11Bit (640 * 480 * 2) 11 5, ⟨by decide, rfl, rfl⟩, fun h ↦ nomatch h⟩

/-- The video mode is set. -/
theorem Streams.setVideoMode (h : s.Streams) (reserved : ℕ) :
    (s.setVideoMode reserved).1.Streams := by
  have howned := h.owned.setVideoMode reserved
  revert howned
  rw [CameraDevice.setVideoMode]
  split
  · exact fun _ ↦ h
  · next hrun =>
    split
    · exact fun _ ↦ h
    · next hfound =>
      obtain ⟨mode, hmode⟩ := currentMode_of_reserved decode_supportedVideoModes hfound
      exact fun howned ↦ ⟨howned, ⟨mode, hmode, fun hr ↦ absurd hr hrun⟩, h.depth⟩

/-- The depth mode is set. -/
theorem Streams.setDepthMode (h : s.Streams) (reserved : ℕ) :
    (s.setDepthMode reserved).1.Streams := by
  have howned := h.owned.setDepthMode reserved
  revert howned
  rw [CameraDevice.setDepthMode]
  split
  · exact fun _ ↦ h
  · next hrun =>
    split
    · exact fun _ ↦ h
    · next hfound =>
      obtain ⟨mode, hmode⟩ := currentMode_of_reserved decode_supportedDepthModes hfound
      exact fun howned ↦ ⟨howned, h.video, ⟨mode, hmode, fun hr ↦ absurd hr hrun⟩⟩

/-- The sizes with which `freenect_start_video` sets its stream up. -/
theorem startVideo_sizes (junk : FrameMode VideoFormat) {res : Resolution} {fmt : VideoFormat}
    {mode : FrameMode VideoFormat} (hmode : CurrentMode supportedVideoModes res fmt mode) :
    let plen := (findVideoMode junk res fmt).bytes
    let rlen :=
      match rawVideoFormat fmt with
      | some fmt => (findVideoMode junk res fmt).bytes
      | none => 0
    plen = mode.bytes ∧ (if rlen = 0 then plen else rlen) = rawFrameBytes mode mode.format ∧
      2 ≤ (rawFrameBytes mode mode.format + 1908 - 1) / 1908 := by
  intro plen rlen
  obtain ⟨hmem, rfl, rfl⟩ := hmode
  obtain ⟨hplen, hraw, hsame, hsize⟩ := video_lookups mode hmem
  have hplen := congrArg FrameMode.bytes (hplen.findMode_eq junk)
  refine ⟨hplen, ?_, hsize⟩
  cases hformat : rawVideoFormat mode.format with
  | none =>
    have hrlen : rlen = 0 := by simp only [rlen, hformat]
    rw [if_pos hrlen, ← hsame hformat]
    exact hplen
  | some fmt =>
    obtain ⟨raw, -, hfind, hbytes⟩ := hraw fmt hformat
    have hrlen : rlen = rawFrameBytes mode mode.format := by
      simp only [rlen, hformat]
      exact (congrArg FrameMode.bytes (hfind.findMode_eq junk)).trans hbytes
    rw [hrlen, if_neg (by omega)]

/-- The sizes with which `freenect_start_depth` sets its stream up. -/
theorem startDepth_sizes (junk : FrameMode DepthFormat) {res : Resolution} {fmt : DepthFormat}
    {mode : FrameMode DepthFormat} (hmode : CurrentMode supportedDepthModes res fmt mode)
    (raw : Option DepthFormat) (frame : DepthFormat) :
    let plen := (findDepthMode junk res frame).bytes
    let rlen :=
      match raw with
      | some fmt => (findDepthMode junk res fmt).bytes
      | none => 0
    depthFormats fmt = some (raw, frame) →
      plen = mode.bytes ∧ (if rlen = 0 then plen else rlen) = packedFrameBytes mode.format ∧
        2 ≤ (packedFrameBytes mode.format + 1748 - 1) / 1748 := by
  intro plen rlen hformats
  obtain ⟨hmem, rfl, rfl⟩ := hmode
  obtain ⟨-, hformat, hsize⟩ := depth_lookups mode hmem
  obtain ⟨⟨found, -, hfind, hplen⟩, hraw, hsame⟩ := hformat _ hformats
  have hplen := (congrArg FrameMode.bytes (hfind.findMode_eq junk)).trans hplen
  refine ⟨hplen, ?_, hsize⟩
  cases raw with
  | none =>
    exact (if_pos rfl).trans (hplen.trans (hsame rfl))
  | some fmt =>
    obtain ⟨row, -, hfind, hbytes⟩ := hraw fmt rfl
    have hrlen : rlen = packedFrameBytes mode.format :=
      (congrArg FrameMode.bytes (hfind.findMode_eq junk)).trans hbytes
    rw [hrlen, if_neg (by omega)]

/-- **The video stream is started** in its mode. -/
theorem Streams.startVideo (h : s.Streams) {a : StartAnswers VideoFormat}
    (hgrants : s.Grants [a.libMalloc, a.rawMalloc]) : (s.startVideo a).1.Streams := by
  have howned := h.owned.startVideo hgrants
  revert howned
  rw [CameraDevice.startVideo]
  split
  · exact fun _ ↦ h
  · next hrun =>
    have hrun := Bool.eq_false_iff.2 hrun
    have hwell := h.owned.video.setPacketFormat hrun 1908 0x80
    dsimp only
    split
    · exact fun howned ↦ ⟨howned, h.video.of_stopped hrun, h.depth⟩
    · have hne : a.rawMalloc ≠ a.libMalloc := fun heq ↦
        (List.nodup_cons.1 hgrants.1).1 (by simp [heq])
      have hstopped : FramedFor supportedVideoModes (fun mode ↦ rawFrameBytes mode mode.format)
          s.videoResolution s.videoFormat
          { s.video with strm := setPacketFormat s.video.strm 1908 0x80 } :=
        h.video.of_stopped hrun
      have hflag : (0x80 : UInt8) &&& 7 = 0 := by decide
      exact fun howned ↦ ⟨howned, hstopped.start hwell hrun hflag rfl
        (fun mode hmode ↦ startVideo_sizes a.junk hmode) hne, h.depth⟩

/-- **The depth stream is started** in its mode. -/
theorem Streams.startDepth (h : s.Streams) {a : StartAnswers DepthFormat} {t : TableAnswers}
    (hgrants : s.Grants [t.raw, t.shift, t.table, a.libMalloc, a.rawMalloc]) :
    (s.startDepth a t).1.Streams := by
  have howned := h.owned.startDepth hgrants
  revert howned
  rw [CameraDevice.startDepth]
  split
  · exact fun _ ↦ h
  · next hrun =>
    have hrun := Bool.eq_false_iff.2 hrun
    have hwell := h.owned.depth.setPacketFormat hrun 1748 0x70
    dsimp only
    split
    · exact fun howned ↦ ⟨howned, h.video, h.depth.of_stopped hrun⟩
    · next hformats =>
      have hne : a.rawMalloc ≠ a.libMalloc := by
        have := hgrants.1
        simp only [List.nodup_cons, List.mem_cons, not_or] at this
        tauto
      have hstopped : FramedFor supportedDepthModes (fun mode ↦ packedFrameBytes mode.format)
          s.depthResolution s.depthFormat
          { s.depth with strm := setPacketFormat s.depth.strm 1748 0x70 } :=
        h.depth.of_stopped hrun
      have hflag : (0x70 : UInt8) &&& 7 = 0 := by decide
      exact fun howned ↦ ⟨howned, h.video, hstopped.start hwell hrun hflag rfl
        (fun mode hmode ↦ startDepth_sizes a.junk hmode _ _ hformats) hne⟩

/-- A packet for the video stream. -/
theorem Streams.videoPacket (h : s.Streams) {p : IsoPacket}
    (hp : ∀ pbuf ∈ p.newBuf, ¬ s.IsLive pbuf) :
    Streams { s with video := s.video.packet p } := by
  refine ⟨?_, h.video.packet p, h.depth⟩
  have hreceived : BuffersOwned { s with video := s.video.received p } := by
    have husr : (s.video.received p).strm.usrBuf = s.video.strm.usrBuf :=
      congrArg StreamBufs.usrBuf (s.video.received_bufs p)
    exact ⟨h.owned.video.received p, h.owned.depth, h.owned.registered, h.owned.absent,
      fun q hq ↦ husr ▸ h.owned.client q hq⟩
  rcases s.video.packet_cases p with heq | heq | ⟨pbuf, hpbuf, heq⟩ <;> rw [heq]
  · exact h.owned
  · exact hreceived
  · exact hreceived.setVideoBuffer (hp pbuf hpbuf)

/-- A packet for the depth stream. -/
theorem Streams.depthPacket (h : s.Streams) {p : IsoPacket}
    (hp : ∀ pbuf ∈ p.newBuf, ¬ s.IsLive pbuf) :
    Streams { s with depth := s.depth.packet p } := by
  refine ⟨?_, h.video, h.depth.packet p⟩
  have hreceived : BuffersOwned { s with depth := s.depth.received p } := by
    have husr : (s.depth.received p).strm.usrBuf = s.depth.strm.usrBuf :=
      congrArg StreamBufs.usrBuf (s.depth.received_bufs p)
    have hrun : (s.depth.received p).strm.running = s.depth.strm.running :=
      streamProcess_running
    exact ⟨h.owned.video, h.owned.depth.received p, fun hr ↦ h.owned.registered (hrun ▸ hr),
      fun hr ↦ h.owned.absent (hrun ▸ hr), fun q hq ↦ husr ▸ h.owned.client q hq⟩
  rcases s.depth.packet_cases p with heq | heq | ⟨pbuf, hpbuf, heq⟩ <;> rw [heq]
  · exact h.owned
  · exact hreceived
  · exact hreceived.setDepthBuffer (hp pbuf hpbuf)

/-- **One event keeps the streams in order.** -/
theorem Streams.step (s : CameraDevice) (e : Event) (h : s.Streams) (he : s.Permits e) :
    (s.eventStep e).1.Streams := by
  cases e with
  | call call =>
    obtain ⟨hgrants, hcall⟩ := he
    have howned := h.owned.step s call ⟨hgrants, hcall⟩
    cases call with
    | setVideoMode reserved => exact h.setVideoMode reserved
    | setDepthMode reserved => exact h.setDepthMode reserved
    | setVideoBuffer buf => exact ⟨howned, h.video.setbuf buf, h.depth⟩
    | setDepthBuffer buf => exact ⟨howned, h.video, h.depth.setbuf buf⟩
    | startVideo a => exact h.startVideo hgrants
    | startDepth a t => exact h.startDepth hgrants
    | stopVideo => exact ⟨howned, h.video.stop, h.depth⟩
    | stopDepth => exact ⟨howned, h.video, h.depth.stop⟩
  | videoPacket p => exact h.videoPacket he
  | depthPacket p => exact h.depthPacket he

/-- No video format is looked up in the table. -/
theorem findsTable_videoArm (big : Bool) (mode : FrameMode VideoFormat) (fmt : VideoFormat)
    (t : OwnedTables) : OwnedStream.FindsTable (videoArm big mode fmt) t := by
  intro arm harm raw hlookups
  cases fmt <;> cases harm <;> exact absurd rfl hlookups

/-- The depth formats that are looked up in the table are those for which it is made. -/
theorem registers_of_depthLookups {fmt : DepthFormat} {raw : Bytes}
    (h : depthLookups fmt raw ≠ []) : fmt.Registers := by
  cases fmt with
  | registered => exact Or.inl rfl
  | mm => exact Or.inr rfl
  | d11Bit => exact absurd rfl h
  | d10Bit => exact absurd rfl h
  | d11BitPacked => exact absurd rfl h
  | d10BitPacked => exact absurd rfl h
  | dummy => exact absurd rfl h

/-- **The table is there while the depth stream runs**, for a format that needs it. -/
theorem BuffersOwned.findsTable (h : s.BuffersOwned) (hrun : s.depth.strm.running = true)
    (big : Bool) (pad : RegPadInfo) (t : RegistrationTables) :
    OwnedStream.FindsTable (depthArm big s.depthFormat pad t) s.tables := by
  intro arm harm raw hlookups
  obtain ⟨convert, -, rfl⟩ := Option.map_eq_some_iff.1 harm
  exact (h.registered hrun (registers_of_depthLookups hlookups)).raw.2

/-- **Packets stay inside.** After any run of calls and packets from a freshly opened device, no
packet that comes next, for either stream, makes the library touch a byte outside its blocks and
the client's buffer, whatever the packet, memory and the registration data hold, and a frame that
is handed out has the size of the mode. The registered format is left out. -/
theorem packets_stay_inside (big : Bool) (pad : RegPadInfo) (t : RegistrationTables)
    (videoJunk : FrameMode VideoFormat) (depthJunk : FrameMode DepthFormat) (events : List Event)
    (h : Mealy.Along eventStep Permits opened events) :
    let s := Mealy.run eventStep opened events
    s.video.PacketSafe s.tables (s.currentVideoMode videoJunk).bytes
        (videoArm big (s.currentVideoMode videoJunk) s.videoFormat) ∧
      (s.depthFormat ≠ .registered →
        s.depth.PacketSafe s.tables (s.currentDepthMode depthJunk).bytes
          (depthArm big s.depthFormat pad t)) := by
  have hs : (Mealy.run eventStep opened events).Streams :=
    h.run_invariant Streams.step streams_opened
  generalize Mealy.run eventStep opened events = s at hs ⊢
  obtain ⟨howned, ⟨video, hvideo, hvideoFramed⟩, ⟨depth, hdepth, hdepthFramed⟩⟩ := hs
  refine ⟨?_, fun hfmt ↦ ?_⟩
  · have hmode : s.currentVideoMode videoJunk = video := by
      obtain ⟨hfind, -⟩ := video_lookups video hvideo.mem
      rw [hvideo.resolution, hvideo.format] at hfind
      exact hfind.findMode_eq videoJunk
    rw [hmode, ← hvideo.format]
    exact howned.video.packetSafe hvideoFramed (fun arm harm ↦ videoArm_fits big hvideo.mem harm)
      fun _ ↦ findsTable_videoArm big video video.format s.tables
  · have htable := fun hrun ↦ howned.findsTable hrun big pad t
    have hmode : s.currentDepthMode depthJunk = depth := by
      obtain ⟨hfind, -⟩ := depth_lookups depth hdepth.mem
      rw [hdepth.resolution, hdepth.format] at hfind
      exact hfind.findMode_eq depthJunk
    rw [hmode, ← hdepth.format]
    rw [← hdepth.format] at hfmt htable
    refine howned.depth.packetSafe hdepthFramed (fun arm harm ↦ ?_) htable
    have hfits := depthArm_fits hfmt harm
    have hbytes : depth.bytes = 640 * 480 * 2 := by
      refine bytes_of_depthArm depth hdepth.mem ?_ ?_ <;> intro heq <;> rw [heq] at harm <;>
        cases harm
    rwa [hbytes]

/-- A client that starts the video stream in the ten-bit infrared format and gets two packets, of
which the second would have it set a buffer; it then stops it and starts the depth stream in
millimetres. -/
def infraredEvents : List Event :=
  [.call (.setVideoMode (makeReserved Resolution.medium.toNat VideoFormat.ir10Bit.toNat)),
    .call (.startVideo ⟨10, 11, videoMode .medium .rgb 0 0 0 0 0 0⟩),
    .videoPacket ⟨mkPacket 0x81 0 5 [0xAA, 0x55], false, none⟩,
    .videoPacket ⟨mkPacket 0x82 1 5 [0xFF], false, some 20⟩,
    .call .stopVideo,
    .call (.setDepthMode (makeReserved Resolution.medium.toNat DepthFormat.mm.toNat)),
    .call (.startDepth ⟨10, 11, depthMode .d11Bit 0 0 0⟩ ⟨12, 13, 14⟩)]

/-- The next packet of either stream stays inside. -/
theorem packets_stay_inside_infrared :
    let s := Mealy.run eventStep opened infraredEvents
    s.video.PacketSafe s.tables (s.currentVideoMode (videoMode .low .dummy 0 0 0 0 0 0)).bytes
        (videoArm false (s.currentVideoMode (videoMode .low .dummy 0 0 0 0 0 0)) s.videoFormat) ∧
      (s.depthFormat ≠ .registered →
        s.depth.PacketSafe s.tables (s.currentDepthMode (depthMode .dummy 0 0 0)).bytes
          (depthArm false s.depthFormat ⟨0, 0, 0⟩ ⟨fun _ ↦ 0, fun _ ↦ 0, fun _ ↦ (0, 0)⟩)) :=
  packets_stay_inside false ⟨0, 0, 0⟩ ⟨fun _ ↦ 0, fun _ ↦ 0, fun _ ↦ (0, 0)⟩
    (videoMode .low .dummy 0 0 0 0 0 0) (depthMode .dummy 0 0 0) infraredEvents (by decide)

end CameraDevice

end Freenect
