import Freenect.Library.Memory
import Mathlib.Algebra.Group.Nat.Defs
import Mathlib.Data.Int.Notation

/-!
# The packet stream of a camera

`packet_stream` and the functions of `cameras.c` that own it: `stream_init`, `stream_freebufs`,
`stream_setbuf`, the reassembler `stream_process` and what its two callers share.

A camera sends a frame as `pktsPerFrame` isochronous packets. Each carries a twelve-byte header
with a flag (start, middle or end of frame) and an 8-bit sequence number; the reassembler copies
the payloads side by side into `rawBuf` and returns a non-zero size when a frame is complete.

`streamProcess` is cut where the source has its paragraphs: `sync`, `handleLost`, `check` and
`accept`. What the call does to memory is part of its result (`PayloadOp`) and is applied by the
caller, before the caller looks at the returned size: that is the order of the source, where the
payload is copied inside the call. Logging is left out; `validFrames`, which only selects log
levels, is kept as the counter it is.

Pointers are block numbers with `0` for `NULL`. What `malloc` returned is an argument of the
functions that call it.

The record is split in two on purpose. `StreamGeometry` is fixed from `stream_init` on, and
`StreamBufs` changes only in the functions that own the buffers; so one equation on each says of a
whole run that the rest of the stream is all that packets change.
-/

namespace Freenect

/-- A `void *`: the number of the block pointed to. -/
abbrev Ptr := ℕ

/-- The null pointer. -/
def NULL : Ptr := 0

/-- The memory the driver and its client share. -/
abbrev Memory := BlockMemory UInt8

/-- What the set-up of a stream fixes for as long as the stream runs. -/
structure StreamGeometry where
  flag : UInt8
  variableLength : Bool
  pktSize : ℕ
  frameSize : ℕ
  lastPktSize : ℕ
  pktsPerFrame : ℕ
  deriving DecidableEq, Repr

/-- The buffers of a stream. -/
structure StreamBufs where
  splitBufs : Bool
  libBuf : Ptr
  usrBuf : Ptr
  rawBuf : Ptr
  procBuf : Ptr
  deriving DecidableEq, Repr

/-- `packet_stream`. -/
structure PacketStream extends StreamGeometry, StreamBufs where
  running : Bool
  synced : Bool
  seq : UInt8
  gotPkts : ℕ
  pktNum : ℕ
  validPkts : ℕ
  lostPkts : UInt32
  validFrames : ℕ
  lastTimestamp : UInt32
  timestamp : UInt32
  deriving DecidableEq, Repr

/-- A stream of a freshly opened device: `freenect_open_device` zeroes it. -/
def PacketStream.zero : PacketStream where
  flag := 0
  variableLength := false
  pktSize := 0
  frameSize := 0
  lastPktSize := 0
  pktsPerFrame := 0
  splitBufs := false
  libBuf := NULL
  usrBuf := NULL
  rawBuf := NULL
  procBuf := NULL
  running := false
  synced := false
  seq := 0
  gotPkts := 0
  pktNum := 0
  validPkts := 0
  lostPkts := 0
  validFrames := 0
  lastTimestamp := 0
  timestamp := 0

/-! ### Set-up and buffers

The functions around a run: what is allocated when a stream starts, what is freed when it stops, and
how a client gives the library a buffer of its own. -/

/-- `stream_init`. The two pointers are what its two calls of `malloc` return, in the order of the
source; each is used only where the source makes the call. -/
def streamInit (strm : PacketStream) (rlen plen : ℕ) (libMalloc rawMalloc : Ptr) : PacketStream :=
  let strm := { strm with validFrames := 0, synced := false }
  let strm :=
    if strm.usrBuf ≠ NULL then { strm with libBuf := NULL, procBuf := strm.usrBuf }
    else { strm with libBuf := libMalloc, procBuf := libMalloc }
  let strm :=
    if rlen = 0 then
      { strm with splitBufs := false, rawBuf := strm.procBuf, frameSize := plen }
    else { strm with splitBufs := true, rawBuf := rawMalloc, frameSize := rlen }
  { strm with
    lastPktSize :=
      if strm.frameSize % strm.pktSize = 0 then strm.pktSize
      else strm.frameSize % strm.pktSize
    pktsPerFrame := (strm.frameSize + strm.pktSize - 1) / strm.pktSize }

/-- `stream_freebufs`: the stream afterwards and the blocks handed to `free`. -/
def streamFreebufs (strm : PacketStream) : PacketStream × List Ptr :=
  ({ strm with rawBuf := NULL, procBuf := NULL, libBuf := NULL },
    (if strm.splitBufs then [strm.rawBuf] else []) ++
      if strm.libBuf ≠ NULL then [strm.libBuf] else [])

/-- `stream_setbuf`: the stream afterwards and the return value. -/
def streamSetbuf (strm : PacketStream) (pbuf : Ptr) : PacketStream × ℤ :=
  if ¬ strm.running then ({ strm with usrBuf := pbuf }, 0)
  else if pbuf = NULL ∧ strm.libBuf = NULL then (strm, -1)
  else
    let strm := { strm with usrBuf := pbuf }
    let strm := { strm with procBuf := if pbuf = NULL then strm.libBuf else pbuf }
    (if ¬ strm.splitBufs then { strm with rawBuf := strm.procBuf } else strm, 0)

/-! ### Packets

The header is read byte by byte, so the byte order of the host plays no part, and a packet that is
shorter than the header has no header at all. -/

/-- `struct pkt_hdr`, without its bytes of unknown meaning. -/
structure PktHdr where
  magic0 : UInt8
  magic1 : UInt8
  flag : UInt8
  seq : UInt8
  timestamp : UInt32
  deriving DecidableEq, Repr

/-- A little-endian 32-bit field, as `fn_le32` reads it on any host. -/
def le32 (b0 b1 b2 b3 : UInt8) : UInt32 :=
  UInt32.ofNat (b0.toNat + 2 ^ 8 * b1.toNat + 2 ^ 16 * b2.toNat + 2 ^ 24 * b3.toNat)

/-- `sizeof(struct pkt_hdr)`. -/
def pktHdrSize : ℕ := 12

/-- The header in front of a packet's payload. -/
def PktHdr.ofBytes (pkt : List UInt8) : PktHdr where
  magic0 := pkt.getD 0 0
  magic1 := pkt.getD 1 0
  flag := pkt.getD 3 0
  seq := pkt.getD 5 0
  timestamp := le32 (pkt.getD 8 0) (pkt.getD 9 0) (pkt.getD 10 0) (pkt.getD 11 0)

/-- The payload behind the header. -/
def pktData (pkt : List UInt8) : List UInt8 := pkt.drop pktHdrSize

namespace StreamGeometry

variable (g : StreamGeometry)

/-- The flag of a frame's first packet. -/
def sof : UInt8 := g.flag ||| 1

/-- The flag of a packet inside a frame. -/
def mof : UInt8 := g.flag ||| 2

/-- The flag of a frame's last packet. -/
def eof : UInt8 := g.flag ||| 5

end StreamGeometry

/-! ### The reassembler

The four paragraphs of `stream_process`, each a function of the stream and of what it looks at of
the packet, and the function itself. -/

/-- What a call does with the payload: a `memcpy` to an offset of `raw_buf`, or the client's chunk
callback instead. -/
inductive PayloadOp
  | memcpy (off : ℕ) (data : List UInt8)
  | chunk (pktNum : ℕ) (data : List UInt8)
  deriving DecidableEq, Repr

/-- The effect of a payload operation on memory. A chunk callback writes what it likes; here it
leaves memory alone. -/
def PayloadOp.apply (m : Memory) (rawBuf : Ptr) : PayloadOp → Memory
  | memcpy off data => m.store rawBuf off data
  | chunk _ _ => m

/-- The result of `stream_process`: the stream, what was done with the payload, and the returned
size. -/
structure Processed where
  strm : PacketStream
  payload : Option PayloadOp
  gotFrameSize : ℕ
  deriving DecidableEq, Repr

/-- Memory after the call. -/
def Processed.memory (o : Processed) (m : Memory) : Memory :=
  match o.payload with
  | some op => op.apply m o.strm.rawBuf
  | none => m

namespace PacketStream

variable (strm : PacketStream)

/-- Sync if required, dropping packets until SOF. -/
def sync (hdr : PktHdr) : Option PacketStream :=
  if strm.synced then some strm
  else if hdr.flag ≠ strm.sof then none
  else some { strm with synced := true, seq := hdr.seq, pktNum := 0, validPkts := 0, gotPkts := 0 }

/-- Handle lost packets. An `error` is the early `return 0` of a resync, an `ok` the stream and
the value of `got_frame_size` with which the packet itself is then handled. -/
def handleLost (hdr : PktHdr) : Except PacketStream (PacketStream × ℕ) :=
  if strm.seq = hdr.seq then .ok (strm, 0)
  else
    let lost : UInt8 := hdr.seq - strm.seq
    let strm := { strm with lostPkts := strm.lostPkts + lost.toUInt32 }
    if 5 < lost.toNat ∨ strm.variableLength then .error { strm with synced := false }
    else
      let strm := { strm with seq := hdr.seq }
      let left : ℤ := strm.pktsPerFrame - strm.pktNum
      if left ≤ lost.toNat then
        .ok ({ strm with
          pktNum := (lost.toNat - left).toNat
          validPkts := strm.gotPkts
          gotPkts := 0
          timestamp := strm.lastTimestamp
          validFrames := strm.validFrames + 1 }, strm.frameSize)
      else .ok ({ strm with pktNum := strm.pktNum + lost.toNat }, 0)

/-- The size of the payload the stream waits for. -/
def expectedPktSize : ℕ :=
  if strm.pktNum + 1 = strm.pktsPerFrame then strm.lastPktSize else strm.pktSize

/-- What the checks on flag and length decide. -/
inductive Verdict
  | resync
  | drop
  | accept
  deriving DecidableEq, Repr

/-- Check the header and the data length to make sure they are what we expect. -/
def check (flag : UInt8) (datalen : ℕ) : Verdict :=
  if ¬ strm.variableLength then
    if ¬ (strm.pktNum = 0 ∧ flag = strm.sof) ∧
        ¬ (strm.pktNum + 1 = strm.pktsPerFrame ∧ flag = strm.eof) ∧
        ¬ (0 < strm.pktNum ∧ strm.pktNum + 1 < strm.pktsPerFrame ∧ flag = strm.mof) then .resync
    else if strm.expectedPktSize < datalen then .drop
    else .accept
  else
    if ¬ (strm.pktNum = 0 ∧ flag = strm.sof) ∧
        ¬ (strm.pktNum < strm.pktsPerFrame ∧ (flag = strm.eof ∨ flag = strm.mof)) then .resync
    else if strm.expectedPktSize < datalen then .resync
    else if datalen < strm.expectedPktSize ∧ flag ≠ strm.eof then .resync
    else .accept

/-- Copy or chunk process the data, then count the packet and, at the end of a frame, publish the
frame. `got` is `got_frame_size` so far. -/
def accept (hdr : PktHdr) (data : List UInt8) (chunkCb : Bool) (got : ℕ) : Processed :=
  let off := strm.pktNum * strm.pktSize
  let op := if chunkCb then PayloadOp.chunk strm.pktNum data else PayloadOp.memcpy off data
  let next := { strm with
    pktNum := strm.pktNum + 1
    seq := strm.seq + 1
    gotPkts := strm.gotPkts + 1
    lastTimestamp := hdr.timestamp }
  if hdr.flag = strm.eof then
    { strm := { next with
        pktNum := 0
        validPkts := next.gotPkts
        gotPkts := 0
        timestamp := next.lastTimestamp
        validFrames := next.validFrames + 1 }
      payload := some op
      gotFrameSize := if strm.variableLength then off + data.length else off + strm.lastPktSize }
  else { strm := next, payload := some op, gotFrameSize := got }

/-- The part of `stream_process` after lost packets have been accounted for. -/
def finish (hdr : PktHdr) (data : List UInt8) (chunkCb : Bool) (got : ℕ) : Processed :=
  match strm.check hdr.flag data.length with
  | .resync => { strm := { strm with synced := false }, payload := none, gotFrameSize := got }
  | .drop => { strm := strm, payload := none, gotFrameSize := got }
  | .accept => strm.accept hdr data chunkCb got

end PacketStream

/-- `stream_process`. `chunkCb` says whether the client has set a chunk callback. -/
def streamProcess (strm : PacketStream) (pkt : List UInt8) (chunkCb : Bool) : Processed :=
  let hdr := PktHdr.ofBytes pkt
  if pkt.length < pktHdrSize then { strm := strm, payload := none, gotFrameSize := 0 }
  else if hdr.magic0 ≠ 0x52 ∨ hdr.magic1 ≠ 0x42 then
    { strm := strm, payload := none, gotFrameSize := 0 }
  else
    match strm.sync hdr with
    | none => { strm := strm, payload := none, gotFrameSize := 0 }
    | some strm =>
      match strm.handleLost hdr with
      | .error strm => { strm := strm, payload := none, gotFrameSize := 0 }
      | .ok (strm, got) => strm.finish hdr (pktData pkt) chunkCb got

/-! ### The callers

What `depth_process` and `video_process` do around a call: the conversion of a complete frame, and
the frame callback, from which the client may set the next buffer. -/

/-- What a frame callback is called with. -/
structure FrameOut where
  frame : Ptr
  timestamp : UInt32
  deriving DecidableEq, Repr

/-- `dev->depth_cb` or `dev->video_cb`, as far as the stream sees it: the client may set a new
buffer from inside. -/
def frameCallback (strm : PacketStream) (newBuf : Option Ptr) : PacketStream :=
  match newBuf with
  | some pbuf => (streamSetbuf strm pbuf).1
  | none => strm

/-- A conversion of `raw_buf` to `proc_buf`: from what the two hold, what is written to the start of
`proc_buf`. -/
abbrev Conversion := (ℕ → UInt8) → (ℕ → UInt8) → List UInt8

/-- The common body of `depth_process` and `video_process`. `convert` is the arm of the `switch` on
the format, `none` for the formats whose arm does nothing. -/
def frameProcess (convert : Option Conversion) (strm : PacketStream) (mem : Memory)
    (pkt : List UInt8) (chunkCb : Bool) (newBuf : Option Ptr) :
    PacketStream × Memory × Option FrameOut :=
  if pkt.length = 0 then (strm, mem, none)
  else if ¬ strm.running then (strm, mem, none)
  else
    let o := streamProcess strm pkt chunkCb
    let mem := o.memory mem
    if o.gotFrameSize = 0 then (o.strm, mem, none)
    else
      let mem :=
        match convert with
        | some f => mem.store o.strm.procBuf 0 (f (mem o.strm.rawBuf) (mem o.strm.procBuf))
        | none => mem
      (frameCallback o.strm newBuf, mem,
        some { frame := o.strm.procBuf, timestamp := o.strm.timestamp })

end Freenect
