import Freenect.Sync.Wrapper
import Mathlib.Logic.Function.Basic

/-!
# Clients of one device

The functions of the synchronous wrapper as seen by the clients of one device, cut into their locked
sections: a `call` of a get function as far as `sync_get`, `sync_get` itself (`fetch`), a packet
that libfreenect processes, and the `producer` callback that it makes when the packet completes a
frame. Between the last two libfreenect holds the run loop lock but not that of the ring, so that a
client may fetch a frame in between and none can change a format.

Memory is that of both, libfreenect and the clients. The clients are of any type; the streams
themselves, if there is one client for each.

To compare what the clients get with what libfreenect has completed, a session keeps more than the
programs do: for each stream the list of its frames, the mode that was asked for last and the blocks
that were allocated last, and for each client what was in its buffer when it got it. This is written
and never decides what a step does; a reply only tells how many frames there have been.
-/

namespace Freenect

/-- A frame that libfreenect has completed: the mode it was captured in, its timestamp, and what its
buffer held. -/
structure Frame where
  mode : Mode
  timestamp : UInt32
  data : ℕ → UInt8

/-- A producer callback that has not yet taken the lock of its ring. -/
structure Pending where
  kind : StreamKind
  buf : Ptr
  frame : Frame

/-- A buffer that a get function has returned, and what it held then. -/
structure Held where
  buf : Ptr
  data : ℕ → UInt8

/-- What a get function returns, with the mode it was asked for and how many frames of the stream
there have been. -/
structure SyncReply where
  mode : Mode
  buf : Ptr
  timestamp : UInt32
  number : ℕ

/-- A device with its clients. -/
structure Session (ι : Type) where
  kinect : SyncKinect
  heap : Heap
  mem : Memory
  pending : Option Pending
  /-- The mode a client has asked for and waits for. -/
  asked : ι → Option Mode
  /-- The buffer a client has got with its last call, until its next one. -/
  held : ι → Option Held
  /-- History: the frames of a stream that the producer callback has passed on. -/
  frames : StreamKind → List Frame
  /-- History: the buffers that were allocated last. -/
  allocated : StreamKind → Option (List Ptr)
  /-- History: the mode that was asked for last. -/
  lastAsked : StreamKind → Option Mode
  /-- History: how many frames there were when a client got one. -/
  handedOut : StreamKind → ℕ
  /-- History: an assertion has failed. -/
  failed : Bool

namespace Session

variable {ι : Type} [DecidableEq ι]

/-- A device that has just been opened, and clients that have not called yet. -/
def initial (videoJunk depthJunk : BufferRing) (mem : Memory) : Session ι where
  kinect := .fresh videoJunk depthJunk
  heap := .empty
  mem := mem
  pending := none
  asked := fun _ ↦ none
  held := fun _ ↦ none
  frames := fun _ ↦ []
  allocated := fun _ ↦ none
  lastAsked := fun _ ↦ none
  handedOut := fun _ ↦ 0
  failed := false

/-- A client asks for a mode, and gives up the buffer it has. -/
def ask (s : Session ι) (i : ι) (m : Mode) : Session ι :=
  { s with
    asked := Function.update s.asked i (some m)
    held := Function.update s.held i none
    lastAsked := Function.update s.lastAsked m.kind (some m) }

/-- A get function up to `sync_get`. A client calls when its last call has returned, and waits for
the run loop lock if the format is to be changed. -/
def call (s : Session ι) (i : ι) (m : Mode) (a : FormatAnswers) : Session ι :=
  if (s.asked i).isSome then s
  else if s.kinect.Labelled m then s.ask i m
  else if s.pending.isSome then s
  else
    let o := s.kinect.changeFormat s.heap a m
    { s.ask i m with
      kinect := o.1
      heap := o.2.1
      allocated := Function.update s.allocated m.kind (some (o.1.ring m.kind).bufs) }

/-- `sync_get`. -/
def fetch (s : Session ι) (i : ι) : Session ι × Option SyncReply :=
  match s.asked i with
  | none => (s, none)
  | some m =>
    match (s.kinect.ring m.kind).syncGet with
    | none => (s, none)
    | some o =>
      ({ s with
        kinect := s.kinect.withRing m.kind o.1
        asked := Function.update s.asked i none
        held := Function.update s.held i (some { buf := o.2.1, data := s.mem o.2.1 })
        handedOut := Function.update s.handedOut m.kind (s.frames m.kind).length },
        some { mode := m, buf := o.2.1, timestamp := o.2.2, number := (s.frames m.kind).length })

/-- libfreenect processes a packet. -/
def packet (s : Session ι) (kind : StreamKind) (convert : Option Conversion) (pkt : List UInt8) :
    Session ι :=
  if s.pending.isSome then s
  else
    let o := frameProcess convert (s.kinect.dev.stream kind).strm s.mem pkt false none
    { s with
      kinect := { s.kinect with dev := s.kinect.dev.withStrm kind o.1 }
      mem := o.2.1
      pending := o.2.2.map fun f ↦
        { kind := kind
          buf := f.frame
          frame := { mode := s.kinect.dev.mode kind, timestamp := f.timestamp,
                     data := o.2.1 f.frame } } }

/-- `producer_cb_inner`. -/
def producer (s : Session ι) : Session ι :=
  match s.pending with
  | none => s
  | some p =>
    let ring := s.kinect.ring p.kind
    let k := { s.kinect with dev := (s.kinect.dev.setBuffer p.kind ring.buf1).1 }
    { s with
      kinect := k.withRing p.kind (ring.produce p.frame.timestamp)
      pending := none
      frames := Function.update s.frames p.kind (s.frames p.kind ++ [p.frame])
      failed := s.failed || p.buf ≠ ring.buf2 }

/-- What can happen. -/
inductive Event (ι : Type)
  | call (i : ι) (m : Mode) (a : FormatAnswers)
  | fetch (i : ι)
  | packet (kind : StreamKind) (convert : Option Conversion) (pkt : List UInt8)
  | producer

/-- One event, and what a client gets in it. -/
def step (s : Session ι) : Event ι → Session ι × Option SyncReply
  | .call i m a => (s.call i m a, none)
  | .fetch i => s.fetch i
  | .packet kind convert pkt => (s.packet kind convert pkt, none)
  | .producer => (s.producer, none)

end Session

/-- A callback that sets a buffer may as well come after the packet has been processed. -/
theorem processPacket_eq_frameProcess (convert : Option Conversion) (strm : PacketStream)
    (mem : Memory) (pkt : List UInt8) (p : Ptr) :
    processPacket strm { pkt := pkt, chunkCb := false, newBuf := some p } =
      match (frameProcess convert strm mem pkt false none).2.2 with
      | none => ((frameProcess convert strm mem pkt false none).1, none)
      | some f =>
        ((streamSetbuf (frameProcess convert strm mem pkt false none).1 p).1, some f) := by
  rw [frameProcess, processPacket]
  split
  · rfl
  · split
    · rfl
    · dsimp only
      split
      exacts [rfl, rfl]

namespace Session

variable {ι : Type} {s : Session ι}

/-- **A packet and the callback it may come to** are together what the wrapper does with a
packet. -/
theorem producer_packet (h : s.pending = none) (kind : StreamKind) (convert : Option Conversion)
    (pkt : List UInt8) :
    (s.packet kind convert pkt).producer.kinect = s.kinect.packet pkt kind := by
  have hpacket := processPacket_eq_frameProcess convert (s.kinect.dev.stream kind).strm s.mem pkt
    (s.kinect.ring kind).buf1
  rw [SyncKinect.packet_eq, hpacket, packet, h, Option.isSome_none, if_neg Bool.false_ne_true,
    producer]
  dsimp only
  cases (frameProcess convert (s.kinect.dev.stream kind).strm s.mem pkt false none).2.2 with
  | none =>
    -- no frame is passed on, and the ring stays as it is
    cases kind with
    | video => rfl
    | depth => rfl
  | some f =>
    -- the callback finds the ring of its stream, which the packet has left alone
    cases kind with
    | video => rfl
    | depth => rfl

/-! ### A frame in few packets -/

/-- The header of a packet. -/
def header (flag seq : UInt8) : List UInt8 := [0x52, 0x42, 0, flag, 0, seq, 0, 0, 0, 0, 0, 0]

/-- The packets that arrive of a video frame of medium resolution, of which five in six are lost. -/
def sparseFrame : List (List UInt8) :=
  [header 0x81 0] ++ (List.range 26).map (fun k ↦ header 0x82 (6 * (k + 1)).toUInt8) ++
    [header 0x85 161]

end Session

end Freenect
