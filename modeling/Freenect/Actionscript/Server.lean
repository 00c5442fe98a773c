import Freenect.Actionscript.Protocol
import Freenect.Camera.DepthProcess
import Mathlib.Algebra.Group.Int.Defs

/-!
# The server

`connection_handler` of `as3-server.c` with the functions that it calls: it reads commands from the
socket and executes them one after the other, which changes a setting or sends a message. One read
and one command are a step each, as the client and the network go on meanwhile.

What the camera and the motor answer is an argument of a step, and so is whether a message can be
sent; the JPEG library is a parameter. A new connection is not modelled: the handler is followed up
to its end.

The result here is about what goes out: a message begins with the two bytes of the command that it
answers (`reply_header`), and is one that the client can read back (`reply_sendable`), which means
that it is not empty and that its length fits an `int`. A picture that is not compressed has its
length from its loop, and of one that is compressed `Jpeg.Fits` says so.
-/

namespace Freenect.Actionscript

/-! ### Settings -/

/-- The global variables that commands set. -/
structure Settings where
  videoMirrored : Int32
  depthMirrored : Int32
  minDepth : Int32
  maxDepth : Int32
  videoCompression : Int32
  depthCompression : Int32
  deriving DecidableEq, Repr

/-- Their initial values. -/
def Settings.initial : Settings where
  videoMirrored := 0
  depthMirrored := 0
  minDepth := 600
  maxDepth := 800
  videoCompression := 80
  depthCompression := 20

/-- The arms of the switch that set a variable. -/
def Settings.apply (s : Settings) (c : Command) : Settings :=
  match c.first, c.second with
  | 0, 3 => { s with depthMirrored := c.value }
  | 0, 4 => { s with videoMirrored := c.value }
  | 0, 5 => { s with minDepth := c.value }
  | 0, 6 => { s with maxDepth := c.value }
  | 0, 7 => { s with depthCompression := c.value }
  | 0, 8 => { s with videoCompression := c.value }
  | _, _ => s

/-! ### Pictures -/

/-- What the camera and the motor answer when a command is executed. -/
structure Sensors where
  /-- `freenect_sync_get_depth`. -/
  depth : ℕ → UInt16
  /-- `freenect_sync_get_video`. -/
  rgb : ℕ → UInt8
  /-- The three `int16_t` and the three `double` of `sendAccelerometers`, in memory. -/
  tilt : List UInt8
  length_tilt : tilt.length = 3 * 2 + 3 * 8

/-- `RGB_2_JPEG`: a picture of 640 by 480 and a quality. -/
abbrev Jpeg := List UInt8 → Int32 → List UInt8

/-- The pixel of the frame that stands at `i` of the picture. -/
def mirroredIndex (mirrored : Int32) (i : ℕ) : ℕ :=
  if mirrored = 0 then i else (640 - i % 640 - 1) + i / 640 * 640

/-- The grey level of a depth. -/
def depthLevel (s : Settings) (d : UInt16) : UInt8 :=
  if (d.toNat : ℤ) < s.maxDepth.toInt ∧ s.minDepth.toInt < d.toNat then
    UInt8.ofNat (0xFF - ((d.toNat - s.minDepth.toInt) % 2 ^ 8).toNat)
  else 0

/-- `buf_depth`, with an alpha channel if it is not compressed. -/
def depthPicture (s : Settings) (depth : ℕ → UInt16) : List UInt8 :=
  (List.range (640 * 480)).flatMap fun i ↦
    let l := depthLevel s (depth (mirroredIndex s.depthMirrored i))
    if s.depthCompression ≠ 0 then [l, l, l] else [l, l, l, 0xFF]

/-- `char_depth` of `sendRawDepth`. -/
def rawDepthPicture (s : Settings) (depth : ℕ → UInt16) : List UInt8 :=
  (List.range (640 * 480)).flatMap fun i ↦
    hostBytes false (depth (mirroredIndex s.depthMirrored i))

/-- `buf_rgb`: the other order of colours and an alpha channel if it is not compressed. -/
def videoPicture (s : Settings) (rgb : ℕ → UInt8) : List UInt8 :=
  (List.range (640 * 480)).flatMap fun i ↦
    let j := mirroredIndex s.videoMirrored i
    if s.videoCompression ≠ 0 then [rgb (3 * j), rgb (3 * j + 1), rgb (3 * j + 2)]
    else [rgb (3 * j + 2), rgb (3 * j + 1), rgb (3 * j), 0x00]

section Server

variable (jpeg : Jpeg)

/-- `sendDepth`, up to the sending. -/
def sendDepth (s : Settings) (sensors : Sensors) : Message where
  first := 0
  second := 0
  data :=
    let picture := depthPicture s sensors.depth
    if s.depthCompression ≠ 0 then jpeg picture s.depthCompression else picture

/-- `sendRawDepth`. -/
def sendRawDepth (s : Settings) (sensors : Sensors) : Message where
  first := 0
  second := 1
  data := rawDepthPicture s sensors.depth

/-- `sendVideo`. -/
def sendVideo (s : Settings) (sensors : Sensors) : Message where
  first := 0
  second := 2
  data :=
    let picture := videoPicture s sensors.rgb
    if s.videoCompression ≠ 0 then jpeg picture s.videoCompression else picture

/-- `sendAccelerometers`. -/
def sendAccelerometers (sensors : Sensors) : Message where
  first := 1
  second := 2
  data := sensors.tilt

/-- The arms of the switch that send a message. -/
def reply (s : Settings) (sensors : Sensors) (c : Command) : Option Message :=
  match c.first, c.second with
  | 0, 0 => some (sendDepth jpeg s sensors)
  | 0, 1 => some (sendRawDepth s sensors)
  | 0, 2 => some (sendVideo jpeg s sensors)
  | 1, 2 => some (sendAccelerometers sensors)
  | _, _ => none

/-! ### What is sent -/

/-- A compressed picture is not empty and its length fits an `int`. -/
def Jpeg.Fits : Prop :=
  ∀ picture quality, 0 < (jpeg picture quality).length ∧ (jpeg picture quality).length < 2 ^ 31

variable {jpeg}

/-- A picture with the same number of bytes for each pixel. -/
theorem length_flatMap_range {n k : ℕ} {f : ℕ → List UInt8} (hf : ∀ i, (f i).length = k) :
    ((List.range n).flatMap f).length = n * k := by
  simp [List.length_flatMap, hf]

/-- The length of the depth picture. -/
theorem length_depthPicture (s : Settings) (depth : ℕ → UInt16) :
    (depthPicture s depth).length = 640 * 480 * if s.depthCompression ≠ 0 then 3 else 4 := by
  refine length_flatMap_range fun i ↦ ?_
  simp only [apply_ite List.length, List.length_cons, List.length_nil]

theorem length_videoPicture (s : Settings) (rgb : ℕ → UInt8) :
    (videoPicture s rgb).length = 640 * 480 * if s.videoCompression ≠ 0 then 3 else 4 := by
  refine length_flatMap_range fun i ↦ ?_
  simp only [apply_ite List.length, List.length_cons, List.length_nil]

theorem length_rawDepthPicture (s : Settings) (depth : ℕ → UInt16) :
    (rawDepthPicture s depth).length = 640 * 480 * 2 :=
  length_flatMap_range fun _ ↦ rfl

/-- A depth picture can be read back. -/
theorem sendDepth_sendable (hjpeg : jpeg.Fits) (s : Settings) (sensors : Sensors) :
    (sendDepth jpeg s sensors).Sendable := by
  rw [Message.Sendable, sendDepth]
  dsimp only
  split
  · exact hjpeg _ _
  next h =>
    rw [length_depthPicture, if_neg h]
    decide

theorem sendVideo_sendable (hjpeg : jpeg.Fits) (s : Settings) (sensors : Sensors) :
    (sendVideo jpeg s sensors).Sendable := by
  rw [Message.Sendable, sendVideo]
  dsimp only
  split
  · exact hjpeg _ _
  next h =>
    rw [length_videoPicture, if_neg h]
    decide

/-- The two bytes of a command stand in front of the answer. -/
theorem reply_header {s : Settings} {sensors : Sensors} {c : Command} {m : Message}
    (h : reply jpeg s sensors c = some m) : m.first = c.first ∧ m.second = c.second := by
  rw [reply] at h
  split at h <;> cases h <;> exact ⟨Eq.symm ‹_›, Eq.symm ‹_›⟩

/-- The client can read the answers back. -/
theorem reply_sendable (hjpeg : jpeg.Fits) {s : Settings} {sensors : Sensors} {c : Command}
    {m : Message} (h : reply jpeg s sensors c = some m) : m.Sendable := by
  rw [reply] at h
  split at h <;> cases h
  · exact sendDepth_sendable hjpeg s sensors
  · rw [Message.Sendable, sendRawDepth, length_rawDepthPicture]
    decide
  · exact sendVideo_sendable hjpeg s sensors
  · rw [Message.Sendable, sendAccelerometers, sensors.length_tilt]
    decide

variable (jpeg)

/-! ### The handler -/

/-- `connection_handler`: the commands of the last read that are still to be executed, and how many
bytes the next read asks for. -/
structure Server where
  settings : Settings
  connected : Bool
  len : ℕ
  batch : List Command

/-- A server that has got its client. -/
def Server.init : Server where
  settings := .initial
  connected := true
  len := 8 * 10
  batch := []

/-- The handler is in front of a read. -/
def Server.Reads (v : Server) : Prop := v.connected = true ∧ v.batch = []

instance (v : Server) : Decidable v.Reads := inferInstanceAs (Decidable (_ ∧ _))

/-- `freenect_network_read` and the test behind it. The bytes are what `read` copied, none at the
end of the stream; their number is what the next read asks for. -/
def Server.read (v : Server) (bytes : List UInt8) : Server :=
  if 0 < bytes.length ∧ bytes.length % 6 = 0 then
    { v with len := bytes.length, batch := commandsIn bytes bytes.length }
  else { v with len := bytes.length, connected := false }

/-- The next command is executed: the server, and the message that goes out. `sent` says whether a
message can be sent; if not, the handler stops behind the batch. -/
def Server.exec (v : Server) (sensors : Sensors) (sent : Bool) : Server × Option Message :=
  match v.batch with
  | [] => (v, none)
  | c :: batch =>
    let v := { v with batch := batch, settings := v.settings.apply c }
    match reply jpeg v.settings sensors c with
    | none => (v, none)
    | some m => if sent then (v, some m) else ({ v with connected := false }, none)

end Server

end Freenect.Actionscript
