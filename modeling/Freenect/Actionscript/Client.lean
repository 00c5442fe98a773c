import Freenect.Actionscript.Server

/-!
# The client

`as3kinectDepth`, `as3kinectVideo` and `as3kinectMotor`, which write commands, `as3kinectSocket`,
which puts messages together, and `as3kinectWrapper`, which hands them out. A request is locked
while its answer is awaited; depth and raw depth share a lock.

`onSocketData` is called by the player when bytes have come in. It reads a header only if no message
has been begun, and puts out at most one message; if there is less than a header, `readByte` or
`readInt` throws, and what has been read by then is lost.

What the client has got and what is still to come are the rest of the messages that the server has
sent, one after the other (`Expects`). Of a message that has been begun the header is gone, and the
client knows what was in it. A delivery goes on from there, and the first message that is complete
is handed out (`receive_handsOut`), as long as no header comes in two parts.
-/

namespace Freenect.Actionscript

/-! ### Commands -/

/-- The flags `_depth_busy`, `_video_busy` and `_motor_busy`. -/
inductive Lock
  | depth
  | video
  | motor
  deriving DecidableEq, Repr

/-- The functions that ask for data: `getBuffer` and `getRawBuffer` of `as3kinectDepth`, `getBuffer`
of `as3kinectVideo`, and `getData`. -/
inductive Request
  | depth
  | rawDepth
  | video
  | accel
  deriving DecidableEq, Repr

/-- The flag a request looks at. -/
def Request.lock : Request → Lock
  | depth | rawDepth => .depth
  | video => .video
  | accel => .motor

/-- What a request writes. -/
def Request.command : Request → Command
  | depth => ⟨0, 0, 0⟩
  | rawDepth => ⟨0, 1, 0⟩
  | video => ⟨0, 2, 0⟩
  | accel => ⟨1, 2, 0⟩

/-- The setters of the three classes. -/
inductive Setter
  | mirrorDepth (flag : Bool)
  | mirrorVideo (flag : Bool)
  | minDistance (distance : Int32)
  | maxDistance (distance : Int32)
  | depthCompression (quality : Int32)
  | videoCompression (quality : Int32)
  | position (position : Int32)
  | ledColor (color : Int32)
  deriving DecidableEq, Repr

/-- `int(flag)`. -/
def intOfFlag (flag : Bool) : Int32 := if flag then 1 else 0

/-- What a setter writes. -/
def Setter.command : Setter → Command
  | mirrorDepth flag => ⟨0, 3, intOfFlag flag⟩
  | mirrorVideo flag => ⟨0, 4, intOfFlag flag⟩
  | minDistance distance => ⟨0, 5, distance⟩
  | maxDistance distance => ⟨0, 6, distance⟩
  | depthCompression quality => ⟨0, 7, quality⟩
  | videoCompression quality => ⟨0, 8, quality⟩
  | position p => ⟨1, 0, p⟩
  | ledColor color => ⟨1, 1, color⟩

/-- What a setter notes in its object; the position of the motor is not read back. -/
def Setter.store (s : Settings) : Setter → Settings
  | mirrorDepth flag => { s with depthMirrored := intOfFlag flag }
  | mirrorVideo flag => { s with videoMirrored := intOfFlag flag }
  | minDistance distance => { s with minDepth := distance }
  | maxDistance distance => { s with maxDepth := distance }
  | depthCompression quality => { s with depthCompression := quality }
  | videoCompression quality => { s with videoCompression := quality }
  | position _ | ledColor _ => s

/-- **Client and server mean the same by a command.** -/
theorem Setter.store_eq_apply (s : Settings) (setter : Setter) :
    setter.store s = s.apply setter.command := by
  cases setter <;> rfl

/-- A request changes no setting. -/
theorem Settings.apply_request (s : Settings) (r : Request) : s.apply r.command = s := by
  cases r <;> rfl

/-! ### Messages -/

/-- The client. `available` are the bytes that have arrived and are not read yet. -/
structure Client where
  settings : Settings
  busy : Lock → Bool
  firstByte : UInt8
  secondByte : UInt8
  packetSize : ℤ
  available : List UInt8

/-- The client behind `connect`. -/
def Client.init : Client where
  settings := .initial
  busy _ := false
  firstByte := 0
  secondByte := 0
  packetSize := 0
  available := []

namespace Client

/-- `readByte`, `readByte` and `readInt`: the client with a header, or the client behind the
exception. -/
def readHeader (c : Client) : Except Client Client :=
  match c.available with
  | first :: second :: b0 :: b1 :: b2 :: b3 :: rest =>
    .ok { c with
      firstByte := first
      secondByte := second
      packetSize := (intOfBytes b0 b1 b2 b3).toInt
      available := rest }
  | first :: second :: rest =>
    .error { c with firstByte := first, secondByte := second, available := rest }
  | first :: rest => .error { c with firstByte := first, available := rest }
  | [] => .error c

/-- The flag that a message of the server resets. -/
def lockOf (first second : UInt8) : Option Lock :=
  match first, second with
  | 0, 0 | 0, 1 => some .depth
  | 0, 2 => some .video
  | 1, 2 => some .motor
  | _, _ => none

/-- `dataReceived`. From fewer than 30 bytes `updateDataFromBytes` throws, before the flag is
reset. -/
def dataReceived (c : Client) (m : Message) : Client :=
  match lockOf m.first m.second with
  | some .motor =>
    if m.data.length < 3 * 2 + 3 * 8 then c
    else { c with busy := Function.update c.busy .motor false }
  | some lock => { c with busy := Function.update c.busy lock false }
  | none => c

/-- The second half of `onSocketData`: a message that is complete is handed out. With a negative
length `readBytes` throws. -/
def readData (c : Client) : Client × Option Message :=
  if 0 < c.packetSize ∧ c.packetSize ≤ c.available.length then
    let m : Message :=
      { first := c.firstByte
        second := c.secondByte
        data := c.available.take c.packetSize.toNat }
    let c := { c with packetSize := 0, available := c.available.drop c.packetSize.toNat }
    (c.dataReceived m, some m)
  else (c, none)

/-- `onSocketData`. -/
def onSocketData (c : Client) : Client × Option Message :=
  if c.available.length = 0 then (c, none)
  else if c.packetSize = 0 then
    match c.readHeader with
    | .ok c => c.readData
    | .error c => (c, none)
  else c.readData

/-- The client when `bytes` have come in. -/
def receive (c : Client) (bytes : List UInt8) : Client × Option Message :=
  onSocketData { c with available := c.available ++ bytes }

/-! ### Putting messages together -/

/-- A message changes no setting. -/
@[simp] theorem dataReceived_settings (c : Client) (m : Message) :
    (c.dataReceived m).settings = c.settings := by
  rw [dataReceived]
  split <;> [split; skip; skip] <;> rfl

theorem readHeader_settings {c c' : Client} (h : c.readHeader = .ok c' ∨ c.readHeader = .error c') :
    c'.settings = c.settings := by
  rw [readHeader] at h
  split at h <;> rcases h with h | h <;> cases h <;> rfl

theorem readData_settings (c : Client) : c.readData.1.settings = c.settings := by
  rw [readData]
  split
  · exact dataReceived_settings _ _
  · rfl

/-- What the server sends has no influence on the settings of the client. -/
theorem onSocketData_settings (c : Client) : c.onSocketData.1.settings = c.settings := by
  rw [onSocketData]
  split
  · rfl
  · split
    · split
      next c' hc => exact (readData_settings c').trans (readHeader_settings (.inl hc))
      next c' hc => exact readHeader_settings (.inr hc)
    · exact readData_settings c

/-- The same for bytes that come in. -/
theorem receive_settings (c : Client) (bytes : List UInt8) :
    (c.receive bytes).1.settings = c.settings :=
  onSocketData_settings { c with available := c.available ++ bytes }

/-- A message resets the flag of its kind, if the accelerometer's data are complete. -/
theorem dataReceived_busy (c : Client) {m : Message}
    (hm : lockOf m.first m.second = some .motor → 3 * 2 + 3 * 8 ≤ m.data.length) (lock : Lock) :
    (c.dataReceived m).busy lock =
      if lockOf m.first m.second = some lock then false else c.busy lock := by
  rw [dataReceived]
  split
  next hlock =>
    rw [if_neg (not_lt.2 (hm hlock)), hlock]
    cases lock <;> rfl
  next other _ hlock =>
    rw [hlock]
    cases other <;> cases lock <;> rfl
  next hlock => rw [hlock, if_neg (nomatch ·)]

/-- What has come in, and the bytes behind it, are the rest of `pending`: of a message that has been
begun the header is read. -/
def Expects (c : Client) (bytes : List UInt8) (pending : List Message) : Prop :=
  c.packetSize = 0 ∧ bytes = pending.flatMap Message.encode ∨
    ∃ m ms, pending = m :: ms ∧ c.firstByte = m.first ∧ c.secondByte = m.second ∧
      c.packetSize = m.data.length ∧ bytes = m.data ++ ms.flatMap Message.encode

/-- More messages are sent. -/
theorem Expects.append {c : Client} {bytes : List UInt8} {pending : List Message}
    (h : c.Expects bytes pending) (ms : List Message) :
    c.Expects (bytes ++ ms.flatMap Message.encode) (pending ++ ms) := by
  rcases h with ⟨hsize, rfl⟩ | ⟨m, rest, rfl, hfirst, hsecond, hsize, rfl⟩
  · exact .inl ⟨hsize, List.flatMap_append.symm⟩
  · refine .inr ⟨m, rest ++ ms, rfl, hfirst, hsecond, hsize, ?_⟩
    rw [List.flatMap_append, List.append_assoc]

/-- Handing out a message resets a flag, and no more. -/
theorem Expects.dataReceived {c : Client} {more : List UInt8} {pending : List Message}
    (h : c.Expects (c.available ++ more) pending) (m : Message) :
    (c.dataReceived m).Expects ((c.dataReceived m).available ++ more) pending := by
  rw [Client.dataReceived]
  split
  · split
    · exact h
    · exact h
  · exact h
  · exact h

/-- The client hands out the next of the messages `pending`, or none yet; `more` has not come in. -/
def HandsOut (c : Client) (more : List UInt8) (pending : List Message)
    (r : Client × Option Message) : Prop :=
  ∃ (c' : Client) (rest : List Message), pending = r.2.toList ++ rest ∧
    r.1 = r.2.elim c' c'.dataReceived ∧ c'.busy = c.busy ∧ c'.Expects (c'.available ++ more) rest

/-- **The rest of a message**: it is handed out as soon as it is there, and as it was sent. -/
theorem readData_handsOut {c : Client} {m : Message} {ms : List Message} {more : List UInt8}
    (hm : m.Sendable) (hfirst : c.firstByte = m.first) (hsecond : c.secondByte = m.second)
    (hsize : c.packetSize = m.data.length)
    (hbytes : c.available ++ more = m.data ++ ms.flatMap Message.encode) :
    c.HandsOut more (m :: ms) c.readData := by
  have hpos : 0 < c.packetSize := by
    rw [hsize]
    exact_mod_cast hm.1
  by_cases hall : c.packetSize ≤ c.available.length
  · have hle : m.data.length ≤ c.available.length := by
      rw [hsize] at hall
      exact_mod_cast hall
    have hnat : c.packetSize.toNat = m.data.length := by
      rw [hsize, Int.toNat_natCast]
    -- the data are the first bytes of what has come in
    have htake : c.available.take m.data.length = m.data := by
      have happend := congrArg (List.take m.data.length) hbytes
      rwa [List.take_append_of_le_length hle, List.take_left] at happend
    have hdrop : c.available.drop m.data.length ++ more = ms.flatMap Message.encode := by
      rw [← List.drop_append_of_le_length hle, hbytes, List.drop_left]
    simp only [readData, hpos, hall, and_self, if_true, hnat, htake, hfirst, hsecond]
    exact ⟨_, ms, rfl, rfl, rfl, .inl ⟨rfl, hdrop⟩⟩
  · rw [readData, if_neg fun h ↦ hall h.2]
    exact ⟨c, m :: ms, rfl, rfl, rfl, .inr ⟨m, ms, rfl, hfirst, hsecond, hsize, hbytes⟩⟩

/-- A header is read whole if six bytes are there. -/
theorem readHeader_expects {c : Client} {pending : List Message} {more : List UInt8}
    (hpending : ∀ m ∈ pending, m.Sendable) (hlen : 6 ≤ c.available.length)
    (hbytes : c.available ++ more = pending.flatMap Message.encode) :
    ∃ m ms rest, pending = m :: ms ∧ rest ++ more = m.data ++ ms.flatMap Message.encode ∧
      c.readHeader = .ok { c with
        firstByte := m.first
        secondByte := m.second
        packetSize := m.data.length
        available := rest } := by
  cases pending with
  | nil =>
    rw [List.flatMap_nil, List.append_eq_nil_iff] at hbytes
    rw [hbytes.1] at hlen
    exact absurd hlen (by decide)
  | cons m ms =>
    -- six bytes are there, and they are the first ones of the next message
    obtain ⟨first, second, b0, b1, b2, b3, rest, havail⟩ : ∃ first second b0 b1 b2 b3 rest,
        c.available = first :: second :: b0 :: b1 :: b2 :: b3 :: rest := by
      match h : c.available with
      | first :: second :: b0 :: b1 :: b2 :: b3 :: rest => exact ⟨_, _, _, _, _, _, _, rfl⟩
      | [] | [_] | [_, _] | [_, _, _] | [_, _, _, _] | [_, _, _, _, _] => simp [h] at hlen
    have hsize := (hpending m List.mem_cons_self).size
    rw [havail, List.flatMap_cons] at hbytes
    simp only [Message.encode, sendMessage, intBytes, List.cons_append, List.nil_append,
      List.cons.injEq] at hbytes
    obtain ⟨rfl, rfl, rfl, rfl, rfl, rfl, hrest⟩ := hbytes
    refine ⟨m, ms, rest, rfl, hrest, ?_⟩
    rw [readHeader, havail]
    simp only [intOfBytes_intBytes, hsize]

/-- **A delivery** of bytes that do not tear a header apart. -/
theorem receive_handsOut {c : Client} {bytes more : List UInt8} {pending : List Message}
    (hpending : ∀ m ∈ pending, m.Sendable)
    (hwhole : c.packetSize = 0 → c.available.length + bytes.length = 0 ∨
      6 ≤ c.available.length + bytes.length)
    (h : c.Expects (c.available ++ (bytes ++ more)) pending) :
    c.HandsOut more pending (c.receive bytes) := by
  rw [← List.append_assoc] at h
  rw [← List.length_append] at hwhole
  rw [receive, onSocketData]
  by_cases hnone : (c.available ++ bytes).length = 0
  · rw [if_pos hnone]
    exact ⟨_, pending, rfl, rfl, rfl, h⟩
  · rw [if_neg hnone]
    rcases h with ⟨hsize, hbytes⟩ | ⟨m, ms, rfl, hfirst, hsecond, hsize, hbytes⟩
    · -- a header comes next, and it is there
      have hlen := (hwhole hsize).resolve_left hnone
      obtain ⟨m, ms, rest, rfl, hrest, hheader⟩ :=
        readHeader_expects (c := { c with available := c.available ++ bytes }) hpending hlen hbytes
      rw [if_pos hsize, hheader]
      obtain ⟨c', hout⟩ := readData_handsOut (c := { c with
        firstByte := m.first
        secondByte := m.second
        packetSize := m.data.length
        available := rest }) (hpending m List.mem_cons_self) rfl rfl rfl hrest
      exact ⟨c', hout⟩
    · have hm : m.Sendable := hpending m List.mem_cons_self
      have hpos : ¬ c.packetSize = 0 := by
        rw [hsize]
        exact_mod_cast hm.1.ne'
      rw [if_neg hpos]
      obtain ⟨c', hout⟩ :=
        readData_handsOut (c := { c with available := c.available ++ bytes }) hm hfirst hsecond
          hsize hbytes
      exact ⟨c', hout⟩

end Client

end Freenect.Actionscript
