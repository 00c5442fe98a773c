import Freenect.Actionscript.Client
import Freenect.Library.Runs
import Mathlib.Data.List.Count

/-!
# A session

Client and server with the two streams of bytes between them. The network hands bytes over in any
pieces and at any time, the server reads in between, and the client goes on asking and setting.

`History` notes what has been said, and the two ends of it are compared. `commands_in_order`: what
the server executes is what the client sent, in order and up to some point, however the bytes are
cut; the settings of both are made of the commands each knows of; the messages answer the executed
requests with the settings made before each. `messages_in_order`: if no header of a message is torn
apart, the client hands out the messages in order and whole, and has at most one request of a kind
out. `connected_iff` says when the server drops a client that does nothing wrong.

The two directions are two invariants. `Obeyed` is about commands and holds in every run; `Answered`
is about messages, needs that no header is torn apart, and uses `Obeyed` to know what a message is
an answer to. Both say that one list is the beginning of another and what the rest of it is: in the
buffer of the reader, or in the stream as bytes. So a step of either party moves the boundary
between what has been read and what has not, and the bytes follow.

For the connection the server is taken to be prompt, that is, it reads whatever is there when there
is something. Then the first read gets at most what it asks for, 80 bytes, and every later read asks
for as much as the one before has got; so a client is dropped exactly when it is the first read that
finds more, since only then is a command cut in two.
-/

namespace Freenect.Actionscript

/-! ### The system -/

/-- A command that was executed, with what the sensors said and whether messages could be sent. -/
structure Execution where
  command : Command
  sensors : Sensors
  sent : Bool

/-- What has been said: commands by the client, and by the server, and messages. -/
structure History where
  sent : List Command
  executed : List Execution
  messages : List Message
  received : List Message

/-- Both parties, and the bytes under way. -/
structure Session where
  client : Client
  server : Server
  toServer : List UInt8
  toClient : List UInt8
  history : History

/-- The first connection of a server. -/
def Session.init : Session where
  client := .init
  server := .init
  toServer := []
  toClient := []
  history := ⟨[], [], [], []⟩

/-- What can happen. -/
inductive Action
  | request (r : Request)
  | set (setter : Setter)
  /-- The server reads `n` bytes. -/
  | read (n : ℕ)
  /-- The server executes a command. -/
  | exec (sensors : Sensors) (sent : Bool)
  /-- The client gets `n` bytes. -/
  | deliver (n : ℕ)

namespace Session

variable (jpeg : Jpeg)

/-- `sendCommand`. -/
def sendCommand (s : Session) (c : Command) : Session :=
  { s with
    toServer := s.toServer ++ c.encode
    history := { s.history with sent := s.history.sent ++ [c] } }

/-- A request, unless the answer to one of its kind is awaited. -/
def request (s : Session) (r : Request) : Session :=
  if s.client.busy r.lock = true then s
  else
    { s with client := { s.client with
        busy := Function.update s.client.busy r.lock true } }.sendCommand r.command

/-- A setter. -/
def set (s : Session) (setter : Setter) : Session :=
  { s with client := { s.client with
      settings := setter.store s.client.settings } }.sendCommand setter.command

/-- The server reads at most what it asks for, and at most what is there. -/
def read (s : Session) (n : ℕ) : Session :=
  if s.server.Reads ∧ n ≤ s.server.len ∧ n ≤ s.toServer.length then
    { s with
      server := s.server.read (s.toServer.take n)
      toServer := s.toServer.drop n }
  else s

/-- The server executes a command. -/
def exec (s : Session) (sensors : Sensors) (sent : Bool) : Session :=
  match s.server.batch with
  | [] => s
  | c :: _ =>
    let (server, message) := s.server.exec jpeg sensors sent
    { s with
      server := server
      toClient := s.toClient ++ message.toList.flatMap Message.encode
      history := { s.history with
        executed := s.history.executed ++ [⟨c, sensors, sent⟩]
        messages := s.history.messages ++ message.toList } }

/-- The client gets bytes. -/
def deliver (s : Session) (n : ℕ) : Session :=
  if n ≤ s.toClient.length then
    let (client, message) := s.client.receive (s.toClient.take n)
    { s with
      client := client
      toClient := s.toClient.drop n
      history := { s.history with received := s.history.received ++ message.toList } }
  else s

/-- One step. -/
def step (s : Session) : Action → Session × Unit
  | .request r => (s.request r, ())
  | .set setter => (s.set setter, ())
  | .read n => (s.read n, ())
  | .exec sensors sent => (s.exec jpeg sensors sent, ())
  | .deliver n => (s.deliver n, ())

/-- No header is torn apart: bytes that come in between two messages make up a header. -/
def WholeHeader (s : Session) : Action → Prop
  | .deliver n => n ≤ s.toClient.length → s.client.packetSize = 0 →
      s.client.available.length + n = 0 ∨ 6 ≤ s.client.available.length + n
  | _ => True

instance (s : Session) : (a : Action) → Decidable (s.WholeHeader a)
  | .deliver _ => inferInstanceAs (Decidable (_ → _ → _ ∨ _))
  | .request _ | .set _ | .read _ | .exec _ _ => inferInstanceAs (Decidable True)

/-! ### What the parties mean

The settings of either party are those after the commands it knows of, and an answer is made with
the settings that the execution finds. -/

/-- The settings when commands have been obeyed. -/
def settingsAfter (cs : List Command) : Settings := cs.foldl Settings.apply .initial

/-- One more command. -/
theorem settingsAfter_append (cs : List Command) (c : Command) :
    settingsAfter (cs ++ [c]) = (settingsAfter cs).apply c := by
  rw [settingsAfter, List.foldl_append]
  rfl

/-- The message that an execution sends, with the settings it finds. -/
def answer (s : Settings) (e : Execution) : List Message :=
  if e.sent then (reply jpeg (s.apply e.command) e.sensors e.command).toList else []

/-- The messages that executions send. -/
def answers (s : Settings) : List Execution → List Message
  | [] => []
  | e :: es => answer jpeg s e ++ answers (s.apply e.command) es

/-- One more execution: it finds the settings that the ones before have made. -/
theorem answers_append (s : Settings) (es : List Execution) (e : Execution) :
    answers jpeg s (es ++ [e]) = answers jpeg s es ++
      answer jpeg ((es.map Execution.command).foldl Settings.apply s) e := by
  induction es generalizing s with
  | nil => exact List.append_nil _
  | cons d es ih =>
    rw [List.cons_append, answers, answers, ih, List.append_assoc]
    rfl

/-- One command of the batch. -/
theorem exec_spec {v : Server} {c : Command} {batch : List Command} (hbatch : v.batch = c :: batch)
    (sensors : Sensors) (sent : Bool) :
    (v.exec jpeg sensors sent).1.batch = batch ∧
      (v.exec jpeg sensors sent).1.settings = v.settings.apply c ∧
      (v.exec jpeg sensors sent).1.len = v.len ∧
      ((v.exec jpeg sensors sent).1.connected = true → v.connected = true) ∧
      (sent = true → (v.exec jpeg sensors sent).1.connected = v.connected) ∧
      (v.exec jpeg sensors sent).2.toList = answer jpeg v.settings ⟨c, sensors, sent⟩ := by
  rw [Server.exec, hbatch, answer]
  dsimp only
  cases hreply : reply jpeg (v.settings.apply c) sensors c with
  | none => exact ⟨rfl, rfl, rfl, id, fun _ ↦ rfl, by cases sent <;> rfl⟩
  | some m =>
    cases sent with
    | true => exact ⟨rfl, rfl, rfl, id, fun _ ↦ rfl, rfl⟩
    | false => exact ⟨rfl, rfl, rfl, fun h ↦ (nomatch h), fun h ↦ (nomatch h), rfl⟩

/-! ### From the client to the server

A command that has been sent has been executed, is in the buffer of the server, or is under way. -/

/-- The server has executed a first part of what was sent; the rest stands in its buffer or is
under way. -/
structure Obeyed (s : Session) : Prop where
  sent : ∃ rest, s.history.sent =
      s.history.executed.map Execution.command ++ (s.server.batch ++ rest) ∧
    (s.server.connected = true → s.toServer = rest.flatMap Command.encode)
  server : s.server.settings = settingsAfter (s.history.executed.map Execution.command)
  client : s.client.settings = settingsAfter s.history.sent
  messages : s.history.messages = answers jpeg .initial s.history.executed

/-- Nothing has been sent. -/
theorem Obeyed.init : Obeyed jpeg .init := ⟨⟨[], rfl, fun _ ↦ rfl⟩, rfl, rfl, rfl⟩

variable {jpeg} {s : Session}

/-- A command goes to the end of what is under way. -/
theorem Obeyed.sendCommand (h : s.Obeyed jpeg) {client : Client} {c : Command}
    (hset : client.settings = s.client.settings.apply c) :
    Obeyed jpeg ({ s with client := client }.sendCommand c) := by
  obtain ⟨rest, hsent, hbytes⟩ := h.sent
  refine ⟨⟨rest ++ [c], ?_, fun hcon ↦ ?_⟩, h.server, ?_, h.messages⟩
  · show s.history.sent ++ [c] = _
    rw [hsent, List.append_assoc, List.append_assoc]
    rfl
  · show s.toServer ++ c.encode = _
    rw [hbytes hcon, List.flatMap_append, List.flatMap_singleton]
  · show client.settings = settingsAfter (s.history.sent ++ [c])
    rw [hset, settingsAfter_append, h.client]

/-- A request is a command that changes no setting. -/
theorem Obeyed.request (h : s.Obeyed jpeg) (r : Request) : Obeyed jpeg (s.request r) := by
  rw [Session.request]
  split
  · exact h
  · exact h.sendCommand (Settings.apply_request _ r).symm

/-- A setter is a command that changes the settings of the client at once. -/
theorem Obeyed.set (h : s.Obeyed jpeg) (setter : Setter) : Obeyed jpeg (s.set setter) :=
  h.sendCommand (setter.store_eq_apply _)

/-- A read takes whole commands, or ends the connection. -/
theorem Obeyed.read (h : s.Obeyed jpeg) (n : ℕ) : Obeyed jpeg (s.read n) := by
  rw [Session.read]
  split
  next hread =>
    obtain ⟨⟨hcon, hbatch⟩, -, hn⟩ := hread
    obtain ⟨rest, hsent, hbytes⟩ := h.sent
    have htake : (s.toServer.take n).length = n := List.length_take_of_le hn
    rw [Server.read]
    split
    -- whole commands have been read; anything else ends the connection
    next hwhole =>
      rw [htake] at hwhole
      obtain ⟨k, rfl⟩ := Nat.dvd_of_mod_eq_zero hwhole.2
      rw [hbytes hcon, length_flatMap_encode] at hn
      obtain ⟨hfirst, hrest⟩ := take_flatMap_encode (Nat.le_of_mul_le_mul_left hn (by decide))
      refine ⟨⟨rest.drop k, ?_, fun _ ↦ ?_⟩, h.server, h.client, h.messages⟩
      · show s.history.sent = _ ++ (commandsIn (s.toServer.take (6 * k)) _ ++ rest.drop k)
        have hcommands := commandsIn_flatMap (rest.take k) []
        rw [List.append_nil, ← length_flatMap_encode] at hcommands
        rw [hbytes hcon, hfirst, hcommands, List.take_append_drop, hsent, hbatch]
        rfl
      · show s.toServer.drop (6 * k) = _
        rw [hbytes hcon, hrest]
    · exact ⟨⟨rest, hsent, fun hcon ↦ (nomatch hcon)⟩, h.server, h.client, h.messages⟩
  · exact h

/-- A command leaves the buffer when it is executed. -/
theorem Obeyed.exec (h : s.Obeyed jpeg) (sensors : Sensors) (sent : Bool) :
    Obeyed jpeg (s.exec jpeg sensors sent) := by
  rw [Session.exec]
  split
  · exact h
  next c batch hbatch =>
    obtain ⟨hrest, hsettings, -, hcon, -, hmessage⟩ := exec_spec jpeg hbatch sensors sent
    obtain ⟨rest, hsent, hbytes⟩ := h.sent
    refine ⟨⟨rest, ?_, fun hnow ↦ hbytes (hcon hnow)⟩, ?_, h.client, ?_⟩
    · show s.history.sent = (s.history.executed ++ [_]).map Execution.command ++ (_ ++ rest)
      rw [hrest, hsent, hbatch, List.map_append, List.append_assoc]
      rfl
    · show _ = settingsAfter ((s.history.executed ++ [_]).map Execution.command)
      rw [hsettings, h.server, List.map_append]
      exact (settingsAfter_append _ c).symm
    · show s.history.messages ++ _ = answers jpeg .initial (s.history.executed ++ [_])
      rw [hmessage, answers_append, h.messages, h.server]
      rfl

/-- What the client gets makes no difference here. -/
theorem Obeyed.deliver (h : s.Obeyed jpeg) (n : ℕ) : Obeyed jpeg (s.deliver n) := by
  rw [Session.deliver]
  split
  · exact ⟨h.sent, h.server, (Client.receive_settings _ _).trans h.client, h.messages⟩
  · exact h

/-- **One step**, of whoever it is. -/
theorem Obeyed.step (h : s.Obeyed jpeg) (a : Action) : Obeyed jpeg (s.step jpeg a).1 := by
  cases a with
  | request r => exact h.request r
  | set setter => exact h.set setter
  | read n => exact h.read n
  | exec sensors sent => exact h.exec sensors sent
  | deliver n => exact h.deliver n

/-! ### From the server to the client

A message that has been sent has been handed out, or is under way. For each lock there is at most
one request that has not been answered to the client, and then the lock is held. -/

/-- A command that asks for what `lock` guards. -/
def Asks (lock : Lock) (c : Command) : Bool := Client.lockOf c.first c.second = some lock

/-- A message that resets `lock`. -/
def Resets (lock : Lock) (m : Message) : Bool := Client.lockOf m.first m.second = some lock

/-- A request asks for what its own lock guards. -/
theorem asks_request (lock : Lock) (r : Request) :
    Asks lock r.command = decide (r.lock = lock) := by
  cases r <;> cases lock <;> rfl

/-- A setter asks for nothing. -/
theorem asks_setter (lock : Lock) (setter : Setter) : Asks lock setter.command = false := by
  cases setter <;> rfl

/-- A message that the client can read back and make use of. -/
def Usable (m : Message) : Prop :=
  m.Sendable ∧ (Client.lockOf m.first m.second = some .motor → 3 * 2 + 3 * 8 ≤ m.data.length)

/-- An answer is of use to the client. -/
theorem reply_usable (hjpeg : jpeg.Fits) {settings : Settings} {sensors : Sensors} {c : Command}
    {m : Message} (h : reply jpeg settings sensors c = some m) : Usable m := by
  refine ⟨reply_sendable hjpeg h, fun hlock ↦ ?_⟩
  unfold reply at h
  split at h <;> cases h
  · exact nomatch hlock
  · exact nomatch hlock
  · exact nomatch hlock
  · exact sensors.length_tilt.ge

variable (jpeg) in
/-- An execution sends at most one message, and only if it was asked for. -/
theorem answer_cases (settings : Settings) (e : Execution) :
    answer jpeg settings e = [] ∨
      ∃ m, answer jpeg settings e = [m] ∧ reply jpeg (settings.apply e.command) e.sensors e.command
        = some m := by
  rw [answer]
  split
  · cases hreply : reply jpeg (settings.apply e.command) e.sensors e.command with
    | none => exact .inl rfl
    | some m => exact .inr ⟨m, rfl, rfl⟩
  · exact .inl rfl

/-- All of them are. -/
theorem answers_usable (hjpeg : jpeg.Fits) (settings : Settings) (es : List Execution) :
    ∀ m ∈ answers jpeg settings es, Usable m := by
  induction es generalizing settings with
  | nil => exact fun m hm ↦ (nomatch hm)
  | cons e es ih =>
    intro m hm
    rcases List.mem_append.1 hm with hm | hm
    · rcases answer_cases jpeg settings e with hnone | ⟨m', hone, hreply⟩
      · exact absurd (hnone ▸ hm) List.not_mem_nil
      · obtain rfl := List.mem_singleton.1 (hone ▸ hm)
        exact reply_usable hjpeg hreply
    · exact ih _ m hm

variable (jpeg) in
/-- There are no more answers of a kind than requests. -/
theorem countP_answers_le (lock : Lock) (settings : Settings) (es : List Execution) :
    (answers jpeg settings es).countP (Resets lock) ≤
      (es.map Execution.command).countP (Asks lock) := by
  induction es generalizing settings with
  | nil => exact le_rfl
  | cons e es ih =>
    have hone : (answer jpeg settings e).countP (Resets lock) ≤ [e.command].countP (Asks lock) := by
      rcases answer_cases jpeg settings e with hnone | ⟨m, hone, hreply⟩
      · rw [hnone]
        exact Nat.zero_le _
      · obtain ⟨hfirst, hsecond⟩ := reply_header hreply
        rw [hone, List.countP_singleton, List.countP_singleton, Resets, Asks, hfirst, hsecond]
    rw [answers, List.countP_append, List.map_cons, List.countP_cons, Nat.add_comm]
    rw [List.countP_singleton] at hone
    exact Nat.add_le_add (ih _) hone

/-- What the client has got is a first part of what was sent to it, and the rest has come in or is
under way; what is asked for and not answered is locked. -/
structure Answered (s : Session) : Prop where
  framed : ∃ pending, s.history.messages = s.history.received ++ pending ∧
    s.client.Expects (s.client.available ++ s.toClient) pending
  locks : ∀ lock, s.history.sent.countP (Asks lock) =
    s.history.received.countP (Resets lock) + (s.client.busy lock).toNat

/-- Nothing has been sent. -/
theorem Answered.init : Answered .init :=
  ⟨⟨[], rfl, .inl ⟨rfl, rfl⟩⟩, fun _ ↦ rfl⟩

/-- A request takes its lock, if that is free. -/
theorem Answered.request (h : s.Answered) (r : Request) : Answered (s.request r) := by
  rw [Session.request]
  split
  · exact h
  next hfree =>
    refine ⟨h.framed, fun lock ↦ ?_⟩
    show (s.history.sent ++ [r.command]).countP _ =
      _ + (Function.update s.client.busy r.lock true lock).toNat
    simp only [List.countP_append, h.locks, List.countP_singleton, asks_request, decide_eq_true_eq]
    rcases eq_or_ne r.lock lock with rfl | hne
    · rw [Bool.eq_false_of_not_eq_true hfree, Function.update_self, if_pos rfl]
      rfl
    · rw [Function.update_of_ne hne.symm, if_neg hne]
      rfl

/-- A setter makes no difference here. -/
theorem Answered.set (h : s.Answered) (setter : Setter) : Answered (s.set setter) := by
  refine ⟨h.framed, fun lock ↦ ?_⟩
  show (s.history.sent ++ [setter.command]).countP _ = _
  rw [List.countP_append, List.countP_singleton, asks_setter]
  exact h.locks lock

theorem Answered.read (h : s.Answered) (n : ℕ) : Answered (s.read n) := by
  rw [Session.read]
  split
  · exact ⟨h.framed, h.locks⟩
  · exact h

/-- A message goes to the end of what is under way. -/
theorem Answered.exec (h : s.Answered) (sensors : Sensors) (sent : Bool) :
    Answered (s.exec jpeg sensors sent) := by
  rw [Session.exec]
  split
  · exact h
  · obtain ⟨pending, hmessages, hbytes⟩ := h.framed
    refine ⟨⟨pending ++ (s.server.exec jpeg sensors sent).2.toList, ?_, ?_⟩, h.locks⟩
    · show s.history.messages ++ _ = s.history.received ++ _
      rw [hmessages, List.append_assoc]
    · show s.client.Expects (_ ++ (s.toClient ++ _)) _
      rw [← List.append_assoc]
      exact hbytes.append _

/-- A message that comes in was asked for, so its lock is held. -/
theorem Answered.busy (hobeyed : s.Obeyed jpeg) (h : s.Answered) {m : Message} {rest : List Message}
    (hmessages : s.history.messages = s.history.received ++ m :: rest) {lock : Lock}
    (hm : Resets lock m = true) : s.client.busy lock = true := by
  by_contra hfree
  have hlocks := h.locks lock
  obtain ⟨waiting, hsent, -⟩ := hobeyed.sent
  have hanswers := countP_answers_le jpeg lock .initial s.history.executed
  rw [← hobeyed.messages, hmessages, List.countP_append, List.countP_cons, if_pos hm] at hanswers
  rw [Bool.eq_false_of_not_eq_true hfree, hsent, List.countP_append] at hlocks
  simp only [Bool.toNat_false] at hlocks
  omega

/-- A message that is handed out gives its lock back. -/
theorem Answered.locks_received (hobeyed : s.Obeyed jpeg) (h : s.Answered) {m : Message}
    {rest : List Message} (hmessages : s.history.messages = s.history.received ++ m :: rest)
    (hm : Usable m) {c : Client} (hbusy : c.busy = s.client.busy) (lock : Lock) :
    s.history.sent.countP (Asks lock) =
      (s.history.received ++ [m]).countP (Resets lock) + ((c.dataReceived m).busy lock).toNat := by
  have hlocks := h.locks lock
  rw [Client.dataReceived_busy _ hm.2, List.countP_append, List.countP_singleton, hbusy]
  by_cases hlock : Client.lockOf m.first m.second = some lock
  · have hresets : Resets lock m = true := decide_eq_true hlock
    rw [h.busy hobeyed hmessages hresets] at hlocks
    rw [if_pos hresets, if_pos hlock]
    exact hlocks
  · have hkeeps : ¬ Resets lock m = true := fun h ↦ hlock (of_decide_eq_true h)
    rw [if_neg hkeeps, if_neg hlock]
    exact hlocks

/-- **A delivery** hands out the next message, or none yet. -/
theorem Answered.deliver (hjpeg : jpeg.Fits) (hobeyed : s.Obeyed jpeg) (h : s.Answered) {n : ℕ}
    (hwhole : s.WholeHeader (.deliver n)) : Answered (s.deliver n) := by
  rw [Session.deliver]
  split
  next hn =>
    obtain ⟨pending, hmessages, hbytes⟩ := h.framed
    have husable : ∀ m ∈ pending, Usable m := by
      intro m hm
      refine answers_usable hjpeg .initial s.history.executed m ?_
      rw [← hobeyed.messages, hmessages]
      exact List.mem_append_right _ hm
    rw [← List.take_append_drop n s.toClient] at hbytes
    have htake : (s.toClient.take n).length = n := List.length_take_of_le hn
    have hout := Client.receive_handsOut (fun m hm ↦ (husable m hm).1)
      (by rw [htake]; exact hwhole hn) hbytes
    generalize s.client.receive (s.toClient.take n) = received at hout ⊢
    obtain ⟨client, message⟩ := received
    obtain ⟨c', rest, rfl, hclient, hbusy, hrest⟩ := hout
    obtain rfl : client = message.elim c' c'.dataReceived := hclient
    -- without a message nothing is given back; with one it is its lock
    cases message with
    | none =>
      refine ⟨⟨rest, ?_, hrest⟩, fun lock ↦ ?_⟩
      · show s.history.messages = s.history.received ++ [] ++ rest
        rw [List.append_nil, hmessages]
        rfl
      · show _ = (s.history.received ++ []).countP _ + (c'.busy lock).toNat
        rw [List.append_nil, hbusy]
        exact h.locks lock
    | some m =>
      have hm : Usable m := husable m (List.mem_append_left _ (List.mem_singleton_self m))
      refine ⟨⟨rest, ?_, hrest.dataReceived m⟩, h.locks_received hobeyed hmessages hm hbusy⟩
      show s.history.messages = s.history.received ++ [m] ++ rest
      rw [hmessages, List.append_assoc]
      rfl
  · exact h

/-- **One step**, of whoever it is. -/
theorem Answered.step (hjpeg : jpeg.Fits) (hobeyed : s.Obeyed jpeg) (h : s.Answered) {a : Action}
    (hwhole : s.WholeHeader a) : Answered (s.step jpeg a).1 := by
  cases a with
  | request r => exact h.request r
  | set setter => exact h.set setter
  | read n => exact h.read n
  | exec sensors sent => exact h.exec sensors sent
  | deliver n => exact h.deliver hjpeg hobeyed hwhole

/-! ### Both directions -/

/-- **The server obeys in order.** Whatever pieces the bytes come in, the server executes the
commands that were sent, in their order and as far as it has got; its settings, and those of the
client, are what the executed and the sent commands make of the initial ones; and its messages are
the answers to the executed requests, each with the settings of its place. -/
theorem commands_in_order (jpeg : Jpeg) (actions : List Action) :
    let s := Mealy.run (step jpeg) init actions
    s.history.executed.map Execution.command <+: s.history.sent ∧
      s.server.settings = settingsAfter (s.history.executed.map Execution.command) ∧
      s.client.settings = settingsAfter s.history.sent ∧
      s.history.messages = answers jpeg .initial s.history.executed := by
  have h : Obeyed jpeg (Mealy.run (step jpeg) init actions) :=
    Mealy.run_invariant (fun _ a h ↦ h.step a) (Obeyed.init jpeg) actions
  obtain ⟨rest, hsent, -⟩ := h.sent
  exact ⟨⟨_, hsent.symm⟩, h.server, h.client, h.messages⟩

/-- **The client gets the answers in order.** If no header is torn apart, the client hands out the
messages of the server in their order and whole, and of each kind exactly the requests that are
locked are still to be answered, so there is at most one. -/
theorem messages_in_order {jpeg : Jpeg} (hjpeg : jpeg.Fits) {actions : List Action}
    (h : Mealy.Along (step jpeg) WholeHeader init actions) :
    let s := Mealy.run (step jpeg) init actions
    s.history.received <+: s.history.messages ∧
      ∀ lock, s.history.sent.countP (Asks lock) =
        s.history.received.countP (Resets lock) + (s.client.busy lock).toNat := by
  have hboth : Obeyed jpeg (Mealy.run (step jpeg) init actions) ∧
      Answered (Mealy.run (step jpeg) init actions) :=
    Mealy.Along.run_invariant (I := fun s ↦ Obeyed jpeg s ∧ Answered s)
      (fun _ a hs hwhole ↦ ⟨hs.1.step a, hs.2.step hjpeg hs.1 hwhole⟩)
      ⟨Obeyed.init jpeg, Answered.init⟩ h
  obtain ⟨pending, hmessages, -⟩ := hboth.2.framed
  exact ⟨⟨pending, hmessages.symm⟩, hboth.2.locks⟩

/-- A motor at rest in front of a dark wall. -/
def stillSensors : Sensors := ⟨fun _ ↦ 0, fun _ ↦ 0, List.replicate 30 0, rfl⟩

/-- A client asks for the accelerometer twice, the second time too early and so in vain, and
switches the compression off. It gets the answer in three pieces, of which the first ends behind the
header. Then it asks once more, and for the raw depth, and gets the first of the two answers whole
while the server has not come to the second. -/
def twoAnswers : List Action :=
  [.request .accel, .request .accel, .set (.videoCompression 0), .read 12, .exec stillSensors true,
    .exec stillSensors true, .deliver 6, .deliver 20, .deliver 10, .request .accel,
    .request .rawDepth, .read 12, .exec stillSensors true, .deliver 36]

/-- No picture is compressed in this run. -/
theorem messages_in_order_twoAnswers :
    let s := Mealy.run (step fun _ _ ↦ [0xFF, 0xD8, 0xFF, 0xD9]) init twoAnswers
    s.history.received <+: s.history.messages ∧
      ∀ lock, s.history.sent.countP (Asks lock) =
        s.history.received.countP (Resets lock) + (s.client.busy lock).toNat :=
  messages_in_order (fun _ _ ↦ by decide) (by decide)

/-! ### The connection -/

/-- A server that reads what is there, once something is there, and can send. -/
def Prompt (s : Session) : Action → Prop
  | .read n => n = min s.server.len s.toServer.length ∧ 0 < n
  | .exec _ sent => sent = true
  | _ => True

/-- The first read finds no more bytes than it asks for; later ones ask for what the one before has
got. -/
def FirstReadFits (s : Session) : Action → Prop
  | .read _ => s.server.len = 8 * 10 → s.toServer.length ≤ 8 * 10
  | _ => True

instance (s : Session) : (a : Action) → Decidable (s.Prompt a)
  | .read _ => inferInstanceAs (Decidable (_ ∧ _))
  | .exec _ _ => inferInstanceAs (Decidable (_ = true))
  | .request _ | .set _ | .deliver _ => inferInstanceAs (Decidable True)

instance (s : Session) : (a : Action) → Decidable (s.FirstReadFits a)
  | .read _ => inferInstanceAs (Decidable (_ → _))
  | .exec _ _ | .request _ | .set _ | .deliver _ => inferInstanceAs (Decidable True)

/-- A server that has kept its client: what is under way are commands, and behind the first read
whole commands are asked for. -/
structure Kept (s : Session) : Prop where
  connected : s.server.connected = true
  toServer : ∃ rest : List Command, s.toServer = rest.flatMap Command.encode
  len : s.server.len = 8 * 10 ∧ s.server.batch = [] ∨ s.server.len % 6 = 0

/-- A command goes to the end of what is under way. -/
theorem Kept.sendCommand (h : s.Kept) (client : Client) (c : Command) :
    Kept ({ s with client := client }.sendCommand c) := by
  obtain ⟨rest, hrest⟩ := h.toServer
  refine ⟨h.connected, ⟨rest ++ [c], ?_⟩, h.len⟩
  show s.toServer ++ c.encode = _
  rw [hrest, List.flatMap_append, List.flatMap_singleton]

/-- A prompt read keeps the client exactly if what it gets are whole commands. -/
theorem Kept.read (h : s.Kept) {n : ℕ} (hprompt : s.Prompt (.read n)) :
    (s.FirstReadFits (.read n) → Kept (s.read n)) ∧
      (¬ s.FirstReadFits (.read n) → ¬ (s.read n).server.connected = true) := by
  obtain ⟨hn, hpos⟩ := hprompt
  obtain ⟨rest, hrest⟩ := h.toServer
  have hlen : s.toServer.length = 6 * rest.length := by rw [hrest, length_flatMap_encode]
  by_cases hbatch : s.server.batch = []
  · have hread : s.server.Reads ∧ n ≤ s.server.len ∧ n ≤ s.toServer.length :=
      ⟨⟨h.connected, hbatch⟩, hn ▸ min_le_left _ _, hn ▸ min_le_right _ _⟩
    have htake : (s.toServer.take n).length = n := List.length_take_of_le hread.2.2
    -- a later read asks for whole commands, and gets whole commands since they are all that is
    -- there
    have hfits : s.FirstReadFits (.read n) ↔ n % 6 = 0 := by
      have hcases := h.len
      show (_ → _) ↔ _
      omega
    rw [hfits, Session.read, if_pos hread, Server.read, htake]
    constructor
    · intro hwhole
      obtain ⟨k, rfl⟩ := Nat.dvd_of_mod_eq_zero hwhole
      have hk : k ≤ rest.length := Nat.le_of_mul_le_mul_left (hlen ▸ hread.2.2) (by decide)
      rw [if_pos ⟨hpos, hwhole⟩]
      refine ⟨h.connected, ⟨rest.drop k, ?_⟩, .inr hwhole⟩
      show s.toServer.drop (6 * k) = _
      rw [hrest, (take_flatMap_encode hk).2]
    · intro hpart
      rw [if_neg fun hwhole ↦ hpart hwhole.2]
      exact Bool.false_ne_true
  · -- in the middle of a batch nothing is read
    have hlen' : s.server.len % 6 = 0 := h.len.resolve_left fun hfirst ↦ hbatch hfirst.2
    have hskip : s.read n = s := if_neg fun hread ↦ hbatch hread.1.2
    rw [hskip]
    refine ⟨fun _ ↦ h, fun hfits ↦ absurd (fun hfirst ↦ ?_) hfits⟩
    rw [hfirst] at hlen'
    exact absurd hlen' (by decide)

/-- Executing a command does not touch the connection, if a message can be sent. -/
theorem Kept.exec (h : s.Kept) (sensors : Sensors) : Kept (s.exec jpeg sensors true) := by
  rw [Session.exec]
  split
  · exact h
  next c batch hbatch =>
    obtain ⟨-, -, hlen, -, hcon, -⟩ := exec_spec jpeg hbatch sensors true
    refine ⟨(hcon rfl).trans h.connected, h.toServer, .inr ?_⟩
    show (s.server.exec jpeg sensors true).1.len % 6 = 0
    rw [hlen]
    exact h.len.resolve_left fun hfirst ↦ List.cons_ne_nil _ _ (hbatch.symm.trans hfirst.2)

/-- **One step** of a prompt server keeps the client exactly if the first read fits. -/
theorem Kept.step (h : s.Kept) {a : Action} (hprompt : s.Prompt a) :
    (s.FirstReadFits a → Kept (s.step jpeg a).1) ∧
      (¬ s.FirstReadFits a → ¬ (s.step jpeg a).1.server.connected = true) := by
  cases a with
  | request r =>
    refine ⟨fun _ ↦ ?_, fun hfits ↦ absurd trivial hfits⟩
    show Kept (s.request r)
    rw [Session.request]
    split
    · exact h
    · exact h.sendCommand _ _
  | set setter => exact ⟨fun _ ↦ h.sendCommand _ _, fun hfits ↦ absurd trivial hfits⟩
  | read n => exact h.read hprompt
  | exec sensors sent =>
    obtain rfl : sent = true := hprompt
    exact ⟨fun _ ↦ h.exec sensors, fun hfits ↦ absurd trivial hfits⟩
  | deliver n =>
    refine ⟨fun _ ↦ ?_, fun hfits ↦ absurd trivial hfits⟩
    show Kept (s.deliver n)
    rw [Session.deliver]
    split
    · exact ⟨h.connected, h.toServer, h.len⟩
    · exact h

/-- The server does not take a client back. -/
theorem step_disconnected (s : Session) (a : Action) (h : ¬ s.server.connected = true) :
    ¬ (s.step jpeg a).1.server.connected = true := by
  cases a with
  | request r =>
    show ¬ (s.request r).server.connected = true
    rw [Session.request]
    split
    · exact h
    · exact h
  | set setter => exact h
  | read n =>
    show ¬ (s.read n).server.connected = true
    rwa [Session.read, if_neg fun hread ↦ h hread.1.1]
  | exec sensors sent =>
    show ¬ (s.exec jpeg sensors sent).server.connected = true
    rw [Session.exec]
    split
    · exact h
    next c batch hbatch => exact fun hcon ↦ h ((exec_spec jpeg hbatch sensors sent).2.2.2.1 hcon)
  | deliver n =>
    show ¬ (s.deliver n).server.connected = true
    rw [Session.deliver]
    split
    · exact h
    · exact h

/-- **When the server drops its client.** The buffer of 80 bytes does not hold whole commands, but a
read asks for as much as the one before has got: a client is dropped exactly if 14 commands or more
are waiting when the server reads for the first time. -/
theorem connected_iff (jpeg : Jpeg) {actions : List Action}
    (h : Mealy.Along (step jpeg) Prompt init actions) :
    (Mealy.run (step jpeg) init actions).server.connected = true ↔
      Mealy.Along (step jpeg) FirstReadFits init actions :=
  Mealy.alive_iff_along (I := Kept) (fun _ hs ↦ hs.connected) step_disconnected
    (fun _ _ hs hprompt ↦ (hs.step hprompt).1) (fun _ _ hs hprompt ↦ (hs.step hprompt).2)
    ⟨rfl, ⟨[], rfl⟩, .inl ⟨rfl, rfl⟩⟩ h

/-- Fourteen commands at once. -/
def hurriedClient : List Action :=
  List.replicate 14 (.set (.ledColor 1)) ++ [.read 80]

/-- The first read gets 80 bytes of the 84. -/
theorem connected_iff_hurriedClient :
    (Mealy.run (step fun _ _ ↦ []) init hurriedClient).server.connected = false := by
  refine Bool.eq_false_of_not_eq_true fun hcon ↦ ?_
  have hhurried : Mealy.Along (step fun _ _ ↦ []) Prompt init hurriedClient := by decide
  have hfits := (connected_iff (fun _ _ ↦ []) hhurried).1 hcon
  exact absurd hfits (by decide)

end Session

end Freenect.Actionscript
