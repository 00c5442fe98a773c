import Freenect.Control.Command
import Freenect.Library.Runs

/-!
# Commands and their replies

`send_cmd` against a camera that answers every command it receives once, in order, with the command
and the tag of the request. A reply stays in the camera until an input transfer fetches it, so an
exchange whose input transfer fails leaves its reply behind for a later call.

The tag is meant to tell such a late reply from the right one. But `dev->cam_tag` is advanced only
where `send_cmd` succeeds, so as long as no reply has been accepted since, the next call has the
same tag as the reply left behind (`CommandLink.Backlog`), and the command alone tells the two
apart. `replies_matched_iff` states what follows over whole runs.

`Backlog` is the invariant of a run in which all went well: the replies that wait in the camera
answer earlier calls and carry the tag that the host still has. A call then fetches the oldest of
them or its own, and the command decides whether it is accepted (`Backlog.step`). A call accepts its
own reply only if no older one is in front of it, so when the tag moves on nothing is left with the
old one.
-/

namespace Freenect

/-- A word that is written is read back. -/
theorem le16_le16Bytes (w : UInt16) :
    le16 (UInt8.ofNat (w.toNat % 2 ^ 8)) (UInt8.ofNat (w.toNat / 2 ^ 8)) = w := by
  have hw : w.toNat < 2 ^ 16 := w.toNat_lt
  rw [← UInt16.toNat_inj, le16, UInt16.toNat_ofNat', UInt8.toNat_ofNat', UInt8.toNat_ofNat']
  omega

/-! ### The camera

The camera is a queue of replies. What a call meets is in its own data: whether its command arrives,
how often it polls in vain, and whether the input transfer works. -/

/-- A reply that waits in the camera, with the number of the call it answers. It fits the buffer of
an input transfer with room to spare: a full buffer would be polled past. -/
structure Reply where
  call : ℕ
  cmd : UInt16
  tag : UInt16
  payload : List UInt8
  payload_lt : payload.length + camHdrSize < 0x200

namespace Reply

/-- A reply as it is read from the camera. -/
def bytes (r : Reply) : List UInt8 :=
  [0x52, 0x42] ++ le16Bytes (UInt16.ofNat (r.payload.length / 2)) ++ le16Bytes r.cmd ++
    le16Bytes r.tag ++ r.payload

/-- The input transfer that fetches a reply. -/
def controlIn (r : Reply) : ControlIn where
  actualLen := r.bytes.length
  ibuf i := r.bytes.getD i 0

variable {r : Reply} {cmd tag : UInt16} {n : ℕ}

/-- A reply is a header and its payload. -/
theorem length_bytes (r : Reply) : r.bytes.length = camHdrSize + r.payload.length := by
  simp [bytes, le16Bytes, camHdrSize]
  omega

/-- So many bytes are read. -/
theorem actualLen_controlIn (r : Reply) :
    r.controlIn.actualLen = camHdrSize + (r.payload.length : ℤ) := by
  show (r.bytes.length : ℤ) = _
  rw [r.length_bytes]
  exact Int.natCast_add _ _

/-- An input that is neither empty nor full ends the loop. -/
theorem poll_singleton {p : ControlIn} (hp : p.actualLen ≠ 0) (hp' : p.actualLen ≠ 0x200) :
    poll [p] = some p :=
  if_neg (not_or.2 ⟨hp, hp'⟩)

/-- A reply is fetched by the first request for input. -/
theorem poll_controlIn (r : Reply) : poll [r.controlIn] = some r.controlIn := by
  have hlt := r.payload_lt
  have hactual := r.actualLen_controlIn
  rw [camHdrSize] at hlt hactual
  exact poll_singleton (by omega) (by omega)

/-- **A reply passes the checks exactly of the calls with its command and its tag.** -/
theorem isReply_controlIn_iff :
    IsReply cmd tag n r.controlIn ↔ n = r.payload.length ∧ r.cmd = cmd ∧ r.tag = tag := by
  have hlt := r.payload_lt
  have hlen : r.controlIn.len = UInt16.ofNat (r.payload.length / 2) := le16_le16Bytes _
  have hcmd : r.controlIn.cmd = r.cmd := le16_le16Bytes _
  have htag : r.controlIn.tag = r.tag := le16_le16Bytes _
  have hactual := r.actualLen_controlIn
  constructor
  · intro h
    have := h.actualLen
    exact ⟨by omega, hcmd.symm.trans h.cmd, htag.symm.trans h.tag⟩
  · rintro ⟨rfl, rfl, rfl⟩
    refine ⟨hactual, rfl, hcmd, htag, ?_⟩
    rw [hlen, UInt16.toNat_ofNat']
    omega

end Reply

/-- A call of `send_cmd` and what happens during it. -/
structure Call where
  cmd : UInt16
  cmdbuf : List UInt8
  replybuf : ℕ → UInt8
  replyLen : ℕ
  /-- What the output transfer returns. -/
  res : ℤ
  /-- Whether the camera gets the command although the output transfer fails. -/
  received : Bool
  /-- The payload of the camera's answer. -/
  answer : List UInt8
  /-- How often the endpoint is polled before anything comes. -/
  waits : ℕ
  /-- A failing input transfer; without one, the oldest reply is fetched. -/
  failure : Option ControlIn
  answer_lt : answer.length + camHdrSize < 0x200
  failure_short : ∀ p, failure = some p → p.actualLen < camHdrSize ∧ p.actualLen ≠ 0

namespace Call

variable (c : Call)

/-- Whether the camera receives the command. -/
def Reaches : Prop := ¬ InvalidLength c.cmdbuf ∧ (0 ≤ c.res ∨ c.received = true)

/-- Whether the call comes to poll for a reply. -/
def Polls : Prop := ¬ InvalidLength c.cmdbuf ∧ 0 ≤ c.res

instance : Decidable c.Reaches := inferInstanceAs (Decidable (_ ∧ _))

instance : Decidable c.Polls := inferInstanceAs (Decidable (_ ∧ _))

/-- The inputs of a call: a number of empty ones, then `p`. -/
def polls (p : ControlIn) : List ControlIn :=
  List.replicate c.waits { actualLen := 0, ibuf := fun _ ↦ 0 } ++ [p]

/-- What the last input transfer of the call reads, and what it leaves in the camera. -/
def fetch (queue : List Reply) : ControlIn × List Reply × Option Reply :=
  match c.failure, queue with
  | some p, queue => (p, queue, none)
  | none, reply :: queue => (reply.controlIn, queue, some reply)
  | none, [] => ({ actualLen := -1, ibuf := fun _ ↦ 0 }, [], none)

end Call

/-- The host's tag, the replies that wait in the camera, oldest first, and the number of calls made
so far. -/
structure CommandLink where
  camTag : UInt16
  queue : List Reply
  calls : ℕ

namespace CommandLink

/-- A device that has just been opened. -/
def fresh (tag : UInt16) : CommandLink where
  camTag := tag
  queue := []
  calls := 0

/-- The camera's reply to a call. -/
def ownReply (l : CommandLink) (c : Call) : Reply where
  call := l.calls
  cmd := c.cmd
  tag := l.camTag
  payload := c.answer
  payload_lt := c.answer_lt

/-- The replies in the camera once it has received the command. -/
def answered (l : CommandLink) (c : Call) : List Reply :=
  if c.Reaches then l.queue ++ [l.ownReply c] else l.queue

/-- One call. The output is the reply it accepts, with the call's own number. -/
def step (l : CommandLink) (c : Call) : CommandLink × Option (ℕ × Reply) :=
  let queue := l.answered c
  let (p, rest, reply) :=
    if c.Polls then c.fetch queue else ({ actualLen := -1, ibuf := fun _ ↦ 0 }, queue, none)
  match sendCmd l.camTag c.cmd c.cmdbuf c.replybuf c.replyLen c.res (c.polls p) with
  | none => ({ l with queue := rest, calls := l.calls + 1 }, none)
  | some r =>
    ({ camTag := r.camTag, queue := rest, calls := l.calls + 1 },
      if 0 ≤ r.ret then reply.map (l.calls, ·) else none)

/-- Every accepted reply of a run answers the call that accepts it. -/
def Matched (l : CommandLink) (calls : List Call) : Prop :=
  ∀ o ∈ Mealy.trace step l calls, ∀ n r, o = some (n, r) → r.call = n

/-- A call that fetches a reply does not find an older one to a request with the same command. -/
def NoTwin (l : CommandLink) (c : Call) : Prop :=
  c.Polls → c.failure = none → ∀ r, l.queue.head? = some r → r.cmd ≠ c.cmd

/-- `NoTwin` at every call of a run. -/
def NoTwins : CommandLink → List Call → Prop
  | _, [] => True
  | l, c :: calls => l.NoTwin c ∧ NoTwins (l.step c).1 calls

/-! ### One call

Three ways a call can go, and what each of them leaves in the camera. -/

variable {l : CommandLink} {c : Call} {p : ControlIn}

/-- Empty inputs are polled past. -/
theorem poll_polls (hp : p.actualLen ≠ 0) (hp' : p.actualLen ≠ 0x200) :
    poll (c.polls p) = some p := by
  rw [Call.polls]
  induction c.waits with
  | zero => exact Reply.poll_singleton hp hp'
  | succ n ih => exact (if_pos (Or.inl rfl)).trans ih

/-- A call that does not come to poll accepts nothing. -/
theorem step_of_not_polls (h : ¬ c.Polls) :
    l.step c = ({ l with queue := l.answered c, calls := l.calls + 1 }, none) := by
  by_cases hinv : InvalidLength c.cmdbuf
  · simp only [step, if_neg h, sendCmd_of_invalid hinv]
    rfl
  · have hres : c.res < 0 := by
      by_contra hres
      exact h ⟨hinv, Int.not_lt.1 hres⟩
    simp only [step, if_neg h, sendCmd_of_output_failed hinv hres, Option.map_none, ite_self]

/-- A call whose input transfer fails accepts nothing, and leaves its reply behind. -/
theorem step_of_failure (h : c.Polls) (hp : c.failure = some p) :
    l.step c = ({ l with queue := l.answered c, calls := l.calls + 1 }, none) := by
  obtain ⟨hshort, hne⟩ := c.failure_short p hp
  have hfetch : c.fetch (l.answered c) = (p, l.answered c, none) := by
    simp only [Call.fetch, hp]
  have hpoll : poll (c.polls p) = some p :=
    poll_polls hne (by rw [camHdrSize] at hshort; omega)
  simp only [step, if_pos h, hfetch, sendCmd_of_sent h.1 h.2, hpoll, Option.map_some,
    checkReply_of_short hshort, Option.map_none, ite_self]

/-- A call that fetches a reply accepts it exactly if command and tag are its own. -/
theorem step_of_fetch {reply : Reply} {rest : List Reply} (h : c.Polls) (hf : c.failure = none)
    (hq : l.answered c = reply :: rest) :
    l.step c =
      if reply.cmd = c.cmd ∧ reply.tag = l.camTag then
        ({ camTag := l.camTag + 1, queue := rest, calls := l.calls + 1 }, some (l.calls, reply))
      else ({ l with queue := rest, calls := l.calls + 1 }, none) := by
  have hfetch : c.fetch (l.answered c) = (reply.controlIn, rest, some reply) := by
    simp only [Call.fetch, hf, hq]
  have hlen := reply.actualLen_controlIn
  have hlt := reply.payload_lt
  rw [camHdrSize] at hlen hlt
  have hpoll : poll (c.polls reply.controlIn) = some reply.controlIn :=
    poll_polls (by omega) (by omega)
  simp only [step, if_pos h, hfetch, sendCmd_of_sent h.1 h.2, hpoll, Option.map_some]
  -- the reply that is fetched may be an older one
  by_cases hown : reply.cmd = c.cmd ∧ reply.tag = l.camTag
  · have hreply := Reply.isReply_controlIn_iff.2 ⟨rfl, hown.1, hown.2⟩
    rw [if_pos hown]
    simp only [checkReply_of_isReply hreply]
    rw [if_pos (Int.natCast_nonneg _)]
  · have hnot : ∀ n, ¬ IsReply c.cmd l.camTag n reply.controlIn := fun n hn ↦
      hown (Reply.isReply_controlIn_iff.1 hn).2
    rw [if_neg hown]
    simp only [checkReply_of_not_isReply (by rw [camHdrSize]; omega) hnot]
    rw [if_neg (by decide)]

/-! ### Runs

The condition is one on the state before each call: no older reply with the call's command is in
front of its own. -/

/-- **What is left in the camera while every accepted reply was the right one**: replies to earlier
calls, all with the tag the host still uses. -/
structure Backlog (l : CommandLink) : Prop where
  tag : ∀ r ∈ l.queue, r.tag = l.camTag
  call : ∀ r ∈ l.queue, r.call < l.calls

/-- Nothing waits in a camera that has just been opened. -/
theorem backlog_fresh (tag : UInt16) : Backlog (fresh tag) := ⟨by simp [fresh], by simp [fresh]⟩

/-- The replies in the camera during a call: the tag is the host's, and only the call's own reply
has its number. -/
theorem Backlog.answered (h : l.Backlog) :
    ∀ r ∈ l.answered c, r.tag = l.camTag ∧ r.call < l.calls + 1 := by
  intro r hr
  rw [CommandLink.answered] at hr
  split at hr
  · rcases List.mem_append.1 hr with hr | hr
    · exact ⟨h.tag r hr, Nat.lt_succ_of_lt (h.call r hr)⟩
    · rw [List.mem_singleton.1 hr]
      exact ⟨rfl, Nat.lt_succ_self _⟩
  · exact ⟨h.tag r hr, Nat.lt_succ_of_lt (h.call r hr)⟩

/-- **One call, seen from a backlog.** Without an older reply to the same command, what the call
accepts is its own and a backlog is left; with one, that reply is accepted. -/
theorem Backlog.step (h : l.Backlog) (c : Call) :
    (l.NoTwin c → (l.step c).1.Backlog ∧ ∀ n r, (l.step c).2 = some (n, r) → r.call = n) ∧
      (¬ l.NoTwin c → ∃ r, (l.step c).2 = some (l.calls, r) ∧ r.call ≠ l.calls) := by
  have hall := h.answered (c := c)
  have hkept : Backlog { l with queue := l.answered c, calls := l.calls + 1 } :=
    ⟨fun r hr ↦ (hall r hr).1, fun r hr ↦ (hall r hr).2⟩
  by_cases hpolls : c.Polls
  swap
  · rw [step_of_not_polls hpolls]
    exact ⟨fun _ ↦ ⟨hkept, by simp⟩, fun htwin ↦ absurd (fun hp ↦ absurd hp hpolls) htwin⟩
  cases hf : c.failure with
  | some p =>
    rw [step_of_failure hpolls hf]
    refine ⟨fun _ ↦ ⟨hkept, by simp⟩, fun htwin ↦ absurd (fun _ hn ↦ ?_) htwin⟩
    rw [hf] at hn
    cases hn
  | none =>
    have hreaches : c.Reaches := ⟨hpolls.1, Or.inl hpolls.2⟩
    cases hqueue : l.queue with
    | nil =>
      -- nothing older waits: the reply is the call's own
      have hq : l.answered c = [l.ownReply c] := by
        rw [CommandLink.answered, if_pos hreaches, hqueue, List.nil_append]
      rw [step_of_fetch hpolls hf hq, if_pos ⟨rfl, rfl⟩]
      refine ⟨fun _ ↦ ⟨⟨by simp, by simp⟩, ?_⟩, fun htwin ↦ absurd (fun _ _ r hr ↦ ?_) htwin⟩
      · intro n r hr
        cases hr
        rfl
      · rw [hqueue] at hr
        cases hr
    | cons old queue =>
      have hq : ∃ rest, l.answered c = old :: rest := by
        rw [CommandLink.answered, if_pos hreaches, hqueue]
        exact ⟨_, List.cons_append⟩
      obtain ⟨rest, hq⟩ := hq
      have hmem : old ∈ l.queue := hqueue ▸ List.mem_cons_self
      have hiff : l.NoTwin c ↔ old.cmd ≠ c.cmd := by
        constructor
        · exact fun hno ↦ hno hpolls hf old (by rw [hqueue]; rfl)
        · intro hne _ _ r hr
          rw [hqueue] at hr
          cases hr
          exact hne
      rw [step_of_fetch hpolls hf hq, hiff]
      refine ⟨fun hne ↦ ?_, fun heq ↦ ?_⟩
      · rw [if_neg fun hown ↦ hne hown.1]
        refine ⟨⟨fun r hr ↦ (hall r ?_).1, fun r hr ↦ (hall r ?_).2⟩, by simp⟩ <;>
          exact hq ▸ List.mem_cons_of_mem _ hr
      · rw [if_pos ⟨not_not.1 heq, h.tag old hmem⟩]
        exact ⟨old, rfl, Nat.ne_of_lt (h.call old hmem)⟩

/-- The equivalence for any run from a backlog. -/
theorem matched_iff_noTwins (calls : List Call) (h : l.Backlog) :
    l.Matched calls ↔ l.NoTwins calls := by
  induction calls generalizing l with
  | nil => exact ⟨fun _ ↦ trivial, fun _ o ho ↦ nomatch ho⟩
  | cons c calls ih =>
    obtain ⟨hown, hother⟩ := h.step c
    constructor
    · intro hmatched
      have hno : l.NoTwin c := by
        by_contra htwin
        obtain ⟨r, hr, hne⟩ := hother htwin
        exact hne (hmatched _ List.mem_cons_self _ _ hr)
      refine ⟨hno, (ih (hown hno).1).1 fun o ho ↦ hmatched o (List.mem_cons_of_mem _ ho)⟩
    · rintro ⟨hno, hrest⟩ o ho
      rcases List.mem_cons.1 ho with rfl | ho
      · exact (hown hno).2
      · exact (ih (hown hno).1).2 hrest o ho

/-- **Request and reply**: in a run on a freshly opened device every accepted reply answers the call
that accepts it exactly when no call fetches a reply while the oldest one in the camera answers an
earlier request with the same command. -/
theorem replies_matched_iff (tag : UInt16) (calls : List Call) :
    Matched (fresh tag) calls ↔ NoTwins (fresh tag) calls :=
  matched_iff_noTwins calls (backlog_fresh tag)

/-- A register read that works, or whose input transfer times out. -/
def readCall (reg value : UInt8) (timeout : Bool) : Call where
  cmd := 0x02
  cmdbuf := [reg, 0]
  replybuf := fun _ ↦ 0
  replyLen := 4
  res := 10
  received := true
  answer := [0, 0, value, 0]
  waits := 1
  failure := if timeout then some { actualLen := -7, ibuf := fun _ ↦ 0 } else none
  answer_lt := by
    show 4 + 8 < 512
    decide
  failure_short p hp := by
    cases timeout with
    | true =>
      cases hp
      decide
    | false => cases hp

/-- The reply to a read of register `0x06` that timed out is taken for register `0x15`. -/
theorem late_reply_accepted :
    ¬ Matched (fresh 0) [readCall 0x06 2 true, readCall 0x15 30 false] := by
  intro h
  obtain ⟨-, hsecond, -⟩ := (matched_iff_noTwins _ (backlog_fresh 0)).1 h
  have hfirst : (step (fresh 0) (readCall 0x06 2 true)).1 =
      { camTag := 0, queue := (fresh 0).answered (readCall 0x06 2 true), calls := 1 } := by
    rw [step_of_failure (by decide) rfl]
    rfl
  rw [hfirst] at hsecond
  exact hsecond (by decide) rfl ((fresh 0).ownReply (readCall 0x06 2 true)) rfl rfl

end CommandLink

end Freenect
