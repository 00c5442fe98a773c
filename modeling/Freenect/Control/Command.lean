import Mathlib.Algebra.Group.Nat.Defs
import Mathlib.Data.Int.Notation
import Mathlib.Logic.Basic
import Mathlib.Tactic.ByContra

/-!
# Camera commands

`send_cmd` of `flags.c`: a command is written to the camera's control endpoint, the endpoint is
polled until something other than nothing or a full buffer is read, and what was read is checked
against the command before its payload is copied out.

The two transfers are arguments: the value `fnusb_control` returned for the output, and for each
request for input the value it returned with the contents of `ibuf` after it. A list of inputs that
never lets the loop end has no result.

`send_cmd` returns the wrong variable when the input transfer fails: `res`, which by then holds the
non-negative result of the *output* transfer. `sendCmd_truthful_iff` says that this is the only way
in which it reports success without a valid reply.

The checks have three outcomes (`checkReply_cases`): a valid reply, an input of less than a header,
and anything else. Only the second is treated differently from what a reader would expect, and the
theorem is exact because the other two are right whatever the transfers were.
-/

namespace Freenect

/-- A little-endian 16-bit field, as `fn_le16` reads it on any host. -/
def le16 (b0 b1 : UInt8) : UInt16 := UInt16.ofNat (b0.toNat + 2 ^ 8 * b1.toNat)

/-- The bytes `fn_le16` makes of a 16-bit value on any host. -/
def le16Bytes (w : UInt16) : List UInt8 :=
  [UInt8.ofNat (w.toNat % 2 ^ 8), UInt8.ofNat (w.toNat / 2 ^ 8)]

/-- A request for input: the value `fnusb_control` returned, and what `ibuf` holds then. -/
structure ControlIn where
  actualLen : ℤ
  ibuf : ℕ → UInt8

namespace ControlIn

variable (p : ControlIn)

/-- `rhdr->magic`. -/
def magic : UInt8 × UInt8 := (p.ibuf 0, p.ibuf 1)

/-- `rhdr->len`, in units of two bytes. -/
def len : UInt16 := le16 (p.ibuf 2) (p.ibuf 3)

/-- `rhdr->cmd`. -/
def cmd : UInt16 := le16 (p.ibuf 4) (p.ibuf 5)

/-- `rhdr->tag`. -/
def tag : UInt16 := le16 (p.ibuf 6) (p.ibuf 7)

/-- What follows the header. -/
def payload (i : ℕ) : UInt8 := p.ibuf (8 + i)

end ControlIn

/-- `sizeof(cam_hdr)`. -/
def camHdrSize : ℕ := 8

/-- A command as it is written to the camera. -/
def commandBytes (tag cmd : UInt16) (cmdbuf : List UInt8) : List UInt8 :=
  [0x47, 0x4d] ++ le16Bytes (UInt16.ofNat (cmdbuf.length / 2)) ++ le16Bytes cmd ++ le16Bytes tag ++
    cmdbuf

/-- The polling loop: the input with which it is left, `none` if it never is. -/
def poll : List ControlIn → Option ControlIn
  | [] => none
  | p :: ps => if p.actualLen = 0 ∨ p.actualLen = 0x200 then poll ps else some p

/-- What `send_cmd` returns and leaves behind: `*replybuf`, `dev->cam_tag`, and what it wrote to the
camera. -/
structure SendResult where
  ret : ℤ
  replybuf : ℕ → UInt8
  camTag : UInt16
  sent : Option (List UInt8)

/-- The part of `send_cmd` behind the polling loop. `res` is what the output transfer returned. -/
def checkReply (camTag cmd : UInt16) (replybuf : ℕ → UInt8) (replyLen : ℕ) (res : ℤ)
    (sent : List UInt8) (p : ControlIn) : SendResult :=
  let fail (ret : ℤ) : SendResult :=
    { ret := ret, replybuf := replybuf, camTag := camTag, sent := some sent }
  if p.actualLen < camHdrSize then fail res
  else
    let actualLen := (p.actualLen - camHdrSize).toNat
    if p.magic.1 ≠ 0x52 ∨ p.magic.2 ≠ 0x42 then fail (-1)
    else if p.cmd ≠ cmd then fail (-1)
    else if p.tag ≠ camTag then fail (-1)
    else if p.len.toNat ≠ actualLen / 2 then fail (-1)
    else
      { ret := actualLen
        replybuf := fun i ↦ if i < min actualLen replyLen then p.payload i else replybuf i
        camTag := camTag + 1
        sent := some sent }

/-- The condition under which `send_cmd` gives up before it writes anything. -/
def InvalidLength (cmdbuf : List UInt8) : Prop :=
  cmdbuf.length % 2 = 1 ∨ 0x400 - camHdrSize < cmdbuf.length

instance (cmdbuf : List UInt8) : Decidable (InvalidLength cmdbuf) :=
  inferInstanceAs (Decidable (_ ∨ _))

/-- `send_cmd`. `res` and `polls` are what the two kinds of transfer returned. -/
def sendCmd (camTag cmd : UInt16) (cmdbuf : List UInt8) (replybuf : ℕ → UInt8) (replyLen : ℕ)
    (res : ℤ) (polls : List ControlIn) : Option SendResult :=
  let sent := commandBytes camTag cmd cmdbuf
  if InvalidLength cmdbuf then
    some { ret := -1, replybuf := replybuf, camTag := camTag, sent := none }
  else if res < 0 then
    some { ret := res, replybuf := replybuf, camTag := camTag, sent := some sent }
  else (poll polls).map (checkReply camTag cmd replybuf replyLen res sent)

/-! ### What a reply is

A header with the magic number of a reply, the command and the tag of the request, and a length that
is the number of bytes behind the header. -/

/-- What was read is a reply to `cmd` with tag `tag` and a payload of `n` bytes. -/
structure IsReply (cmd tag : UInt16) (n : ℕ) (p : ControlIn) : Prop where
  actualLen : p.actualLen = camHdrSize + n
  magic : p.magic = (0x52, 0x42)
  cmd : p.cmd = cmd
  tag : p.tag = tag
  len : p.len.toNat = n / 2

section Checks

variable {camTag cmd : UInt16} {cmdbuf : List UInt8} {replybuf : ℕ → UInt8} {replyLen : ℕ}
  {res : ℤ} {polls : List ControlIn} {sent : List UInt8} {p : ControlIn} {n : ℕ}

/-- **A valid reply** is accepted, and its payload copied as far as the buffer goes. -/
theorem checkReply_of_isReply (h : IsReply cmd camTag n p) :
    checkReply camTag cmd replybuf replyLen res sent p =
      { ret := n
        replybuf := fun i ↦ if i < min n replyLen then p.payload i else replybuf i
        camTag := camTag + 1
        sent := some sent } := by
  have hlen : ¬ p.actualLen < camHdrSize := by
    rw [h.actualLen]
    omega
  have hn : (p.actualLen - camHdrSize).toNat = n := by
    rw [h.actualLen]
    omega
  have hmagic : ¬ (p.magic.1 ≠ 0x52 ∨ p.magic.2 ≠ 0x42) := by simp [h.magic]
  simp only [checkReply, if_neg hlen, if_neg hmagic, hn, h.cmd, h.tag, h.len, ne_eq, not_true,
    if_false]

/-- An input of less than a header: the return value is that of the output transfer. -/
theorem checkReply_of_short (h : p.actualLen < camHdrSize) :
    checkReply camTag cmd replybuf replyLen res sent p =
      { ret := res, replybuf := replybuf, camTag := camTag, sent := some sent } :=
  if_pos h

/-- Anything else is rejected. -/
theorem checkReply_of_not_isReply (hlen : camHdrSize ≤ p.actualLen)
    (h : ∀ n, ¬ IsReply cmd camTag n p) :
    checkReply camTag cmd replybuf replyLen res sent p =
      { ret := -1, replybuf := replybuf, camTag := camTag, sent := some sent } := by
  have hactual : p.actualLen = camHdrSize + (p.actualLen - camHdrSize).toNat := by omega
  rw [checkReply, if_neg (Int.not_lt.2 hlen)]
  by_cases hmagic : p.magic.1 ≠ 0x52 ∨ p.magic.2 ≠ 0x42
  · exact if_pos hmagic
  rw [if_neg hmagic]
  by_cases hcmd : p.cmd ≠ cmd
  · exact if_pos hcmd
  rw [if_neg hcmd]
  by_cases htag : p.tag ≠ camTag
  · exact if_pos htag
  rw [if_neg htag]
  -- the header is right, so the length cannot be
  refine if_pos fun hlen' ↦ ?_
  obtain ⟨h₀, h₁⟩ := not_or.1 hmagic
  exact h _ ⟨hactual, Prod.ext (not_not.1 h₀) (not_not.1 h₁), not_not.1 hcmd, not_not.1 htag, hlen'⟩

/-- The three outcomes of the checks. -/
theorem checkReply_cases (camTag cmd : UInt16) (replybuf : ℕ → UInt8) (replyLen : ℕ) (res : ℤ)
    (sent : List UInt8) (p : ControlIn) :
    (∃ n, IsReply cmd camTag n p ∧ checkReply camTag cmd replybuf replyLen res sent p =
      { ret := n
        replybuf := fun i ↦ if i < min n replyLen then p.payload i else replybuf i
        camTag := camTag + 1
        sent := some sent }) ∨
    (p.actualLen < camHdrSize ∧ checkReply camTag cmd replybuf replyLen res sent p =
      { ret := res, replybuf := replybuf, camTag := camTag, sent := some sent }) ∨
    ((∀ n, ¬ IsReply cmd camTag n p) ∧ camHdrSize ≤ p.actualLen ∧
      checkReply camTag cmd replybuf replyLen res sent p =
        { ret := -1, replybuf := replybuf, camTag := camTag, sent := some sent }) := by
  rcases Int.lt_or_le p.actualLen camHdrSize with hshort | hlen
  · exact Or.inr (Or.inl ⟨hshort, checkReply_of_short hshort⟩)
  · by_cases h : ∃ n, IsReply cmd camTag n p
    · obtain ⟨n, h⟩ := h
      exact Or.inl ⟨n, h, checkReply_of_isReply h⟩
    · have h' := not_exists.1 h
      exact Or.inr (Or.inr ⟨h', hlen, checkReply_of_not_isReply hlen h'⟩)

/-- A command of an improper length is not sent. -/
theorem sendCmd_of_invalid (h : InvalidLength cmdbuf) :
    sendCmd camTag cmd cmdbuf replybuf replyLen res polls =
      some { ret := -1, replybuf := replybuf, camTag := camTag, sent := none } :=
  if_pos h

/-- The output transfer fails: its error is returned. -/
theorem sendCmd_of_output_failed (h : ¬ InvalidLength cmdbuf) (hres : res < 0) :
    sendCmd camTag cmd cmdbuf replybuf replyLen res polls =
      some { ret := res, replybuf := replybuf, camTag := camTag,
             sent := some (commandBytes camTag cmd cmdbuf) } := by
  rw [sendCmd, if_neg h, if_pos hres]

/-- **A command that is sent**: the polling, and then the checks. -/
theorem sendCmd_of_sent (h : ¬ InvalidLength cmdbuf) (hres : 0 ≤ res) :
    sendCmd camTag cmd cmdbuf replybuf replyLen res polls =
      (poll polls).map
        (checkReply camTag cmd replybuf replyLen res (commandBytes camTag cmd cmdbuf)) := by
  rw [sendCmd, if_neg h, if_neg (Int.not_lt.2 hres)]

/-! ### Reporting success

A caller looks at the sign of the return value and takes the rest for a length. -/

/-- What a caller relies on: a non-negative result stands for a valid reply, is the length of its
payload, and comes with as much of the payload as the buffer holds. -/
def Truthful (camTag cmd : UInt16) (cmdbuf : List UInt8) (replybuf : ℕ → UInt8) (replyLen : ℕ)
    (res : ℤ) (polls : List ControlIn) : Prop :=
  ∀ r, sendCmd camTag cmd cmdbuf replybuf replyLen res polls = some r → 0 ≤ r.ret →
    ∃ p n, poll polls = some p ∧ IsReply cmd camTag n p ∧ r.ret = n ∧
      ∀ i < min n replyLen, r.replybuf i = p.payload i

/-- **When `send_cmd` can be trusted**: exactly when it does not write the command, or writing it
fails, or the input with which the polling ends is at least a header long. -/
theorem sendCmd_truthful_iff (camTag cmd : UInt16) (cmdbuf : List UInt8) (replybuf : ℕ → UInt8)
    (replyLen : ℕ) (res : ℤ) (polls : List ControlIn) :
    Truthful camTag cmd cmdbuf replybuf replyLen res polls ↔
      InvalidLength cmdbuf ∨ res < 0 ∨ ∀ p, poll polls = some p → camHdrSize ≤ p.actualLen := by
  by_cases hinv : InvalidLength cmdbuf
  · refine ⟨fun _ ↦ Or.inl hinv, fun _ r hr hret ↦ ?_⟩
    rw [sendCmd_of_invalid hinv] at hr
    cases hr
    exact absurd hret (show ¬ (0 : ℤ) ≤ -1 by decide)
  rcases Int.lt_or_le res 0 with hres | hres
  · refine ⟨fun _ ↦ Or.inr (Or.inl hres), fun _ r hr hret ↦ ?_⟩
    rw [sendCmd_of_output_failed hinv hres] at hr
    cases hr
    exact absurd hret (Int.not_le.2 hres)
  constructor
  · intro htruthful
    refine Or.inr (Or.inr fun p hp ↦ ?_)
    by_contra hshort
    have hshort := Int.not_le.1 hshort
    -- the result of the output transfer is returned for a reply that does not exist
    obtain ⟨p', n, hp', hreply, -⟩ := htruthful
      { ret := res, replybuf := replybuf, camTag := camTag,
        sent := some (commandBytes camTag cmd cmdbuf) }
      (by rw [sendCmd_of_sent hinv hres, hp, Option.map_some, checkReply_of_short hshort]) hres
    obtain rfl : p = p' := Option.some.inj (hp.symm.trans hp')
    have := hreply.actualLen
    omega
  · intro h r hr hret
    have hlen := (h.resolve_left hinv).resolve_left (Int.not_lt.2 hres)
    rw [sendCmd_of_sent hinv hres] at hr
    obtain ⟨p, hp, rfl⟩ := Option.map_eq_some_iff.1 hr
    rcases checkReply_cases camTag cmd replybuf replyLen res (commandBytes camTag cmd cmdbuf) p with
      ⟨n, hreply, hcheck⟩ | ⟨hshort, -⟩ | ⟨-, -, hcheck⟩
    · rw [hcheck]
      exact ⟨p, n, hp, hreply, rfl, fun i hi ↦ if_pos hi⟩
    · exact absurd hshort (Int.not_lt.2 (hlen p hp))
    · rw [hcheck] at hret
      exact absurd hret (show ¬ (0 : ℤ) ≤ -1 by decide)

/-- The input transfer of a register read times out, and the call reports the ten bytes it wrote. -/
theorem sendCmd_reports_output :
    ¬ Truthful 0 0x02 [0x15, 0x00] (fun _ ↦ 0) 4 10 [⟨-7, fun _ ↦ 0⟩] := by
  intro h
  obtain ⟨p, n, hp, hreply, -⟩ := h _ rfl (by decide)
  obtain rfl : ⟨-7, fun _ ↦ 0⟩ = p := Option.some.inj hp
  have : (-7 : ℤ) = camHdrSize + n := hreply.actualLen
  omega

end Checks

end Freenect
