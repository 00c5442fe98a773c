import Freenect.Control.Registers

/-!
# The host's byte order

`send_cmd` and the register functions once more, with their 16-bit fields as the host has them in
memory: `fn_le16`, which does something only if `FN_BIGENDIAN` is defined, is applied where the
source applies it, and a field is then stored and loaded in the order of the host. Everywhere else
`le16` and `le16Bytes` stand for a conversion that is there exactly once; `Host.sendCmd_eq` and the
equations after it say where it is.

It is there for the header, in both directions, and for the arguments of `read_register` and
`write_register`. It is missing for the value that `read_register` returns, and for everything that
`read_cmos_register` and `write_cmos_register` send and receive.

The library has one text for all hosts, so the definitions here are the functions once more, under
`Host`, and the equations say that they are the ones used elsewhere. What is left to compare are the
bytes that are sent and the value that is returned, by two hosts with the same register, the same
value and the same answers.
-/

namespace Freenect

namespace Host

/-! ### Words

A word in memory, and what a conversion makes of it. A conversion undoes itself, so converting
before storing and after loading come to the same. -/

/-- `fn_le16`. `big` is `FN_BIGENDIAN`. -/
def fnLe16 (big : Bool) (d : UInt16) : UInt16 := if big then d <<< 8 ||| d >>> 8 else d

section Words

variable {big : Bool} {v w : UInt16} {p : ℕ → UInt8} {i : ℕ}

/-- On a big-endian host it swaps the bytes. -/
theorem toNat_fnLe16_true (w : UInt16) :
    (fnLe16 true w).toNat = 2 ^ 8 * (w.toNat % 2 ^ 8) + w.toNat / 2 ^ 8 := by
  have hw : w.toNat < 2 ^ 16 := w.toNat_lt
  have hhigh : w.toNat / 2 ^ 8 < 2 ^ 8 := by omega
  have hleft : (w <<< 8).toNat = 2 ^ 8 * (w.toNat % 2 ^ 8) := by
    rw [UInt16.toNat_shiftLeft, Nat.shiftLeft_eq]
    show w.toNat * 2 ^ 8 % 2 ^ 16 = _
    omega
  have hright : (w >>> 8).toNat = w.toNat / 2 ^ 8 := by
    rw [UInt16.toNat_shiftRight, Nat.shiftRight_eq_div_pow]
    rfl
  rw [fnLe16, if_pos rfl, UInt16.toNat_or, hleft, hright]
  exact (Nat.two_pow_add_eq_or_of_lt hhigh _).symm

/-- **What is converted and stored** is little-endian on every host. -/
theorem hostBytes_fnLe16 (big : Bool) (w : UInt16) :
    hostBytes big (fnLe16 big w) = le16Bytes w := by
  cases big with
  | false => rfl
  | true =>
    have hw : w.toNat < 2 ^ 16 := w.toNat_lt
    have hlow : (fnLe16 true w).toNat / 2 ^ 8 = w.toNat % 2 ^ 8 := by
      rw [toNat_fnLe16_true]
      omega
    have hhigh : (fnLe16 true w).toNat % 2 ^ 8 = w.toNat / 2 ^ 8 := by
      rw [toNat_fnLe16_true]
      omega
    show [UInt8.ofNat ((fnLe16 true w).toNat / 2 ^ 8),
      UInt8.ofNat ((fnLe16 true w).toNat % 2 ^ 8)] = _
    rw [hlow, hhigh]
    rfl

/-- A word that is loaded, in the order of the host. -/
theorem toNat_hostWord (big : Bool) (p : ℕ → UInt8) (i : ℕ) :
    (hostWord big p i).toNat =
      if big then (p (2 * i)).toNat * 2 ^ 8 + (p (2 * i + 1)).toNat
      else (p (2 * i)).toNat + (p (2 * i + 1)).toNat * 2 ^ 8 := by
  have h₀ : (p (2 * i)).toNat < 2 ^ 8 := (p (2 * i)).toNat_lt
  have h₁ : (p (2 * i + 1)).toNat < 2 ^ 8 := (p (2 * i + 1)).toNat_lt
  rw [hostWord, UInt16.toNat_ofNat']
  refine Nat.mod_eq_of_lt ?_
  cases big <;> simp only [if_true, if_false, Bool.false_eq_true] <;> omega

/-- **What is loaded and converted** was little-endian. -/
theorem fnLe16_hostWord (big : Bool) (p : ℕ → UInt8) (i : ℕ) :
    fnLe16 big (hostWord big p i) = le16 (p (2 * i)) (p (2 * i + 1)) := by
  have h₀ : (p (2 * i)).toNat < 2 ^ 8 := (p (2 * i)).toNat_lt
  have h₁ : (p (2 * i + 1)).toNat < 2 ^ 8 := (p (2 * i + 1)).toNat_lt
  rw [← UInt16.toNat_inj, le16, UInt16.toNat_ofNat', Nat.mod_eq_of_lt (by omega)]
  cases big with
  | false =>
    show (hostWord false p i).toNat = _
    rw [toNat_hostWord, if_neg (by decide)]
    omega
  | true =>
    rw [toNat_fnLe16_true, toNat_hostWord, if_pos rfl]
    omega

/-- Converting twice changes nothing. -/
theorem fnLe16_fnLe16 (big : Bool) (w : UInt16) : fnLe16 big (fnLe16 big w) = w := by
  have hw : w.toNat < 2 ^ 16 := w.toNat_lt
  cases big with
  | false => rfl
  | true =>
    rw [← UInt16.toNat_inj, toNat_fnLe16_true, toNat_fnLe16_true]
    omega

/-- Different words stay different. -/
theorem fnLe16_inj : fnLe16 big v = fnLe16 big w ↔ v = w := by
  refine ⟨fun h ↦ ?_, congrArg _⟩
  rw [← fnLe16_fnLe16 big v, h, fnLe16_fnLe16]

/-- A field that is loaded as it is, against a converted value. -/
theorem hostWord_eq_fnLe16_iff :
    hostWord big p i = fnLe16 big w ↔ le16 (p (2 * i)) (p (2 * i + 1)) = w := by
  rw [← fnLe16_hostWord big p i]
  exact (fnLe16_inj.symm.trans (by rw [fnLe16_fnLe16]))

/-- Without a conversion, only a word with two equal bytes is the same on both hosts. -/
theorem hostWord_false_eq_true_iff :
    hostWord false p i = hostWord true p i ↔ p (2 * i) = p (2 * i + 1) := by
  have h₀ : (p (2 * i)).toNat < 2 ^ 8 := (p (2 * i)).toNat_lt
  have h₁ : (p (2 * i + 1)).toNat < 2 ^ 8 := (p (2 * i + 1)).toNat_lt
  rw [← UInt16.toNat_inj, ← UInt8.toNat_inj, toNat_hostWord, toNat_hostWord, if_pos rfl,
    if_neg (by decide)]
  omega

end Words

/-! ### `send_cmd`

The header is converted field by field when it is stored, and its fields are converted when they are
checked. -/

/-- `cam_hdr`. -/
structure CamHdr where
  magic : UInt8 × UInt8
  len : UInt16
  cmd : UInt16
  tag : UInt16

/-- A header in memory. -/
def CamHdr.store (big : Bool) (h : CamHdr) : List UInt8 :=
  [h.magic.1, h.magic.2] ++ hostFrame big [h.len, h.cmd, h.tag]

/-- The header at the beginning of a buffer. -/
def CamHdr.load (big : Bool) (buf : ℕ → UInt8) : CamHdr where
  magic := (buf 0, buf 1)
  len := hostWord big buf 1
  cmd := hostWord big buf 2
  tag := hostWord big buf 3

/-- `chdr`. -/
def chdr (big : Bool) (camTag cmd : UInt16) (cmdLen : ℕ) : CamHdr where
  magic := (0x47, 0x4d)
  len := fnLe16 big (UInt16.ofNat (cmdLen / 2))
  cmd := fnLe16 big cmd
  tag := fnLe16 big camTag

/-- `obuf`, as far as it is sent. -/
def obuf (big : Bool) (camTag cmd : UInt16) (cmdbuf : List UInt8) : List UInt8 :=
  (chdr big camTag cmd cmdbuf.length).store big ++ cmdbuf

/-- The part of `send_cmd` behind the polling loop. -/
def checkReply (big : Bool) (camTag cmd : UInt16) (cmdbuf : List UInt8) (replybuf : ℕ → UInt8)
    (replyLen : ℕ) (res : ℤ) (p : ControlIn) : SendResult :=
  let chdr := chdr big camTag cmd cmdbuf.length
  let rhdr := CamHdr.load big p.ibuf
  let sent := some (obuf big camTag cmd cmdbuf)
  let fail (ret : ℤ) : SendResult :=
    { ret := ret, replybuf := replybuf, camTag := camTag, sent := sent }
  if p.actualLen < camHdrSize then fail res
  else
    let actualLen := (p.actualLen - camHdrSize).toNat
    if rhdr.magic.1 ≠ 0x52 ∨ rhdr.magic.2 ≠ 0x42 then fail (-1)
    else if rhdr.cmd ≠ chdr.cmd then fail (-1)
    else if rhdr.tag ≠ chdr.tag then fail (-1)
    else if (fnLe16 big rhdr.len).toNat ≠ actualLen / 2 then fail (-1)
    else
      { ret := actualLen
        replybuf := fun i ↦ if i < min actualLen replyLen then p.payload i else replybuf i
        camTag := camTag + 1
        sent := sent }

/-- `send_cmd`. -/
def sendCmd (big : Bool) (camTag cmd : UInt16) (cmdbuf : List UInt8) (replybuf : ℕ → UInt8)
    (replyLen : ℕ) (res : ℤ) (polls : List ControlIn) : Option SendResult :=
  if InvalidLength cmdbuf then
    some { ret := -1, replybuf := replybuf, camTag := camTag, sent := none }
  else if res < 0 then
    some { ret := res, replybuf := replybuf, camTag := camTag,
           sent := some (obuf big camTag cmd cmdbuf) }
  else (poll polls).map (checkReply big camTag cmd cmdbuf replybuf replyLen res)

/-! ### The register functions

With `send_cmd` out of the way, only the argument and the value of each function are left to
convert. -/

/-- A call of `send_cmd`, from whose result `f` makes the value. -/
def exchange {α : Type} (big : Bool) (camTag cmd : UInt16) (cmdbuf : List UInt8)
    (replybuf : ℕ → UInt8) (replyLen : ℕ) (x : Exchange) (f : SendResult → α) : RegisterResult α :=
  match sendCmd big camTag cmd cmdbuf replybuf replyLen x.res x.polls with
  | some r => { value := some (f r), camTag := r.camTag, sent := r.sent.toList }
  | none => { value := none, camTag := camTag, sent := [obuf big camTag cmd cmdbuf] }

/-- `read_register`. -/
def readRegister (big : Bool) (camTag reg : UInt16) (reply : ℕ → UInt8) (x : Exchange) :
    RegisterResult UInt16 :=
  exchange big camTag 0x02 (hostFrame big [fnLe16 big reg]) reply 4 x (replyWord big 1)

/-- `write_register`. -/
def writeRegister (big : Bool) (camTag reg data : UInt16) (reply : ℕ → UInt8) (x : Exchange) :
    RegisterResult ℤ :=
  exchange big camTag 0x03 (hostFrame big [fnLe16 big reg, fnLe16 big data]) reply 4 x
    fun r ↦ if r.ret < 0 then r.ret else 0

/-- `read_cmos_register`. -/
def readCmosRegister (big : Bool) (camTag reg : UInt16) (replybuf : ℕ → UInt8) (x : Exchange) :
    RegisterResult UInt16 :=
  exchange big camTag 0x95 (hostFrame big [1, reg &&& 0x7fff, 0]) replybuf 6 x (replyWord big 2)

/-- `write_cmos_register`. -/
def writeCmosRegister (big : Bool) (camTag reg value : UInt16) (replybuf : ℕ → UInt8)
    (x : Exchange) : RegisterResult ℤ :=
  exchange big camTag 0x95 (hostFrame big [1, reg ||| 0x8000, value]) replybuf 6 x SendResult.ret

section Refinement

variable {big : Bool} {camTag cmd : UInt16} {cmdbuf : List UInt8} {replybuf : ℕ → UInt8}
  {replyLen : ℕ} {res : ℤ} {p : ControlIn}

/-- **What is sent** is the same on every host. -/
theorem obuf_eq (big : Bool) (camTag cmd : UInt16) (cmdbuf : List UInt8) :
    obuf big camTag cmd cmdbuf = commandBytes camTag cmd cmdbuf := by
  have hwords (v w t : UInt16) : hostFrame big [v, w, t] =
      hostBytes big v ++ hostBytes big w ++ hostBytes big t := by
    simp [hostFrame]
  rw [obuf, CamHdr.store, hwords]
  simp only [chdr, hostBytes_fnLe16]
  rw [commandBytes]
  simp only [List.append_assoc]

/-- **The checks** convert each field of the header exactly once, on one side or on the other. -/
theorem checkReply_eq (big : Bool) (camTag cmd : UInt16) (cmdbuf : List UInt8)
    (replybuf : ℕ → UInt8) (replyLen : ℕ) (res : ℤ) (p : ControlIn) :
    checkReply big camTag cmd cmdbuf replybuf replyLen res p =
      Freenect.checkReply camTag cmd replybuf replyLen res (commandBytes camTag cmd cmdbuf) p := by
  have hcmd : (CamHdr.load big p.ibuf).cmd ≠ (chdr big camTag cmd cmdbuf.length).cmd ↔
      p.cmd ≠ cmd := not_congr hostWord_eq_fnLe16_iff
  have htag : (CamHdr.load big p.ibuf).tag ≠ (chdr big camTag cmd cmdbuf.length).tag ↔
      p.tag ≠ camTag := not_congr hostWord_eq_fnLe16_iff
  have hlen : fnLe16 big (CamHdr.load big p.ibuf).len = p.len := fnLe16_hostWord big p.ibuf 1
  rw [checkReply, Freenect.checkReply]
  simp only [hcmd, htag, hlen, obuf_eq]
  rfl

/-- **`send_cmd` is independent of the host.** -/
theorem sendCmd_eq (big : Bool) (camTag cmd : UInt16) (cmdbuf : List UInt8) (replybuf : ℕ → UInt8)
    (replyLen : ℕ) (res : ℤ) (polls : List ControlIn) :
    sendCmd big camTag cmd cmdbuf replybuf replyLen res polls =
      Freenect.sendCmd camTag cmd cmdbuf replybuf replyLen res polls := by
  have hcheck : checkReply big camTag cmd cmdbuf replybuf replyLen res =
      Freenect.checkReply camTag cmd replybuf replyLen res (commandBytes camTag cmd cmdbuf) :=
    funext (checkReply_eq big camTag cmd cmdbuf replybuf replyLen res)
  rw [sendCmd, Freenect.sendCmd, obuf_eq, hcheck]

/-- An exchange is the one of the other modules. -/
theorem exchange_eq {α : Type} (big : Bool) (camTag cmd : UInt16) (cmdbuf : List UInt8)
    (replybuf : ℕ → UInt8) (replyLen : ℕ) (x : Exchange) (f : SendResult → α) :
    exchange big camTag cmd cmdbuf replybuf replyLen x f =
      Freenect.exchange camTag cmd cmdbuf replybuf replyLen x f := by
  rw [exchange, sendCmd_eq, obuf_eq]
  rfl

/-- So is `read_register`, which does not convert what it returns. -/
theorem readRegister_eq (big : Bool) (camTag reg : UInt16) (reply : ℕ → UInt8) (x : Exchange) :
    readRegister big camTag reg reply x = Freenect.readRegister big camTag reg reply x := by
  have hbuf : hostFrame big [fnLe16 big reg] = le16Bytes reg := by
    simp [hostFrame, hostBytes_fnLe16]
  rw [readRegister, Freenect.readRegister, exchange_eq, hbuf]

/-- So is `write_register`, which converts both of its words. -/
theorem writeRegister_eq (big : Bool) (camTag reg data : UInt16) (reply : ℕ → UInt8)
    (x : Exchange) :
    writeRegister big camTag reg data reply x = Freenect.writeRegister camTag reg data reply x := by
  have hbuf : hostFrame big [fnLe16 big reg, fnLe16 big data] =
      le16Bytes reg ++ le16Bytes data := by
    simp [hostFrame, hostBytes_fnLe16]
  rw [writeRegister, Freenect.writeRegister, exchange_eq, hbuf]

/-- So is `read_cmos_register`, which converts nothing. -/
theorem readCmosRegister_eq (big : Bool) (camTag reg : UInt16) (replybuf : ℕ → UInt8)
    (x : Exchange) :
    readCmosRegister big camTag reg replybuf x =
      Freenect.readCmosRegister big camTag reg replybuf x :=
  exchange_eq big _ _ _ _ _ _ _

/-- So is `write_cmos_register`, which converts nothing either. -/
theorem writeCmosRegister_eq (big : Bool) (camTag reg value : UInt16) (replybuf : ℕ → UInt8)
    (x : Exchange) :
    writeCmosRegister big camTag reg value replybuf x =
      Freenect.writeCmosRegister big camTag reg value replybuf x :=
  exchange_eq big _ _ _ _ _ _ _

end Refinement

end Host

/-! ### Two hosts

`false` is the little-endian host and `true` the big-endian one. -/

/-- A register function, for the two hosts, sends the same bytes. -/
def SameBytes {α : Type} (f : Bool → RegisterResult α) : Prop := (f false).sent = (f true).sent

/-- It returns the same value. -/
def SameValue {α : Type} (f : Bool → RegisterResult α) : Prop := (f false).value = (f true).value

/-- **Register traffic does not depend on the host**, for one register, one value and one reply. -/
structure HostIndependent (camTag reg value : UInt16) (reply : ℕ → UInt8) (x : Exchange) :
    Prop where
  readBytes : SameBytes fun big ↦ Host.readRegister big camTag reg reply x
  readValue : SameValue fun big ↦ Host.readRegister big camTag reg reply x
  writeBytes : SameBytes fun big ↦ Host.writeRegister big camTag reg value reply x
  readCmosBytes : SameBytes fun big ↦ Host.readCmosRegister big camTag reg reply x
  readCmosValue : SameValue fun big ↦ Host.readCmosRegister big camTag reg reply x
  writeCmosBytes : SameBytes fun big ↦ Host.writeCmosRegister big camTag reg value reply x

/-- The array for the reply after a payload of `n` bytes. -/
def arrayAfter (p : ControlIn) (n replyLen : ℕ) (reply : ℕ → UInt8) (k : ℕ) : UInt8 :=
  if k < min n replyLen then p.payload k else reply k

/-- Word `i` of the array for the reply has two equal bytes, unless its value is an error: the
payload of a valid reply, or what was there before. -/
def Exchange.EqualBytes (x : Exchange) (camTag cmd : UInt16) (reply : ℕ → UInt8)
    (replyLen i : ℕ) : Prop :=
  0 ≤ x.res → ∀ p, poll x.polls = some p →
    (p.actualLen < camHdrSize → reply (2 * i) = reply (2 * i + 1)) ∧
      ∀ n, IsReply cmd camTag n p →
        arrayAfter p n replyLen reply (2 * i) = arrayAfter p n replyLen reply (2 * i + 1)

section TwoHosts

variable {camTag cmd reg value w : UInt16} {cmdbuf cmdbuf' : List UInt8} {reply : ℕ → UInt8}
  {replyLen i : ℕ} {x : Exchange} {r : SendResult}

/-- A word that is returned is the same on both hosts. -/
theorem replyWord_false_eq_true_iff : replyWord false i r = replyWord true i r ↔
    r.ret < 0 ∨ r.replybuf (2 * i) = r.replybuf (2 * i + 1) := by
  rw [replyWord, replyWord, ← Host.hostWord_false_eq_true_iff]
  split
  next h => exact iff_of_true rfl (Or.inl h)
  next h => exact (or_iff_right h).symm

/-- What was sent is not looked at again. -/
theorem replyWord_checkReply (big : Bool) (i : ℕ) (camTag cmd : UInt16) (reply : ℕ → UInt8)
    (replyLen : ℕ) (res : ℤ) (sent sent' : List UInt8) (p : ControlIn) :
    replyWord big i (checkReply camTag cmd reply replyLen res sent p) =
      replyWord big i (checkReply camTag cmd reply replyLen res sent' p) := by
  dsimp only [checkReply]
  split_ifs <;> rfl

/-- A reply is no shorter than its header. -/
theorem IsReply.not_short {n : ℕ} {p : ControlIn} (h : IsReply cmd camTag n p) :
    ¬ p.actualLen < camHdrSize := by
  rw [h.actualLen]
  omega

theorem IsReply.unique {m n : ℕ} {p : ControlIn} (h : IsReply cmd camTag m p)
    (h' : IsReply cmd camTag n p) : m = n := by
  have hm := h.actualLen
  have hn := h'.actualLen
  omega

/-- **The value that is read**: an exchange gives the same on both hosts, whatever bytes they sent,
exactly when the two bytes of the word are equal. -/
theorem sameValue_iff (h : ¬ InvalidLength cmdbuf) (h' : ¬ InvalidLength cmdbuf') :
    (exchange camTag cmd cmdbuf reply replyLen x (replyWord false i)).value =
        (exchange camTag cmd cmdbuf' reply replyLen x (replyWord true i)).value ↔
      x.EqualBytes camTag cmd reply replyLen i := by
  rw [exchange_value, exchange_value]
  rcases Int.lt_or_le x.res 0 with hres | hres
  · -- the command was not sent, and both return an error
    rw [sendCmd_of_output_failed h hres, sendCmd_of_output_failed h' hres]
    refine iff_of_true (congrArg some ?_) fun hres' ↦ absurd hres (Int.not_lt.2 hres')
    exact (if_pos hres).trans (if_pos hres).symm
  rw [sendCmd_of_sent h hres, sendCmd_of_sent h' hres, Exchange.EqualBytes,
    forall_prop_of_true hres]
  cases poll x.polls with
  | none => exact iff_of_true rfl nofun
  | some p =>
    simp only [Option.map_some, Option.some_inj, forall_eq']
    rw [replyWord_checkReply false i camTag cmd reply replyLen x.res _
      (commandBytes camTag cmd cmdbuf'), replyWord_false_eq_true_iff]
    -- the three outcomes of the checks: a payload, the array as it was, or an error
    rcases checkReply_cases camTag cmd reply replyLen x.res (commandBytes camTag cmd cmdbuf') p
      with ⟨n, hreply, hcheck⟩ | ⟨hshort, hcheck⟩ | ⟨hno, hlen, hcheck⟩
    · rw [hcheck, or_iff_right (Int.not_lt.2 (Int.natCast_nonneg n))]
      refine ⟨fun hword ↦ ⟨fun hshort ↦ absurd hshort hreply.not_short, fun n' hreply' ↦ ?_⟩,
        fun hword ↦ hword.2 n hreply⟩
      rw [← hreply.unique hreply']
      exact hword
    · rw [hcheck, or_iff_right (Int.not_lt.2 hres)]
      exact ⟨fun hword ↦ ⟨fun _ ↦ hword, fun n hreply ↦ absurd hshort hreply.not_short⟩,
        fun hword ↦ hword.1 hshort⟩
    · rw [hcheck]
      exact iff_of_true (Or.inl (show (-1 : ℤ) < 0 by decide))
        ⟨fun hshort ↦ absurd hshort (Int.not_lt.2 hlen), fun n hreply ↦ absurd hreply (hno n)⟩

/-- A command that begins with an unconverted 1 tells the hosts apart. -/
theorem commandBytes_hostFrame_ne (ws ws' : List UInt16) :
    commandBytes camTag cmd (hostFrame false (1 :: ws)) ≠
      commandBytes camTag cmd (hostFrame true (1 :: ws')) := by
  intro heq
  have hbyte := congrArg (List.getD · (camHdrSize + 0) 0) heq
  simp only [getD_commandBytes] at hbyte
  exact absurd (show (1 : UInt8) = 0 from hbyte) (by decide)

end TwoHosts

/-- **Register traffic depends on the host**, always: the two CMOS functions send other bytes on a
big-endian one. `read_register` and `write_register` send the same bytes, and what a read function
returns is the same exactly when the two bytes of the word are equal. -/
theorem registers_hostIndependent_iff (camTag reg value : UInt16) (reply : ℕ → UInt8)
    (x : Exchange) :
    ¬ HostIndependent camTag reg value reply x ∧
      (SameBytes fun big ↦ Host.readRegister big camTag reg reply x) ∧
      ((SameValue fun big ↦ Host.readRegister big camTag reg reply x) ↔
        x.EqualBytes camTag 0x02 reply 4 1) ∧
      (SameBytes fun big ↦ Host.writeRegister big camTag reg value reply x) ∧
      (¬ SameBytes fun big ↦ Host.readCmosRegister big camTag reg reply x) ∧
      ((SameValue fun big ↦ Host.readCmosRegister big camTag reg reply x) ↔
        x.EqualBytes camTag 0x95 reply 6 2) ∧
      ¬ SameBytes fun big ↦ Host.writeCmosRegister big camTag reg value reply x := by
  have hreg : ¬ InvalidLength (le16Bytes reg) := by simp [InvalidLength, le16Bytes, camHdrSize]
  -- the first word of a CMOS command is a 1, which the two hosts store differently
  have hread : ¬ SameBytes fun big ↦ Host.readCmosRegister big camTag reg reply x := by
    rw [SameBytes, Host.readCmosRegister_eq, Host.readCmosRegister_eq, sent_readCmosRegister,
      sent_readCmosRegister]
    exact fun h ↦ commandBytes_hostFrame_ne _ _ (List.head_eq_of_cons_eq h)
  have hwrite : ¬ SameBytes fun big ↦ Host.writeCmosRegister big camTag reg value reply x := by
    rw [SameBytes, Host.writeCmosRegister_eq, Host.writeCmosRegister_eq, sent_writeCmosRegister,
      sent_writeCmosRegister]
    exact fun h ↦ commandBytes_hostFrame_ne _ _ (List.head_eq_of_cons_eq h)
  refine ⟨fun h ↦ hread h.readCmosBytes, ?_, ?_, ?_, hread, ?_, hwrite⟩
  · rw [SameBytes, Host.readRegister_eq, Host.readRegister_eq, sent_readRegister,
      sent_readRegister]
  · rw [SameValue, Host.readRegister_eq, Host.readRegister_eq]
    exact sameValue_iff hreg hreg
  · rw [SameBytes, Host.writeRegister_eq, Host.writeRegister_eq]
  · rw [SameValue, Host.readCmosRegister_eq, Host.readCmosRegister_eq]
    exact sameValue_iff (not_invalidLength_cmos _ _ _ _) (not_invalidLength_cmos _ _ _ _)

/-- The read of CMOS register `0x0106`, on a little-endian and on a big-endian host. The answer is
the same. -/
theorem registers_not_hostIndependent :
    ((Host.readCmosRegister false 0 0x0106 (fun _ ↦ 0) answered).sent =
        [[0x47, 0x4d, 3, 0, 0x95, 0, 0, 0, 1, 0, 6, 1, 0, 0]] ∧
      (Host.readCmosRegister false 0 0x0106 (fun _ ↦ 0) answered).value = some 0x2186) ∧
    ((Host.readCmosRegister true 0 0x0106 (fun _ ↦ 0) answered).sent =
        [[0x47, 0x4d, 3, 0, 0x95, 0, 0, 0, 0, 1, 1, 6, 0, 0]] ∧
      (Host.readCmosRegister true 0 0x0106 (fun _ ↦ 0) answered).value = some 0x8621) ∧
    ¬ HostIndependent 0 0x0106 0 (fun _ ↦ 0) answered := by
  refine ⟨by decide, by decide, fun h ↦ absurd h.readCmosBytes ?_⟩
  rw [SameBytes]
  decide

end Freenect
