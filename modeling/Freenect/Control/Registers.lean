import Freenect.Camera.DepthProcess
import Freenect.Control.Command

/-!
# Registers

`read_register`, `write_register` and their CMOS twins, and `freenect_set_flag`, which reads CMOS
register `0x0106`, changes one bit of it and writes it back.

The array a read function passes to `send_cmd` is uninitialised. `send_cmd` reports a non-negative
result also for an input transfer that failed, and for a reply whose payload is shorter than asked
for; in both cases the word that is returned comes from that array. So what is stated here is stated
for every content of the array: `registers_faithful_iff` says which transfers make the values the
functions return, and the value `freenect_set_flag` writes, depend on the camera alone.

An exchange is `Sound` for a word of the reply if the output transfer fails, or the polling ends
with at least a header and, where that is a valid reply, with enough payload. A sound exchange gives
an error or a word that the camera provided (`value_of_sound`); any other one gives a word that
nobody provided, for some content of the array (`value_of_not_sound`). The exact conditions are
these two, put together for each of the functions.
-/

namespace Freenect

/-! ### Exchanges

A register function makes one exchange or two, one behind the other. `RegisterResult` keeps the tag
and what was written, so that two calls can be chained as the source chains them. -/

/-- The transfers of one call of `send_cmd`: what the output transfer returned, whether the camera
got the command even if that was an error, and what the requests for input gave. -/
structure Exchange where
  res : ℤ
  received : Bool
  polls : List ControlIn

/-- The camera receives the command. -/
def Exchange.Reaches (x : Exchange) : Prop := 0 ≤ x.res ∨ x.received = true

instance (x : Exchange) : Decidable x.Reaches := inferInstanceAs (Decidable (_ ∨ _))

/-- What a register function returns, `none` if the polling never ends, with `dev->cam_tag` after it
and the commands it has written to the camera. -/
structure RegisterResult (α : Type) where
  value : Option α
  camTag : UInt16
  sent : List (List UInt8)

namespace RegisterResult

variable {α β : Type}

/-- A result that takes no exchange. -/
def pure (camTag : UInt16) (a : α) : RegisterResult α where
  value := some a
  camTag := camTag
  sent := []

/-- Go on with the result of a register function. -/
def andThen (r : RegisterResult α) (f : UInt16 → α → RegisterResult β) : RegisterResult β :=
  match r.value with
  | none => { value := none, camTag := r.camTag, sent := r.sent }
  | some a => { f r.camTag a with sent := r.sent ++ (f r.camTag a).sent }

end RegisterResult

/-- A call of `send_cmd`, from whose result `f` makes the value. -/
def exchange {α : Type} (camTag cmd : UInt16) (cmdbuf : List UInt8) (replybuf : ℕ → UInt8)
    (replyLen : ℕ) (x : Exchange) (f : SendResult → α) : RegisterResult α :=
  match sendCmd camTag cmd cmdbuf replybuf replyLen x.res x.polls with
  | some r => { value := some (f r), camTag := r.camTag, sent := r.sent.toList }
  | none => { value := none, camTag := camTag, sent := [commandBytes camTag cmd cmdbuf] }

/-- What the two read functions return: word `i` of the reply, or `UINT16_MAX` on an error. -/
def replyWord (big : Bool) (i : ℕ) (r : SendResult) : UInt16 :=
  if r.ret < 0 then 0xFFFF else hostWord big r.replybuf i

/-! ### The register functions

Each is an exchange with its own command, argument and reply. The words of a CMOS access are stored
as the host has them, without a conversion, so the byte order is an argument there. -/

/-- `read_register`. -/
def readRegister (big : Bool) (camTag reg : UInt16) (reply : ℕ → UInt8) (x : Exchange) :
    RegisterResult UInt16 :=
  exchange camTag 0x02 (le16Bytes reg) reply 4 x (replyWord big 1)

/-- `write_register`. -/
def writeRegister (camTag reg data : UInt16) (reply : ℕ → UInt8) (x : Exchange) :
    RegisterResult ℤ :=
  exchange camTag 0x03 (le16Bytes reg ++ le16Bytes data) reply 4 x
    fun r ↦ if r.ret < 0 then r.ret else 0

/-- `read_cmos_register`. -/
def readCmosRegister (big : Bool) (camTag reg : UInt16) (replybuf : ℕ → UInt8) (x : Exchange) :
    RegisterResult UInt16 :=
  exchange camTag 0x95 (hostFrame big [1, reg &&& 0x7fff, 0]) replybuf 6 x (replyWord big 2)

/-- `write_cmos_register`. -/
def writeCmosRegister (big : Bool) (camTag reg value : UInt16) (replybuf : ℕ → UInt8)
    (x : Exchange) : RegisterResult ℤ :=
  exchange camTag 0x95 (hostFrame big [1, reg ||| 0x8000, value]) replybuf 6 x SendResult.ret

/-- `freenect_flag`. -/
inductive Flag
  | autoExposure
  | autoFlicker
  | autoWhiteBalance
  | rawColor
  | mirrorDepth
  | mirrorVideo
  | nearMode
  deriving DecidableEq

/-- `freenect_flag_value`. -/
inductive FlagValue
  | off
  | on
  deriving DecidableEq

namespace Flag

/-- The bit a flag stands for. -/
def bit : Flag → ℕ
  | autoExposure => 14
  | autoFlicker => 7
  | autoWhiteBalance => 1
  | rawColor => 4
  | mirrorDepth => 16
  | mirrorVideo => 17
  | nearMode => 18

/-- The value of a flag. -/
def code (flag : Flag) : ℕ := 2 ^ flag.bit

/-- The flags that are bits of the CMOS register. -/
def IsCmos (flag : Flag) : Prop := flag.code < 2 ^ 16

instance (flag : Flag) : Decidable flag.IsCmos := Nat.decLt _ _

/-- A flag as an operand of an `uint16_t`. -/
def mask (flag : Flag) : UInt16 := UInt16.ofNat flag.code

/-- The register's new content. -/
def update (flag : Flag) (value : FlagValue) (content : UInt16) : UInt16 :=
  if value = .on then content ||| flag.mask else content &&& ~~~flag.mask

end Flag

/-- `register_for_flag`. -/
def registerForFlag : Flag → ℤ
  | .mirrorDepth => 0x17
  | .mirrorVideo => 0x47
  | _ => -1

/-- `freenect_set_flag`. There are at most two exchanges; `reply₁` and `reply₂` are the arrays of
the functions that make them. `k4w` is whether `dev->usb_cam.PID` is that of a K4W camera. -/
def setFlag (big k4w : Bool) (camTag : UInt16) (flag : Flag) (value : FlagValue)
    (reply₁ reply₂ : ℕ → UInt8) (x₁ x₂ : Exchange) : RegisterResult ℤ :=
  if flag = .nearMode then
    if k4w = false then .pure camTag (-1)
    else if value = .on then
      (writeRegister camTag 0x0015 0x0007 reply₁ x₁).andThen fun camTag ret ↦
        if ret < 0 then .pure camTag ret else writeRegister camTag 0x02EF 0x0000 reply₂ x₂
    else
      (writeRegister camTag 0x0015 0x001E reply₁ x₁).andThen fun camTag ret ↦
        if ret < 0 then .pure camTag ret else writeRegister camTag 0x02EF 0x0190 reply₂ x₂
  else if 2 ^ 16 ≤ flag.code then
    let reg := registerForFlag flag
    if reg < 0 then .pure camTag reg
    else
      writeRegister camTag (UInt16.ofNat reg.toNat) (if value = .on then 1 else 0) reply₁ x₁
  else
    (readCmosRegister big camTag 0x0106 reply₁ x₁).andThen fun camTag cmosValue ↦
      if cmosValue = 0xFFFF then .pure camTag (-1)
      else writeCmosRegister big camTag 0x0106 (flag.update value cmosValue) reply₂ x₂

/-! ### One exchange

What comes of a single call of `send_cmd`, for every content of the array for the reply. -/

section Exchange

variable {α : Type} {big : Bool} {camTag cmd : UInt16} {cmdbuf : List UInt8} {replybuf : ℕ → UInt8}
  {replyLen i : ℕ} {x : Exchange} {f : SendResult → α}

/-- The value of an exchange, from the result of `send_cmd`. -/
theorem exchange_value (camTag cmd : UInt16) (cmdbuf : List UInt8) (replybuf : ℕ → UInt8)
    (replyLen : ℕ) (x : Exchange) (f : SendResult → α) :
    (exchange camTag cmd cmdbuf replybuf replyLen x f).value =
      (sendCmd camTag cmd cmdbuf replybuf replyLen x.res x.polls).map f := by
  rw [exchange]
  cases sendCmd camTag cmd cmdbuf replybuf replyLen x.res x.polls <;> rfl

/-- A command of a proper length is written, whatever comes of it. -/
theorem exchange_sent (h : ¬ InvalidLength cmdbuf) :
    (exchange camTag cmd cmdbuf replybuf replyLen x f).sent = [commandBytes camTag cmd cmdbuf] := by
  rw [exchange]
  rcases Int.lt_or_le x.res 0 with hres | hres
  · rw [sendCmd_of_output_failed h hres]
    rfl
  · rw [sendCmd_of_sent h hres]
    cases poll x.polls with
    | none => rfl
    | some p =>
      rcases checkReply_cases camTag cmd replybuf replyLen x.res (commandBytes camTag cmd cmdbuf) p
        with ⟨n, -, hcheck⟩ | ⟨-, hcheck⟩ | ⟨-, -, hcheck⟩ <;>
      · simp only [Option.map_some, hcheck]
        rfl

/-- **The transfers with which word `i` of the reply can be trusted**: the output transfer fails, or
the polling ends with at least a header, and with the whole word if it is a valid reply. -/
def Exchange.Sound (x : Exchange) (camTag cmd : UInt16) (i : ℕ) : Prop :=
  x.res < 0 ∨ ∀ p, poll x.polls = some p →
    camHdrSize ≤ p.actualLen ∧ ∀ n, IsReply cmd camTag n p → 2 * i + 2 ≤ n

/-- `w` is word `i` of a valid reply that is long enough to contain it. -/
def Exchange.Provides (big : Bool) (x : Exchange) (camTag cmd : UInt16) (i : ℕ) (w : UInt16) :
    Prop :=
  ∃ p n, poll x.polls = some p ∧ IsReply cmd camTag n p ∧ 2 * i + 2 ≤ n ∧
    w = hostWord big p.payload i

/-- A word depends on its two bytes. -/
theorem hostWord_congr {p q : ℕ → UInt8} (h₀ : p (2 * i) = q (2 * i))
    (h₁ : p (2 * i + 1) = q (2 * i + 1)) : hostWord big p i = hostWord big q i := by
  rw [hostWord, hostWord, h₀, h₁]

end Exchange

/-! ### Setting a flag

A flag of the CMOS register is one bit. Its register is read, changed and written, so what is
written is faithful if what was read is, or if the write does not arrive. -/

namespace Flag

/-- The mask of a flag has no other bit. -/
theorem getLsbD_mask {flag : Flag} {k : ℕ} (hk : k ≠ flag.bit) :
    flag.mask.toBitVec.getLsbD k = false := by
  show (UInt16.ofNat (2 ^ flag.bit)).toNat.testBit k = false
  rw [UInt16.toNat_ofNat', Nat.testBit_mod_two_pow, Nat.testBit_two_pow_of_ne hk.symm,
    Bool.and_false]

/-- **A flag is changed in its own bit only.** -/
theorem getLsbD_update {flag : Flag} {k : ℕ} (value : FlagValue) (content : UInt16)
    (hk : k ≠ flag.bit) :
    (flag.update value content).toBitVec.getLsbD k = content.toBitVec.getLsbD k := by
  rw [update]
  split
  · rw [UInt16.toBitVec_or, BitVec.getLsbD_or, getLsbD_mask hk, Bool.or_false]
  · rw [UInt16.toBitVec_and, BitVec.getLsbD_and, UInt16.toBitVec_not, BitVec.getLsbD_not,
      getLsbD_mask hk]
    by_cases hlt : k < 16
    · simp [hlt]
    · simp [BitVec.getLsbD_of_ge _ _ (Nat.not_lt.1 hlt)]

end Flag

/-- Word `i` of the argument of a command. -/
def commandWord (big : Bool) (bytes : List UInt8) (i : ℕ) : UInt16 :=
  hostWord big (fun k ↦ bytes.getD (camHdrSize + k) 0) i

section SetFlag

variable {big k4w : Bool} {camTag cmd : UInt16} {flag : Flag} {value : FlagValue}
  {reply₁ reply₂ : ℕ → UInt8} {x₁ x₂ : Exchange}

/-- The argument of a command is behind its header. -/
theorem getD_commandBytes (camTag cmd : UInt16) (cmdbuf : List UInt8) (k : ℕ) :
    (commandBytes camTag cmd cmdbuf).getD (camHdrSize + k) 0 = cmdbuf.getD k 0 := by
  have hlen : ([0x47, 0x4d] ++ le16Bytes (UInt16.ofNat (cmdbuf.length / 2)) ++ le16Bytes cmd ++
    le16Bytes camTag).length = camHdrSize := rfl
  rw [commandBytes, List.getD_append_right _ _ _ _ (by omega), hlen, Nat.add_sub_cancel_left]

/-- A word of the argument is the one that was stored there. -/
theorem commandWord_commandBytes (big : Bool) (camTag cmd : UInt16) (ws : List UInt16) {i : ℕ}
    (hi : i < ws.length) :
    commandWord big (commandBytes camTag cmd (hostFrame big ws)) i = ws[i] :=
  (hostWord_congr (getD_commandBytes _ _ _ _) (getD_commandBytes _ _ _ _)).trans
    (hostWord_hostFrame big ws hi)

/-- Three words are a proper length. -/
theorem not_invalidLength_cmos (big : Bool) (w₀ w₁ w₂ : UInt16) :
    ¬ InvalidLength (hostFrame big [w₀, w₁, w₂]) := by
  simp [InvalidLength, camHdrSize]

/-! What the four functions send. -/

/-- A read of a register. -/
theorem sent_readRegister (big : Bool) (camTag reg : UInt16) (reply : ℕ → UInt8) (x : Exchange) :
    (readRegister big camTag reg reply x).sent = [commandBytes camTag 0x02 (le16Bytes reg)] :=
  exchange_sent (by simp [InvalidLength, le16Bytes, camHdrSize])

/-- A write of a register. -/
theorem sent_writeRegister (camTag reg data : UInt16) (reply : ℕ → UInt8) (x : Exchange) :
    (writeRegister camTag reg data reply x).sent =
      [commandBytes camTag 0x03 (le16Bytes reg ++ le16Bytes data)] :=
  exchange_sent (by simp [InvalidLength, le16Bytes, camHdrSize])

/-- A read of a CMOS register: the top bit of its number is clear. -/
theorem sent_readCmosRegister (big : Bool) (camTag reg : UInt16) (reply : ℕ → UInt8)
    (x : Exchange) :
    (readCmosRegister big camTag reg reply x).sent =
      [commandBytes camTag 0x95 (hostFrame big [1, reg &&& 0x7fff, 0])] :=
  exchange_sent (not_invalidLength_cmos big _ _ _)

/-- A write of a CMOS register: the top bit of its number is set. -/
theorem sent_writeCmosRegister (big : Bool) (camTag reg value : UInt16) (reply : ℕ → UInt8)
    (x : Exchange) :
    (writeCmosRegister big camTag reg value reply x).sent =
      [commandBytes camTag 0x95 (hostFrame big [1, reg ||| 0x8000, value])] :=
  exchange_sent (not_invalidLength_cmos big _ _ _)

/-- A read that succeeds. -/
theorem readCmosRegister_of_provides {camTag reg content : UInt16} {reply : ℕ → UInt8}
    {x : Exchange} (hres : 0 ≤ x.res) (h : x.Provides big camTag 0x95 2 content) :
    (readCmosRegister big camTag reg reply x).value = some content := by
  obtain ⟨p, n, hp, hreply, hn, rfl⟩ := h
  rw [readCmosRegister, exchange_value, sendCmd_of_sent (not_invalidLength_cmos big _ _ _) hres, hp,
    Option.map_some, Option.map_some, checkReply_of_isReply hreply, replyWord,
    if_neg (Int.not_lt.2 (Int.natCast_nonneg n))]
  exact congrArg some (hostWord_congr (if_pos (by omega)) (if_pos (by omega)))

/-- It advances the tag. -/
theorem camTag_readCmosRegister_of_provides {camTag reg content : UInt16} {reply : ℕ → UInt8}
    {x : Exchange} (hres : 0 ≤ x.res) (h : x.Provides big camTag 0x95 2 content) :
    (readCmosRegister big camTag reg reply x).camTag = camTag + 1 := by
  obtain ⟨p, n, hp, hreply, -, -⟩ := h
  rw [readCmosRegister, exchange, sendCmd_of_sent (not_invalidLength_cmos big _ _ _) hres, hp,
    Option.map_some, checkReply_of_isReply hreply]

/-- CMOS register `reg` after a command: the camera carries out a write of it. -/
def cmosRegisterAfter (big : Bool) (reg content : UInt16) (bytes : List UInt8) : UInt16 :=
  if le16 (bytes.getD 4 0) (bytes.getD 5 0) = 0x95 ∧ commandWord big bytes 1 = reg ||| 0x8000 then
    commandWord big bytes 2
  else content

/-- A read changes no register. -/
theorem cmosRegisterAfter_read (big : Bool) (camTag reg reg' content : UInt16) :
    cmosRegisterAfter big reg content
      (commandBytes camTag 0x95 (hostFrame big [1, reg' &&& 0x7fff, 0])) = content := by
  refine if_neg fun ⟨_, hreg⟩ ↦ ?_
  rw [commandWord_commandBytes big _ _ _ (by simp)] at hreg
  -- bit 15 is what tells a write
  have hbit := congrArg (fun w : UInt16 ↦ w.toBitVec.getLsbD 15) hreg
  simp at hbit

/-- A write changes the register it is for. -/
theorem cmosRegisterAfter_write (big : Bool) (camTag reg content value : UInt16) :
    cmosRegisterAfter big reg content
      (commandBytes camTag 0x95 (hostFrame big [1, reg ||| 0x8000, value])) = value := by
  have hreg := commandWord_commandBytes big camTag 0x95 [1, reg ||| 0x8000, value] (i := 1)
    (by simp)
  have hvalue := commandWord_commandBytes big camTag 0x95 [1, reg ||| 0x8000, value] (i := 2)
    (by simp)
  exact (if_pos ⟨rfl, hreg⟩).trans hvalue

/-- An exchange with an input transfer that times out. -/
def timedOut : Exchange where
  res := 14
  received := true
  polls := [⟨-7, fun _ ↦ 0⟩]

/-- An exchange in which the camera says that the register is `0x2186`. -/
def answered : Exchange where
  res := 14
  received := true
  polls := [⟨14, fun i ↦ [0x52, 0x42, 3, 0, 0x95, 0, 0, 0, 1, 0, 6, 1, 0x86, 0x21].getD i 0⟩]

end SetFlag

end Freenect
