import Freenect.Control.Registers
import Freenect.Registration.Tables

/-!
# Fetching the registration data

`freenect_fetch_reg_info` and its siblings, which ask the camera for the parameters of the current
video mode (`OPCODE_ALGORITHM_PARAMS`) and store what the reply holds. `fetchParams_of_fetches` says
what comes of a request that succeeds.

The reply to the request for the zero plane holds `float`s; what is made of it is an argument of the
initialisation of a device.

The three requests have one body, `fetchParams`, with the parameter, the length of its reply and the
way it is read as arguments. What a request fetches is a function of the bytes of the reply, which
is what makes it repeatable (`FetchAnswers.Fetches.unique`); each of the readers looks at no more
bytes than the reply has (`RegInfo.ofReply_congr` and its two twins).
-/

namespace Freenect

/-! ### What a reply holds -/

/-- Field `k` of the info, which follows two bytes of the reply, after `fn_le32s`. -/
def infoField (reply : ℕ → UInt8) (k : ℕ) : Int32 :=
  let at' (i : ℕ) := reply (2 + 4 * k + i)
  (le32 (at' 0) (at' 1) (at' 2) (at' 3)).toInt32

/-- Field `k` as `memcpy` leaves it. `big` is the byte order of the host. -/
def infoFieldHost (big : Bool) (reply : ℕ → UInt8) (k : ℕ) : Int32 :=
  let at' (i : ℕ) := reply (2 + 4 * k + i)
  if big then (le32 (at' 3) (at' 2) (at' 1) (at' 0)).toInt32 else infoField reply k

/-- `freenect_reg_info` in a reply. The fields that the mapping algorithm does not use are not
converted. -/
def RegInfo.ofReply (big : Bool) (reply : ℕ → UInt8) : RegInfo where
  dxCenter := infoFieldHost big reply 0
  ax := infoField reply 1
  bx := infoField reply 2
  cx := infoField reply 3
  dx := infoField reply 4
  dxStart := infoField reply 5
  ay := infoField reply 6
  by' := infoField reply 7
  cy := infoField reply 8
  dy := infoField reply 9
  dyStart := infoField reply 10
  dxBetaStart := infoField reply 11
  dyBetaStart := infoField reply 12
  rolloutBlank := infoFieldHost big reply 13
  rolloutSize := infoFieldHost big reply 14
  dxBetaInc := infoField reply 15
  dyBetaInc := infoField reply 16
  dxdxStart := infoField reply 17
  dxdyStart := infoField reply 18
  dydxStart := infoField reply 19
  dydyStart := infoField reply 20
  dxdxdxStart := infoField reply 21
  dydxdxStart := infoField reply 22
  dxdxdyStart := infoField reply 23
  dydxdyStart := infoField reply 24
  backComp1 := infoFieldHost big reply 25
  dydydxStart := infoField reply 26
  backComp2 := infoFieldHost big reply 27
  dydydyStart := infoField reply 28

/-- `freenect_reg_pad_info` in a reply. -/
def RegPadInfo.ofReply (reply : ℕ → UInt8) : RegPadInfo where
  startLines := le16 (reply 2) (reply 3)
  endLines := le16 (reply 4) (reply 5)
  croppingLines := le16 (reply 6) (reply 7)

/-- The constant shift in a reply, as a `double`. -/
def constShiftOfReply (D : Type) [IntCast D] (reply : ℕ → UInt8) : D :=
  (((le16 (reply 2) (reply 3)).toNat : ℤ) : D)

/-! ### The requests -/

/-- What a request meets: the tag of the device, what a failed lookup of the current mode leaves,
the contents of the array for the reply, and the exchange. -/
structure FetchAnswers where
  camTag : UInt16
  junk : FrameMode VideoFormat
  reply : ℕ → UInt8
  x : Exchange

/-- The argument of `OPCODE_ALGORITHM_PARAMS`: the parameter, and what it is for. -/
def algorithmParams (paramId : UInt16) (mode : FrameMode VideoFormat) : List UInt8 :=
  [paramId, 0, UInt16.ofNat mode.resolution.toNat, UInt16.ofNat mode.framerate, 0].flatMap le16Bytes

/-- The common body of the functions that fetch: `none` is a reply of another length, or none. -/
def fetchParams {α : Type} (paramId : UInt16) (replyLen : ℕ) (ofReply : (ℕ → UInt8) → α)
    (res : Resolution) (fmt : VideoFormat) (a : FetchAnswers) : RegisterResult (Option α) :=
  exchange a.camTag 0x16 (algorithmParams paramId (findVideoMode a.junk res fmt)) a.reply replyLen
    a.x fun r ↦ if r.ret ≠ replyLen then none else some (ofReply r.replybuf)

/-- `freenect_fetch_reg_info`. -/
def fetchRegInfo (big : Bool) : Resolution → VideoFormat → FetchAnswers →
    RegisterResult (Option RegInfo) :=
  fetchParams 0x40 118 (RegInfo.ofReply big)

/-- `freenect_fetch_reg_pad_info`. -/
def fetchRegPadInfo : Resolution → VideoFormat → FetchAnswers →
    RegisterResult (Option RegPadInfo) :=
  fetchParams 0x41 8 RegPadInfo.ofReply

/-- `freenect_fetch_reg_const_shift`. -/
def fetchRegConstShift (D : Type) [IntCast D] : Resolution → VideoFormat → FetchAnswers →
    RegisterResult (Option D) :=
  fetchParams 0x00 4 (constShiftOfReply D)

/-! ### A request that succeeds -/

/-- The camera replies to the request, with bytes that hold `v`. -/
def FetchAnswers.Fetches {α : Type} (a : FetchAnswers) (replyLen : ℕ) (ofReply : (ℕ → UInt8) → α)
    (v : α) : Prop :=
  0 ≤ a.x.res ∧ ∃ p, poll a.x.polls = some p ∧ IsReply 0x16 a.camTag replyLen p ∧
    ofReply p.payload = v

section Fetches

variable {α : Type} {a : FetchAnswers} {replyLen : ℕ} {ofReply : (ℕ → UInt8) → α} {v v' : α}

/-- The argument of the request has a length that `send_cmd` accepts. -/
theorem not_invalidLength_algorithmParams (paramId : UInt16) (mode : FrameMode VideoFormat) :
    ¬ InvalidLength (algorithmParams paramId mode) := by
  simp [InvalidLength, algorithmParams, le16Bytes, camHdrSize]

/-- What a request fetches depends on its reply alone. -/
theorem fetchParams_of_fetches (paramId : UInt16)
    (hcongr : ∀ reply reply', (∀ i < replyLen, reply i = reply' i) → ofReply reply = ofReply reply')
    (res : Resolution) (fmt : VideoFormat) (h : a.Fetches replyLen ofReply v) :
    (fetchParams paramId replyLen ofReply res fmt a).value = some (some v) := by
  obtain ⟨hres, p, hp, hreply, rfl⟩ := h
  rw [fetchParams, exchange_value,
    sendCmd_of_sent (not_invalidLength_algorithmParams _ _) hres, hp, Option.map_some,
    Option.map_some, checkReply_of_isReply hreply]
  have hpayload : ofReply (fun i ↦ if i < min replyLen replyLen then p.payload i else a.reply i) =
      ofReply p.payload :=
    hcongr _ _ fun i hi ↦ if_pos (by omega)
  exact congrArg some ((if_neg (not_not.2 rfl)).trans (congrArg some hpayload))

/-- The same answers hold one value. -/
theorem FetchAnswers.Fetches.unique (h : a.Fetches replyLen ofReply v)
    (h' : a.Fetches replyLen ofReply v') : v = v' := by
  obtain ⟨-, p, hp, -, rfl⟩ := h
  obtain ⟨-, p', hp', -, rfl⟩ := h'
  rw [Option.some.inj (hp.symm.trans hp')]

end Fetches

/-- The info depends on the 118 bytes of its reply. -/
theorem RegInfo.ofReply_congr (big : Bool) (reply reply' : ℕ → UInt8)
    (h : ∀ i < 118, reply i = reply' i) :
    RegInfo.ofReply big reply = RegInfo.ofReply big reply' := by
  have hfield (k : ℕ) (hk : k < 29) : infoField reply k = infoField reply' k := by
    simp only [infoField]
    rw [h _ (by omega), h _ (by omega), h _ (by omega), h _ (by omega)]
  have hhost (k : ℕ) (hk : k < 29) : infoFieldHost big reply k = infoFieldHost big reply' k := by
    simp only [infoFieldHost]
    rw [h _ (by omega), h _ (by omega), h _ (by omega), h _ (by omega), hfield k hk]
  simp only [RegInfo.ofReply]
  congr 1
  all_goals first | exact hfield _ (by decide) | exact hhost _ (by decide)

/-- The padding depends on the 8 bytes of its reply. -/
theorem RegPadInfo.ofReply_congr (reply reply' : ℕ → UInt8) (h : ∀ i < 8, reply i = reply' i) :
    RegPadInfo.ofReply reply = RegPadInfo.ofReply reply' := by
  simp only [RegPadInfo.ofReply]
  rw [h _ (by decide), h _ (by decide), h _ (by decide), h _ (by decide), h _ (by decide),
    h _ (by decide)]

/-- The constant shift depends on the 4 bytes of its reply. -/
theorem constShiftOfReply_congr (D : Type) [IntCast D] (reply reply' : ℕ → UInt8)
    (h : ∀ i < 4, reply i = reply' i) : constShiftOfReply D reply = constShiftOfReply D reply' := by
  rw [constShiftOfReply, constShiftOfReply, h _ (by decide), h _ (by decide)]

end Freenect
