import Freenect.Camera.Modes
import Freenect.Control.Registers
import Freenect.Registration.Rationals

/-!
# What the setters return

`freenect_set_flag`, `freenect_set_exposure` and `freenect_set_ir_brightness` are documented to
return 0 on success and a negative value on an error. They end in `write_register`, which makes a 0
of what `send_cmd` returns, and in `write_cmos_register`, which passes it on: there, success is the
length of the payload. And `send_cmd` does not report a reply that is too short for a header, so
neither of the two does.

`Setter.writes` are the writes that a call attempts. `setters_contract_iff` says when the value that
it returns is the documented one for them.

The proof has two layers. Of one write it is said what the low-level writer returns for each kind of
reply (`RegisterWrite.Returns`), and the contract is decided from that alone
(`RegisterWrite.Returns.contract_iff`, and `contract_pair_iff` for two writes). Of a setter it is
said which writes it attempts (`Setter.writes`), and that these are what it sends
(`Setter.sent_run`). So the condition `WellReplied` is one on the replies, and the branches of the
setters appear in one place only.
-/

namespace Freenect

/-! ### The setters

What a call is, and the device it is made on. The exposure is a `double` before it becomes a
register value, so the arithmetic is a parameter. -/

section Setters

variable (F : Type) {D : Type} [IntCast D] [Div D] [OfScientific D] [FloatConversions F D]

/-- The quotient of `freenect_set_exposure` for a video format, `none` for the formats without an
exposure time. -/
def VideoFormat.shutterWidthToExp : VideoFormat → Option D
  | .rgb | .bayer => some 54.21
  | .yuvRgb | .yuvRaw => some 63.25
  | .dummy | .ir8Bit | .ir10Bit | .ir10BitPacked => none

/-- `freenect_set_exposure`. -/
def setExposure (D : Type) [IntCast D] [Div D] [OfScientific D] [FloatConversions F D] (big : Bool)
    (camTag : UInt16) (format : VideoFormat) (timeUs : Int32) (replybuf : ℕ → UInt8)
    (x : Exchange) : RegisterResult ℤ :=
  match format.shutterWidthToExp (D := D) with
  | none => .pure camTag (-1)
  | some q =>
    let cmosValue := FloatConversions.toUInt16 F (((timeUs.toInt : ℤ) : D) / q)
    writeCmosRegister big camTag 0x0009 cmosValue replybuf x

/-- `freenect_set_ir_brightness`. -/
def setIrBrightness (camTag brightness : UInt16) (reply : ℕ → UInt8) (x : Exchange) :
    RegisterResult ℤ :=
  let brightness := if brightness < 1 then 1 else brightness
  let brightness := if 50 < brightness then 50 else brightness
  writeRegister camTag 0x15 brightness reply x

end Setters

/-- A call of one of the setters. -/
inductive Setter
  | flag (flag : Flag) (value : FlagValue)
  | exposure (timeUs : Int32)
  | irBrightness (brightness : UInt16)

/-- The device as the setters see it. -/
structure SetterDevice where
  big : Bool
  k4w : Bool
  videoFormat : VideoFormat
  camTag : UInt16

/-- What a setter meets: the contents of the arrays for the replies, and the exchanges. There are at
most two. -/
structure SetterAnswers where
  reply₁ : ℕ → UInt8
  reply₂ : ℕ → UInt8
  x₁ : Exchange
  x₂ : Exchange

/-- The call. -/
def Setter.run (F D : Type) [IntCast D] [Div D] [OfScientific D] [FloatConversions F D]
    (d : SetterDevice) (a : SetterAnswers) : Setter → RegisterResult ℤ
  | flag f value => setFlag d.big d.k4w d.camTag f value a.reply₁ a.reply₂ a.x₁ a.x₂
  | exposure timeUs => setExposure F D d.big d.camTag d.videoFormat timeUs a.reply₁ a.x₁
  | irBrightness brightness => setIrBrightness d.camTag brightness a.reply₁ a.x₁

/-! ### Writes and their replies

A write that ends has one of three outcomes, which exclude each other. -/

/-- A register write: its tag, its command, and its exchange. -/
structure RegisterWrite where
  camTag : UInt16
  cmd : UInt16
  exchange : Exchange

namespace RegisterWrite

variable (w : RegisterWrite)

/-- A reply with a payload of `n` bytes was validated. -/
def Validated (n : ℕ) : Prop :=
  0 ≤ w.exchange.res ∧ ∃ p, poll w.exchange.polls = some p ∧ IsReply w.cmd w.camTag n p

/-- The command was sent, and what came back is too short for a header. -/
def TooShort : Prop :=
  0 ≤ w.exchange.res ∧ ∃ p, poll w.exchange.polls = some p ∧ p.actualLen < camHdrSize

/-- The command was not sent, or what came back is no reply to it. -/
def Rejected : Prop :=
  w.exchange.res < 0 ∨ ∃ p, poll w.exchange.polls = some p ∧ camHdrSize ≤ p.actualLen ∧
    ∀ n, ¬ IsReply w.cmd w.camTag n p

/-- What the two low-level writers return: the length of the payload for a CMOS write and 0 for
another one, if the reply was validated. -/
def Returns (ret : ℤ) : Prop :=
  (∃ n : ℕ, w.Validated n ∧ ret = if w.cmd = 0x95 then (n : ℤ) else 0) ∨ (w.TooShort ∧ 0 ≤ ret) ∨
    (w.Rejected ∧ ret < 0)

variable {w} {m n : ℕ} {ret : ℤ}

/-- A valid reply has one length. -/
theorem Validated.unique (h : w.Validated m) (h' : w.Validated n) : m = n := by
  obtain ⟨-, p, hp, hreply⟩ := h
  obtain ⟨-, p', hp', hreply'⟩ := h'
  obtain rfl : p = p' := Option.some.inj (hp.symm.trans hp')
  have hm := hreply.actualLen
  have hn := hreply'.actualLen
  omega

/-- A valid reply is not too short. -/
theorem Validated.not_tooShort (h : w.Validated n) : ¬ w.TooShort := by
  rintro ⟨-, p', hp', hshort⟩
  obtain ⟨-, p, hp, hreply⟩ := h
  obtain rfl : p = p' := Option.some.inj (hp.symm.trans hp')
  have hn := hreply.actualLen
  omega

theorem Validated.not_rejected (h : w.Validated n) : ¬ w.Rejected := by
  obtain ⟨hres, p, hp, hreply⟩ := h
  rintro (hfailed | ⟨p', hp', -, hno⟩)
  · omega
  · obtain rfl : p = p' := Option.some.inj (hp.symm.trans hp')
    exact hno n hreply

/-- One that is too short is not rejected either; this is the defect. -/
theorem TooShort.not_rejected (h : w.TooShort) : ¬ w.Rejected := by
  obtain ⟨hres, p, hp, hshort⟩ := h
  rintro (hfailed | ⟨p', hp', hlen, -⟩)
  · omega
  · obtain rfl : p = p' := Option.some.inj (hp.symm.trans hp')
    omega

/-- One of the three outcomes is there. -/
theorem Returns.kind (h : w.Returns ret) : (∃ n, w.Validated n) ∨ w.TooShort ∨ w.Rejected := by
  rcases h with ⟨n, hvalid, -⟩ | ⟨hshort, -⟩ | ⟨hrejected, -⟩
  · exact Or.inl ⟨n, hvalid⟩
  · exact Or.inr (Or.inl hshort)
  · exact Or.inr (Or.inr hrejected)

/-- A negative value stands for a rejected write, and for no other. -/
theorem Returns.neg_iff (h : w.Returns ret) : ret < 0 ↔ w.Rejected := by
  rcases h with ⟨n, hvalid, hret⟩ | ⟨hshort, hret⟩ | ⟨hrejected, hret⟩
  · refine iff_of_false (Int.not_lt.2 ?_) hvalid.not_rejected
    rw [hret]
    split
    · exact Int.natCast_nonneg n
    · exact Int.le_refl 0
  · exact iff_of_false (Int.not_lt.2 hret) hshort.not_rejected
  · exact iff_of_true hret hrejected

/-- What a validated write returns. -/
theorem Returns.eq_of_validated (h : w.Returns ret) (hn : w.Validated n) :
    ret = if w.cmd = 0x95 then (n : ℤ) else 0 := by
  rcases h with ⟨m, hvalid, hret⟩ | ⟨hshort, -⟩ | ⟨hrejected, -⟩
  · rwa [hvalid.unique hn] at hret
  · exact absurd hshort hn.not_tooShort
  · exact absurd hrejected hn.not_rejected

end RegisterWrite

/-! ### The two low-level writers

`write_register` and `write_cmos_register` differ in one line: the former makes a 0 of a success,
the latter passes the length on. -/

section Writers

variable {α : Type} {big : Bool} {camTag cmd reg data : UInt16} {cmdbuf : List UInt8}
  {replybuf : ℕ → UInt8} {replyLen : ℕ} {x : Exchange} {f : SendResult → α} {ret : ℤ}

/-- The three outcomes of an exchange that ends. -/
theorem exchange_outcomes (hlen : ¬ InvalidLength cmdbuf) {a : α}
    (h : (exchange camTag cmd cmdbuf replybuf replyLen x f).value = some a) :
    ∃ r, a = f r ∧
      ((∃ n : ℕ, RegisterWrite.Validated ⟨camTag, cmd, x⟩ n ∧ r.ret = n) ∨
        (RegisterWrite.TooShort ⟨camTag, cmd, x⟩ ∧ 0 ≤ r.ret) ∨
        (RegisterWrite.Rejected ⟨camTag, cmd, x⟩ ∧ r.ret < 0)) := by
  rw [exchange_value] at h
  obtain ⟨r, hr, rfl⟩ := Option.map_eq_some_iff.1 h
  refine ⟨r, rfl, ?_⟩
  rcases Int.lt_or_le x.res 0 with hres | hres
  · rw [sendCmd_of_output_failed hlen hres] at hr
    obtain rfl := Option.some.inj hr
    exact Or.inr (Or.inr ⟨Or.inl hres, hres⟩)
  · rw [sendCmd_of_sent hlen hres] at hr
    obtain ⟨p, hp, rfl⟩ := Option.map_eq_some_iff.1 hr
    rcases checkReply_cases camTag cmd replybuf replyLen x.res (commandBytes camTag cmd cmdbuf) p
      with ⟨n, hreply, hcheck⟩ | ⟨hshort, hcheck⟩ | ⟨hno, hhdr, hcheck⟩ <;> rw [hcheck]
    · exact Or.inl ⟨n, ⟨hres, p, hp, hreply⟩, rfl⟩
    · exact Or.inr (Or.inl ⟨⟨hres, p, hp, hshort⟩, hres⟩)
    · exact Or.inr (Or.inr ⟨Or.inr ⟨p, hp, hhdr, hno⟩, Int.negSucc_lt_zero 0⟩)

/-- `write_register`: 0 for a valid reply, and also for one that is too short. -/
theorem writeRegister_returns (h : (writeRegister camTag reg data replybuf x).value = some ret) :
    RegisterWrite.Returns ⟨camTag, 0x03, x⟩ ret := by
  have hlen : ¬ InvalidLength (le16Bytes reg ++ le16Bytes data) := by
    simp [InvalidLength, le16Bytes, camHdrSize]
  obtain ⟨r, rfl, hr⟩ := exchange_outcomes hlen h
  rcases hr with ⟨n, hvalid, hret⟩ | ⟨hshort, hret⟩ | ⟨hrejected, hret⟩
  · exact Or.inl ⟨n, hvalid, if_neg (by omega)⟩
  · exact Or.inr (Or.inl ⟨hshort, by rw [if_neg (Int.not_lt.2 hret)]⟩)
  · refine Or.inr (Or.inr ⟨hrejected, ?_⟩)
    rw [if_pos hret]
    exact hret

/-- `write_cmos_register`: the length of the payload of a valid reply. -/
theorem writeCmosRegister_returns
    (h : (writeCmosRegister big camTag reg data replybuf x).value = some ret) :
    RegisterWrite.Returns ⟨camTag, 0x95, x⟩ ret := by
  obtain ⟨r, rfl, hr⟩ := exchange_outcomes (not_invalidLength_cmos big _ _ _) h
  exact hr

/-- The value of two calls in a row. -/
theorem andThen_value {α β : Type} {r : RegisterResult α} {f : UInt16 → α → RegisterResult β}
    {b : β} : (r.andThen f).value = some b ↔
      ∃ a, r.value = some a ∧ (f r.camTag a).value = some b := by
  rw [RegisterResult.andThen]
  cases r.value with
  | none => simp
  | some a => simp

end Writers

/-! ### The writes of a call -/

/-- The writes that `freenect_set_flag` attempts. -/
def flagWrites (d : SetterDevice) (a : SetterAnswers) (f : Flag) (value : FlagValue) :
    List RegisterWrite :=
  if f = .nearMode then
    if d.k4w = false then []
    else
      let first :=
        writeRegister d.camTag 0x0015 (if value = .on then 0x0007 else 0x001E) a.reply₁ a.x₁
      ⟨d.camTag, 0x03, a.x₁⟩ ::
        if first.value.any (0 ≤ ·) then [⟨first.camTag, 0x03, a.x₂⟩] else []
  else if 2 ^ 16 ≤ f.code then
    if registerForFlag f < 0 then [] else [⟨d.camTag, 0x03, a.x₁⟩]
  else
    let read := readCmosRegister d.big d.camTag 0x0106 a.reply₁ a.x₁
    if read.value.any (· ≠ 0xFFFF) then [⟨read.camTag, 0x95, a.x₂⟩] else []

/-- The writes that a call attempts. -/
def Setter.writes (d : SetterDevice) (a : SetterAnswers) : Setter → List RegisterWrite
  | flag f value => flagWrites d a f value
  | exposure _ =>
    if (d.videoFormat.shutterWidthToExp (D := ℚ)).isSome then [⟨d.camTag, 0x95, a.x₁⟩] else []
  | irBrightness _ => [⟨d.camTag, 0x03, a.x₁⟩]

/-- **The documented return value**: 0 if the replies to all writes were validated, and negative
otherwise. -/
structure KeepsContract (ret : ℤ) (ws : List RegisterWrite) : Prop where
  success : (∀ w ∈ ws, ∃ n, w.Validated n) → ret = 0
  failure : ¬ (∀ w ∈ ws, ∃ n, w.Validated n) → ret < 0

/-- The replies with which a call keeps its contract: one that is too short is made up for by one
that is rejected, and a valid reply to a CMOS write has no payload. -/
structure WellReplied (ws : List RegisterWrite) : Prop where
  short : (∃ w ∈ ws, w.TooShort) → ∃ w ∈ ws, w.Rejected
  payload : ∀ w ∈ ws, w.cmd = 0x95 → ∀ n, w.Validated n → n = 0

section Contract

variable {w w₁ w₂ : RegisterWrite} {ws : List RegisterWrite} {ret : ℤ}

/-- **The contract, from what the writes say**: a negative value stands for a rejected write, and a
CMOS write is the only one of its call. -/
theorem keepsContract_iff
    (hkind : ∀ w ∈ ws, (∃ n, w.Validated n) ∨ w.TooShort ∨ w.Rejected)
    (hneg : ret < 0 ↔ ∃ w ∈ ws, w.Rejected)
    (hzero : (∀ w ∈ ws, ∃ n, w.Validated n) →
      (ret = 0 ↔ ∀ w ∈ ws, w.cmd = 0x95 → ∀ n, w.Validated n → n = 0))
    (hcmos : ∀ w ∈ ws, w.cmd = 0x95 → ws = [w]) : KeepsContract ret ws ↔ WellReplied ws := by
  constructor
  · intro h
    refine ⟨fun ⟨w, hw, hshort⟩ ↦ hneg.1 (h.failure fun hall ↦ ?_), fun w hw hcmd n hn ↦ ?_⟩
    · obtain ⟨n, hvalid⟩ := hall w hw
      exact hvalid.not_tooShort hshort
    · have hall : ∀ w ∈ ws, ∃ n, w.Validated n := by
        rw [hcmos w hw hcmd]
        exact List.forall_mem_singleton.2 ⟨n, hn⟩
      exact (hzero hall).1 (h.success hall) w hw hcmd n hn
  · intro h
    refine ⟨fun hall ↦ (hzero hall).2 h.payload, fun hnot ↦ hneg.2 ?_⟩
    obtain ⟨w, hnot⟩ := not_forall.1 hnot
    obtain ⟨hw, hnot⟩ := Classical.not_imp.1 hnot
    rcases (hkind w hw).resolve_left hnot with hshort | hrejected
    · exact h.short ⟨w, hw, hshort⟩
    · exact ⟨w, hw, hrejected⟩

/-- A call with one write. -/
theorem RegisterWrite.Returns.contract_iff (h : w.Returns ret) :
    KeepsContract ret [w] ↔ WellReplied [w] := by
  refine keepsContract_iff (List.forall_mem_singleton.2 h.kind) ?_ (fun hall ↦ ?_)
    (List.forall_mem_singleton.2 fun _ ↦ rfl)
  · simp [h.neg_iff]
  · obtain ⟨n, hn⟩ := hall w (List.mem_singleton_self w)
    rw [h.eq_of_validated hn, List.forall_mem_singleton]
    by_cases hcmd : w.cmd = 0x95
    · rw [if_pos hcmd, Int.natCast_eq_zero]
      exact ⟨fun h _ m hm ↦ hm.unique hn ▸ h, fun h ↦ h hcmd n hn⟩
    · rw [if_neg hcmd]
      exact iff_of_true rfl fun hcmd' ↦ absurd hcmd' hcmd

/-- A call with two writes, the second of which is only made if the first was not rejected. -/
theorem RegisterWrite.Returns.contract_pair_iff {first : ℤ} (h₁ : w₁.Returns first)
    (hfirst : 0 ≤ first) (h₂ : w₂.Returns ret) (hcmd₁ : w₁.cmd ≠ 0x95) (hcmd₂ : w₂.cmd ≠ 0x95) :
    KeepsContract ret [w₁, w₂] ↔ WellReplied [w₁, w₂] := by
  have hnot : ¬ w₁.Rejected := fun hrejected ↦ Int.not_lt.2 hfirst (h₁.neg_iff.2 hrejected)
  have hcmd : ∀ w ∈ [w₁, w₂], w.cmd ≠ 0x95 := by simp [hcmd₁, hcmd₂]
  refine keepsContract_iff ?_ ?_ (fun hall ↦ ?_) fun w hw h ↦ absurd h (hcmd w hw)
  · exact List.forall_mem_cons.2 ⟨h₁.kind, List.forall_mem_singleton.2 h₂.kind⟩
  · simp [h₂.neg_iff, hnot]
  · obtain ⟨n, hn⟩ := hall w₂ (List.mem_cons_of_mem _ (List.mem_singleton_self w₂))
    rw [h₂.eq_of_validated hn, if_neg hcmd₂]
    exact iff_of_true rfl fun w hw h ↦ absurd h (hcmd w hw)

end Contract

/-! ### What is sent

The commands of two calls in a row are those of the first, and then those of the second if there is
one. -/

/-- What two calls in a row send. -/
theorem andThen_sent {α β : Type} (r : RegisterResult α) (f : UInt16 → α → RegisterResult β) :
    (r.andThen f).sent = r.sent ++ (r.value.map fun a ↦ (f r.camTag a).sent).getD [] := by
  rw [RegisterResult.andThen]
  cases r.value with
  | none => exact (List.append_nil _).symm
  | some a => rfl

/-! ### All calls

Each setter makes no write, one, or two. -/

section Calls

variable {d : SetterDevice} {a : SetterAnswers} {f : Flag} {value : FlagValue} {ret : ℤ}

/-- Near mode: two writes of normal registers. -/
theorem setFlag_nearMode (hk4w : d.k4w ≠ false) :
    setFlag d.big d.k4w d.camTag .nearMode value a.reply₁ a.reply₂ a.x₁ a.x₂ =
      (writeRegister d.camTag 0x0015 (if value = .on then 0x0007 else 0x001E) a.reply₁
        a.x₁).andThen fun camTag ret ↦
          if ret < 0 then .pure camTag ret
          else writeRegister camTag 0x02EF (if value = .on then 0x0000 else 0x0190) a.reply₂
            a.x₂ := by
  rw [setFlag, if_pos rfl, if_neg hk4w]
  cases value <;> rfl

/-- Near mode keeps the contract under the condition for a pair of writes. -/
theorem nearMode_contract_iff (hk4w : d.k4w ≠ false)
    (h : (setFlag d.big d.k4w d.camTag .nearMode value a.reply₁ a.reply₂ a.x₁ a.x₂).value =
      some ret) :
    KeepsContract ret (flagWrites d a .nearMode value) ↔
      WellReplied (flagWrites d a .nearMode value) := by
  rw [setFlag_nearMode hk4w, andThen_value] at h
  obtain ⟨first, hfirst, h⟩ := h
  simp only [flagWrites, if_pos, if_neg hk4w, hfirst, Option.any_some, decide_eq_true_eq]
  rcases Int.lt_or_le first 0 with hneg | hnonneg
  · -- the first write is rejected, and is the only one
    rw [if_pos hneg] at h
    obtain rfl := Option.some.inj h
    rw [if_neg (Int.not_le.2 hneg)]
    exact (writeRegister_returns hfirst).contract_iff
  · rw [if_neg (Int.not_lt.2 hnonneg)] at h
    rw [if_pos hnonneg]
    have hcmd : (0x03 : UInt16) ≠ 0x95 := by decide
    exact (writeRegister_returns hfirst).contract_pair_iff hnonneg (writeRegister_returns h) hcmd
      hcmd

/-- `freenect_set_flag`, for every flag. -/
theorem setFlag_contract_iff
    (h : (setFlag d.big d.k4w d.camTag f value a.reply₁ a.reply₂ a.x₁ a.x₂).value = some ret)
    (hw : flagWrites d a f value ≠ []) :
    KeepsContract ret (flagWrites d a f value) ↔ WellReplied (flagWrites d a f value) := by
  by_cases hnear : f = .nearMode
  · subst hnear
    refine nearMode_contract_iff (fun hk4w ↦ hw ?_) h
    rw [flagWrites, if_pos rfl, if_pos hk4w]
  rw [flagWrites, if_neg hnear] at hw ⊢
  rw [setFlag, if_neg hnear] at h
  by_cases hcode : 2 ^ 16 ≤ f.code
  · -- a normal register
    rw [if_pos hcode] at h hw ⊢
    by_cases hreg : registerForFlag f < 0
    · exact absurd (if_pos hreg) hw
    rw [if_neg hreg]
    rw [if_neg hreg] at h
    exact (writeRegister_returns h).contract_iff
  · -- a bit of the CMOS register, which is read first
    rw [if_neg hcode] at h hw ⊢
    obtain ⟨content, hread, h⟩ := andThen_value.1 h
    simp only [hread, Option.any_some, decide_eq_true_eq] at hw ⊢
    by_cases hmax : content = 0xFFFF
    · exact absurd (if_neg (not_not.2 hmax)) hw
    rw [if_pos hmax]
    rw [if_neg hmax] at h
    exact (writeCmosRegister_returns h).contract_iff

/-- Which formats have an exposure time does not depend on the arithmetic. -/
theorem isSome_shutterWidthToExp (D : Type) [OfScientific D] (format : VideoFormat) :
    (format.shutterWidthToExp (D := D)).isSome = (format.shutterWidthToExp (D := ℚ)).isSome := by
  cases format <;> rfl

end Calls

/-- **Setters keep their return contract** exactly when they are well replied: a call that attempts
a write returns 0 if the replies to its writes were validated and a negative value otherwise, if and
only if a reply too short for a header comes with a rejected one, and the validated reply to a CMOS
write has no payload. -/
theorem setters_contract_iff (F D : Type) [IntCast D] [Div D] [OfScientific D]
    [FloatConversions F D] (c : Setter) (d : SetterDevice) (a : SetterAnswers) (ret : ℤ)
    (h : (c.run F D d a).value = some ret) (hw : c.writes d a ≠ []) :
    KeepsContract ret (c.writes d a) ↔ WellReplied (c.writes d a) := by
  cases c with
  | flag f value => exact setFlag_contract_iff h hw
  | irBrightness brightness => exact (writeRegister_returns h).contract_iff
  | exposure timeUs =>
    rw [Setter.run, setExposure] at h
    rw [Setter.writes, ← isSome_shutterWidthToExp D] at hw ⊢
    cases hq : d.videoFormat.shutterWidthToExp (D := D) with
    | none =>
      rw [hq] at hw
      exact absurd rfl hw
    | some q =>
      rw [hq] at h
      exact (writeCmosRegister_returns h).contract_iff

/-! ### The writes are what is sent

The list of writes is not a second description next to the code: it is compared with the bytes that
go to the camera. -/

/-- What a call sends before its writes: for a CMOS flag, the register is read. -/
def Setter.reads (d : SetterDevice) : Setter → List (List UInt8)
  | flag f _ =>
    if f.IsCmos then [commandBytes d.camTag 0x95 (hostFrame d.big [1, 0x0106 &&& 0x7fff, 0])]
    else []
  | exposure _ => []
  | irBrightness _ => []

/-- The bytes are a command of the write. -/
def RegisterWrite.Sends (w : RegisterWrite) (bytes : List UInt8) : Prop :=
  ∃ cmdbuf, bytes = commandBytes w.camTag w.cmd cmdbuf

/-- One write, one command. -/
theorem forall₂_sends_singleton (w : RegisterWrite) (cmdbuf : List UInt8) :
    List.Forall₂ RegisterWrite.Sends [w] [commandBytes w.camTag w.cmd cmdbuf] :=
  List.Forall₂.cons ⟨cmdbuf, rfl⟩ List.Forall₂.nil

/-- What `freenect_set_flag` sends: the read of a CMOS flag, and the writes. -/
theorem sent_setFlag (d : SetterDevice) (a : SetterAnswers) (f : Flag) (value : FlagValue) :
    ∃ ws, (setFlag d.big d.k4w d.camTag f value a.reply₁ a.reply₂ a.x₁ a.x₂).sent =
        (Setter.flag f value).reads d ++ ws ∧
      List.Forall₂ RegisterWrite.Sends (flagWrites d a f value) ws := by
  by_cases hnear : f = .nearMode
  · subst hnear
    rw [Setter.reads, if_neg (by decide), flagWrites, if_pos rfl]
    by_cases hk4w : d.k4w = false
    · rw [if_pos hk4w, setFlag, if_pos rfl, if_pos hk4w]
      exact ⟨[], rfl, List.Forall₂.nil⟩
    rw [if_neg hk4w, setFlag_nearMode hk4w, andThen_sent, sent_writeRegister]
    refine ⟨_, rfl, List.Forall₂.cons ⟨_, rfl⟩ ?_⟩
    -- the second write of near mode is made if the first did not fail
    cases (writeRegister d.camTag 0x0015 (if value = .on then 0x0007 else 0x001E) a.reply₁
      a.x₁).value with
    | none => exact List.Forall₂.nil
    | some first =>
      rw [Option.map_some, Option.getD_some, Option.any_some]
      rcases Int.lt_or_le first 0 with hneg | hnonneg
      · rw [if_pos hneg, if_neg (by simpa using hneg)]
        exact List.Forall₂.nil
      · rw [if_neg (Int.not_lt.2 hnonneg), if_pos (by simpa using hnonneg), sent_writeRegister]
        exact forall₂_sends_singleton ⟨_, _, _⟩ _
  rw [flagWrites, if_neg hnear, setFlag, if_neg hnear, Setter.reads]
  by_cases hcode : 2 ^ 16 ≤ f.code
  · have hcmos : ¬ f.IsCmos := Nat.not_lt.2 hcode
    rw [if_pos hcode, if_pos hcode, if_neg hcmos]
    by_cases hreg : registerForFlag f < 0
    · rw [if_pos hreg, if_pos hreg]
      exact ⟨[], rfl, List.Forall₂.nil⟩
    · rw [if_neg hreg, if_neg hreg, sent_writeRegister]
      exact ⟨_, rfl, forall₂_sends_singleton ⟨_, _, _⟩ _⟩
  · have hcmos : f.IsCmos := Nat.not_le.1 hcode
    rw [if_neg hcode, if_neg hcode, if_pos hcmos, andThen_sent]
    refine ⟨_, congrArg (· ++ _) (exchange_sent (not_invalidLength_cmos d.big _ _ _)), ?_⟩
    dsimp only
    -- the write is made if the read gave a value
    cases (readCmosRegister d.big d.camTag 0x0106 a.reply₁ a.x₁).value with
    | none => exact List.Forall₂.nil
    | some content =>
      rw [Option.map_some, Option.getD_some, Option.any_some]
      by_cases hmax : content = 0xFFFF
      · rw [if_pos hmax, if_neg (by simpa using hmax)]
        exact List.Forall₂.nil
      · rw [if_neg hmax, if_pos (by simpa using hmax), sent_writeCmosRegister]
        exact forall₂_sends_singleton ⟨_, _, _⟩ _

/-- **The writes of a call are what it sends**, after the read of a CMOS flag. -/
theorem Setter.sent_run (F D : Type) [IntCast D] [Div D] [OfScientific D] [FloatConversions F D]
    (c : Setter) (d : SetterDevice) (a : SetterAnswers) :
    ∃ ws, (c.run F D d a).sent = c.reads d ++ ws ∧
      List.Forall₂ RegisterWrite.Sends (c.writes d a) ws := by
  cases c with
  | flag f value => exact sent_setFlag d a f value
  | irBrightness brightness =>
    exact ⟨_, sent_writeRegister _ _ _ _ _, forall₂_sends_singleton ⟨_, _, _⟩ _⟩
  | exposure timeUs =>
    rw [Setter.run, setExposure, Setter.writes, ← isSome_shutterWidthToExp D]
    cases d.videoFormat.shutterWidthToExp (D := D) with
    | none => exact ⟨[], rfl, List.Forall₂.nil⟩
    | some q => exact ⟨_, sent_writeCmosRegister _ _ _ _ _ _, forall₂_sends_singleton ⟨_, _, _⟩ _⟩

/-! ### Two calls -/

/-- A first-generation camera. -/
def xboxCamera : SetterDevice where
  big := false
  k4w := false
  videoFormat := .rgb
  camTag := 0

/-- The camera acknowledges a write of a normal register. -/
def acknowledged : SetterAnswers where
  reply₁ _ := 0
  reply₂ _ := 0
  x₁ :=
    { res := 12
      received := true
      polls := [⟨10, fun i ↦ [0x52, 0x42, 1, 0, 0x03, 0, 0, 0, 0, 0].getD i 0⟩] }
  x₂ := timedOut

/-- The camera says what the CMOS register is, and acknowledges the write with its new content. -/
def acknowledgedCmos : SetterAnswers where
  reply₁ _ := 0
  reply₂ _ := 0
  x₁ := answered
  x₂ :=
    { res := 14
      received := true
      polls :=
        [⟨14, fun i ↦ [0x52, 0x42, 3, 0, 0x95, 0, 1, 0, 1, 0, 6, 0x81, 0x86, 0x61].getD i 0⟩] }

/-- An acknowledged write of the brightness returns 0. -/
theorem setters_contract_brightness :
    KeepsContract 0 ((Setter.irBrightness 20).writes xboxCamera acknowledged) := by
  refine (setters_contract_iff ℚ ℚ (.irBrightness 20) xboxCamera acknowledged 0 (by decide)
    (List.cons_ne_nil _ _)).2 ⟨?_, ?_⟩
  · rintro ⟨w, hw, -, p, hp, hshort⟩
    obtain rfl := List.mem_singleton.1 hw
    obtain rfl := Option.some.inj hp
    exact absurd hshort (by decide)
  · exact List.forall_mem_singleton.2 fun hcmd ↦ absurd hcmd (by decide)

/-- A flag that is set successfully returns 6, the length of the reply. -/
theorem setters_contract_fails :
    ((Setter.flag .autoExposure .on).run ℚ ℚ xboxCamera acknowledgedCmos).value = some 6 ∧
      ¬ KeepsContract 6 ((Setter.flag .autoExposure .on).writes xboxCamera acknowledgedCmos) := by
  refine ⟨by decide, fun hcontract ↦ absurd (hcontract.success ?_) (by decide)⟩
  have hwrites : (Setter.flag .autoExposure .on).writes xboxCamera acknowledgedCmos =
    [⟨1, 0x95, acknowledgedCmos.x₂⟩] := rfl
  rw [hwrites]
  refine List.forall_mem_singleton.2 ⟨6, by decide, _, rfl, ?_⟩
  exact ⟨by decide, by decide, by decide, by decide, by decide⟩

end Freenect
