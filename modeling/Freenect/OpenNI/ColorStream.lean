import Freenect.Control.Setters
import Freenect.OpenNI.VideoStream

/-!
# The switches of the OpenNI color stream

`ColorStream::setProperty` for the automatic white balance, the automatic exposure and mirroring.
Each call remembers the value in the stream and sets a flag of the device; the first two are bits of
CMOS register `0x0106`, which `freenect_set_flag` reads, changes and writes back. `getProperty`
answers from what the stream remembers.

The purpose is two independent bits of a register, `Switch.set`. The code refines that on the runs
that `switches_independent_iff` tells: the case of the exposure sets the flag of the white balance,
nobody asks the camera for the initial values, and a register that holds `0xFFFF` cannot be told
from one that could not be read.

The layers are kept apart. Of the register all that is used is that a flag is one of its bits
(`Switch.get_set`). Of a call it is what the stream remembers and what the register is afterwards
(`step_of_sets`), where the register is followed through the commands that the call sends
(`foldl_cmosAfter_setFlag`). A step is then compared with its purpose bit by bit (`step_iff`), and
for a run that is a refinement along the calls, `Mealy.refines_iff_along`.
-/

namespace Freenect

/-! ### The calls -/

/-- `OniStatus`, as far as the calls return it. -/
inductive OniStatus
  | ok
  | error
  deriving DecidableEq

/-- The properties that `ColorStream::setProperty` handles itself. -/
inductive ColorProperty
  | autoWhiteBalance
  | autoExposure
  | mirroring
  deriving DecidableEq

/-- `sizeof(OniBool)`. -/
def sizeofOniBool : Int32 := 4

/-- `ColorStream`. The constructor leaves the two switches uninitialised. -/
structure ColorStream extends VideoStream where
  autoWhiteBalance : Bool
  autoExposure : Bool

/-- `FreenectDevice::setFlag`. -/
def FreenectDevice.setFlag (d : SetterDevice) (flag : Flag) (value : Bool) (a : SetterAnswers) :
    RegisterResult ℤ :=
  Freenect.setFlag d.big d.k4w d.camTag flag (if value = true then .on else .off) a.reply₁ a.reply₂
    a.x₁ a.x₂

/-- The status for what `setFlag` returned. -/
def statusOf (r : RegisterResult ℤ) : RegisterResult OniStatus :=
  r.andThen fun camTag ret ↦ .pure camTag (if ret = 0 then .ok else .error)

namespace ColorStream

/-- `ColorStream::setProperty`, with a value at `data` and its size. -/
def setProperty (s : ColorStream) (d : SetterDevice) (a : SetterAnswers) (data dataSize : Int32) :
    ColorProperty → ColorStream × RegisterResult OniStatus
  | .autoWhiteBalance =>
    if dataSize ≠ sizeofOniBool then (s, .pure d.camTag .error)
    else
      let value : Bool := data ≠ 0
      ({ s with autoWhiteBalance := value },
        statusOf (FreenectDevice.setFlag d .autoWhiteBalance value a))
  | .autoExposure =>
    if dataSize ≠ sizeofOniBool then (s, .pure d.camTag .error)
    else
      let value : Bool := data ≠ 0
      ({ s with autoExposure := value },
        statusOf (FreenectDevice.setFlag d .autoWhiteBalance value a))
  | .mirroring =>
    if dataSize ≠ sizeofOniBool then (s, .pure d.camTag .error)
    else
      let value : Bool := data ≠ 0
      ({ s with mirroring := value }, statusOf (FreenectDevice.setFlag d .mirrorVideo value a))

/-- `ColorStream::getProperty`, with the value that it leaves at `data`. -/
def getProperty (s : ColorStream) (dataSize : Int32) (p : ColorProperty) :
    OniStatus × Option Int32 :=
  if dataSize ≠ sizeofOniBool then (.error, none)
  else
    let value : Bool :=
      match p with
      | .autoWhiteBalance => s.autoWhiteBalance
      | .autoExposure => s.autoExposure
      | .mirroring => s.mirroring
    (.ok, some (if value = true then 1 else 0))

end ColorStream

/-! ### The camera

The camera keeps a register, and carries out the writes that come to it. Nothing else of it is
needed; what it answers is in the answers of the call, and `Succeeds` says that they fit. -/

/-- CMOS register `0x0106` after a command: the camera carries out a write of it. -/
def cmosAfter (big : Bool) (register : UInt16) (bytes : List UInt8) : UInt16 :=
  if le16 (bytes.getD 4 0) (bytes.getD 5 0) = 0x95 ∧
      commandWord big bytes 1 = (0x0106 : UInt16) ||| 0x8000 then
    commandWord big bytes 2
  else register

/-- The two switches of the camera that share a register. -/
inductive Switch
  | whiteBalance
  | exposure
  deriving DecidableEq

namespace Switch

/-- The property of a switch. -/
def property : Switch → ColorProperty
  | whiteBalance => .autoWhiteBalance
  | exposure => .autoExposure

/-- The flag that is meant for a switch. -/
def flag : Switch → Flag
  | whiteBalance => .autoWhiteBalance
  | exposure => .autoExposure

/-- Whether a switch is on. -/
def get (sw : Switch) (register : UInt16) : Bool := register.toBitVec.getLsbD sw.flag.bit

/-- The register with a switch set. -/
def set (sw : Switch) (value : Bool) (register : UInt16) : UInt16 :=
  sw.flag.update (if value = true then .on else .off) register

end Switch

/-- A call of `setProperty` for one of the switches, and what it meets. -/
structure SwitchCall where
  switch : Switch
  data : Int32
  dataSize : Int32
  answers : SetterAnswers

namespace SwitchCall

variable (c : SwitchCall)

/-- The call comes with an `OniBool`. -/
def Sets : Prop := c.dataSize = sizeofOniBool

instance : Decidable c.Sets := inferInstanceAs (Decidable (_ = _))

/-- The value that is set. -/
def value : Bool := c.data ≠ 0

/-- What the call is for. -/
def apply (register : UInt16) : UInt16 :=
  if c.Sets then c.switch.set c.value register else register

end SwitchCall

/-- The stream, the device and the camera's register. -/
structure SwitchState where
  stream : ColorStream
  device : SetterDevice
  register : UInt16

namespace SwitchState

/-- A call. The camera gets the commands that are sent. -/
def step (s : SwitchState) (c : SwitchCall) : SwitchState × Option OniStatus :=
  let r := s.stream.setProperty s.device c.answers c.data c.dataSize c.switch.property
  ({ stream := r.1
     device := { s.device with camTag := r.2.camTag }
     register := r.2.sent.foldl (cmosAfter s.device.big) s.register },
    r.2.value)

/-- The transfers of a call succeed: the camera says what the register is, and acknowledges the
write, if there is one. -/
structure Succeeds (s : SwitchState) (c : SwitchCall) : Prop where
  res : 0 ≤ c.answers.x₁.res
  read : c.answers.x₁.Provides s.device.big s.device.camTag 0x95 2 s.register
  write : s.register ≠ 0xFFFF →
    ∃ n, RegisterWrite.Validated ⟨s.device.camTag + 1, 0x95, c.answers.x₂⟩ n

/-- `getProperty` returns what the register holds. -/
def Reports (s : SwitchState) : Prop :=
  ∀ sw : Switch, s.stream.getProperty sizeofOniBool sw.property =
    (.ok, some (if sw.get s.register = true then 1 else 0))

/-- The calls that do what they are for: a white balance that the register can show, and an exposure
that both switches have already. -/
def Harmless (s : SwitchState) (c : SwitchCall) : Prop :=
  c.Sets → match c.switch with
    | .whiteBalance => s.register ≠ 0xFFFF ∨ c.value = true
    | .exposure => ∀ sw : Switch, sw.get s.register = c.value

end SwitchState

/-- The last value that a switch is set to, or else the initial one. -/
def lastSet (sw : Switch) (initial : Bool) (calls : List SwitchCall) : Bool :=
  calls.foldl (fun last c ↦ if c.Sets ∧ c.switch = sw then c.value else last) initial

/-- **Independent switches**: what the calls made of the register, and what `getProperty` says. -/
structure Independent (register : UInt16) (calls : List SwitchCall) (s : SwitchState) : Prop where
  switches : ∀ sw : Switch, sw.get s.register = lastSet sw (sw.get register) calls
  others : ∀ k, (∀ sw : Switch, k ≠ sw.flag.bit) →
    s.register.toBitVec.getLsbD k = register.toBitVec.getLsbD k
  reports : s.Reports

/-! ### Bits of the register -/

/-- The bit of a flag is the one of its mask. -/
theorem Flag.getLsbD_mask_bit {flag : Flag} (hflag : flag.IsCmos) :
    flag.mask.toBitVec.getLsbD flag.bit = true := by
  cases flag <;> first | rfl | exact absurd hflag (by decide)

/-- A flag has the value it is set to. -/
theorem Flag.getLsbD_update_bit {flag : Flag} (hflag : flag.IsCmos) (value : FlagValue)
    (content : UInt16) :
    (flag.update value content).toBitVec.getLsbD flag.bit = decide (value = .on) := by
  have hlt : flag.bit < 16 := (Nat.pow_lt_pow_iff_right (by decide)).1 hflag
  rw [Flag.update]
  cases value with
  | on =>
    rw [if_pos rfl, UInt16.toBitVec_or, BitVec.getLsbD_or, getLsbD_mask_bit hflag, Bool.or_true]
    rfl
  | off =>
    rw [if_neg (by decide), UInt16.toBitVec_and, BitVec.getLsbD_and, UInt16.toBitVec_not,
      BitVec.getLsbD_not, getLsbD_mask_bit hflag, Bool.not_true, Bool.and_false, Bool.and_false]
    rfl

/-- Registers with the same bits are equal. -/
theorem eq_of_getLsbD {v w : UInt16} (h : ∀ k, v.toBitVec.getLsbD k = w.toBitVec.getLsbD k) :
    v = w :=
  UInt16.toBitVec_inj.1 (BitVec.eq_of_getLsbD_eq fun k _ ↦ h k)

namespace Switch

variable {sw sw' : Switch} {value : Bool} {register : UInt16} {k : ℕ}

/-- Both switches are flags of the CMOS register. -/
theorem isCmos_flag (sw : Switch) : sw.flag.IsCmos := by
  cases sw with
  | whiteBalance => decide
  | exposure => decide

/-- The switches have different bits. -/
theorem bit_flag_inj : sw.flag.bit = sw'.flag.bit ↔ sw = sw' := by
  cases sw <;> cases sw' <;> decide

/-- **Setting a switch changes no other.** -/
theorem get_set (sw sw' : Switch) (value : Bool) (register : UInt16) :
    sw.get (sw'.set value register) = if sw' = sw then value else sw.get register := by
  split
  next h =>
    subst h
    rw [get, set, Flag.getLsbD_update_bit sw'.isCmos_flag]
    cases value <;> rfl
  next h => exact Flag.getLsbD_update _ _ fun hbit ↦ h (bit_flag_inj.1 hbit).symm

/-- Setting a switch to what it is changes nothing. -/
theorem set_eq_self_iff : sw.set value register = register ↔ sw.get register = value := by
  constructor
  · intro h
    rw [← h, get_set, if_pos rfl]
  · intro h
    refine eq_of_getLsbD fun k ↦ ?_
    by_cases hk : k = sw.flag.bit
    · rw [hk]
      exact (get_set sw sw value register).trans ((if_pos rfl).trans h.symm)
    · exact Flag.getLsbD_update _ _ hk

/-- Where all bits are set, both switches are on. -/
theorem get_max (sw : Switch) : sw.get 0xFFFF = true := by
  cases sw with
  | whiteBalance => rfl
  | exposure => rfl

end Switch

/-! ### What the calls are for -/

section Calls

variable {calls : List SwitchCall} {register : UInt16} {s : SwitchState} {sw : Switch}

/-- What a call is for, as a bit. -/
theorem get_apply (sw : Switch) (register : UInt16) (c : SwitchCall) :
    sw.get (c.apply register) = if c.Sets ∧ c.switch = sw then c.value else sw.get register := by
  rw [SwitchCall.apply, ite_and]
  split
  · exact Switch.get_set _ _ _ _
  · rfl

/-- After several calls a switch is what it was set to last. -/
theorem get_foldl_apply (sw : Switch) (register : UInt16) (calls : List SwitchCall) :
    sw.get (calls.foldl (fun r c ↦ c.apply r) register) = lastSet sw (sw.get register) calls :=
  (List.foldl_hom sw.get fun r c ↦ (get_apply sw r c).symm).symm

/-- No other bit of the register is changed. -/
theorem getLsbD_foldl_apply {k : ℕ} (hk : ∀ sw : Switch, k ≠ sw.flag.bit) (register : UInt16)
    (calls : List SwitchCall) :
    (calls.foldl (fun r c ↦ c.apply r) register).toBitVec.getLsbD k =
      register.toBitVec.getLsbD k := by
  induction calls generalizing register with
  | nil => rfl
  | cons c calls ih =>
    refine (ih (c.apply register)).trans ?_
    rw [SwitchCall.apply]
    split
    · exact Flag.getLsbD_update _ _ (hk _)
    · rfl

/-- **Independent switches are a refinement**: the register is what the calls make of it one by
one. -/
theorem independent_iff : Independent register calls s ↔
    s.register = calls.foldl (fun r c ↦ c.apply r) register ∧ s.Reports := by
  constructor
  · intro h
    refine ⟨eq_of_getLsbD fun k ↦ ?_, h.reports⟩
    by_cases hk : ∀ sw : Switch, k ≠ sw.flag.bit
    · rw [h.others k hk, getLsbD_foldl_apply hk]
    · obtain ⟨sw, hsw⟩ := not_forall.1 hk
      obtain rfl := not_not.1 hsw
      exact (h.switches sw).trans (get_foldl_apply sw register calls).symm
  · rintro ⟨hregister, hreports⟩
    refine ⟨fun sw ↦ ?_, fun k hk ↦ ?_, hreports⟩ <;> rw [hregister]
    · exact get_foldl_apply sw register calls
    · exact getLsbD_foldl_apply hk register calls

end Calls

/-! ### What the calls do -/

section Step

variable {big k4w : Bool} {camTag register : UInt16} {f : Flag} {value : FlagValue}
  {a : SetterAnswers} {s : SwitchState} {c : SwitchCall} {sw : Switch}

/-- Reading does not change the register. -/
theorem cmosAfter_read (big : Bool) (camTag register : UInt16) :
    cmosAfter big register
      (commandBytes camTag 0x95 (hostFrame big [1, 0x0106 &&& 0x7fff, 0])) = register :=
  cmosRegisterAfter_read big camTag 0x0106 0x0106 register

/-- Writing replaces the register. -/
theorem cmosAfter_write (big : Bool) (camTag register value : UInt16) :
    cmosAfter big register
      (commandBytes camTag 0x95 (hostFrame big [1, 0x0106 ||| 0x8000, value])) = value :=
  cmosRegisterAfter_write big camTag 0x0106 register value

/-- Setting a flag whose transfers succeed: the register is updated, unless it holds the value that
stands for an error. -/
theorem foldl_cmosAfter_setFlag (hflag : f.IsCmos) (hres : 0 ≤ a.x₁.res)
    (hread : a.x₁.Provides big camTag 0x95 2 register) :
    (setFlag big k4w camTag f value a.reply₁ a.reply₂ a.x₁ a.x₂).sent.foldl (cmosAfter big)
        register =
      if register = 0xFFFF then register else f.update value register := by
  have hnear : f ≠ .nearMode := by
    rintro rfl
    exact absurd hflag (by decide)
  rw [setFlag, if_neg hnear, if_neg (Nat.not_le.2 hflag), andThen_sent, sent_readCmosRegister,
    readCmosRegister_of_provides hres hread, Option.map_some, Option.getD_some,
    List.singleton_append, List.foldl_cons, cmosAfter_read]
  split
  · rfl
  · rw [sent_writeCmosRegister, List.foldl_cons, cmosAfter_write]
    rfl

/-- The status is made of the result, and the commands are the same. -/
theorem sent_statusOf (r : RegisterResult ℤ) : (statusOf r).sent = r.sent := by
  rw [statusOf, andThen_sent]
  cases r.value <;> exact List.append_nil _

/-- What the stream remembers of a switch. -/
def ColorStream.remembered (s : ColorStream) : Switch → Bool
  | .whiteBalance => s.autoWhiteBalance
  | .exposure => s.autoExposure

/-- What `getProperty` returns is what the stream remembers. -/
theorem reports_iff : s.Reports ↔ ∀ sw, s.stream.remembered sw = sw.get s.register := by
  have hbool (v w : Bool) : (OniStatus.ok, some (if v = true then (1 : Int32) else 0)) =
      (OniStatus.ok, some (if w = true then 1 else 0)) ↔ v = w := by
    cases v <;> cases w <;> decide
  refine forall_congr' fun sw ↦ ?_
  cases sw with
  | whiteBalance => exact hbool _ _
  | exposure => exact hbool _ _

/-- A call that sets: the stream remembers the value for the right switch, and whatever the switch
is, it is the flag of the white balance that is set. -/
theorem setProperty_of_sets (hsets : c.Sets) (stream : ColorStream) (d : SetterDevice) :
    ∃ stream', stream.setProperty d c.answers c.data c.dataSize c.switch.property =
        (stream', statusOf (FreenectDevice.setFlag d .autoWhiteBalance c.value c.answers)) ∧
      ∀ sw, stream'.remembered sw = if c.switch = sw then c.value else stream.remembered sw := by
  have hsize : ¬ c.dataSize ≠ sizeofOniBool := not_not.2 hsets
  cases c.switch
  all_goals
    refine ⟨_, if_neg hsize, fun sw ↦ ?_⟩
    cases sw with
    | whiteBalance => rfl
    | exposure => rfl

/-- A call with a value of another size changes nothing. -/
theorem step_of_not_sets (hsets : ¬ c.Sets) : (s.step c).1 = s := by
  have hproperty : s.stream.setProperty s.device c.answers c.data c.dataSize c.switch.property =
      (s.stream, .pure s.device.camTag .error) := by
    cases c.switch <;> exact if_pos hsets
  rw [SwitchState.step, hproperty]
  rfl

/-- **A step**, with transfers that succeed. -/
theorem step_of_sets (hsets : c.Sets) (hok : s.Succeeds c) :
    (s.step c).1.register =
        (if s.register = 0xFFFF then s.register
          else Switch.whiteBalance.set c.value s.register) ∧
      ∀ sw, (s.step c).1.stream.remembered sw =
        if c.switch = sw then c.value else s.stream.remembered sw := by
  obtain ⟨stream', hproperty, hremembered⟩ := setProperty_of_sets hsets s.stream s.device
  rw [SwitchState.step, hproperty]
  refine ⟨?_, hremembered⟩
  show (statusOf _).sent.foldl _ _ = _
  rw [sent_statusOf]
  exact foldl_cmosAfter_setFlag (f := .autoWhiteBalance) (by decide) hok.res hok.read

/-- Setting the white balance for a switch is setting the switch. -/
theorem whiteBalance_set_eq_iff {value : Bool} :
    Switch.whiteBalance.set value register = sw.set value register ↔
      sw = .whiteBalance ∨ ∀ sw : Switch, sw.get register = value := by
  constructor
  · intro h
    cases sw with
    | whiteBalance => exact Or.inl rfl
    | exposure =>
      -- the two registers agree in both bits, and each call changes one of them
      refine Or.inr fun sw ↦ ?_
      have hget := congrArg sw.get h
      rw [Switch.get_set, Switch.get_set] at hget
      cases sw with
      | whiteBalance => exact hget.symm
      | exposure => exact hget
  · rintro (rfl | h)
    · rfl
    · rw [Switch.set_eq_self_iff.2 (h _), Switch.set_eq_self_iff.2 (h _)]

/-- **The exact condition of a step**: it does what it is for, and `getProperty` keeps reporting
what the register holds. -/
theorem step_iff (hreports : s.Reports) (hok : c.Sets → s.Succeeds c) :
    ((s.step c).1.register = c.apply s.register ∧ (s.step c).1.Reports) ↔ s.Harmless c := by
  by_cases hsets : c.Sets
  swap
  · rw [step_of_not_sets hsets, SwitchCall.apply, if_neg hsets]
    exact iff_of_true ⟨rfl, hreports⟩ fun hsets' ↦ absurd hsets' hsets
  obtain ⟨hregister, hremembered⟩ := step_of_sets hsets (hok hsets)
  rw [SwitchCall.apply, if_pos hsets]
  -- the stream remembers what it should, so it is all about the register
  have hkeep : (s.step c).1.register = c.switch.set c.value s.register →
      (s.step c).1.Reports := by
    intro h
    rw [reports_iff, h]
    intro sw
    rw [hremembered, Switch.get_set, reports_iff.1 hreports]
  rw [and_iff_left_of_imp hkeep, hregister]
  have hharmless : s.Harmless c ↔ match c.switch with
      | .whiteBalance => s.register ≠ 0xFFFF ∨ c.value = true
      | .exposure => ∀ sw : Switch, sw.get s.register = c.value :=
    forall_prop_of_true hsets
  rw [hharmless]
  split
  -- the register holds what stands for an error, so nothing is written: the switches are on and
  -- have to be
  next hmax =>
    rw [eq_comm, Switch.set_eq_self_iff, hmax, Switch.get_max]
    cases c.switch with
    | whiteBalance => exact ⟨fun h ↦ Or.inr h.symm, fun h ↦ (h.resolve_left (not_not.2 rfl)).symm⟩
    | exposure => exact ⟨fun h sw ↦ (Switch.get_max sw).trans h, fun h ↦ h .exposure⟩
  -- the flag of the white balance is set, whatever the switch
  next hmax =>
    rw [whiteBalance_set_eq_iff]
    cases c.switch with
    | whiteBalance => exact iff_of_true (Or.inl rfl) (Or.inl hmax)
    | exposure => exact or_iff_right (by decide)

end Step

/-- **The OpenNI camera switches are independent** in a run whose transfers succeed exactly when the
stream starts out reporting what the register holds, and every call is harmless: one for the white
balance finds a register that does not look like an error, or sets a switch that is on, and one for
the exposure sets a value that both switches have. -/
theorem switches_independent_iff (s : SwitchState) (calls : List SwitchCall)
    (hok : Mealy.Along SwitchState.step (fun s c ↦ c.Sets → s.Succeeds c) s calls) :
    (∀ k, Independent s.register (calls.take k) (Mealy.run SwitchState.step s (calls.take k))) ↔
      s.Reports ∧ Mealy.Along SwitchState.step SwitchState.Harmless s calls := by
  refine (forall_congr' fun k ↦ independent_iff).trans ?_
  refine (Mealy.refines_iff_along SwitchState.register (fun r c ↦ SwitchCall.apply c r)
    SwitchState.Reports).trans (and_congr_right fun hs ↦ ?_)
  refine ((and_iff_right hok).symm.trans Mealy.along_and.symm).trans ?_
  refine Iff.trans ?_ (Mealy.along_and.trans (and_iff_right hok))
  refine Mealy.Along.congr (fun s c hreports ↦ ?_) (fun s c hreports h ↦ ?_) hs calls
  · exact and_congr_right (step_iff hreports)
  · exact ((step_iff hreports h.1).2 h.2).2

/-- A stream that remembers what register `0x2186` holds. -/
def whiteBalanceOn : SwitchState where
  stream := { VideoStream.new with autoWhiteBalance := true, autoExposure := false }
  device := xboxCamera
  register := 0x2186

/-- The camera acknowledges both commands. -/
theorem succeeds_acknowledgedCmos (sw : Switch) (data dataSize : Int32) :
    whiteBalanceOn.Succeeds ⟨sw, data, dataSize, acknowledgedCmos⟩ where
  res := (by decide : (0 : ℤ) ≤ 14)
  read := ⟨_, 6, rfl, ⟨by decide, by decide, by decide, by decide, by decide⟩, by decide, by decide⟩
  write _ := ⟨6, (by decide : (0 : ℤ) ≤ 14), _, rfl, ⟨by decide, by decide, rfl, rfl, by decide⟩⟩

/-- The white balance and the exposure are remembered as they are. -/
theorem reports_whiteBalanceOn : whiteBalanceOn.Reports := by
  intro sw
  cases sw with
  | whiteBalance => decide
  | exposure => decide

/-- The white balance is switched off. -/
theorem switches_independent_whiteBalance :
    Independent 0x2186 [⟨.whiteBalance, 0, 4, acknowledgedCmos⟩]
      (Mealy.run SwitchState.step whiteBalanceOn [⟨.whiteBalance, 0, 4, acknowledgedCmos⟩]) :=
  (switches_independent_iff whiteBalanceOn [⟨.whiteBalance, 0, 4, acknowledgedCmos⟩]
    ⟨fun _ ↦ succeeds_acknowledgedCmos _ _ _, trivial⟩).2
    ⟨reports_whiteBalanceOn, fun _ ↦ Or.inl (by decide), trivial⟩ 1

/-- The exposure is switched on, and the register does not change. -/
theorem switches_not_independent :
    let calls : List SwitchCall := [⟨.exposure, 1, 4, acknowledgedCmos⟩]
    Mealy.Along SwitchState.step (fun s c ↦ c.Sets → s.Succeeds c) whiteBalanceOn calls ∧
      whiteBalanceOn.Reports ∧
      ¬ Independent 0x2186 calls (Mealy.run SwitchState.step whiteBalanceOn calls) := by
  refine ⟨⟨fun _ ↦ succeeds_acknowledgedCmos _ _ _, trivial⟩, reports_whiteBalanceOn, fun h ↦ ?_⟩
  exact absurd (h.switches .exposure) (by decide)

end Freenect
