import Freenect.Registration.Tables

/-!
# The registration data of a recording

`write_device_info` of the recorder and `read_device_info` of the player, over JSON objects as the
vendored parser keeps them: members in the order of insertion, found by name, replaced in place. A
JSON number is a `double`; that the file stores and reloads every number exactly is assumed by
handing the tree from one to the other.

The five fields of `freenect_reg_info` that the mapping does not use are not recorded, so the player
keeps its own (`readDeviceInfo_writeDeviceInfo`).

An object is a list of members, and what is read from it is decided by two equations, for the name
that was set last and for any other (`jsonObjectGetValue_setValue_self`,
`jsonObjectGetValue_setValue_of_ne`). With them as simp lemmas a field is read back by comparing its
name with the names that were set after it, for all fields of a record at once.
-/

namespace Freenect

/-- A JSON value of the two kinds a recording has. -/
inductive Json (D : Type)
  | number (x : D)
  | object (members : List (String × Json D))

/-- A `JSON_Object`. -/
abbrev JsonObject (D : Type) := List (String × Json D)

section Objects

variable {D : Type}

/-- `json_object_get_value`. -/
def jsonObjectGetValue (object : JsonObject D) (name : String) : Option (Json D) :=
  (object.find? fun member ↦ member.1 = name).map Prod.snd

/-- `json_object_set_value`. -/
def jsonObjectSetValue (object : JsonObject D) (name : String) (value : Json D) : JsonObject D :=
  match object with
  | [] => [(name, value)]
  | member :: rest =>
    if member.1 = name then (name, value) :: rest
    else member :: jsonObjectSetValue rest name value

/-- `json_object_set_number`. The number is finite: of another one `json_value_init_number` makes no
value, and the object would stay as it is. -/
def jsonObjectSetNumber (object : JsonObject D) (name : String) (x : D) : JsonObject D :=
  jsonObjectSetValue object name (.number x)

/-- `json_object_get_number`; a member that is not there, or not a number, reads as zero, and so
does any member of a `NULL` object. -/
def jsonObjectGetNumber [IntCast D] (object : Option (JsonObject D)) (name : String) : D :=
  match object.bind fun o ↦ jsonObjectGetValue o name with
  | some (.number x) => x
  | _ => ((0 : ℤ) : D)

/-- `json_object_get_object`. -/
def jsonObjectGetObject (object : Option (JsonObject D)) (name : String) :
    Option (JsonObject D) :=
  match object.bind fun o ↦ jsonObjectGetValue o name with
  | some (.object members) => some members
  | _ => none

/-- A member that was set is found. -/
@[simp] theorem jsonObjectGetValue_setValue_self (object : JsonObject D) (name : String)
    (value : Json D) :
    jsonObjectGetValue (jsonObjectSetValue object name value) name = some value := by
  induction object with
  | nil => simp [jsonObjectSetValue, jsonObjectGetValue]
  | cons member rest ih =>
    by_cases h : member.1 = name
    · simp [jsonObjectSetValue, jsonObjectGetValue, h]
    · rw [jsonObjectSetValue, if_neg h]
      simpa [jsonObjectGetValue, h] using ih

theorem jsonObjectGetValue_setValue_of_ne (object : JsonObject D) {name name' : String}
    (value : Json D) (h : name' ≠ name) :
    jsonObjectGetValue (jsonObjectSetValue object name value) name' =
      jsonObjectGetValue object name' := by
  induction object with
  | nil => simp [jsonObjectSetValue, jsonObjectGetValue, h.symm]
  | cons member rest ih =>
    by_cases hm : member.1 = name
    · simp [jsonObjectSetValue, jsonObjectGetValue, hm, h.symm]
    · rw [jsonObjectSetValue, if_neg hm]
      simp only [jsonObjectGetValue] at ih ⊢
      by_cases hm' : member.1 = name'
      · simp [hm']
      · simpa [hm'] using ih

end Objects

variable {F D : Type} [IntCast D] [FloatConversions F D]

open FloatConversions

/-- The numbers of an `int32_t` field. -/
def ofInt32 (i : Int32) : D := ((i.toInt : ℤ) : D)

/-- The numbers of a `uint16_t` field. -/
def ofUInt16 (i : UInt16) : D := (((i.toNat : ℕ) : ℤ) : D)

/-- The object `reg_info` before its two nested objects are added. -/
def writeRegInfo (r : RegInfo) : JsonObject D :=
  let reg_info : JsonObject D := []
  let reg_info := jsonObjectSetNumber reg_info "ax" (ofInt32 r.ax)
  let reg_info := jsonObjectSetNumber reg_info "bx" (ofInt32 r.bx)
  let reg_info := jsonObjectSetNumber reg_info "cx" (ofInt32 r.cx)
  let reg_info := jsonObjectSetNumber reg_info "dx" (ofInt32 r.dx)
  let reg_info := jsonObjectSetNumber reg_info "ay" (ofInt32 r.ay)
  let reg_info := jsonObjectSetNumber reg_info "by" (ofInt32 r.by')
  let reg_info := jsonObjectSetNumber reg_info "cy" (ofInt32 r.cy)
  let reg_info := jsonObjectSetNumber reg_info "dy" (ofInt32 r.dy)
  let reg_info := jsonObjectSetNumber reg_info "dx_start" (ofInt32 r.dxStart)
  let reg_info := jsonObjectSetNumber reg_info "dy_start" (ofInt32 r.dyStart)
  let reg_info := jsonObjectSetNumber reg_info "dx_beta_start" (ofInt32 r.dxBetaStart)
  let reg_info := jsonObjectSetNumber reg_info "dy_beta_start" (ofInt32 r.dyBetaStart)
  let reg_info := jsonObjectSetNumber reg_info "dx_beta_inc" (ofInt32 r.dxBetaInc)
  let reg_info := jsonObjectSetNumber reg_info "dy_beta_inc" (ofInt32 r.dyBetaInc)
  let reg_info := jsonObjectSetNumber reg_info "dxdx_start" (ofInt32 r.dxdxStart)
  let reg_info := jsonObjectSetNumber reg_info "dxdy_start" (ofInt32 r.dxdyStart)
  let reg_info := jsonObjectSetNumber reg_info "dydx_start" (ofInt32 r.dydxStart)
  let reg_info := jsonObjectSetNumber reg_info "dydy_start" (ofInt32 r.dydyStart)
  let reg_info := jsonObjectSetNumber reg_info "dxdxdx_start" (ofInt32 r.dxdxdxStart)
  let reg_info := jsonObjectSetNumber reg_info "dydxdx_start" (ofInt32 r.dydxdxStart)
  let reg_info := jsonObjectSetNumber reg_info "dxdxdy_start" (ofInt32 r.dxdxdyStart)
  let reg_info := jsonObjectSetNumber reg_info "dydxdy_start" (ofInt32 r.dydxdyStart)
  let reg_info := jsonObjectSetNumber reg_info "dydydx_start" (ofInt32 r.dydydxStart)
  jsonObjectSetNumber reg_info "dydydy_start" (ofInt32 r.dydydyStart)

/-- The object `pad_info`. -/
def writePadInfo (p : RegPadInfo) : JsonObject D :=
  let pad_info : JsonObject D := []
  let pad_info := jsonObjectSetNumber pad_info "start_lines" (ofUInt16 p.startLines)
  let pad_info := jsonObjectSetNumber pad_info "end_lines" (ofUInt16 p.endLines)
  jsonObjectSetNumber pad_info "cropping_lines" (ofUInt16 p.croppingLines)

/-- The object `zero_plane_info`. -/
def writeZeroPlaneInfo (z : ZeroPlaneInfo F) : JsonObject D :=
  let zp_info : JsonObject D := []
  let zp_info := jsonObjectSetNumber zp_info "dcmos_emitter_distance" (widen z.dcmosEmitterDist)
  let zp_info := jsonObjectSetNumber zp_info "dcmos_rcmos_distance" (widen z.dcmosRcmosDist)
  let zp_info := jsonObjectSetNumber zp_info "reference_distance" (widen z.referenceDistance)
  jsonObjectSetNumber zp_info "reference_pixel_size" (widen z.referencePixelSize)

/-- `write_device_info`. Nested objects are filled through their pointers in the source; here they
are complete when they are set. -/
def writeDeviceInfo (reg : RegistrationData F D) : JsonObject D :=
  let reg_info := writeRegInfo reg.regInfo
  let reg_info := jsonObjectSetValue reg_info "pad_info" (.object (writePadInfo reg.regPadInfo))
  let reg_info := jsonObjectSetValue reg_info "zero_plane_info"
    (.object (writeZeroPlaneInfo reg.zeroPlaneInfo))
  let dev_js := jsonObjectSetValue [] "reg_info" (.object reg_info)
  jsonObjectSetNumber dev_js "const_shift" reg.constShift

/-- The part of `read_device_info` that fills `reg_info`. -/
def readRegInfo (F : Type) {D : Type} [IntCast D] [FloatConversions F D] (old : RegInfo)
    (reg_info : Option (JsonObject D)) : RegInfo :=
  let field name := toInt32 F (jsonObjectGetNumber reg_info name)
  { old with
    ax := field "ax"
    bx := field "bx"
    cx := field "cx"
    dx := field "dx"
    ay := field "ay"
    by' := field "by"
    cy := field "cy"
    dy := field "dy"
    dxStart := field "dx_start"
    dyStart := field "dy_start"
    dxBetaStart := field "dx_beta_start"
    dyBetaStart := field "dy_beta_start"
    dxBetaInc := field "dx_beta_inc"
    dyBetaInc := field "dy_beta_inc"
    dxdxStart := field "dxdx_start"
    dxdyStart := field "dxdy_start"
    dydxStart := field "dydx_start"
    dydyStart := field "dydy_start"
    dxdxdxStart := field "dxdxdx_start"
    dydxdxStart := field "dydxdx_start"
    dxdxdyStart := field "dxdxdy_start"
    dydxdyStart := field "dydxdy_start"
    dydydxStart := field "dydydx_start"
    dydydyStart := field "dydydy_start" }

/-- The part that fills `reg_pad_info`. -/
def readPadInfo (F : Type) {D : Type} [IntCast D] [FloatConversions F D]
    (pad_info : Option (JsonObject D)) : RegPadInfo where
  startLines := toUInt16 F (jsonObjectGetNumber pad_info "start_lines")
  endLines := toUInt16 F (jsonObjectGetNumber pad_info "end_lines")
  croppingLines := toUInt16 F (jsonObjectGetNumber pad_info "cropping_lines")

/-- The part that fills `zero_plane_info`. -/
def readZeroPlaneInfo (zp_info : Option (JsonObject D)) : ZeroPlaneInfo F where
  dcmosEmitterDist := narrow (jsonObjectGetNumber zp_info "dcmos_emitter_distance")
  dcmosRcmosDist := narrow (jsonObjectGetNumber zp_info "dcmos_rcmos_distance")
  referenceDistance := narrow (jsonObjectGetNumber zp_info "reference_distance")
  referencePixelSize := narrow (jsonObjectGetNumber zp_info "reference_pixel_size")

/-- `read_device_info`: the registration data of the player's device, which had `old`. -/
def readDeviceInfo (old : RegistrationData F D) (js : JsonObject D) : RegistrationData F D :=
  let reg_info := jsonObjectGetObject (some js) "reg_info"
  let pad_info := jsonObjectGetObject reg_info "pad_info"
  let zp_info := jsonObjectGetObject reg_info "zero_plane_info"
  { regInfo := readRegInfo F old.regInfo reg_info
    regPadInfo := readPadInfo F pad_info
    zeroPlaneInfo := readZeroPlaneInfo zp_info
    constShift := jsonObjectGetNumber (some js) "const_shift" }

/-! ### The round trip

Each of the three objects, and then the whole. A number goes through a `double` on its way, which
holds every integer of 32 bits. -/

/-- The fields of `r` that are recorded, and those of `old` that are not. -/
def RegInfo.recordedOver (r old : RegInfo) : RegInfo :=
  { r with
    dxCenter := old.dxCenter
    rolloutBlank := old.rolloutBlank
    rolloutSize := old.rolloutSize
    backComp1 := old.backComp1
    backComp2 := old.backComp2 }

/-- A number that was set is read back. -/
theorem getNumber_of_getValue {object : JsonObject D} {name : String} {x : D}
    (h : jsonObjectGetValue object name = some (.number x)) :
    jsonObjectGetNumber (some object) name = x := by
  simp [jsonObjectGetNumber, h]

omit [IntCast D] in
/-- An object that was set is read back. -/
theorem getObject_of_getValue {object members : JsonObject D} {name : String}
    (h : jsonObjectGetValue object name = some (.object members)) :
    jsonObjectGetObject (some object) name = some members := by
  simp [jsonObjectGetObject, h]

/-- The nested objects do not disturb the numbers of `reg_info`. -/
theorem getNumber_setValue_of_ne {object : JsonObject D} {name name' : String} {value : Json D}
    (h : name' ≠ name) :
    jsonObjectGetNumber (some (jsonObjectSetValue object name value)) name' =
      jsonObjectGetNumber (some object) name' := by
  simp [jsonObjectGetNumber, jsonObjectGetValue_setValue_of_ne _ _ h]

/-- What is read after a number was set. -/
theorem getNumber_setNumber {object : JsonObject D} {name name' : String} {x : D} :
    jsonObjectGetNumber (some (jsonObjectSetNumber object name x)) name' =
      if name' = name then x else jsonObjectGetNumber (some object) name' := by
  by_cases h : name' = name
  · subst h
    rw [if_pos rfl]
    exact getNumber_of_getValue (jsonObjectGetValue_setValue_self _ _ _)
  · rw [if_neg h]
    exact getNumber_setValue_of_ne h

/-- An `int32_t` survives the `double`. -/
theorem toInt32_ofInt32 (i : Int32) : toInt32 F (ofInt32 i : D) = i := toInt32_intCast i

theorem toUInt16_ofUInt16 (i : UInt16) : toUInt16 F (ofUInt16 i : D) = i := toUInt16_intCast i

/-- The info comes back but for the five fields. -/
theorem readRegInfo_writeRegInfo (r old : RegInfo) :
    readRegInfo F old (some (writeRegInfo r : JsonObject D)) = r.recordedOver old := by
  simp [readRegInfo, writeRegInfo, getNumber_setNumber, toInt32_ofInt32, RegInfo.recordedOver]

/-- The padding comes back. -/
theorem readPadInfo_writePadInfo (p : RegPadInfo) :
    readPadInfo F (some (writePadInfo p : JsonObject D)) = p := by
  simp [readPadInfo, writePadInfo, getNumber_setNumber, toUInt16_ofUInt16]

/-- The zero plane comes back. -/
theorem readZeroPlaneInfo_writeZeroPlaneInfo (z : ZeroPlaneInfo F) :
    readZeroPlaneInfo (some (writeZeroPlaneInfo z : JsonObject D)) = z := by
  simp [readZeroPlaneInfo, writeZeroPlaneInfo, getNumber_setNumber, narrow_widen]

/-- **The round trip**: the player gets back every field the recorder had, except the five that the
mapping does not use. -/
theorem readDeviceInfo_writeDeviceInfo (old reg : RegistrationData F D) :
    readDeviceInfo old (writeDeviceInfo reg) =
      { reg with regInfo := reg.regInfo.recordedOver old.regInfo } := by
  -- the object `reg_info` as it is written, with the two nested ones
  let withPad : JsonObject D :=
    jsonObjectSetValue (writeRegInfo reg.regInfo) "pad_info" (.object (writePadInfo reg.regPadInfo))
  let regInfo : JsonObject D :=
    jsonObjectSetValue withPad "zero_plane_info" (.object (writeZeroPlaneInfo reg.zeroPlaneInfo))
  have hobject : jsonObjectGetObject (some (writeDeviceInfo reg)) "reg_info" = some regInfo := by
    refine getObject_of_getValue ?_
    rw [writeDeviceInfo, jsonObjectSetNumber, jsonObjectGetValue_setValue_of_ne _ _ (by decide)]
    exact jsonObjectGetValue_setValue_self _ _ _
  have hshift : jsonObjectGetNumber (some (writeDeviceInfo reg)) "const_shift" = reg.constShift :=
    getNumber_of_getValue (jsonObjectGetValue_setValue_self _ _ _)
  have hpad : jsonObjectGetObject (some regInfo) "pad_info" =
      some (writePadInfo reg.regPadInfo) := by
    refine getObject_of_getValue ?_
    rw [jsonObjectGetValue_setValue_of_ne _ _ (by decide)]
    exact jsonObjectGetValue_setValue_self _ _ _
  have hplane : jsonObjectGetObject (some regInfo) "zero_plane_info" =
      some (writeZeroPlaneInfo reg.zeroPlaneInfo) :=
    getObject_of_getValue (jsonObjectGetValue_setValue_self _ _ _)
  have hnumbers : readRegInfo F old.regInfo (some regInfo) =
      readRegInfo F old.regInfo (some (writeRegInfo reg.regInfo : JsonObject D)) := by
    simp [readRegInfo, regInfo, withPad, getNumber_setValue_of_ne]
  rw [readDeviceInfo, hobject, hshift]
  simp only [hpad, hplane, hnumbers, readRegInfo_writeRegInfo, readPadInfo_writePadInfo,
    readZeroPlaneInfo_writeZeroPlaneInfo]

end Freenect
