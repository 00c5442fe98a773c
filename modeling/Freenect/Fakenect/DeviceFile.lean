import Freenect.Fakenect.DeviceInfo
import Freenect.Fakenect.JsonRoundTrip

/-!
# The file `device.json`

The recorder writes the registration data as JSON text and the player parses that text. Here the
tree of `DeviceInfo`, whose members are found by name, meets the values of the parser: a tree is
written with the names as C strings (`Json.toValue`), and what `json_object_get_number` and
`json_object_get_object` find in a parsed value is what they find in its tree
(`getNumber_toMembers`, `getObject_toMembers`).

So the data survive the text, not only the tree (`readDeviceFile_writeDeviceFile`), if the C
library stores the numbers.

The proof has two halves, for the file as a text and for what is in it. The text is parsed back to
the value that was written, which is the round trip of the parser and needs that the value is well
formed and its numbers are stored; `Writable` says so of a tree, and setting a member keeps it
(`Writable.setValue`). What is then looked up by name is the same in the value and in the tree, so
the rest is the round trip over the tree.
-/

namespace Freenect

variable {D : Type}

/-! ### Names

The names of the members are string literals of the source. All of them are ASCII, so that their
bytes and their characters correspond. -/

/-- The bytes of a string literal. -/
def literal (s : String) : CString := s.toList.map fun c ↦ UInt8.ofNat c.toNat

/-- The literal with the given bytes. -/
def ofLiteral (s : CString) : String := String.ofList (s.map fun c ↦ Char.ofNat c.toNat)

/-- Characters of one byte, and no terminator among them. -/
def IsName (s : String) : Prop := ∀ c ∈ s.toList, 0 < c.toNat ∧ c.toNat < 256

instance (s : String) : Decidable (IsName s) :=
  List.decidableBAll (fun c : Char ↦ 0 < c.toNat ∧ c.toNat < 256) s.toList

/-- A byte is the code of its character. -/
theorem toNat_charOfNat (c : UInt8) : (Char.ofNat c.toNat).toNat = c.toNat := by
  have hvalid : c.toNat.isValidChar := .inl (lt_trans c.toNat_lt (by decide))
  rw [Char.ofNat, dif_pos hvalid]
  rfl

/-- The bytes of the literal with some bytes are these. -/
@[simp] theorem literal_ofLiteral (s : CString) : literal (ofLiteral s) = s := by
  rw [literal, ofLiteral, String.toList_ofList, List.map_map]
  refine List.map_id'' (fun c ↦ ?_) s
  rw [Function.comp_apply, toNat_charOfNat, UInt8.ofNat_toNat]

/-- A name is the literal of its bytes. -/
theorem ofLiteral_literal {s : String} (h : IsName s) : ofLiteral (literal s) = s := by
  rw [ofLiteral, literal, List.map_map]
  refine (congrArg String.ofList ?_).trans String.ofList_toList
  refine (List.map_congr_left fun c hc ↦ ?_).trans (List.map_id _)
  have hlt := (h c hc).2
  rw [Function.comp_apply, UInt8.toNat_ofNat', Nat.mod_eq_of_lt hlt, Char.ofNat_toNat]
  rfl

/-- Different bytes are different literals. -/
theorem ofLiteral_injective : Function.Injective ofLiteral :=
  Function.LeftInverse.injective literal_ofLiteral

/-- A name is a C string. -/
theorem nulFree_literal {s : String} (h : IsName s) : NulFree (literal s) := by
  intro c hc
  obtain ⟨d, hd, rfl⟩ := List.mem_map.1 hc
  obtain ⟨hpos, hlt⟩ := h d hd
  intro hzero
  have hnat := congrArg UInt8.toNat hzero
  rw [UInt8.toNat_ofNat', Nat.mod_eq_of_lt hlt] at hnat
  exact absurd hnat (by simpa using Nat.ne_of_gt hpos)

/-! ### Trees and values -/

mutual

/-- The value that a tree is in the parser. -/
def Json.toValue : Json D → JsonValue D
  | .number x => .number x
  | .object members => .object (Json.toValues members)

/-- The members of an object, with their names as C strings. -/
def Json.toValues : List (String × Json D) → List (CString × JsonValue D)
  | [] => []
  | (name, value) :: rest => (literal name, Json.toValue value) :: Json.toValues rest

end

namespace JsonValue

mutual

/-- The tree of a value that the player can see, a number or an object. -/
def toTree : JsonValue D → Option (Json D)
  | number x => some (.number x)
  | object members => some (.object (toMembers members))
  | _ => none

/-- The members that the player can see. Of any other member the functions that it calls return what
they return of one that is not there. -/
def toMembers : List (CString × JsonValue D) → JsonObject D
  | [] => []
  | (name, value) :: rest =>
    match toTree value with
    | some js => (ofLiteral name, js) :: toMembers rest
    | none => toMembers rest

end

/-- `json_object`; the functions find nothing in `NULL`, as in an object without members. -/
def toObject : JsonValue D → JsonObject D
  | object members => toMembers members
  | _ => []

/-- `json_object_get_value`. -/
def getValue (members : List (CString × JsonValue D)) (name : CString) : Option (JsonValue D) :=
  (members.find? fun m ↦ m.1 = name).map Prod.snd

/-- `json_object_get_number`. -/
def getNumber [IntCast D] (members : List (CString × JsonValue D)) (name : CString) : D :=
  match getValue members name with
  | some (.number x) => x
  | _ => ((0 : ℤ) : D)

/-- `json_object_get_object`. -/
def getObject (members : List (CString × JsonValue D)) (name : CString) :
    Option (List (CString × JsonValue D)) :=
  match getValue members name with
  | some (.object members) => some members
  | _ => none

/-- Nothing is found under a name that is not there. -/
theorem getValue_toMembers_of_not_mem {members : List (CString × JsonValue D)} {name : CString}
    (h : name ∉ members.map Prod.fst) :
    jsonObjectGetValue (toMembers members) (ofLiteral name) = none := by
  induction members with
  | nil => rfl
  | cons m members ih =>
    rw [List.map_cons, List.mem_cons, not_or] at h
    have hne : ofLiteral m.1 ≠ ofLiteral name := fun heq ↦ h.1 (ofLiteral_injective heq).symm
    rw [toMembers]
    cases toTree m.2 with
    | none => exact ih h.2
    | some js =>
      rw [jsonObjectGetValue, List.find?_cons_of_neg (by simpa using hne)]
      exact ih h.2

/-- **What is found under a name** in a parsed object is what is found in its tree. -/
theorem getValue_toMembers {members : List (CString × JsonValue D)} (name : CString)
    (hnodup : (members.map Prod.fst).Nodup) :
    jsonObjectGetValue (toMembers members) (ofLiteral name) =
      (getValue members name).bind toTree := by
  induction members with
  | nil => rfl
  | cons m members ih =>
    obtain ⟨hnot, hrest⟩ := List.nodup_cons.1 hnodup
    rw [toMembers]
    by_cases hn : m.1 = name
    · subst hn
      have hfound : getValue (m :: members) m.1 = some m.2 := by simp [getValue]
      rw [hfound, Option.bind_some]
      cases toTree m.2 with
      | none => exact getValue_toMembers_of_not_mem hnot
      | some js => simp [jsonObjectGetValue]
    · have hne : ofLiteral m.1 ≠ ofLiteral name := fun heq ↦ hn (ofLiteral_injective heq)
      have hskip : getValue (m :: members) name = getValue members name := by simp [getValue, hn]
      rw [hskip, ← ih hrest]
      cases toTree m.2 with
      | none => rfl
      | some js =>
        rw [jsonObjectGetValue, List.find?_cons_of_neg (by simpa using hne), ← jsonObjectGetValue]

/-- A number is found in the value as it is in the tree. -/
theorem getNumber_toMembers [IntCast D] {members : List (CString × JsonValue D)} (name : CString)
    (hnodup : (members.map Prod.fst).Nodup) :
    jsonObjectGetNumber (some (toMembers members)) (ofLiteral name) = getNumber members name := by
  rw [jsonObjectGetNumber, getNumber, Option.bind_some, getValue_toMembers name hnodup]
  cases getValue members name with
  | none => rfl
  | some v => cases v <;> rfl

theorem getObject_toMembers {members : List (CString × JsonValue D)} (name : CString)
    (hnodup : (members.map Prod.fst).Nodup) :
    jsonObjectGetObject (some (toMembers members)) (ofLiteral name) =
      (getObject members name).map toMembers := by
  rw [jsonObjectGetObject, getObject, Option.bind_some, getValue_toMembers name hnodup]
  cases getValue members name with
  | none => rfl
  | some v => cases v <;> rfl

end JsonValue

/-! ### Trees that can be written

`Writable k` bounds the depth, since the parser has a limit. -/

section Writable

variable [JsonNumbers D]

/-- The C library stores the number, and the interface accepts it. -/
def Storable (x : D) : Prop := JsonNumbers.isFinite x = true ∧ Stored x

/-- A tree of depth at most `k` that a file can hold: distinct names without a terminator, numbers
that are stored. -/
inductive Writable : ℕ → Json D → Prop
  | number {k : ℕ} {x : D} (h : Storable x) : Writable k (.number x)
  | object {k : ℕ} {members : JsonObject D} (hnodup : (members.map Prod.fst).Nodup)
    (hnames : ∀ m ∈ members, IsName m.1) (h : ∀ m ∈ members, Writable k m.2) :
    Writable (k + 1) (.object members)

omit [JsonNumbers D] in
/-- The members of a tree, one by one. -/
theorem toValues_eq_map (members : List (String × Json D)) :
    Json.toValues members = members.map fun m ↦ (literal m.1, Json.toValue m.2) := by
  induction members with
  | nil => rfl
  | cons m members ih => rw [Json.toValues, ih, List.map_cons]

/-- Different names have different bytes. -/
theorem literal_injOn {s t : String} (hs : IsName s) (ht : IsName t) (h : literal s = literal t) :
    s = t := by
  rw [← ofLiteral_literal hs, h, ofLiteral_literal ht]

variable {k : ℕ} {js : Json D}

/-- The value of a tree that can be written meets what the round trip of a text asks for. -/
theorem Writable.wellFormed (h : Writable k js) :
    js.toValue.WellFormed ∧ js.toValue.All JsonValue.IsStored ∧ js.toValue.height < k + 1 := by
  induction h with
  | number h =>
    exact ⟨JsonValue.all_number_iff.2 h.1, JsonValue.all_number_iff.2 h.2, Nat.succ_pos _⟩
  | @object k members hnodup hnames _ ih =>
    rw [Json.toValue, toValues_eq_map]
    have hliteral : ((members.map fun m ↦ (literal m.1, Json.toValue m.2)).map Prod.fst).Nodup := by
      have hfst : (Prod.fst ∘ fun m : String × Json D ↦ (literal m.1, m.2.toValue)) =
          literal ∘ Prod.fst := rfl
      rw [List.map_map, hfst, ← List.map_map]
      refine List.Nodup.map_on (fun s hs t ht heq ↦ ?_) hnodup
      obtain ⟨m, hm, rfl⟩ := List.mem_map.1 hs
      obtain ⟨m', hm', rfl⟩ := List.mem_map.1 ht
      exact literal_injOn (hnames m hm) (hnames m' hm') heq
    refine ⟨JsonValue.all_object_iff.2 ⟨⟨hliteral, ?_⟩, ?_⟩,
      JsonValue.all_object_iff.2 ⟨trivial, ?_⟩, JsonValue.height_object_lt_iff.2 ?_⟩
    · exact List.forall_mem_map.2 fun m hm ↦ nulFree_literal (hnames m hm)
    · exact List.forall_mem_map.2 fun m hm ↦ (ih m hm).1
    · exact List.forall_mem_map.2 fun m hm ↦ (ih m hm).2.1
    · exact List.forall_mem_map.2 fun m hm ↦ (ih m hm).2.2

omit [JsonNumbers D] in
/-- Going to the values and back gives the members. -/
theorem toMembers_map {members : List (String × Json D)} (hnames : ∀ m ∈ members, IsName m.1)
    (h : ∀ m ∈ members, m.2.toValue.toTree = some m.2) :
    JsonValue.toMembers (members.map fun m ↦ (literal m.1, m.2.toValue)) = members := by
  induction members with
  | nil => rfl
  | cons m members ih =>
    obtain ⟨hname, hnames⟩ := List.forall_mem_cons.1 hnames
    obtain ⟨hm, hmembers⟩ := List.forall_mem_cons.1 h
    rw [List.map_cons, JsonValue.toMembers, hm]
    simp only [ofLiteral_literal hname, ih hnames hmembers]

/-- Its tree is what it was made from. -/
theorem Writable.toTree_toValue (h : Writable k js) : js.toValue.toTree = some js := by
  induction h with
  | number h => rfl
  | @object k members hnodup hnames _ ih =>
    rw [Json.toValue, toValues_eq_map, JsonValue.toTree]
    congr 2
    exact toMembers_map hnames ih

/-- Setting a member keeps a tree writable. -/
theorem Writable.setValue {members : JsonObject D} {name : String}
    (h : Writable (k + 1) (.object members)) (hname : IsName name) (hjs : Writable k js) :
    Writable (k + 1) (.object (jsonObjectSetValue members name js)) := by
  obtain ⟨⟩ | ⟨hnodup, hnames, hmembers⟩ := h
  have hmem : ∀ {members : JsonObject D} {m}, m ∈ jsonObjectSetValue members name js →
      m = (name, js) ∨ m ∈ members := by
    intro members m hm
    induction members with
    | nil => exact .inl (List.mem_singleton.1 hm)
    | cons m' members ih =>
      rw [jsonObjectSetValue] at hm
      split at hm
      · rcases List.mem_cons.1 hm with hm | hm
        · exact .inl hm
        · exact .inr (List.mem_cons_of_mem _ hm)
      · rcases List.mem_cons.1 hm with hm | hm
        · exact .inr (hm ▸ List.mem_cons_self)
        · exact (ih hm).imp_right (List.mem_cons_of_mem _)
  -- the names stay distinct, each is a name, and each value can be written
  refine .object ?_ (fun m hm ↦ ?_) fun m hm ↦ ?_
  · induction members with
    | nil => exact List.nodup_singleton name
    | cons m members ih =>
      obtain ⟨hnot, hrest⟩ := List.nodup_cons.1 hnodup
      rw [jsonObjectSetValue]
      split
      · rename_i heq
        exact List.nodup_cons.2 ⟨heq ▸ hnot, hrest⟩
      · rename_i hne
        refine List.nodup_cons.2 ⟨fun hin ↦ ?_,
          ih hrest (fun m hm ↦ hnames m (List.mem_cons_of_mem _ hm))
            fun m hm ↦ hmembers m (List.mem_cons_of_mem _ hm)⟩
        obtain ⟨m', hm', heq⟩ := List.mem_map.1 hin
        rcases hmem hm' with rfl | hm'
        · exact hne heq.symm
        · exact hnot (heq ▸ List.mem_map_of_mem hm')
  · rcases hmem hm with rfl | hm
    · exact hname
    · exact hnames m hm
  · rcases hmem hm with rfl | hm
    · exact hjs
    · exact hmembers m hm

/-- The object without members can be written. -/
theorem Writable.empty : Writable (k + 1) (.object ([] : JsonObject D)) :=
  .object List.nodup_nil (fun _ h ↦ absurd h List.not_mem_nil) fun _ h ↦ absurd h List.not_mem_nil

/-- Setting a number keeps a tree writable, if the number is stored. -/
theorem Writable.setNumber {members : JsonObject D} {name : String} {x : D}
    (h : Writable (k + 1) (.object members)) (hname : IsName name) (hx : Storable x) :
    Writable (k + 1) (.object (jsonObjectSetNumber members name x)) :=
  h.setValue hname (.number hx)

end Writable

/-! ### The file

The text that the recorder writes, and what the player makes of it. -/

section File

variable {F : Type} [IntCast D] [FloatConversions F D] [JsonNumbers D]

open FloatConversions

/-- The text that `write_device_info` stores. -/
def writeDeviceFile (reg : RegistrationData F D) : CString :=
  JsonValue.jsonSerializeToString true (Json.toValue (.object (writeDeviceInfo reg)))

/-- `read_device_info`, from the text of the file: data that cannot be parsed leave the device as it
is. -/
def readDeviceFile (old : RegistrationData F D) (text : CString) : RegistrationData F D :=
  match (jsonParseString text : Option (JsonValue D)) with
  | none => old
  | some js => readDeviceInfo old js.toObject

/-- The C library stores the integers of the fields, and the numbers that the data have besides. -/
structure NumbersStored (reg : RegistrationData F D) : Prop where
  int32 : ∀ i : Int32, Storable (ofInt32 i : D)
  uint16 : ∀ i : UInt16, Storable (ofUInt16 i : D)
  dcmosEmitterDist : Storable (widen reg.zeroPlaneInfo.dcmosEmitterDist : D)
  dcmosRcmosDist : Storable (widen reg.zeroPlaneInfo.dcmosRcmosDist : D)
  referenceDistance : Storable (widen reg.zeroPlaneInfo.referenceDistance : D)
  referencePixelSize : Storable (widen reg.zeroPlaneInfo.referencePixelSize : D)
  constShift : Storable reg.constShift

/-- The object `reg_info` can be written. -/
theorem writable_writeRegInfo {k : ℕ} (h : ∀ i : Int32, Storable (ofInt32 i : D)) (r : RegInfo) :
    Writable (k + 1) (.object (writeRegInfo r : JsonObject D)) := by
  simp only [writeRegInfo]
  iterate 24 refine Writable.setNumber ?_ (by decide) (h _)
  exact Writable.empty

theorem writable_writePadInfo {k : ℕ} (h : ∀ i : UInt16, Storable (ofUInt16 i : D))
    (p : RegPadInfo) : Writable (k + 1) (.object (writePadInfo p : JsonObject D)) :=
  ((Writable.empty.setNumber (by decide) (h _)).setNumber (by decide) (h _)).setNumber (by decide)
    (h _)

variable {reg : RegistrationData F D}

theorem writable_writeZeroPlaneInfo {k : ℕ} (h : NumbersStored reg) :
    Writable (k + 1) (.object (writeZeroPlaneInfo reg.zeroPlaneInfo : JsonObject D)) :=
  (((Writable.empty.setNumber (by decide) h.dcmosEmitterDist).setNumber (by decide)
    h.dcmosRcmosDist).setNumber (by decide) h.referenceDistance).setNumber (by decide)
    h.referencePixelSize

/-- The whole can be written. -/
theorem writable_writeDeviceInfo (h : NumbersStored reg) :
    Writable 3 (.object (writeDeviceInfo reg)) := by
  have hpad := (writable_writeRegInfo (k := 1) h.int32 reg.regInfo).setValue
    (show IsName "pad_info" by decide) (writable_writePadInfo h.uint16 reg.regPadInfo)
  have hplane := hpad.setValue (show IsName "zero_plane_info" by decide)
    (writable_writeZeroPlaneInfo h)
  exact (Writable.empty.setValue (by decide) hplane).setNumber (by decide) h.constShift

/-- What the player parses is the object that the recorder made. -/
theorem jsonParseString_writeDeviceFile (h : NumbersStored reg) :
    jsonParseString (writeDeviceFile reg) =
      some (Json.toValue (.object (writeDeviceInfo reg))) := by
  obtain ⟨hwf, hstored, hheight⟩ := (writable_writeDeviceInfo h).wellFormed
  have hle : (Json.toValue (.object (writeDeviceInfo reg))).height ≤ maxNesting :=
    Nat.le_trans (Nat.lt_succ_iff.1 hheight) (by decide)
  exact JsonValue.jsonParseString_of_height_le true hwf hstored hle

/-- **The text makes no difference** to what the player reads. -/
theorem readDeviceFile_eq (old : RegistrationData F D) (h : NumbersStored reg) :
    readDeviceFile old (writeDeviceFile reg) = readDeviceInfo old (writeDeviceInfo reg) := by
  have htree := (writable_writeDeviceInfo h).toTree_toValue
  rw [Json.toValue, JsonValue.toTree, Option.some.injEq, Json.object.injEq] at htree
  rw [readDeviceFile, jsonParseString_writeDeviceFile h]
  exact congrArg (readDeviceInfo old) htree

/-- **The registration data survive the file**: the player that parses what the recorder wrote gets
every field that is recorded. -/
theorem readDeviceFile_writeDeviceFile (old : RegistrationData F D) (h : NumbersStored reg) :
    readDeviceFile old (writeDeviceFile reg) =
      { reg with regInfo := reg.regInfo.recordedOver old.regInfo } := by
  rw [readDeviceFile_eq old h, readDeviceInfo_writeDeviceInfo]

end File

/-! ### Integers as numbers -/

/-- C's conversions of the integers that a `float` or a `double` holds. -/
instance integerConversions : FloatConversions ℤ ℤ where
  widen x := x
  narrow x := x
  toInt32 x := Int32.ofInt x
  toUInt16 x := UInt16.ofInt x
  narrow_widen _ := rfl
  toInt32_intCast i := Int32.ofInt_toInt i
  toUInt16_intCast i := by
    have hlt : i.toNat < 2 ^ 16 := i.toNat_lt
    have hmod : ((i.toNat : ℤ) % 2 ^ 16).toNat = i.toNat := by
      rw [Int.emod_eq_of_lt (Int.natCast_nonneg _) (by exact_mod_cast hlt), Int.toNat_natCast]
    show UInt16.ofInt (i.toNat : ℤ) = i
    rw [UInt16.ofInt, hmod]
    exact UInt16.ofNat_toNat

/-- Every integer is stored. -/
theorem storable_integer (x : ℤ) : Storable x := ⟨rfl, stored_integer x⟩

/-- Data with a different number in every field of `freenect_reg_info`. -/
def sampleRegistration (i : Int32) : RegistrationData ℤ ℤ where
  regInfo := ⟨i, i + 1, i + 2, i + 3, i + 4, i + 5, i + 6, i + 7, i + 8, i + 9, i + 10, i + 11,
    i + 12, i + 13, i + 14, i + 15, i + 16, i + 17, i + 18, i + 19, i + 20, i + 21, i + 22, i + 23,
    i + 24, i + 25, i + 26, i + 27, i + 28⟩
  regPadInfo := ⟨1, 2, 3⟩
  zeroPlaneInfo := ⟨4, 5, 6, 7⟩
  constShift := -8

/-- The data of a recorder in the file, read by a player that had others. -/
theorem readDeviceFile_writeDeviceFile_sample :
    readDeviceFile (sampleRegistration 100) (writeDeviceFile (sampleRegistration (-14))) =
      { sampleRegistration (-14) with
        regInfo := (sampleRegistration (-14)).regInfo.recordedOver
          (sampleRegistration 100).regInfo } :=
  readDeviceFile_writeDeviceFile (sampleRegistration 100)
    ⟨fun _ ↦ storable_integer _, fun _ ↦ storable_integer _, storable_integer _,
      storable_integer _, storable_integer _, storable_integer _, storable_integer _⟩

end Freenect
