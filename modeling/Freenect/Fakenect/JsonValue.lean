import Freenect.Fakenect.JsonString

/-!
# JSON values and their text

The values of the vendored JSON parser and `json_serialize_to_buffer_r`, compact and pretty. How a
`double` is printed and read is the C library's affair, a parameter (`JsonNumbers`).

Members of an object are written in order, but the value of each is looked up by its name again.
Names are distinct in every object that the parser or the interface builds (`WellFormed`), and then
the value found is the member's own (`lookupText_eq`).

A statement about a value and everything inside it is `All p v`, and `JsonValue.induction` is the
induction that goes with it: for an array and an object the hypothesis is about the items and the
values. The nesting of a value is its `height`, which is what the limit of the parser is compared
with; a value with nothing inside it has height 0.
-/

namespace Freenect

open Ascii

/-- `double`, as the C library prints and reads it. -/
class JsonNumbers (D : Type) where
  /-- The characters of `sprintf` with `FLOAT_FORMAT`. -/
  format : D → CString
  /-- `strtod`: the number, how many characters it took and whether `errno` is set. -/
  strtod : CString → D × ℕ × Bool
  /-- Neither infinite nor not a number, the test `number * 0.0 == 0.0`. -/
  isFinite : D → Bool

/-- A `JSON_Value`. -/
inductive JsonValue (D : Type)
  | null
  | boolean (b : Bool)
  | number (x : D)
  | string (s : CString)
  | array (items : List (JsonValue D))
  | object (members : List (CString × JsonValue D))

namespace Ascii

/-- The left square bracket. -/
abbrev leftBracket : UInt8 := 0x5B

/-- The right square bracket. -/
abbrev rightBracket : UInt8 := 0x5D

/-- The left brace. -/
abbrev leftBrace : UInt8 := 0x7B

/-- The right brace. -/
abbrev rightBrace : UInt8 := 0x7D

/-- The line feed. -/
abbrev newline : UInt8 := 0x0A

/-- The blank. -/
abbrev space : UInt8 := 0x20

attribute [simp] leftBracket rightBracket leftBrace rightBrace newline space

/-- `"null"`. -/
def nullToken : CString := [0x6E, 0x75, 0x6C, 0x6C]

/-- `"true"`. -/
def trueToken : CString := [0x74, 0x72, 0x75, 0x65]

/-- `"false"`. -/
def falseToken : CString := [0x66, 0x61, 0x6C, 0x73, 0x65]

end Ascii

/-! ### Writing

The text is built from the inside. A container is its brackets around the texts of its entries, in
lines of their own in the pretty form; `serializeContainer` is that, for arrays and objects alike.
-/

/-- The end of a line, in the pretty form. -/
def appendNewline (isPretty : Bool) : CString := if isPretty then [newline] else []

/-- `append_indent`, in the pretty form. -/
def appendIndent (isPretty : Bool) (level : ℕ) : CString :=
  if isPretty then List.replicate (4 * level) space else []

/-- The loop over the items of an array or the members of an object. -/
def serializeEntries (isPretty : Bool) (level : ℕ) : List CString → CString
  | [] => []
  | entry :: rest =>
    appendIndent isPretty (level + 1) ++ entry ++ (if rest = [] then [] else [comma]) ++
      appendNewline isPretty ++ serializeEntries isPretty level rest

/-- The text of an array or an object whose items or members have the texts `entries`. -/
def serializeContainer (isPretty : Bool) (level : ℕ) (opening closing : UInt8)
    (entries : List CString) : CString :=
  opening :: (if entries = [] then [] else appendNewline isPretty) ++
    serializeEntries isPretty level entries ++
    (if entries = [] then [] else appendIndent isPretty level) ++ [closing]

/-- The text of the value that `json_object_get_value` finds, among the texts of all values. -/
def lookupText (texts : List (CString × CString)) (name : CString) : CString :=
  ((texts.find? fun text ↦ text.1 = name).map Prod.snd).getD []

/-- The text of a member. -/
def serializeMember (isPretty : Bool) (name text : CString) : CString :=
  jsonSerializeString name ++ colon :: (if isPretty then [space] else []) ++ text

namespace JsonValue

variable {D : Type}

section Serialize

variable [JsonNumbers D]

mutual

/-- `json_serialize_to_buffer_r`. -/
def serialize (isPretty : Bool) (level : ℕ) : JsonValue D → CString
  | array items =>
    serializeContainer isPretty level leftBracket rightBracket
      (serializeItems isPretty (level + 1) items)
  | object members =>
    let texts := serializeMembers isPretty (level + 1) members
    serializeContainer isPretty level leftBrace rightBrace
      (texts.map fun text ↦ serializeMember isPretty text.1 (lookupText texts text.1))
  | string s => jsonSerializeString s
  | boolean b => if b then trueToken else falseToken
  | number x => JsonNumbers.format x
  | null => nullToken

/-- The texts of the items of an array. -/
def serializeItems (isPretty : Bool) (level : ℕ) : List (JsonValue D) → List CString
  | [] => []
  | value :: rest => serialize isPretty level value :: serializeItems isPretty level rest

/-- The names of the members of an object, each with the text of its value. -/
def serializeMembers (isPretty : Bool) (level : ℕ) :
    List (CString × JsonValue D) → List (CString × CString)
  | [] => []
  | (name, value) :: rest =>
    (name, serialize isPretty level value) :: serializeMembers isPretty level rest

end

/-- The items are written one by one. -/
theorem serializeItems_eq_map (isPretty : Bool) (level : ℕ) (items : List (JsonValue D)) :
    serializeItems isPretty level items = items.map (serialize isPretty level) := by
  induction items with
  | nil => rfl
  | cons value rest ih => rw [serializeItems, ih, List.map_cons]

theorem serializeMembers_eq_map (isPretty : Bool) (level : ℕ)
    (members : List (CString × JsonValue D)) :
    serializeMembers isPretty level members =
      members.map fun m ↦ (m.1, serialize isPretty level m.2) := by
  induction members with
  | nil => rfl
  | cons m rest ih => rw [serializeMembers, ih, List.map_cons]

end Serialize

/-- `json_serialize_to_string`, and `json_serialize_to_string_pretty`. -/
def jsonSerializeToString [JsonNumbers D] (isPretty : Bool) (value : JsonValue D) : CString :=
  serialize isPretty 0 value

/-! ### Values inside a value -/

/-- `w` is `v` or inside it. -/
inductive Inside (w : JsonValue D) : JsonValue D → Prop
  | self : Inside w w
  | item {items : List (JsonValue D)} {v : JsonValue D} (hv : v ∈ items) (h : Inside w v) :
    Inside w (array items)
  | member {members : List (CString × JsonValue D)} {m : CString × JsonValue D} (hm : m ∈ members)
    (h : Inside w m.2) : Inside w (object members)

/-- `p` holds of a value and of everything inside it. -/
def All (p : JsonValue D → Prop) (v : JsonValue D) : Prop := ∀ w, Inside w v → p w

section All

variable {p : JsonValue D → Prop}

/-- What holds of an array and all inside it. -/
theorem all_array_iff {items : List (JsonValue D)} :
    All p (array items) ↔ p (array items) ∧ ∀ v ∈ items, All p v := by
  constructor
  · exact fun h ↦ ⟨h _ .self, fun v hv w hw ↦ h w (.item hv hw)⟩
  · rintro ⟨hself, hitems⟩ w hw
    cases hw with
    | self => exact hself
    | item hv h => exact hitems _ hv w h

/-- The same for an object: its names are part of it, its values are inside it. -/
theorem all_object_iff {members : List (CString × JsonValue D)} :
    All p (object members) ↔ p (object members) ∧ ∀ m ∈ members, All p m.2 := by
  constructor
  · exact fun h ↦ ⟨h _ .self, fun m hm w hw ↦ h w (.member hm hw)⟩
  · rintro ⟨hself, hmembers⟩ w hw
    cases hw with
    | self => exact hself
    | member hm h => exact hmembers _ hm w h

theorem all_null_iff : All p null ↔ p null :=
  ⟨fun h ↦ h _ .self, fun h w hw ↦ by cases hw; exact h⟩

theorem all_boolean_iff {b : Bool} : All p (boolean b) ↔ p (boolean b) :=
  ⟨fun h ↦ h _ .self, fun h w hw ↦ by cases hw; exact h⟩

theorem all_number_iff {x : D} : All p (number x) ↔ p (number x) :=
  ⟨fun h ↦ h _ .self, fun h w hw ↦ by cases hw; exact h⟩

theorem all_string_iff {s : CString} : All p (string s) ↔ p (string s) :=
  ⟨fun h ↦ h _ .self, fun h w hw ↦ by cases hw; exact h⟩

/-- It holds of the value itself. -/
theorem All.self {v : JsonValue D} (h : All p v) : p v := h v .self

end All

/-- Induction over the values inside a value. -/
@[elab_as_elim]
theorem induction {p : JsonValue D → Prop} (hnull : p null) (hboolean : ∀ b, p (boolean b))
    (hnumber : ∀ x, p (number x)) (hstring : ∀ s, p (string s))
    (harray : ∀ items, (∀ v ∈ items, p v) → p (array items))
    (hobject : ∀ members, (∀ m ∈ members, p (Prod.snd m)) → p (object members)) (v : JsonValue D) :
    p v := by
  refine @JsonValue.rec D p (fun items ↦ ∀ v ∈ items, p v)
    (fun members ↦ ∀ m ∈ members, p (Prod.snd m)) (fun m ↦ p m.2) hnull hboolean hnumber
    hstring harray hobject ?_ ?_ ?_ ?_ ?_ v
  · exact fun _ h ↦ absurd h List.not_mem_nil
  · exact fun _ _ h ih ↦ List.forall_mem_cons.2 ⟨h, ih⟩
  · exact fun _ h ↦ absurd h List.not_mem_nil
  · exact fun _ _ h ih ↦ List.forall_mem_cons.2 ⟨h, ih⟩
  · exact fun _ _ h ↦ h

/-! ### Nesting -/

mutual

/-- How many arrays and objects are around the most deeply nested value. -/
def height : JsonValue D → ℕ
  | array items => heightItems items
  | object members => heightMembers members
  | _ => 0

/-- The height of an array. -/
def heightItems : List (JsonValue D) → ℕ
  | [] => 0
  | value :: rest => max (height value + 1) (heightItems rest)

/-- The height of an object. -/
def heightMembers : List (CString × JsonValue D) → ℕ
  | [] => 0
  | (_, value) :: rest => max (height value + 1) (heightMembers rest)

end

/-- An array is one level around its items. -/
theorem height_array_lt_iff {items : List (JsonValue D)} {n : ℕ} :
    (array items).height < n + 1 ↔ ∀ v ∈ items, v.height < n := by
  rw [height]
  induction items with
  | nil => simp [heightItems]
  | cons v items ih =>
    rw [heightItems, Nat.max_lt, ih, List.forall_mem_cons, Nat.add_lt_add_iff_right]

/-- An object is one level around its values. -/
theorem height_object_lt_iff {members : List (CString × JsonValue D)} {n : ℕ} :
    (object members).height < n + 1 ↔ ∀ m ∈ members, m.2.height < n := by
  rw [height]
  induction members with
  | nil => simp [heightMembers]
  | cons m members ih =>
    rw [heightMembers, Nat.max_lt, ih, List.forall_mem_cons, Nat.add_lt_add_iff_right]

/-! ### Well-formed values -/

variable [JsonNumbers D]

/-- What the interface and the parser guarantee of one value: strings and names are C strings, the
names of an object are distinct, numbers are finite. -/
def IsWellFormed : JsonValue D → Prop
  | number x => JsonNumbers.isFinite x = true
  | string s => NulFree s
  | object members => (members.map Prod.fst).Nodup ∧ ∀ m ∈ members, NulFree m.1
  | _ => True

/-- A tree that the interface and the parser build. -/
def WellFormed (v : JsonValue D) : Prop := v.All IsWellFormed

end JsonValue

/-- With distinct names, the text found under a name is the member's own. -/
theorem lookupText_eq {texts : List (CString × CString)} (h : (texts.map Prod.fst).Nodup)
    {text : CString × CString} (ht : text ∈ texts) : lookupText texts text.1 = text.2 := by
  induction texts with
  | nil => exact absurd ht List.not_mem_nil
  | cons head texts ih =>
    obtain ⟨hnot, hrest⟩ := List.nodup_cons.1 h
    rcases List.mem_cons.1 ht with rfl | ht
    · simp [lookupText]
    · have hne : head.1 ≠ text.1 := fun heq ↦ hnot (heq ▸ List.mem_map_of_mem ht)
      simpa [lookupText, hne] using ih hrest ht

end Freenect
