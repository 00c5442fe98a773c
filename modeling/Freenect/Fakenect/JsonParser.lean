import Freenect.Fakenect.JsonValue

/-!
# The JSON parser

`json_parse_string` and the functions below it. The parser of an array and that of an object are one
loop, over items and over pairs, with the function that adds an item: an object refuses a name that
it has already.

Everything the parser accepts is well formed and nested at most `MAX_NESTING` deep
(`wellFormed_of_parse`), whatever the text.

`parseValue_cases` is the inversion of the parser: if a value is read, then by one of seven arms,
and what the arm has read is said. A property of everything that is parsed is shown with it and with
one invariant of the loop (`parseContainer_invariant`), which carries a property of the items and
one of the text at once. `wellFormed_of_parseValue` is such a proof, by induction on the levels that
are left.
-/

namespace Freenect

open Ascii

variable {D : Type}

/-- `MAX_NESTING`. -/
def maxNesting : ℕ := 2048

/-! ### Leaves

Each of these takes its text from the front and returns what is left. Where the source returns
`NULL`, nothing is returned. -/

/-- `parse_string_value`. -/
def parseStringValue (string : CString) : Option (JsonValue D × CString) := do
  let (s, string) ← getQuotedString string
  return (.string s, string)

/-- `parse_boolean_value`. -/
def parseBooleanValue (string : CString) : Option (JsonValue D × CString) :=
  if trueToken.isPrefixOf string then some (.boolean true, string.drop trueToken.length)
  else if falseToken.isPrefixOf string then some (.boolean false, string.drop falseToken.length)
  else none

/-- `parse_null_value`. -/
def parseNullValue (string : CString) : Option (JsonValue D × CString) :=
  if nullToken.isPrefixOf string then some (.null, string.drop nullToken.length) else none

/-- `is_decimal`: no leading zero, and not hexadecimal. -/
def isDecimal (string : CString) (length : ℕ) : Bool :=
  !(decide (1 < length) && string.head? == some 0x30 && string[1]? != some 0x2E) &&
    !(decide (2 < length) && [0x2D, 0x30].isPrefixOf string && string[2]? != some 0x2E) &&
    (string.take length).all fun c ↦ c != 0x78 && c != 0x58

/-- `json_value_init_number`. -/
def jsonValueInitNumber [JsonNumbers D] (number : D) : Option (JsonValue D) :=
  if JsonNumbers.isFinite number then some (.number number) else none

/-- `parse_number_value`. A minus sign alone is a number to it, zero, that takes no character. -/
def parseNumberValue [JsonNumbers D] (string : CString) : Option (JsonValue D × CString) :=
  match JsonNumbers.strtod string with
  | (number, length, errno) =>
    if errno || !isDecimal string length then none
    else (jsonValueInitNumber number).map fun value ↦ (value, string.drop length)

/-! ### Arrays and objects

The function for one item is an argument, since a value is parsed by a function that is itself built
from these. -/

section Containers

variable {α : Type}

/-- The loop over the items of an array or the pairs of an object. Every round but the last takes a
comma at least. -/
def parseItems (parseItem : CString → Option (α × CString)) (add : List α → α → Option (List α)) :
    ℕ → List α → CString → Option (List α × CString)
  | 0, items, string => some (items, string)
  | fuel + 1, items, string =>
    if string = [] then some (items, string)
    else do
      let (item, string) ← parseItem string
      let items ← add items item
      let string := skipWhitespaces string
      if string.head? = some comma then
        parseItems parseItem add fuel items (skipWhitespaces string.tail)
      else return (items, string)

/-- The common part of `parse_array_value` and `parse_object_value`. Trimming fails for a container
without items. -/
def parseContainer (closing : UInt8) (parseItem : CString → Option (α × CString))
    (add : List α → α → Option (List α)) (string : CString) : Option (List α × CString) :=
  let string := skipWhitespaces string.tail
  if string.head? = some closing then some ([], string.tail)
  else do
    let (items, string) ← parseItems parseItem add string.length [] string
    let string := skipWhitespaces string
    if string.head? = some closing ∧ items ≠ [] then return (items, string.tail) else none

end Containers

/-- `json_array_add`. -/
def jsonArrayAdd (items : List (JsonValue D)) (value : JsonValue D) :
    Option (List (JsonValue D)) :=
  some (items ++ [value])

/-- `json_object_add`. -/
def jsonObjectAdd (members : List (CString × JsonValue D)) (member : CString × JsonValue D) :
    Option (List (CString × JsonValue D)) :=
  if members.any fun m ↦ m.1 = member.1 then none else some (members ++ [member])

/-- The part of the loop of `parse_object_value` that reads a name, a colon and a value. -/
def parsePair (parseItem : CString → Option (JsonValue D × CString)) (string : CString) :
    Option ((CString × JsonValue D) × CString) := do
  let (name, string) ← getQuotedString string
  let string := skipWhitespaces string
  if string.head? = some colon then
    let (value, string) ← parseItem string.tail
    return ((name, value), string)
  else none

/-- `parse_array_value`, when `parseItem` is `parse_value` one level deeper. -/
def parseArrayValue (parseItem : CString → Option (JsonValue D × CString)) (string : CString) :
    Option (JsonValue D × CString) := do
  let (items, string) ← parseContainer rightBracket parseItem jsonArrayAdd string
  return (.array items, string)

/-- `parse_object_value`, when `parseItem` is `parse_value` one level deeper. -/
def parseObjectValue (parseItem : CString → Option (JsonValue D × CString)) (string : CString) :
    Option (JsonValue D × CString) := do
  let (members, string) ← parseContainer rightBrace (parsePair parseItem) jsonObjectAdd string
  return (.object members, string)

/-- `parse_value`. Its argument `nesting` counts up to `MAX_NESTING`; `levels` is how many more
levels there may be, this one included. -/
def parseValue [JsonNumbers D] : ℕ → CString → Option (JsonValue D × CString)
  | 0, _ => none
  | levels + 1, string =>
    let string := skipWhitespaces string
    match string with
    | [] => none
    | c :: _ =>
      if c = leftBrace then parseObjectValue (parseValue levels) string
      else if c = leftBracket then parseArrayValue (parseValue levels) string
      else if c = quote then parseStringValue string
      else if c = 0x66 ∨ c = 0x74 then parseBooleanValue string
      else if c = 0x2D ∨ (0x30 ≤ c ∧ c ≤ 0x39) then parseNumberValue string
      else if c = 0x6E then parseNullValue string
      else none

/-- `json_parse_string`. A byte order mark is skipped, and what follows the value is not read. -/
def jsonParseString [JsonNumbers D] (string : CString) : Option (JsonValue D) :=
  let string := if [0xEF, 0xBB, 0xBF].isPrefixOf string then string.drop 3 else string
  (parseValue (maxNesting + 1) string).map Prod.fst

/-! ### What the loop preserves -/

section Loops

variable {α : Type} {parseItem : CString → Option (α × CString)}
  {add : List α → α → Option (List α)} {string rest : CString} {items items' : List α}

/-- **A property of the items and one of the text carry over the loop.** -/
theorem parseItems_invariant (inv : List α → Prop) (p : α → Prop) (q : CString → Prop)
    (hitem : ∀ string item rest, q string → parseItem string = some (item, rest) → p item ∧ q rest)
    (hadd : ∀ items item items', inv items → p item → add items item = some items' → inv items')
    (hskip : ∀ string, q string → q (skipWhitespaces string))
    (htail : ∀ string, q string → string.head? = some comma → q string.tail) {fuel : ℕ}
    (hinv : inv items) (hq : q string)
    (h : parseItems parseItem add fuel items string = some (items', rest)) :
    inv items' ∧ q rest := by
  induction fuel generalizing items string with
  | zero =>
    obtain ⟨rfl, rfl⟩ := Prod.mk.inj (Option.some.inj h)
    exact ⟨hinv, hq⟩
  | succ fuel ih =>
    rw [parseItems] at h
    split at h
    · obtain ⟨rfl, rfl⟩ := Prod.mk.inj (Option.some.inj h)
      exact ⟨hinv, hq⟩
    · simp only [Option.bind_eq_bind, Option.bind_eq_some_iff] at h
      obtain ⟨⟨item, string'⟩, hparse, items'', hitems, h⟩ := h
      obtain ⟨hp, hq'⟩ := hitem _ _ _ hq hparse
      have hinv' := hadd _ _ _ hinv hp hitems
      split at h
      · rename_i hcomma
        exact ih hinv' (hskip _ (htail _ (hskip _ hq') hcomma)) h
      · obtain ⟨rfl, rfl⟩ := Prod.mk.inj (Option.some.inj h)
        exact ⟨hinv', hskip _ hq'⟩

/-- The same over a whole container. -/
theorem parseContainer_invariant (inv : List α → Prop) (p : α → Prop) (q : CString → Prop)
    {closing : UInt8}
    (hitem : ∀ string item rest, q string → parseItem string = some (item, rest) → p item ∧ q rest)
    (hadd : ∀ items item items', inv items → p item → add items item = some items' → inv items')
    (hskip : ∀ string, q string → q (skipWhitespaces string))
    (htail : ∀ string, q string → string.head? = some comma → q string.tail)
    (hclose : ∀ string, q string → string.head? = some closing → q string.tail)
    (hnil : inv []) (hq : q string.tail)
    (h : parseContainer closing parseItem add string = some (items', rest)) :
    inv items' ∧ q rest := by
  rw [parseContainer] at h
  split at h
  · rename_i hclosed
    obtain ⟨rfl, rfl⟩ := Prod.mk.inj (Option.some.inj h)
    exact ⟨hnil, hclose _ (hskip _ hq) hclosed⟩
  · simp only [Option.bind_eq_bind, Option.bind_eq_some_iff] at h
    obtain ⟨⟨items, string'⟩, hparse, h⟩ := h
    obtain ⟨hinv, hq'⟩ := parseItems_invariant inv p q hitem hadd hskip htail hnil
      (hskip _ hq) hparse
    split at h
    · rename_i hclosed
      obtain ⟨rfl, rfl⟩ := Prod.mk.inj (Option.some.inj h)
      exact ⟨hinv, hclose _ (hskip _ hq') hclosed.1⟩
    · exact absurd h (by simp)

end Loops

/-! ### What is accepted -/

section Accepted

variable [JsonNumbers D] {string rest : CString} {v : JsonValue D} {levels : ℕ}

/-- A text that starts with a token. -/
theorem append_drop_of_isPrefixOf {token : CString} (h : token.isPrefixOf string = true) :
    token ++ string.drop token.length = string :=
  (List.prefix_iff_eq_append.1 (List.isPrefixOf_iff_prefix.1 h))

/-- **What `parse_value` accepts**, one case for each kind of value. -/
theorem parseValue_cases (h : parseValue (levels + 1) string = some (v, rest)) :
    (∃ items, v = .array items ∧ (skipWhitespaces string).head? = some leftBracket ∧
      parseContainer rightBracket (parseValue levels) jsonArrayAdd (skipWhitespaces string) =
        some (items, rest)) ∨
    (∃ members, v = .object members ∧ (skipWhitespaces string).head? = some leftBrace ∧
      parseContainer rightBrace (parsePair (parseValue levels)) jsonObjectAdd
        (skipWhitespaces string) = some (members, rest)) ∨
    (∃ s, v = .string s ∧ getQuotedString (skipWhitespaces string) = some (s, rest)) ∨
    (∃ x length errno, v = .number x ∧ JsonNumbers.isFinite x = true ∧
      JsonNumbers.strtod (skipWhitespaces string) = (x, length, errno) ∧
      rest = (skipWhitespaces string).drop length) ∨
    (v = .boolean true ∧ skipWhitespaces string = trueToken ++ rest) ∨
    (v = .boolean false ∧ skipWhitespaces string = falseToken ++ rest) ∨
    (v = .null ∧ skipWhitespaces string = nullToken ++ rest) := by
  rw [parseValue] at h
  generalize skipWhitespaces string = s at h
  cases s with
  | nil => exact absurd h (by simp)
  | cons c s =>
    simp only at h
    -- the arms of the `switch`, by the first character
    split_ifs at h with hobject harray hstring hboolean hnumber hnull
    · simp only [parseObjectValue, Option.bind_eq_bind, Option.bind_eq_some_iff] at h
      obtain ⟨⟨members, string'⟩, hparse, h⟩ := h
      obtain ⟨rfl, rfl⟩ := Prod.mk.inj (Option.some.inj h)
      exact .inr (.inl ⟨members, rfl, congrArg some hobject, hparse⟩)
    · simp only [parseArrayValue, Option.bind_eq_bind, Option.bind_eq_some_iff] at h
      obtain ⟨⟨items, string'⟩, hparse, h⟩ := h
      obtain ⟨rfl, rfl⟩ := Prod.mk.inj (Option.some.inj h)
      exact .inl ⟨items, rfl, congrArg some harray, hparse⟩
    · simp only [parseStringValue, Option.bind_eq_bind, Option.bind_eq_some_iff] at h
      obtain ⟨⟨s', string'⟩, hparse, h⟩ := h
      obtain ⟨rfl, rfl⟩ := Prod.mk.inj (Option.some.inj h)
      exact .inr (.inr (.inl ⟨s', rfl, hparse⟩))
    · rw [parseBooleanValue] at h
      split_ifs at h with htrue hfalse
      · obtain ⟨rfl, rfl⟩ := Prod.mk.inj (Option.some.inj h)
        exact .inr (.inr (.inr (.inr (.inl ⟨rfl, (append_drop_of_isPrefixOf htrue).symm⟩))))
      · obtain ⟨rfl, rfl⟩ := Prod.mk.inj (Option.some.inj h)
        exact .inr (.inr (.inr (.inr (.inr (.inl
          ⟨rfl, (append_drop_of_isPrefixOf hfalse).symm⟩)))))
    · rw [parseNumberValue] at h
      obtain ⟨x, length, errno, hstrtod⟩ : ∃ (x : D) (length : ℕ) (errno : Bool),
          JsonNumbers.strtod (c :: s) = (x, length, errno) := ⟨_, _, _, rfl⟩
      simp only [hstrtod] at h
      split_ifs at h
      rw [jsonValueInitNumber] at h
      split_ifs at h with hfinite
      · obtain ⟨rfl, rfl⟩ := Prod.mk.inj (Option.some.inj h)
        exact .inr (.inr (.inr (.inl ⟨x, length, errno, rfl, hfinite, hstrtod, rfl⟩)))
      · exact absurd h (by simp)
    · rw [parseNullValue] at h
      split_ifs at h with htoken
      obtain ⟨rfl, rfl⟩ := Prod.mk.inj (Option.some.inj h)
      exact .inr (.inr (.inr (.inr (.inr (.inr ⟨rfl, (append_drop_of_isPrefixOf htoken).symm⟩)))))

/-- Up to the first zero there is none. -/
theorem nulFree_takeWhile (s : CString) : NulFree (s.takeWhile (· ≠ 0)) := fun c hc ↦ by
  simpa using List.mem_takeWhile_imp hc

/-- What is read of a decoded string ends at the first zero. -/
theorem nulFree_of_getQuotedString {s : CString} (h : getQuotedString string = some (s, rest)) :
    NulFree s := by
  simp only [getQuotedString, Option.bind_eq_bind, Option.bind_eq_some_iff, processString,
    Option.map_eq_some_iff] at h
  obtain ⟨rest', -, s', ⟨output, -, rfl⟩, h⟩ := h
  obtain ⟨rfl, -⟩ := Prod.mk.inj (Option.some.inj h)
  exact nulFree_takeWhile output

omit [JsonNumbers D] in
/-- A pair is a name and what `parse_value` accepts. -/
theorem parsePair_cases {parseItem : CString → Option (JsonValue D × CString)}
    {m : CString × JsonValue D} (h : parsePair parseItem string = some (m, rest)) :
    ∃ string', getQuotedString string = some (m.1, string') ∧
      (skipWhitespaces string').head? = some colon ∧
      parseItem (skipWhitespaces string').tail = some (m.2, rest) := by
  simp only [parsePair, Option.bind_eq_bind, Option.bind_eq_some_iff] at h
  obtain ⟨⟨name, string'⟩, hname, h⟩ := h
  split at h
  · rename_i hcolon
    simp only [Option.bind_eq_some_iff] at h
    obtain ⟨⟨value, rest'⟩, hvalue, h⟩ := h
    obtain ⟨rfl, rfl⟩ := Prod.mk.inj (Option.some.inj h)
    exact ⟨string', hname, hcolon, hvalue⟩
  · exact absurd h (by simp)

omit [JsonNumbers D] in
/-- A member is added behind the others, if its name is new. -/
theorem jsonObjectAdd_eq_some {members members' : List (CString × JsonValue D)}
    {m : CString × JsonValue D} (h : jsonObjectAdd members m = some members') :
    m.1 ∉ members.map Prod.fst ∧ members' = members ++ [m] := by
  rw [jsonObjectAdd] at h
  split at h
  · exact absurd h (by simp)
  · rename_i hnot
    refine ⟨fun hmem ↦ hnot ?_, (Option.some.inj h).symm⟩
    obtain ⟨m', hm', heq⟩ := List.mem_map.1 hmem
    exact List.any_eq_true.2 ⟨m', hm', by simpa using heq⟩

omit [JsonNumbers D] in
/-- What `json_object_add` keeps of the members that are there. -/
theorem jsonObjectAdd_nodup {p : CString × JsonValue D → Prop}
    {members members' : List (CString × JsonValue D)} {m : CString × JsonValue D}
    (hmembers : (members.map Prod.fst).Nodup ∧ ∀ m ∈ members, p m) (hm : p m)
    (h : jsonObjectAdd members m = some members') :
    (members'.map Prod.fst).Nodup ∧ ∀ m ∈ members', p m := by
  obtain ⟨hnot, rfl⟩ := jsonObjectAdd_eq_some h
  refine ⟨?_, ?_⟩
  · rw [List.map_append, List.map_singleton, List.nodup_append]
    refine ⟨hmembers.1, by simp, fun name hname name' hname' heq ↦ ?_⟩
    rw [List.mem_singleton] at hname'
    exact hnot (hname' ▸ heq ▸ hname)
  · intro m' hm'
    rcases List.mem_append.1 hm' with hm' | hm'
    · exact hmembers.2 m' hm'
    · rw [List.mem_singleton.1 hm']
      exact hm

/-- **Everything the parser accepts is well formed**, and no deeper than the levels it was given. -/
theorem wellFormed_of_parseValue (h : parseValue levels string = some (v, rest)) :
    v.WellFormed ∧ v.height < levels := by
  induction levels generalizing string v rest with
  | zero => exact absurd h (by simp [parseValue])
  | succ levels ih =>
    rcases parseValue_cases h with ⟨items, rfl, -, hparse⟩ | ⟨members, rfl, -, hparse⟩ |
      ⟨s, rfl, hparse⟩ | ⟨x, length, errno, rfl, hfinite, -⟩ | ⟨rfl, -⟩ | ⟨rfl, -⟩ | ⟨rfl, -⟩
    -- an array: its items were read one level deeper
    · have hitems := (parseContainer_invariant
        (fun items ↦ ∀ v ∈ items, v.WellFormed ∧ v.height < levels)
        (fun v ↦ v.WellFormed ∧ v.height < levels) (fun _ ↦ True)
        (fun _ _ _ _ hitem ↦ ⟨ih hitem, trivial⟩)
        (fun items v items' hitems hv hadd ↦ by
          rw [← Option.some.inj hadd]
          intro w hw
          rcases List.mem_append.1 hw with hw | hw
          · exact hitems w hw
          · exact List.mem_singleton.1 hw ▸ hv)
        (fun _ _ ↦ trivial) (fun _ _ _ ↦ trivial) (fun _ _ _ ↦ trivial)
        (fun _ h ↦ absurd h List.not_mem_nil) trivial hparse).1
      exact ⟨JsonValue.all_array_iff.2 ⟨trivial, fun v hv ↦ (hitems v hv).1⟩,
        JsonValue.height_array_lt_iff.2 fun v hv ↦ (hitems v hv).2⟩
    -- an object: besides, `json_object_add` has kept the names apart
    · obtain ⟨hnames, hmembers⟩ := (parseContainer_invariant
        (fun members ↦ (members.map Prod.fst).Nodup ∧
          ∀ m ∈ members, NulFree m.1 ∧ m.2.WellFormed ∧ m.2.height < levels)
        (fun m ↦ NulFree m.1 ∧ m.2.WellFormed ∧ m.2.height < levels) (fun _ ↦ True)
        (fun _ m _ _ hm ↦ by
          obtain ⟨_, hname, -, hvalue⟩ := parsePair_cases hm
          exact ⟨⟨nulFree_of_getQuotedString hname, ih hvalue⟩, trivial⟩)
        (fun _ _ _ hmembers hm hadd ↦ jsonObjectAdd_nodup hmembers hm hadd)
        (fun _ _ ↦ trivial) (fun _ _ _ ↦ trivial) (fun _ _ _ ↦ trivial)
        ⟨List.nodup_nil, fun _ h ↦ absurd h List.not_mem_nil⟩ trivial hparse).1
      exact ⟨JsonValue.all_object_iff.2
          ⟨⟨hnames, fun m hm ↦ (hmembers m hm).1⟩, fun m hm ↦ (hmembers m hm).2.1⟩,
        JsonValue.height_object_lt_iff.2 fun m hm ↦ (hmembers m hm).2.2⟩
    · exact ⟨JsonValue.all_string_iff.2 (nulFree_of_getQuotedString hparse), Nat.succ_pos _⟩
    · exact ⟨JsonValue.all_number_iff.2 hfinite, Nat.succ_pos _⟩
    · exact ⟨JsonValue.all_boolean_iff.2 trivial, Nat.succ_pos _⟩
    · exact ⟨JsonValue.all_boolean_iff.2 trivial, Nat.succ_pos _⟩
    · exact ⟨JsonValue.all_null_iff.2 trivial, Nat.succ_pos _⟩

end Accepted

end Freenect
