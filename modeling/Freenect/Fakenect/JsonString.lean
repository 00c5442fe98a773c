import Freenect.Library.Decimal
import Mathlib.Data.List.TakeWhile

/-!
# The strings of a JSON text

How the vendored JSON parser finds, decodes and writes a quoted string. A text is what a `char *`
points to, up to the terminator: a list of bytes without a zero, the empty list at the terminator.

A string is read in two passes: `skip_quotes` finds the closing quote, then `process_string` decodes
what stands between the quotes. What is written for a string is read back as that string
(`getQuotedString_append`), whatever follows it.

The two passes are brought together character by character. Whatever `json_serialize_string` writes
for one character is either that character, which is neither a quote nor a backslash, or an escape
(`escape_cases`); the first pass steps over it without stopping (`skipToQuote_escape`) and one round
of the second decodes it (`processChar_escape`). The two inductions are over the string.
-/

namespace Freenect

/-- What a `char *` points to, up to the terminator. -/
abbrev CString := List UInt8

/-! ### Characters -/

namespace Ascii

/-- The double quote, `"`. -/
abbrev quote : UInt8 := 0x22

/-- The comma. -/
abbrev comma : UInt8 := 0x2C

/-- The solidus, `/`. -/
abbrev slash : UInt8 := 0x2F

/-- The colon. -/
abbrev colon : UInt8 := 0x3A

/-- The reverse solidus, which starts an escape. -/
abbrev backslash : UInt8 := 0x5C

/-- The letter `u` of a `\u` escape. -/
abbrev u : UInt8 := 0x75

attribute [simp] quote comma slash colon backslash u

end Ascii

open Ascii

/-- `isspace`: blank, and tabulator to carriage return. -/
def isspace (c : UInt8) : Bool := c = 0x20 || (0x09 ≤ c && c ≤ 0x0D)

/-- `SKIP_WHITESPACES`. -/
def skipWhitespaces (string : CString) : CString := string.dropWhile isspace

/-! ### Reading

The pointers of the source are the part of the text that is left. A position behind a failed read is
not modelled, since the parser gives up there. -/

/-- The loop of `skip_quotes`: what follows the closing quote. A backslash hides the character after
it. -/
def skipToQuote : CString → Option CString
  | [] => none
  | c :: rest =>
    if c = quote then some rest
    else if c = backslash then
      match rest with
      | [] => none
      | _ :: rest => skipToQuote rest
    else skipToQuote rest

/-- `skip_quotes`. -/
def skipQuotes : CString → Option CString
  | [] => none
  | c :: rest => if c = quote then skipToQuote rest else none

/-- `hex_char_to_int`; `none` is its `-1`. -/
def hexCharToInt (c : UInt8) : Option UInt32 :=
  if 0x30 ≤ c ∧ c ≤ 0x39 then some (c - 0x30).toUInt32
  else if 0x61 ≤ c ∧ c ≤ 0x66 then some (c - 0x61 + 10).toUInt32
  else if 0x41 ≤ c ∧ c ≤ 0x46 then some (c - 0x41 + 10).toUInt32
  else none

/-- `parse_utf16_hex`: the number of the next four characters. -/
def parseUtf16Hex : CString → Option UInt32
  | c₁ :: c₂ :: c₃ :: c₄ :: _ => do
    let x₁ ← hexCharToInt c₁
    let x₂ ← hexCharToInt c₂
    let x₃ ← hexCharToInt c₃
    let x₄ ← hexCharToInt c₄
    return x₁ <<< 12 ||| x₂ <<< 8 ||| x₃ <<< 4 ||| x₄
  | _ => none

/-- The bytes that `parse_utf16` stores for a code point below `0x10000`. -/
def storeCodePoint (cp : UInt32) : CString :=
  if cp < 0x80 then [cp.toUInt8]
  else if cp < 0x800 then
    [((cp >>> 6) &&& 0x1F ||| 0xC0).toUInt8, (cp &&& 0x3F ||| 0x80).toUInt8]
  else
    [((cp >>> 12) &&& 0x0F ||| 0xE0).toUInt8, ((cp >>> 6) &&& 0x3F ||| 0x80).toUInt8,
      (cp &&& 0x3F ||| 0x80).toUInt8]

/-- The bytes that it stores for a pair of surrogates. -/
def storePair (lead trail : UInt32) : CString :=
  let cp := (((lead - 0xD800) &&& 0x3FF) <<< 10 ||| ((trail - 0xDC00) &&& 0x3FF)) + 0x10000
  [((cp >>> 18) &&& 0x07 ||| 0xF0).toUInt8, ((cp >>> 12) &&& 0x3F ||| 0x80).toUInt8,
    ((cp >>> 6) &&& 0x3F ||| 0x80).toUInt8, (cp &&& 0x3F ||| 0x80).toUInt8]

/-- `parse_utf16`, from the `u` of an escape: the bytes stored and what follows the escape. The
source leaves both of its pointers on the last character, and its caller advances them. -/
def parseUtf16 (unprocessed : CString) : Option (CString × CString) := do
  let unprocessed := unprocessed.tail
  let cp ← parseUtf16Hex unprocessed
  if cp < 0xD800 ∨ 0xDFFF < cp then
    return (storeCodePoint cp, unprocessed.drop 4)
  else if cp ≤ 0xDBFF then
    match unprocessed.drop 4 with
    | c :: d :: unprocessed =>
      if c = backslash ∧ d = u then
        let trail ← parseUtf16Hex unprocessed
        if trail < 0xDC00 ∨ 0xDFFF < trail then none
        else return (storePair cp trail, unprocessed.drop 4)
      else none
    | _ => none
  else none

/-- The letter of a two-character escape and the character that it stands for. -/
def unescape (c : UInt8) : Option UInt8 :=
  if c = quote then some quote
  else if c = backslash then some backslash
  else if c = slash then some slash
  else if c = 0x62 then some 0x08
  else if c = 0x66 then some 0x0C
  else if c = 0x6E then some 0x0A
  else if c = 0x72 then some 0x0D
  else if c = 0x74 then some 0x09
  else none

/-- One round of the loop of `process_string`: the bytes put out and what is left. -/
def processChar : CString → Option (CString × CString)
  | [] => none
  | c :: rest =>
    if c = backslash then
      if rest.head? = some u then parseUtf16 rest
      else do
        let d ← rest.head?
        let e ← unescape d
        return ([e], rest.tail)
    else if c < 0x20 then none
    else some ([c], rest)

/-- The loop of `process_string`. The pointer is inside the string as long as more than `stop`
characters are left; every round takes at least one of them. -/
def processLoop (stop : ℕ) : ℕ → CString → Option CString
  | 0, _ => some []
  | fuel + 1, input =>
    if input = [] ∨ input.length ≤ stop then some []
    else do
      let (output, input) ← processChar input
      let more ← processLoop stop fuel input
      return output ++ more

/-- `process_string`. What is read of the result ends at the first zero, which `\u0000` stores. -/
def processString (input : CString) (len : ℕ) : Option CString :=
  (processLoop (input.length - len) len input).map (List.takeWhile (· ≠ 0))

/-- `get_quoted_string`: the string and what follows its closing quote. -/
def getQuotedString (string : CString) : Option (CString × CString) := do
  let rest ← skipQuotes string
  let output ← processString string.tail (string.length - rest.length - 2)
  return (output, rest)

/-! ### Writing -/

/-- A lower-case hexadecimal digit. -/
def hexDigit (n : UInt8) : UInt8 := if n < 10 then 0x30 + n else 0x57 + n

/-- What `json_serialize_string` writes for a character: the two-character escapes, `\u00..` for the
other control characters. -/
def escape (c : UInt8) : CString :=
  if c = quote then [backslash, quote]
  else if c = backslash then [backslash, backslash]
  else if c = slash then [backslash, slash]
  else if c = 0x08 then [backslash, 0x62]
  else if c = 0x0C then [backslash, 0x66]
  else if c = 0x0A then [backslash, 0x6E]
  else if c = 0x0D then [backslash, 0x72]
  else if c = 0x09 then [backslash, 0x74]
  else if c < 0x20 then [backslash, u, 0x30, 0x30, hexDigit (c / 16), hexDigit (c % 16)]
  else [c]

/-- `json_serialize_string`. -/
def jsonSerializeString (string : CString) : CString :=
  quote :: string.flatMap escape ++ [quote]

/-! ### The round trip

A string is one that has no zero in it; behind a `\u0000` nothing of a decoded string can be seen.
-/

/-- A string without a zero byte, as every C string is. -/
def NulFree (string : CString) : Prop := ∀ c ∈ string, c ≠ 0

instance (string : CString) : Decidable (NulFree string) :=
  List.decidableBAll (fun c : UInt8 ↦ c ≠ 0) string

variable {c : UInt8} {string rest input : CString} {stop fuel : ℕ}

/-- A quote ends the string. -/
theorem skipToQuote_quote : skipToQuote (quote :: rest) = some rest := by
  rw [skipToQuote.eq_def]
  simp only [if_pos]

/-- A backslash hides what follows it. -/
theorem skipToQuote_backslash : skipToQuote (backslash :: c :: rest) = skipToQuote rest := rfl

/-- Any other character is passed over. -/
theorem skipToQuote_cons (hq : c ≠ quote) (hb : c ≠ backslash) :
    skipToQuote (c :: rest) = skipToQuote rest := by
  rw [skipToQuote.eq_def]
  simp only [if_neg hq, if_neg hb]

/-- What is written for a character: itself, or an escape that the loop decodes. -/
theorem escape_cases (c : UInt8) :
    (escape c = [c] ∧ c ≠ quote ∧ c ≠ backslash ∧ ¬c < 0x20) ∨
    (∃ d, escape c = [backslash, d] ∧ d ≠ u ∧ unescape d = some c) ∨
    (c < 0x20 ∧ escape c = [backslash, u, 0x30, 0x30, hexDigit (c / 16), hexDigit (c % 16)]) := by
  rw [escape]
  split_ifs with h₁ h₂ h₃ h₄ h₅ h₆ h₇ h₈ h₉
  · exact .inr (.inl ⟨_, rfl, by decide, by subst h₁; decide⟩)
  · exact .inr (.inl ⟨_, rfl, by decide, by subst h₂; decide⟩)
  · exact .inr (.inl ⟨_, rfl, by decide, by subst h₃; decide⟩)
  · exact .inr (.inl ⟨_, rfl, by decide, by subst h₄; decide⟩)
  · exact .inr (.inl ⟨_, rfl, by decide, by subst h₅; decide⟩)
  · exact .inr (.inl ⟨_, rfl, by decide, by subst h₆; decide⟩)
  · exact .inr (.inl ⟨_, rfl, by decide, by subst h₇; decide⟩)
  · exact .inr (.inl ⟨_, rfl, by decide, by subst h₈; decide⟩)
  · exact .inr (.inr ⟨h₉, rfl⟩)
  · exact .inl ⟨rfl, h₁, h₂, h₉⟩

/-- White space in numbers. -/
theorem isspace_iff : isspace c = true ↔ c.toNat = 0x20 ∨ (0x09 ≤ c.toNat ∧ c.toNat ≤ 0x0D) := by
  simp only [isspace, Bool.or_eq_true, Bool.and_eq_true, decide_eq_true_eq, UInt8.le_iff_toNat_le,
    ← UInt8.toNat_inj, UInt8.reduceToNat]

/-- A digit is no white space. -/
theorem isspace_of_isDigit (h : Decimal.isDigit c = true) : isspace c = false := by
  rw [Decimal.isDigit_iff] at h
  refine Bool.eq_false_of_not_eq_true fun hspace ↦ ?_
  rw [isspace_iff] at hspace
  omega

/-- A digit is read back, and is no mark. -/
theorem hexCharToInt_hexDigit {d : UInt8} (h : d < 16) :
    hexCharToInt (hexDigit d) = some d.toUInt32 ∧ hexDigit d ≠ quote ∧ hexDigit d ≠ backslash := by
  have hall : ∀ n : Fin 16,
      hexCharToInt (hexDigit (UInt8.ofNat n)) = some (UInt8.ofNat n).toUInt32 ∧
        hexDigit (UInt8.ofNat n) ≠ quote ∧ hexDigit (UInt8.ofNat n) ≠ backslash := by
    decide
  have hd := hall ⟨d.toNat, UInt8.lt_iff_toNat_lt.1 h⟩
  rwa [UInt8.ofNat_toNat] at hd

/-- The two digits of a byte. -/
theorem halves_lt (c : UInt8) : c / 16 < 16 ∧ c % 16 < 16 := by
  have hlt : c.toNat < 2 ^ 8 := c.toNat_lt
  simp only [UInt8.lt_iff_toNat_lt, UInt8.toNat_div, UInt8.toNat_mod, UInt8.reduceToNat]
  omega

/-- They make up the byte. -/
theorem or_halves (c : UInt8) : (c / 16).toUInt32 <<< 4 ||| (c % 16).toUInt32 = c.toUInt32 := by
  have hlt : c.toNat < 2 ^ 8 := c.toNat_lt
  have hlow : c.toNat % 16 < 2 ^ 4 := Nat.mod_lt _ (by decide)
  have hshift : ((c / 16).toUInt32 <<< 4).toNat = (c.toNat / 16) <<< 4 := by
    rw [UInt32.toNat_shiftLeft, UInt8.toNat_toUInt32, UInt8.toNat_div]
    show (c.toNat / 16) <<< 4 % 2 ^ 32 = _
    rw [Nat.shiftLeft_eq]
    omega
  rw [← UInt32.toNat_inj, UInt32.toNat_or, hshift, UInt8.toNat_toUInt32, UInt8.toNat_mod]
  show (c.toNat / 16) <<< 4 ||| c.toNat % 16 = c.toUInt32.toNat
  rw [← Nat.shiftLeft_add_eq_or_of_lt hlow, Nat.shiftLeft_eq, UInt8.toNat_toUInt32]
  omega

/-- They are read as that character. -/
theorem parseUtf16_hexDigit (h : c < 0x20) (rest : CString) :
    parseUtf16 (u :: 0x30 :: 0x30 :: hexDigit (c / 16) :: hexDigit (c % 16) :: rest) =
      some ([c], rest) := by
  have hhigh := (hexCharToInt_hexDigit (halves_lt c).1).1
  have hlow := (hexCharToInt_hexDigit (halves_lt c).2).1
  have hlt : c.toUInt32 < 0x80 := by
    rw [UInt32.lt_iff_toNat_lt, UInt8.toNat_toUInt32]
    exact lt_trans (UInt8.lt_iff_toNat_lt.1 h) (by decide)
  have hzero : hexCharToInt 0x30 = some 0 := by decide
  have hhex : parseUtf16Hex (0x30 :: 0x30 :: hexDigit (c / 16) :: hexDigit (c % 16) :: rest) =
      some c.toUInt32 := by
    simp only [parseUtf16Hex, hzero, hhigh, hlow, Option.bind_eq_bind, Option.bind_some]
    rw [show (0 : UInt32) <<< 12 ||| (0 : UInt32) <<< 8 = 0 from rfl, UInt32.zero_or, or_halves]
    rfl
  have hbelow : c.toUInt32 < 0xD800 := UInt32.lt_trans hlt (by decide)
  have hstore : storeCodePoint c.toUInt32 = [c] := by
    rw [storeCodePoint, if_pos hlt, UInt8.toUInt8_toUInt32]
  rw [parseUtf16]
  simp only [List.tail_cons, hhex, Option.bind_eq_bind, Option.bind_some, if_pos (Or.inl hbelow),
    hstore]
  rfl

/-- The scan for the closing quote passes over what is written for a character. -/
theorem skipToQuote_escape (c : UInt8) (rest : CString) :
    skipToQuote (escape c ++ rest) = skipToQuote rest := by
  rcases escape_cases c with ⟨he, hq, hb, -⟩ | ⟨d, he, -, -⟩ | ⟨hc, he⟩
  · rw [he, List.singleton_append, skipToQuote_cons hq hb]
  · rw [he, List.cons_append, List.singleton_append, skipToQuote_backslash]
  · obtain ⟨-, hhigh⟩ := hexCharToInt_hexDigit (halves_lt c).1
    obtain ⟨-, hlow⟩ := hexCharToInt_hexDigit (halves_lt c).2
    simp only [he, List.cons_append, List.nil_append]
    rw [skipToQuote_backslash, skipToQuote_cons (by decide) (by decide),
      skipToQuote_cons (by decide) (by decide), skipToQuote_cons hhigh.1 hhigh.2,
      skipToQuote_cons hlow.1 hlow.2]

/-- One round of the loop decodes what is written for a character. -/
theorem processChar_escape (c : UInt8) (rest : CString) :
    processChar (escape c ++ rest) = some ([c], rest) := by
  rcases escape_cases c with ⟨he, -, hb, hc⟩ | ⟨d, he, hd, hun⟩ | ⟨hc, he⟩
  · simp [he, processChar, hb, hc]
  · simp [he, processChar, hd, hun]
  · simpa [he, processChar] using parseUtf16_hexDigit hc rest

/-- Something is written for every character. -/
theorem escape_ne_nil (c : UInt8) : escape c ≠ [] := by
  rcases escape_cases c with ⟨he, -⟩ | ⟨d, he, -⟩ | ⟨-, he⟩ <;> simp [he]

/-- **The scan finds the closing quote** behind a string that was written. -/
theorem skipToQuote_flatMap (string rest : CString) :
    skipToQuote (string.flatMap escape ++ quote :: rest) = some rest := by
  induction string with
  | nil => exact skipToQuote_quote
  | cons c string ih => rw [List.flatMap_cons, List.append_assoc, skipToQuote_escape, ih]

/-- The loop decodes everything before the place where it stops. -/
theorem processLoop_flatMap (string rest : CString)
    (hfuel : (string.flatMap escape).length ≤ fuel) :
    processLoop rest.length fuel (string.flatMap escape ++ rest) = some string := by
  induction string generalizing fuel with
  | nil => cases fuel <;> simp [processLoop]
  | cons c string ih =>
    have hpos := List.length_pos_iff.2 (escape_ne_nil c)
    rw [List.flatMap_cons, List.length_append] at hfuel
    cases fuel with
    | zero => omega
    | succ fuel =>
      have hgo : ¬(escape c ++ (string.flatMap escape ++ rest) = [] ∨
          (escape c ++ (string.flatMap escape ++ rest)).length ≤ rest.length) := by
        simp only [List.append_eq_nil_iff, escape_ne_nil, false_and, List.length_append, false_or]
        omega
      rw [List.flatMap_cons, List.append_assoc, processLoop, if_neg hgo, processChar_escape]
      simp [ih (by omega : (string.flatMap escape).length ≤ fuel)]

/-- A string without a zero is read as a whole. -/
theorem takeWhile_nulFree (h : NulFree string) : string.takeWhile (· ≠ 0) = string :=
  List.takeWhile_eq_self_iff.2 fun c hc ↦ by simpa using h c hc

/-- **What is written for a string is read back**, and reading stops behind its closing quote. -/
theorem getQuotedString_append (h : NulFree string) (rest : CString) :
    getQuotedString (jsonSerializeString string ++ rest) = some (string, rest) := by
  have hskip : skipQuotes (jsonSerializeString string ++ rest) = some rest := by
    simpa [jsonSerializeString, skipQuotes] using skipToQuote_flatMap string rest
  -- the length without the quotes, and where that makes the second pass stop
  have hlen : (jsonSerializeString string ++ rest).length - rest.length - 2 =
      (string.flatMap escape).length := by
    simp only [jsonSerializeString, List.length_append, List.length_cons, List.length_nil]
    omega
  have htail : (jsonSerializeString string ++ rest).tail =
      string.flatMap escape ++ quote :: rest := by
    simp [jsonSerializeString]
  have hstop : (string.flatMap escape ++ quote :: rest).length - (string.flatMap escape).length =
      (quote :: rest).length := by
    simp
  have hprocess := processLoop_flatMap string (quote :: rest) (Nat.le_refl _)
  simp only [getQuotedString, hskip, Option.bind_eq_bind, Option.bind_some, hlen, htail,
    processString, hstop, hprocess, Option.map_some, takeWhile_nulFree h]
  rfl

end Freenect
