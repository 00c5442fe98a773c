import Freenect.Fakenect.JsonParser
import Freenect.Library.Decimal

/-!
# What is written is parsed back

`json_parse_string` undoes `json_serialize_to_string`, in the compact and in the pretty form, for
every well-formed value nested at most `MAX_NESTING` deep, and refuses what is written for a deeper
one (`jsonParseString_serialize`). Since the parser accepts nothing else, parsing, writing and
parsing again gives the value that was parsed first.

Of the C library this uses two things about a number, `Stored`: what `printf` writes for it is a
decimal numeral, and `strtod` reads that numeral as the number again. Seventeen significant digits
are enough for that, unless `strtod` reports a subnormal number as a range error.

The induction over the values is `parseValue_serialize`. It says more than the theorem needs,
because the text of a value has to be read wherever it may stand: at any level, in either form, in
front of anything that can follow a value (`EndsValue`), and with any number of levels left. The
last is why the statement has both outcomes; with too few levels the parser refuses, and the
containers around it then refuse too.

A container takes the most work. `parseItems_serializeEntries` reads the entries that were written,
given a parser of one entry that reads exactly those that are low enough, and
`parseContainer_serializeContainer` adds the brackets and the blanks. Arrays and objects are two
instances.
-/

namespace Freenect

open Ascii

/-! ### Numbers

A numeral is described by what the parser looks at: its first character, its leading zeros, and that
it is not hexadecimal. What comes behind a number must not prolong it. -/

/-- What may stand behind a number. -/
def EndsValue (rest : CString) : Prop :=
  ∀ c ∈ rest.head?, c = comma ∨ c = newline ∨ c = rightBracket ∨ c = rightBrace

/-- The decimal numerals that `FLOAT_FORMAT` writes: a leading zero is alone or before the decimal
point. -/
structure IsNumeral (text : CString) : Prop where
  shape : ∃ sign body : CString, (sign = [] ∨ sign = [0x2D]) ∧ text = sign ++ body ∧
    (body = [0x30] ∨ (∃ fraction, body = 0x30 :: 0x2E :: fraction) ∨
      ∃ d digits, body = d :: digits ∧ 0x31 ≤ d ∧ d ≤ 0x39)
  noHex : ∀ c ∈ text, c ≠ 0x78 ∧ c ≠ 0x58

/-- The C library stores `x`: it writes a decimal numeral, which it reads as `x` without an error
wherever a value may end. -/
structure Stored {D : Type} [JsonNumbers D] (x : D) : Prop where
  numeral : IsNumeral (JsonNumbers.format x)
  read : ∀ rest, EndsValue rest →
    JsonNumbers.strtod (JsonNumbers.format x ++ rest) =
      (x, (JsonNumbers.format x).length, false)

/-- The head of a numeral sends `parse_value` to `parse_number_value`. -/
theorem IsNumeral.head {text : CString} (h : IsNumeral text) :
    ∃ c t, text = c :: t ∧ (c = 0x2D ∨ (0x30 ≤ c ∧ c ≤ 0x39)) := by
  obtain ⟨sign, body, hsign, rfl, hbody⟩ := h.shape
  rcases hsign with rfl | rfl
  · rcases hbody with rfl | ⟨fraction, rfl⟩ | ⟨d, digits, rfl, hlow, hhigh⟩
    · exact ⟨_, _, rfl, .inr (by decide)⟩
    · exact ⟨_, _, rfl, .inr (by decide)⟩
    · exact ⟨_, _, rfl, .inr ⟨UInt8.le_trans (by decide) hlow, hhigh⟩⟩
  · exact ⟨_, _, rfl, .inl rfl⟩

/-- `is_decimal` accepts every numeral. -/
theorem isDecimal_append {text : CString} (h : IsNumeral text) (rest : CString) :
    isDecimal (text ++ rest) text.length = true := by
  have hhex : text.all (fun c ↦ c != 0x78 && c != 0x58) = true :=
    List.all_eq_true.2 fun c hc ↦ by simpa using h.noHex c hc
  obtain ⟨sign, body, hsign, htext, hbody⟩ := h.shape
  rw [isDecimal, List.take_left, hhex, Bool.and_true]
  rw [htext]
  rcases hsign with rfl | rfl
  · rcases hbody with rfl | ⟨fraction, rfl⟩ | ⟨d, digits, rfl, hlow, -⟩
    · simp
    · simp [List.isPrefixOf]
    · have h₀ : d ≠ 0x30 := fun heq ↦ absurd (heq ▸ hlow) (by decide)
      have h₁ : d ≠ 0x2D := fun heq ↦ absurd (heq ▸ hlow) (by decide)
      simp [List.isPrefixOf, h₀, h₁.symm]
  · rcases hbody with rfl | ⟨fraction, rfl⟩ | ⟨d, digits, rfl, hlow, -⟩
    · simp
    · simp
    · have h₀ : d ≠ 0x30 := fun heq ↦ absurd (heq ▸ hlow) (by decide)
      simp [List.isPrefixOf, h₀.symm]

/-! ### Integers

An instance of the parameters, so that the theorems are about something. The integers print and read
as the C library does it for a `double` without a fraction. -/

/-- The integers, as the C library prints and reads those that a `double` holds in seventeen digits.
Of what `strtod` reads these are the numerals without a decimal point and an exponent. -/
instance integerNumbers : JsonNumbers ℤ where
  format x := (if x < 0 then [0x2D] else []) ++ Decimal.numeral x.natAbs
  strtod string :=
    let sign := if string.head? = some 0x2D then 1 else 0
    let digits := (string.drop sign).takeWhile Decimal.isDigit
    if digits = [] then (0, 0, false)
    else ((-1) ^ sign * (Decimal.value digits : ℤ), sign + digits.length, false)
  isFinite _ := true

/-- An integer is printed as a numeral. -/
theorem isNumeral_integer (x : ℤ) : IsNumeral (JsonNumbers.format x) := by
  have hdigits : ∀ c ∈ Decimal.numeral x.natAbs, Decimal.isDigit c = true :=
    fun c ↦ Decimal.isDigit_of_mem_numeral
  refine ⟨⟨if x < 0 then [0x2D] else [], Decimal.numeral x.natAbs, ?_, rfl, ?_⟩, fun c hc ↦ ?_⟩
  · split
    · exact .inr rfl
    · exact .inl rfl
  · cases hn : Decimal.numeral x.natAbs with
    | nil => exact absurd hn (Decimal.numeral_ne_nil _)
    | cons d digits =>
      -- a leading zero is the whole numeral
      by_cases hd : d = Decimal.digit 0
      · obtain ⟨-, rfl⟩ := Decimal.head_numeral_ne_zero (hd ▸ hn)
        exact .inl (by rw [hd]; rfl)
      · have hrange : ∀ c, Decimal.isDigit c = true → c ≠ Decimal.digit 0 →
            0x31 ≤ c ∧ c ≤ 0x39 := by
          intro c hc hzero
          rw [Decimal.isDigit_iff] at hc
          rw [Ne, ← UInt8.toNat_inj, Decimal.toNat_digit (by decide)] at hzero
          simp only [UInt8.le_iff_toNat_le, UInt8.reduceToNat]
          omega
        exact .inr (.inr ⟨d, digits, rfl, hrange d (hdigits d (hn ▸ List.mem_cons_self)) hd⟩)
  · have hhex : ∀ c, Decimal.isDigit c = true → c ≠ 0x78 ∧ c ≠ 0x58 := fun c hc ↦
      ⟨Decimal.ne_of_isDigit hc rfl, Decimal.ne_of_isDigit hc rfl⟩
    rcases List.mem_append.1 hc with hc | hc
    · split at hc
      · rw [List.mem_singleton.1 hc]
        decide
      · exact absurd hc List.not_mem_nil
    · exact hhex c (hdigits c hc)

/-- What may stand behind a value is not a digit. -/
theorem EndsValue.ends {rest : CString} (h : EndsValue rest) : Decimal.Ends rest := by
  intro c hc
  rcases h c hc with rfl | rfl | rfl | rfl <;> rfl

/-- A numeral without a sign is read back. -/
theorem strtod_numeral (n : ℕ) {rest : CString} (hrest : EndsValue rest) :
    JsonNumbers.strtod (Decimal.numeral n ++ rest) =
      ((n : ℤ), (Decimal.numeral n).length, false) := by
  have hread := Decimal.takeWhile_numeral n hrest.ends
  have hne := Decimal.numeral_ne_nil n
  have hhead : (Decimal.numeral n ++ rest).head? ≠ some 0x2D := by
    cases hn : Decimal.numeral n with
    | nil => exact absurd hn hne
    | cons d digits =>
      have hd := Decimal.isDigit_of_mem_numeral (hn ▸ List.mem_cons_self : d ∈ _)
      intro heq
      have heq' : d = 0x2D := Option.some.inj heq
      exact absurd (heq' ▸ hd) (by decide)
  simp only [JsonNumbers.strtod, if_neg hhead, List.drop_zero, hread, if_neg hne,
    Decimal.value_numeral, pow_zero, one_mul, Nat.zero_add]

theorem strtod_neg_numeral (n : ℕ) {rest : CString} (hrest : EndsValue rest) :
    JsonNumbers.strtod (0x2D :: (Decimal.numeral n ++ rest)) =
      (-(n : ℤ), 1 + (Decimal.numeral n).length, false) := by
  have hread := Decimal.takeWhile_numeral n hrest.ends
  have hne := Decimal.numeral_ne_nil n
  simp only [JsonNumbers.strtod, List.head?_cons, if_true, List.drop_succ_cons, List.drop_zero,
    hread, if_neg hne, Decimal.value_numeral, pow_one, neg_mul, one_mul]

/-- **Every integer is stored.** -/
theorem stored_integer (x : ℤ) : Stored x := by
  refine ⟨isNumeral_integer x, fun rest hrest ↦ ?_⟩
  by_cases hx : x < 0
  · have hformat : JsonNumbers.format x = 0x2D :: Decimal.numeral x.natAbs := by
      simp only [JsonNumbers.format, if_pos hx, List.singleton_append]
    rw [hformat, List.cons_append, strtod_neg_numeral _ hrest, List.length_cons, Nat.add_comm,
      show -(x.natAbs : ℤ) = x by omega]
  · have hformat : JsonNumbers.format x = Decimal.numeral x.natAbs := by
      simp only [JsonNumbers.format, if_neg hx, List.nil_append]
    rw [hformat, strtod_numeral _ hrest, show (x.natAbs : ℤ) = x by omega]

/-! ### Reading a number -/

variable {D : Type} [JsonNumbers D]

/-- A number that is stored is read back. -/
theorem parseNumberValue_append {x : D} (hfinite : JsonNumbers.isFinite x = true) (h : Stored x)
    {rest : CString} (hrest : EndsValue rest) :
    parseNumberValue (JsonNumbers.format x ++ rest) = some (.number x, rest) := by
  rw [parseNumberValue, h.read rest hrest]
  simp [isDecimal_append h.numeral, jsonValueInitNumber, hfinite]

/-! ### Blanks

In the pretty form there are line ends and indents between the entries, which the parser skips. -/

section Blanks

variable {ws string rest : CString} {c : UInt8}

/-- White space is skipped. -/
theorem skipWhitespaces_append (h : ∀ c ∈ ws, isspace c = true) :
    skipWhitespaces (ws ++ string) = skipWhitespaces string :=
  List.dropWhile_append_of_pos h

/-- Nothing else is. -/
theorem skipWhitespaces_cons (h : isspace c = false) :
    skipWhitespaces (c :: string) = c :: string := by
  rw [skipWhitespaces, List.dropWhile_cons_of_neg (by simp [h])]

/-- The end of a line is white space. -/
theorem isspace_of_mem_newline {isPretty : Bool} (h : c ∈ appendNewline isPretty) :
    isspace c = true := by
  cases isPretty with
  | false => exact absurd h List.not_mem_nil
  | true => exact List.mem_singleton.1 h ▸ rfl

theorem isspace_of_mem_indent {isPretty : Bool} {level : ℕ}
    (h : c ∈ appendIndent isPretty level) : isspace c = true := by
  cases isPretty with
  | false => exact absurd h List.not_mem_nil
  | true => exact List.eq_of_mem_replicate h ▸ rfl

end Blanks

/-! ### Containers

The loop over the entries of a container, for arrays and objects at once. What is asked of the text
of an entry is that it is `Solid`, so that skipping blanks stops in front of it and no bracket is
taken for the end. -/

section Containers

variable {α : Type} {parseItem : CString → Option (α × CString)}
  {add : List α → α → Option (List α)} {isPretty : Bool} {level : ℕ} {closing : UInt8}

/-- A text that starts with neither a blank, nor the end of a container, nor a byte order mark. -/
def Solid (text : CString) : Prop :=
  ∃ c t, text = c :: t ∧ isspace c = false ∧ c ≠ rightBracket ∧ c ≠ rightBrace ∧ c ≠ 0xEF

/-- Such a text is not empty. -/
theorem Solid.ne_nil {text : CString} (h : Solid text) : text ≠ [] := by
  obtain ⟨c, t, rfl, -⟩ := h
  exact List.cons_ne_nil c t

/-- No blank is skipped in front of it. -/
theorem Solid.skip {text rest : CString} (h : Solid text) :
    skipWhitespaces (text ++ rest) = text ++ rest := by
  obtain ⟨c, t, rfl, hc, -⟩ := h
  exact skipWhitespaces_cons hc

/-- It is not taken for the end of a container. -/
theorem Solid.head?_ne {text rest : CString} (h : Solid text)
    (hclosing : closing = rightBracket ∨ closing = rightBrace) :
    (text ++ rest).head? ≠ some closing := by
  obtain ⟨c, t, rfl, -, h₁, h₂, -⟩ := h
  intro heq
  have heq' : c = closing := Option.some.inj heq
  rcases hclosing with h | h
  · exact h₁ (heq'.trans h)
  · exact h₂ (heq'.trans h)

/-- The blanks before an entry are skipped. -/
theorem skipWhitespaces_serializeEntries {entry : CString} (h : Solid entry)
    (entries : List CString) (rest : CString) :
    skipWhitespaces (serializeEntries isPretty level (entry :: entries) ++ rest) =
      entry ++ ((if entries = [] then [] else [comma]) ++ (appendNewline isPretty ++
        (serializeEntries isPretty level entries ++ rest))) := by
  simp only [serializeEntries, List.append_assoc]
  rw [skipWhitespaces_append fun c ↦ isspace_of_mem_indent, h.skip]

/-- The end of a container, after the blanks before it. -/
theorem skipWhitespaces_closing (hclosing : closing = rightBracket ∨ closing = rightBrace)
    (rest : CString) : skipWhitespaces (appendIndent isPretty level ++ closing :: rest) =
      closing :: rest := by
  rw [skipWhitespaces_append fun c ↦ isspace_of_mem_indent]
  rcases hclosing with rfl | rfl <;> exact skipWhitespaces_cons rfl

/-- What stands behind an entry ends its value. -/
theorem endsValue_behind (hclosing : closing = rightBracket ∨ closing = rightBrace)
    {entries : List CString} (rest : CString) :
    EndsValue ((if entries = [] then [] else [comma]) ++ (appendNewline isPretty ++
      (serializeEntries isPretty level entries ++
        (appendIndent isPretty level ++ closing :: rest)))) := by
  intro c hc
  cases entries with
  | cons entry entries => exact .inl (Option.some.inj hc).symm
  | nil =>
    cases isPretty with
    | true => exact .inr (.inl (Option.some.inj hc).symm)
    | false =>
      have hc' : closing = c := Option.some.inj hc
      rcases hclosing with h | h
      · exact .inr (.inr (.inl (hc'.symm.trans h)))
      · exact .inr (.inr (.inr (hc'.symm.trans h)))

/-- **The loop reads the entries that were written**, when the parser of one entry reads it exactly
if `p` holds of it. The induction is on the entries that are left; `items` has been read before
them. -/
theorem parseItems_serializeEntries {p : α → Prop} [DecidablePred p]
    (hclosing : closing = rightBracket ∨ closing = rightBrace) (rest : CString)
    {entries : List (α × CString)} {items : List α} {fuel : ℕ} (hne : entries ≠ [])
    (hsolid : ∀ m ∈ entries, Solid m.2)
    (hitem : ∀ m ∈ entries, ∀ rest, EndsValue rest →
      parseItem (m.2 ++ rest) = if p m.1 then some (m.1, rest) else none)
    (hadd : ∀ before m after, items ++ entries.map Prod.fst = before ++ m :: after →
      add before m = some (before ++ [m]))
    (hfuel : entries.length ≤ fuel) :
    parseItems parseItem add fuel items (skipWhitespaces
        (serializeEntries isPretty level (entries.map Prod.snd) ++
          (appendIndent isPretty level ++ closing :: rest))) =
      if ∀ m ∈ entries, p m.1 then some (items ++ entries.map Prod.fst, closing :: rest)
      else none := by
  induction entries generalizing items fuel with
  | nil => exact absurd rfl hne
  | cons m entries ih =>
    obtain ⟨hm, hentries⟩ := List.forall_mem_cons.1 hsolid
    obtain ⟨hread, hreads⟩ := List.forall_mem_cons.1 hitem
    cases fuel with
    | zero => exact absurd hfuel (by simp)
    | succ fuel =>
      -- the blanks before the entry are skipped; what follows it ends its value
      rw [List.map_cons, skipWhitespaces_serializeEntries hm, parseItems,
        if_neg (by simp [hm.ne_nil]), hread _ (endsValue_behind hclosing rest)]
      by_cases hok : p m.1
      · have haddm := hadd items m.1 (entries.map Prod.fst) (by simp)
        simp only [if_pos hok, Option.bind_eq_bind, Option.bind_some, haddm]
        cases entries with
        | nil =>
          have hskip : skipWhitespaces ([] ++ (appendNewline isPretty ++ ([] ++
              (appendIndent isPretty level ++ closing :: rest)))) = closing :: rest := by
            rw [List.nil_append, List.nil_append,
              skipWhitespaces_append fun c ↦ isspace_of_mem_newline,
              skipWhitespaces_closing hclosing]
          have hclosed : (closing :: rest).head? ≠ some comma := by
            rcases hclosing with rfl | rfl <;> simp
          simp only [List.map_nil, if_true, serializeEntries, hskip, if_neg hclosed]
          simp [hok]
        | cons m' entries =>
          simp only [List.map_cons, reduceCtorEq, if_false, List.singleton_append]
          rw [skipWhitespaces_cons (by decide)]
          simp only [List.head?_cons, if_true, List.tail_cons]
          rw [skipWhitespaces_append fun c ↦ isspace_of_mem_newline, ← List.map_cons,
            ih (List.cons_ne_nil _ _) hentries hreads
              (fun before m'' after h ↦ hadd before m'' after (by simpa using h))
              (Nat.le_of_succ_le_succ hfuel)]
          have hall : (∀ x ∈ m :: m' :: entries, p x.1) ↔ ∀ x ∈ m' :: entries, p x.1 := by
            rw [List.forall_mem_cons]
            exact and_iff_right hok
          simp only [hall, List.map_cons, List.append_assoc, List.singleton_append]
      · rw [if_neg hok, if_neg fun hall ↦ hok (hall m List.mem_cons_self)]
        rfl

/-- A container is written with at least a character for each entry, which is fuel enough to read
it. -/
theorem length_le_serializeEntries (isPretty : Bool) (level : ℕ) {entries : List CString}
    (h : ∀ entry ∈ entries, Solid entry) :
    entries.length ≤ (serializeEntries isPretty level entries).length := by
  induction entries with
  | nil => exact Nat.zero_le _
  | cons entry entries ih =>
    obtain ⟨hentry, hentries⟩ := List.forall_mem_cons.1 h
    have hpos := List.length_pos_iff.2 hentry.ne_nil
    have := ih hentries
    simp only [serializeEntries, List.length_append, List.length_cons]
    omega

/-- **A container that was written is read.** -/
theorem parseContainer_serializeContainer (parseItem : CString → Option (α × CString))
    (add : List α → α → Option (List α)) (isPretty : Bool) (level : ℕ) (p : α → Prop)
    [DecidablePred p] (hclosing : closing = rightBracket ∨ closing = rightBrace) (opening : UInt8)
    (rest : CString) (entries : List (α × CString)) (hsolid : ∀ m ∈ entries, Solid m.2)
    (hitem : ∀ m ∈ entries, ∀ rest, EndsValue rest →
      parseItem (m.2 ++ rest) = if p m.1 then some (m.1, rest) else none)
    (hadd : ∀ before m after, entries.map Prod.fst = before ++ m :: after →
      add before m = some (before ++ [m])) :
    parseContainer closing parseItem add
        (serializeContainer isPretty level opening closing (entries.map Prod.snd) ++ rest) =
      if ∀ m ∈ entries, p m.1 then some (entries.map Prod.fst, rest) else none := by
  have hclosed : isspace closing = false := by rcases hclosing with rfl | rfl <;> rfl
  cases entries with
  | nil =>
    simp only [serializeContainer, serializeEntries, parseContainer, List.map_nil, if_true,
      List.append_nil, List.cons_append, List.nil_append, List.tail_cons]
    rw [skipWhitespaces_cons hclosed]
    simp
  | cons m entries =>
    have hm := hsolid m List.mem_cons_self
    have hne : (m :: entries).map Prod.snd ≠ [] := List.cons_ne_nil _ _
    -- what the loop starts with, behind the opening bracket and the blanks
    have hstart : skipWhitespaces (serializeContainer isPretty level opening closing
        ((m :: entries).map Prod.snd) ++ rest).tail =
        skipWhitespaces (serializeEntries isPretty level ((m :: entries).map Prod.snd) ++
          (appendIndent isPretty level ++ closing :: rest)) := by
      simp only [serializeContainer, if_neg hne, List.cons_append, List.append_assoc,
        List.tail_cons, List.nil_append]
      rw [skipWhitespaces_append fun c ↦ isspace_of_mem_newline]
    have hfuel : (m :: entries).length ≤ (skipWhitespaces
        (serializeEntries isPretty level ((m :: entries).map Prod.snd) ++
          (appendIndent isPretty level ++ closing :: rest))).length := by
      have hlen : (entries.map Prod.snd).length ≤ _ :=
        length_le_serializeEntries isPretty level fun entry hentry ↦ by
          obtain ⟨m', hm', rfl⟩ := List.mem_map.1 hentry
          exact hsolid m' (List.mem_cons_of_mem _ hm')
      have hpos := List.length_pos_iff.2 hm.ne_nil
      rw [List.length_map] at hlen
      rw [List.map_cons, skipWhitespaces_serializeEntries hm]
      simp only [List.length_append, List.length_cons]
      omega
    have hopen : (skipWhitespaces (serializeEntries isPretty level ((m :: entries).map Prod.snd) ++
        (appendIndent isPretty level ++ closing :: rest))).head? ≠ some closing := by
      rw [List.map_cons, skipWhitespaces_serializeEntries hm]
      exact hm.head?_ne hclosing
    rw [parseContainer, hstart]
    simp only [if_neg hopen]
    rw [parseItems_serializeEntries hclosing rest (List.cons_ne_nil _ _) hsolid hitem
      (fun before m after h ↦ hadd before m after (by simpa using h)) hfuel]
    by_cases hok : ∀ m' ∈ m :: entries, p m'.1
    · rw [if_pos hok, if_pos hok]
      simp only [Option.bind_eq_bind, Option.bind_some, skipWhitespaces_cons hclosed]
      simp
    · rw [if_neg hok, if_neg hok]
      rfl

end Containers

/-! ### Values

From the entries to the values, and from there to whole texts. -/

namespace JsonValue

/-- The C library stores the number. -/
def IsStored : JsonValue D → Prop
  | number x => Stored x
  | _ => True

variable {v : JsonValue D} {isPretty : Bool} {level levels : ℕ} {ws rest : CString}

/-- The text of a value starts with neither a blank nor a closing bracket. -/
theorem solid_serialize (isPretty : Bool) (level : ℕ) (hstored : v.All IsStored) :
    Solid (serialize isPretty level v) := by
  cases v with
  | null => exact ⟨_, _, rfl, rfl, by decide, by decide, by decide⟩
  | boolean b => cases b <;> exact ⟨_, _, rfl, rfl, by decide, by decide, by decide⟩
  | string s => exact ⟨_, _, rfl, rfl, by decide, by decide, by decide⟩
  | array items => exact ⟨_, _, rfl, rfl, by decide, by decide, by decide⟩
  | object members => exact ⟨_, _, rfl, rfl, by decide, by decide, by decide⟩
  | number x =>
    obtain ⟨c, t, htext, hc⟩ := (hstored.self : Stored x).numeral.head
    have hsolid : isspace c = false ∧ c ≠ rightBracket ∧ c ≠ rightBrace ∧ c ≠ 0xEF := by
      refine ⟨?_, ?_, ?_, ?_⟩
      · rcases hc with rfl | hc
        · rfl
        · exact isspace_of_isDigit (Decimal.isDigit_of_le hc)
      all_goals
        rintro rfl
        exact absurd hc (by decide)
    exact ⟨c, t, htext, hsolid⟩

/-- The entries of an array: its items, each with its text. -/
def itemEntries (isPretty : Bool) (level : ℕ) (items : List (JsonValue D)) :
    List (JsonValue D × CString) :=
  items.map fun v ↦ (v, serialize isPretty level v)

/-- An array is written item by item. -/
theorem serialize_array (items : List (JsonValue D)) :
    serialize isPretty level (array items) =
      serializeContainer isPretty level leftBracket rightBracket
        ((itemEntries isPretty (level + 1) items).map Prod.snd) := by
  rw [serialize, serializeItems_eq_map, itemEntries, List.map_map]
  rfl

/-- The entries of an object: its members, each with its text. -/
def memberEntries (isPretty : Bool) (level : ℕ) (members : List (CString × JsonValue D)) :
    List ((CString × JsonValue D) × CString) :=
  members.map fun m ↦ (m, serializeMember isPretty m.1 (serialize isPretty level m.2))

/-- With distinct names an object is written member by member. -/
theorem serialize_object {members : List (CString × JsonValue D)}
    (h : (members.map Prod.fst).Nodup) :
    serialize isPretty level (object members) =
      serializeContainer isPretty level leftBrace rightBrace
        ((memberEntries isPretty (level + 1) members).map Prod.snd) := by
  have hnames : ((serializeMembers isPretty (level + 1) members).map Prod.fst).Nodup := by
    rw [serializeMembers_eq_map, List.map_map]
    exact h
  rw [serialize]
  congr 1
  simp only [memberEntries, List.map_map]
  calc (serializeMembers isPretty (level + 1) members).map (fun text ↦
        serializeMember isPretty text.1
          (lookupText (serializeMembers isPretty (level + 1) members) text.1))
      = (serializeMembers isPretty (level + 1) members).map fun text ↦
          serializeMember isPretty text.1 text.2 :=
        List.map_congr_left fun text htext ↦ by rw [lookupText_eq hnames htext]
    _ = _ := by rw [serializeMembers_eq_map, List.map_map]; rfl

/-- `parse_value` behind blanks. -/
theorem parseValue_append (hws : ∀ c ∈ ws, isspace c = true) (string : CString) :
    (parseValue levels (ws ++ string) : Option (JsonValue D × CString)) =
      parseValue levels string := by
  cases levels with
  | zero => rfl
  | succ levels => rw [parseValue, parseValue, skipWhitespaces_append hws]

/-- A pair that was written is read. -/
theorem parsePair_serializeMember {name text : CString} (hname : NulFree name) (rest : CString) :
    parsePair (parseValue levels) (serializeMember isPretty name text ++ rest) =
      (parseValue levels (text ++ rest)).map
        fun r ↦ (((name, r.1) : CString × JsonValue D), r.2) := by
  have hblank : ∀ c ∈ (if isPretty then [space] else [] : CString), isspace c = true :=
    List.all_eq_true.1 (by cases isPretty <;> rfl)
  simp only [serializeMember, List.append_assoc, List.cons_append, parsePair,
    getQuotedString_append hname, Option.bind_eq_bind, Option.bind_some]
  rw [skipWhitespaces_cons (by decide)]
  simp only [List.head?_cons, if_true, List.tail_cons, parseValue_append (D := D) hblank]
  cases (parseValue levels (text ++ rest) : Option (JsonValue D × CString)) <;> rfl

/-- The entries of an array are its items. -/
theorem map_fst_itemEntries (items : List (JsonValue D)) :
    (itemEntries isPretty level items).map Prod.fst = items := by
  rw [itemEntries, List.map_map]
  exact List.map_id items

/-- The entries of an object are its members. -/
theorem map_fst_memberEntries (members : List (CString × JsonValue D)) :
    (memberEntries isPretty level members).map Prod.fst = members := by
  rw [memberEntries, List.map_map]
  exact List.map_id members

/-- An array that was written is read, if its items are. -/
theorem parseArrayValue_serialize {items : List (JsonValue D)}
    (hsolid : ∀ v ∈ items, Solid (serialize isPretty (level + 1) v))
    (hitem : ∀ v ∈ items, ∀ rest, EndsValue rest →
      parseValue levels (serialize isPretty (level + 1) v ++ rest) =
        if v.height < levels then some (v, rest) else none) :
    parseArrayValue (parseValue levels) (serialize isPretty level (array items) ++ rest) =
      if (array items).height < levels + 1 then some (array items, rest) else none := by
  have hread := parseContainer_serializeContainer (parseValue levels) jsonArrayAdd isPretty
    level (fun v ↦ height v < levels) (Or.inl rfl) leftBracket rest
    (itemEntries isPretty (level + 1) items) (List.forall_mem_map.2 hsolid)
    (List.forall_mem_map.2 hitem) fun _ _ _ _ ↦ rfl
  have hiff : (∀ m ∈ itemEntries isPretty (level + 1) items, height m.1 < levels) ↔
      (array items).height < levels + 1 := by
    rw [height_array_lt_iff]
    exact List.forall_mem_map
  rw [← serialize_array, map_fst_itemEntries] at hread
  rw [parseArrayValue, hread]
  simp only [hiff]
  split
  · rfl
  · rfl

omit [JsonNumbers D] in
/-- Adding the members of an object one after the other never meets a name again. -/
theorem jsonObjectAdd_of_nodup {members before after : List (CString × JsonValue D)}
    {m : CString × JsonValue D} (h : (members.map Prod.fst).Nodup)
    (hmembers : members = before ++ m :: after) :
    jsonObjectAdd before m = some (before ++ [m]) := by
  have hnot : ¬(before.any fun m' ↦ m'.1 = m.1) = true := by
    rw [hmembers, List.map_append, List.nodup_append] at h
    intro hany
    obtain ⟨m', hm', heq⟩ := List.any_eq_true.1 hany
    exact h.2.2 m'.1 (List.mem_map_of_mem hm') m.1 List.mem_cons_self (by simpa using heq)
  rw [jsonObjectAdd, if_neg hnot]

/-- An object that was written is read, if its values are. -/
theorem parseObjectValue_serialize {members : List (CString × JsonValue D)}
    (hnodup : (members.map Prod.fst).Nodup) (hnames : ∀ m ∈ members, NulFree m.1)
    (hmember : ∀ m ∈ members, ∀ rest, EndsValue rest →
      parseValue levels (serialize isPretty (level + 1) m.2 ++ rest) =
        if m.2.height < levels then some (m.2, rest) else none) :
    parseObjectValue (parseValue levels) (serialize isPretty level (object members) ++ rest) =
      if (object members).height < levels + 1 then some (object members, rest) else none := by
  have hread := parseContainer_serializeContainer (parsePair (parseValue levels)) jsonObjectAdd
    isPretty level (fun m : CString × JsonValue D ↦ height m.2 < levels) (Or.inr rfl)
    leftBrace rest (memberEntries isPretty (level + 1) members)
    (List.forall_mem_map.2 fun m hm ↦ ⟨_, _, rfl, rfl, by decide, by decide, by decide⟩)
    (List.forall_mem_map.2 fun m hm rest hrest ↦ by
      rw [parsePair_serializeMember (hnames m hm), hmember m hm rest hrest]
      split <;> rfl)
    fun before m after h ↦ jsonObjectAdd_of_nodup hnodup (by rw [← h, map_fst_memberEntries])
  have hiff : (∀ m ∈ memberEntries isPretty (level + 1) members, height m.1.2 < levels) ↔
      (object members).height < levels + 1 := by
    rw [height_object_lt_iff]
    exact List.forall_mem_map
  rw [← serialize_object hnodup, map_fst_memberEntries] at hread
  rw [parseObjectValue, hread]
  simp only [hiff]
  split
  · rfl
  · rfl

/-- A numeral is read by `parse_number_value`. -/
theorem parseValue_number {x : D} (hfinite : JsonNumbers.isFinite x = true) (h : Stored x)
    (hrest : EndsValue rest) :
    parseValue (levels + 1) (JsonNumbers.format x ++ rest) = some (number x, rest) := by
  obtain ⟨c, t, htext, hc⟩ := h.numeral.head
  have hhead : isspace c = false ∧ c ≠ leftBrace ∧ c ≠ leftBracket ∧ c ≠ quote ∧
      ¬(c = 0x66 ∨ c = 0x74) := by
    refine ⟨?_, ?_, ?_, ?_, ?_⟩
    · rcases hc with rfl | hc
      · rfl
      · exact isspace_of_isDigit (Decimal.isDigit_of_le hc)
    iterate 3
      rintro rfl
      exact absurd hc (by decide)
    · rintro (rfl | rfl) <;> exact absurd hc (by decide)
  have hnumber := parseNumberValue_append hfinite h hrest
  rw [htext, List.cons_append] at hnumber ⊢
  rw [parseValue, skipWhitespaces_cons hhead.1]
  simp only [if_neg hhead.2.1, if_neg hhead.2.2.1, if_neg hhead.2.2.2.1, if_neg hhead.2.2.2.2,
    if_pos hc, hnumber]

/-- **What is written for a value is read as that value**, if there are levels enough for it, and
refused otherwise. -/
theorem parseValue_serialize (hwf : v.WellFormed) (hstored : v.All IsStored)
    (hrest : EndsValue rest) :
    parseValue levels (serialize isPretty level v ++ rest) =
      if v.height < levels then some (v, rest) else none := by
  induction v using JsonValue.induction generalizing levels level rest with
  -- without a level left everything is refused; in the other case the first character decides which
  -- parser reads the text
  | hnull =>
    cases levels with
    | zero => rfl
    | succ levels =>
      rw [serialize, nullToken, parseValue, List.cons_append, skipWhitespaces_cons (by decide)]
      simp [parseNullValue, nullToken, height, List.isPrefixOf]
  | hboolean b =>
    cases levels with
    | zero => rfl
    | succ levels =>
      cases b
      · simp only [serialize, falseToken, parseValue, List.cons_append, Bool.false_eq_true,
          if_false]
        rw [skipWhitespaces_cons (by decide)]
        simp [parseBooleanValue, trueToken, falseToken, height, List.isPrefixOf]
      · simp only [serialize, trueToken, parseValue, List.cons_append, if_true]
        rw [skipWhitespaces_cons (by decide)]
        simp [parseBooleanValue, trueToken, height, List.isPrefixOf]
  | hnumber x =>
    cases levels with
    | zero => rfl
    | succ levels =>
      rw [serialize, parseValue_number hwf.self hstored.self hrest,
        if_pos (show height (number x) < levels + 1 from Nat.succ_pos _)]
  | hstring s =>
    cases levels with
    | zero => rfl
    | succ levels =>
      have hquoted := getQuotedString_append (hwf.self : NulFree s) rest
      rw [serialize, if_pos (show height (string s : JsonValue D) < levels + 1 from Nat.succ_pos _)]
      rw [jsonSerializeString, List.cons_append, List.cons_append] at hquoted ⊢
      rw [parseValue, skipWhitespaces_cons (by decide)]
      simp only [parseStringValue, hquoted]
      rfl
  | harray items ih =>
    cases levels with
    | zero => rfl
    | succ levels =>
      obtain ⟨-, hwf⟩ := all_array_iff.1 hwf
      obtain ⟨-, hstored⟩ := all_array_iff.1 hstored
      -- behind the bracket the items are read with one level less
      have hvalue : (parseValue (levels + 1) (serialize isPretty level (array items) ++ rest) :
          Option (JsonValue D × CString)) =
          parseArrayValue (parseValue levels) (serialize isPretty level (array items) ++ rest) := by
        rw [serialize, serializeContainer]
        simp only [List.cons_append]
        rw [parseValue, skipWhitespaces_cons (by decide)]
        simp
      rw [hvalue]
      exact parseArrayValue_serialize (fun v hv ↦ solid_serialize isPretty _ (hstored v hv))
        fun v hv rest hrest ↦ ih v hv (hwf v hv) (hstored v hv) hrest
  | hobject members ih =>
    cases levels with
    | zero => rfl
    | succ levels =>
      obtain ⟨⟨hnodup, hnames⟩, hwf⟩ := all_object_iff.1 hwf
      obtain ⟨-, hstored⟩ := all_object_iff.1 hstored
      -- the same for the pairs, whose names are distinct
      have hvalue : (parseValue (levels + 1) (serialize isPretty level (object members) ++ rest) :
          Option (JsonValue D × CString)) =
          parseObjectValue (parseValue levels)
            (serialize isPretty level (object members) ++ rest) := by
        rw [serialize, serializeContainer]
        simp only [List.cons_append]
        rw [parseValue, skipWhitespaces_cons (by decide)]
        simp
      rw [hvalue]
      exact parseObjectValue_serialize hnodup hnames
        fun m hm rest hrest ↦ ih m hm (hwf m hm) (hstored m hm) hrest

/-- A value has no byte order mark in front. -/
theorem bom_is_absent (hstored : v.All IsStored) :
    ¬([0xEF, 0xBB, 0xBF] : CString).isPrefixOf (serialize isPretty level v) = true := by
  obtain ⟨c, t, htext, -, -, -, hc⟩ := solid_serialize isPretty level hstored
  simp [htext, List.isPrefixOf, hc.symm]

/-- The text of a value, as `json_parse_string` reads it. -/
theorem jsonParseString_text (isPretty : Bool) (hwf : v.WellFormed) (hstored : v.All IsStored) :
    jsonParseString (jsonSerializeToString isPretty v) =
      if v.height < maxNesting + 1 then some v else none := by
  have hrest : EndsValue [] := fun c hc ↦ absurd hc (by simp)
  have hread : parseValue (maxNesting + 1) (serialize isPretty 0 v ++ []) = _ :=
    parseValue_serialize hwf hstored hrest
  rw [List.append_nil] at hread
  rw [jsonParseString, jsonSerializeToString]
  simp only [if_neg (bom_is_absent hstored)]
  rw [hread]
  split
  · rfl
  · rfl

/-- **A value that is not nested too deep is parsed back.** -/
theorem jsonParseString_of_height_le (isPretty : Bool) (hwf : v.WellFormed)
    (hstored : v.All IsStored) (hle : v.height ≤ maxNesting) :
    jsonParseString (jsonSerializeToString isPretty v) = some v := by
  rw [jsonParseString_text isPretty hwf hstored, if_pos (Nat.lt_succ_iff.2 hle)]

/-- **The round trip**: `json_parse_string` gives back exactly the values nested at most
`MAX_NESTING` deep. -/
theorem jsonParseString_serialize (isPretty : Bool) (hwf : v.WellFormed)
    (hstored : v.All IsStored) :
    jsonParseString (jsonSerializeToString isPretty v) =
      if v.height ≤ maxNesting then some v else none := by
  split
  next hle => exact jsonParseString_of_height_le isPretty hwf hstored hle
  next hgt => rw [jsonParseString_text isPretty hwf hstored, if_neg (by omega)]

/-- Names and strings of the sample that need escapes: `a"`, and a solidus, a backslash and two
control characters. -/
def sample : JsonValue ℤ :=
  object [([0x61, 0x22], array [number (-12), string [0x2F, 0x5C, 0x0A, 0x1F], null]),
    ([0x62], object []), ([], boolean false)]

/-- It is well formed. -/
theorem wellFormed_sample : sample.WellFormed := by
  simp [sample, WellFormed, all_object_iff, all_array_iff, all_number_iff, all_string_iff,
    all_null_iff, all_boolean_iff, IsWellFormed, NulFree, JsonNumbers.isFinite]

theorem stored_sample : sample.All IsStored := by
  simp [sample, all_object_iff, all_array_iff, all_number_iff, all_string_iff, all_null_iff,
    all_boolean_iff, IsStored, stored_integer]

/-- The round trip of the sample, in the pretty form. -/
theorem jsonParseString_serialize_sample :
    jsonParseString (jsonSerializeToString true sample) = some sample := by
  rw [jsonParseString_serialize true wellFormed_sample stored_sample]
  exact if_pos (by decide)

/-- **Parsing, writing and parsing again** gives the value that was parsed first, whatever text it
was parsed from. -/
theorem jsonParseString_reparse {text : CString} (h : jsonParseString text = some v)
    (hstored : v.All IsStored) (isPretty : Bool) :
    v.WellFormed ∧ v.height ≤ maxNesting ∧
      jsonParseString (jsonSerializeToString isPretty v) = some v := by
  obtain ⟨⟨v', rest⟩, hparse, rfl⟩ := Option.map_eq_some_iff.1 h
  obtain ⟨hwf, hheight⟩ := wellFormed_of_parseValue hparse
  have hle : v'.height ≤ maxNesting := Nat.lt_succ_iff.1 hheight
  exact ⟨hwf, hle, jsonParseString_of_height_le isPretty hwf hstored hle⟩

/-- The text `[ -7 ,{"k" :12}] ]`, with blanks and a bracket too many. -/
theorem jsonParseString_reparse_text :
    (array [number (-7), object [([0x6B], number 12)]] : JsonValue ℤ).WellFormed ∧
      (array [number (-7), object [([0x6B], number 12)]] : JsonValue ℤ).height ≤ maxNesting ∧
      jsonParseString (jsonSerializeToString false
          (array [number (-7), object [([0x6B], number 12)]] : JsonValue ℤ)) =
        some (array [number (-7), object [([0x6B], number 12)]]) := by
  have hparse : jsonParseString [0x5B, 0x20, 0x2D, 0x37, 0x20, 0x2C, 0x7B, 0x22, 0x6B, 0x22, 0x20,
      0x3A, 0x31, 0x32, 0x7D, 0x5D, 0x20, 0x5D] =
      some (array [number (-7), object [([0x6B], number 12)]] : JsonValue ℤ) := rfl
  refine jsonParseString_reparse hparse ?_ false
  simp [all_object_iff, all_array_iff, all_number_iff, IsStored, stored_integer]

end JsonValue

end Freenect
