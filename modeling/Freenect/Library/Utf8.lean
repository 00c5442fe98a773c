import Mathlib.Algebra.Group.Nat.Defs
import Mathlib.Data.List.Basic
import Mathlib.Data.Nat.Notation
import Mathlib.Tactic.Common

/-!
# Byte strings that are UTF-8

A byte string is UTF-8 when it is a sequence of characters, each in Lean's own encoding. The bytes
below `0x80` are characters on their own, so such a string can be cut before and after any of them
(`isUtf8_append_cons_iff`); the longer encodings are given by the ranges of their bytes.

Lean has the encoding as a function of the character. A program that checks bytes goes the other
way: it looks at the first byte, takes as many as that announces, and computes a code point. So the
encoding is described twice, by the bytes of a given character (`encodeChar_one` to
`encodeChar_four`) and by the character of given bytes (`exists_encodeChar_one` to
`exists_encodeChar_four`), where the ranges of the bytes, the least code point for the length and
the surrogates are hypotheses. `value_two` to `value_four` are the arithmetic between the two.

That the notion is the library's own is `isUtf8_iff_isValidUTF8`.
-/

namespace Utf8

/-- The high bits of a byte. -/
theorem toNat_and_high (b : UInt8) {m : UInt8} {k : ℕ} (hm : m.toNat = (2 ^ (8 - k) - 1) * 2 ^ k) :
    (b &&& m).toNat = b.toNat / 2 ^ k * 2 ^ k := by
  rw [UInt8.toNat_and, hm]
  refine Nat.eq_of_testBit_eq fun i ↦ ?_
  rw [Nat.testBit_and, Nat.testBit_mul_two_pow, Nat.testBit_mul_two_pow,
    Nat.testBit_two_pow_sub_one, Nat.testBit_div_two_pow]
  by_cases hi : k ≤ i
  · rw [Nat.sub_add_cancel hi, decide_eq_true hi]
    by_cases h8 : i < 8
    · simp [show i - k < 8 - k by omega]
    · have hlt : b.toNat < 2 ^ i :=
        Nat.lt_of_lt_of_le b.toNat_lt (Nat.pow_le_pow_right (by decide) (Nat.le_of_not_lt h8))
      simp [Nat.testBit_lt_two_pow hlt]
  · simp [hi]

/-- A sequence of encoded characters. -/
def IsUtf8 (s : List UInt8) : Prop := ∃ cs : List Char, s = cs.flatMap String.utf8EncodeChar

variable {a b s t : List UInt8} {c : UInt8}

/-- The notion is that of the library's strings. -/
theorem isUtf8_iff_isValidUTF8 : IsUtf8 s ↔ s.toByteArray.IsValidUTF8 := by
  constructor
  · rintro ⟨cs, rfl⟩
    exact ⟨cs, rfl⟩
  · rintro ⟨cs, h⟩
    have hlist := congrArg (fun x ↦ x.data.toList) h
    rw [List.utf8Encode, List.data_toByteArray, List.data_toByteArray] at hlist
    exact ⟨cs, hlist⟩

theorem isUtf8_nil : IsUtf8 [] := ⟨[], rfl⟩

theorem isUtf8_encodeChar (c : Char) : IsUtf8 (String.utf8EncodeChar c) := ⟨[c], by simp⟩

/-- Strings of characters can be put together. -/
theorem IsUtf8.append (hs : IsUtf8 s) (ht : IsUtf8 t) : IsUtf8 (s ++ t) := by
  obtain ⟨cs, rfl⟩ := hs
  obtain ⟨ds, rfl⟩ := ht
  exact ⟨cs ++ ds, List.flatMap_append.symm⟩

/-! ### The encoding of one character

One lemma for each length, in both directions. `Nat` division and remainder stand for the shifts and
masks. -/

/-- A character of one byte. -/
theorem encodeChar_one {c : Char} (h : c.val.toNat < 0x80) :
    ∃ b₀, String.utf8EncodeChar c = [b₀] ∧ b₀.toNat = c.val.toNat := by
  refine ⟨_, by rw [String.utf8EncodeChar, if_pos (by omega)], ?_⟩
  simp only [UInt8.toNat_ofNat']
  omega

/-- A character of two bytes. -/
theorem encodeChar_two {c : Char} (h : 0x80 ≤ c.val.toNat) (h' : c.val.toNat < 0x800) :
    ∃ b₀ b₁, String.utf8EncodeChar c = [b₀, b₁] ∧ b₀.toNat = c.val.toNat / 64 + 0xC0 ∧
      b₁.toNat = c.val.toNat % 64 + 0x80 := by
  refine ⟨_, _, by rw [String.utf8EncodeChar, if_neg (by omega), if_pos (by omega)], ?_, ?_⟩ <;>
    simp only [UInt8.toNat_ofNat'] <;> omega

/-- A character of three bytes. -/
theorem encodeChar_three {c : Char} (h : 0x800 ≤ c.val.toNat) (h' : c.val.toNat < 0x10000) :
    ∃ b₀ b₁ b₂, String.utf8EncodeChar c = [b₀, b₁, b₂] ∧
      b₀.toNat = c.val.toNat / 4096 + 0xE0 ∧ b₁.toNat = c.val.toNat / 64 % 64 + 0x80 ∧
      b₂.toNat = c.val.toNat % 64 + 0x80 := by
  refine ⟨_, _, _, by rw [String.utf8EncodeChar, if_neg (by omega), if_neg (by omega),
    if_pos (by omega)], ?_, ?_, ?_⟩ <;> simp only [UInt8.toNat_ofNat'] <;> omega

/-- A character of four bytes. -/
theorem encodeChar_four {c : Char} (h : 0x10000 ≤ c.val.toNat) (h' : c.val.toNat ≤ 0x10FFFF) :
    ∃ b₀ b₁ b₂ b₃, String.utf8EncodeChar c = [b₀, b₁, b₂, b₃] ∧
      b₀.toNat = c.val.toNat / 262144 + 0xF0 ∧ b₁.toNat = c.val.toNat / 4096 % 64 + 0x80 ∧
      b₂.toNat = c.val.toNat / 64 % 64 + 0x80 ∧ b₃.toNat = c.val.toNat % 64 + 0x80 := by
  refine ⟨_, _, _, _, by rw [String.utf8EncodeChar, if_neg (by omega), if_neg (by omega),
    if_neg (by omega)], ?_, ?_, ?_, ?_⟩ <;> simp only [UInt8.toNat_ofNat'] <;> omega

/-- The code point that is read from the bytes of a character. -/
theorem value_two {n : ℕ} (h : n < 0x800) :
    (n / 64 + 0xC0) % 32 * 64 + (n % 64 + 0x80) % 64 = n := by
  omega

/-- The same for three bytes. -/
theorem value_three {n : ℕ} (h : n < 0x10000) :
    ((n / 4096 + 0xE0) % 16 * 64 + (n / 64 % 64 + 0x80) % 64) * 64 + (n % 64 + 0x80) % 64 = n := by
  omega

/-- The same for four bytes. -/
theorem value_four {n : ℕ} (h : n ≤ 0x10FFFF) :
    (((n / 262144 + 0xF0) % 8 * 64 + (n / 4096 % 64 + 0x80) % 64) * 64 +
      (n / 64 % 64 + 0x80) % 64) * 64 + (n % 64 + 0x80) % 64 = n := by
  omega

/-- A Unicode scalar value as a character. -/
theorem exists_char {n : ℕ} (h : n < 0xD800 ∨ 0xDFFF < n) (h' : n ≤ 0x10FFFF) :
    ∃ c : Char, c.val.toNat = n := by
  have hvalid : n.isValidChar := by
    rw [Nat.isValidChar]
    omega
  exact ⟨Char.ofNatAux n hvalid, rfl⟩

/-- Which bytes are the encoding of a character. -/
theorem exists_encodeChar_one {b₀ : UInt8} (h₀ : b₀.toNat < 0x80) :
    ∃ c, String.utf8EncodeChar c = [b₀] := by
  obtain ⟨c, hc⟩ := exists_char (n := b₀.toNat) (by omega) (by omega)
  obtain ⟨a₀, henc, ha₀⟩ := encodeChar_one (c := c) (by omega)
  exact ⟨c, by rw [henc, UInt8.toNat_inj.1 (ha₀.trans hc)]⟩

/-- Two bytes. A first byte below `0xC2` would encode a character of one byte. -/
theorem exists_encodeChar_two {b₀ b₁ : UInt8} (h₀ : 0xC2 ≤ b₀.toNat ∧ b₀.toNat < 0xE0)
    (h₁ : 0x80 ≤ b₁.toNat ∧ b₁.toNat < 0xC0) : ∃ c, String.utf8EncodeChar c = [b₀, b₁] := by
  obtain ⟨c, hc⟩ := exists_char (n := b₀.toNat % 32 * 64 + b₁.toNat % 64) (by omega) (by omega)
  obtain ⟨a₀, a₁, henc, ha₀, ha₁⟩ := encodeChar_two (c := c) (by omega) (by omega)
  have he₀ : a₀ = b₀ := UInt8.toNat_inj.1 (by omega)
  have he₁ : a₁ = b₁ := UInt8.toNat_inj.1 (by omega)
  exact ⟨c, by rw [henc, he₀, he₁]⟩

/-- Three bytes. The code point must need them, and must not be a surrogate. -/
theorem exists_encodeChar_three {b₀ b₁ b₂ : UInt8} {n : ℕ}
    (h₀ : 0xE0 ≤ b₀.toNat ∧ b₀.toNat < 0xF0) (h₁ : 0x80 ≤ b₁.toNat ∧ b₁.toNat < 0xC0)
    (h₂ : 0x80 ≤ b₂.toNat ∧ b₂.toNat < 0xC0)
    (hn : n = (b₀.toNat % 16 * 64 + b₁.toNat % 64) * 64 + b₂.toNat % 64) (hmin : 0x800 ≤ n)
    (hscalar : n < 0xD800 ∨ 0xDFFF < n) : ∃ c, String.utf8EncodeChar c = [b₀, b₁, b₂] := by
  -- the code point is written in digits to the base 64
  have hd₀ : n / 4096 = b₀.toNat % 16 := by omega
  have hd₁ : n / 64 % 64 = b₁.toNat % 64 := by omega
  have hd₂ : n % 64 = b₂.toNat % 64 := by omega
  have hmax : n < 0x10000 := by omega
  obtain ⟨c, rfl⟩ := exists_char hscalar (by omega)
  obtain ⟨a₀, a₁, a₂, henc, ha₀, ha₁, ha₂⟩ := encodeChar_three hmin hmax
  rw [hd₀] at ha₀
  rw [hd₁] at ha₁
  rw [hd₂] at ha₂
  clear hn hd₀ hd₁ hd₂
  have he₀ : a₀ = b₀ := UInt8.toNat_inj.1 (by omega)
  have he₁ : a₁ = b₁ := UInt8.toNat_inj.1 (by omega)
  have he₂ : a₂ = b₂ := UInt8.toNat_inj.1 (by omega)
  exact ⟨c, by rw [henc, he₀, he₁, he₂]⟩

/-- Four bytes. The code point must need them, and must not be beyond the last one. -/
theorem exists_encodeChar_four {b₀ b₁ b₂ b₃ : UInt8} {n : ℕ}
    (h₀ : 0xF0 ≤ b₀.toNat ∧ b₀.toNat < 0xF5) (h₁ : 0x80 ≤ b₁.toNat ∧ b₁.toNat < 0xC0)
    (h₂ : 0x80 ≤ b₂.toNat ∧ b₂.toNat < 0xC0) (h₃ : 0x80 ≤ b₃.toNat ∧ b₃.toNat < 0xC0)
    (hn : n = ((b₀.toNat % 8 * 64 + b₁.toNat % 64) * 64 + b₂.toNat % 64) * 64 + b₃.toNat % 64)
    (hmin : 0x10000 ≤ n) (hmax : n ≤ 0x10FFFF) :
    ∃ c, String.utf8EncodeChar c = [b₀, b₁, b₂, b₃] := by
  have hd₀ : n / 262144 = b₀.toNat % 8 := by omega
  have hd₁ : n / 4096 % 64 = b₁.toNat % 64 := by omega
  have hd₂ : n / 64 % 64 = b₂.toNat % 64 := by omega
  have hd₃ : n % 64 = b₃.toNat % 64 := by omega
  obtain ⟨c, rfl⟩ := exists_char (.inr (by omega)) hmax
  obtain ⟨a₀, a₁, a₂, a₃, henc, ha₀, ha₁, ha₂, ha₃⟩ := encodeChar_four hmin hmax
  rw [hd₀] at ha₀
  rw [hd₁] at ha₁
  rw [hd₂] at ha₂
  rw [hd₃] at ha₃
  clear hn hd₀ hd₁ hd₂ hd₃
  have he₀ : a₀ = b₀ := UInt8.toNat_inj.1 (by omega)
  have he₁ : a₁ = b₁ := UInt8.toNat_inj.1 (by omega)
  have he₂ : a₂ = b₂ := UInt8.toNat_inj.1 (by omega)
  have he₃ : a₃ = b₃ := UInt8.toNat_inj.1 (by omega)
  exact ⟨c, by rw [henc, he₀, he₁, he₂, he₃]⟩

/-- A character is a scalar value. -/
theorem char_valid (c : Char) :
    (c.val.toNat < 0xD800 ∨ 0xDFFF < c.val.toNat) ∧ c.val.toNat ≤ 0x10FFFF := by
  have h := c.valid
  rw [UInt32.isValidChar, Nat.isValidChar] at h
  omega

/-- A byte below `0x80` is a character on its own. -/
theorem isUtf8_singleton (hc : c < 0x80) : IsUtf8 [c] := by
  have hlt : c.toNat < 0x80 := hc
  obtain ⟨d, hd⟩ := exists_char (n := c.toNat) (by omega) (by omega)
  obtain ⟨b₀, hb, hval⟩ := encodeChar_one (c := d) (by omega)
  rw [show c = b₀ from UInt8.toNat_inj.1 (by omega), ← hb]
  exact isUtf8_encodeChar d

/-- A byte below `0x80` in front of a string. -/
theorem IsUtf8.cons (hc : c < 0x80) (hs : IsUtf8 s) : IsUtf8 (c :: s) :=
  (isUtf8_singleton hc).append hs

/-- A byte below `0x80` is in no longer encoding. -/
theorem encodeChar_eq_of_mem {d : Char} (h : c ∈ String.utf8EncodeChar d) (hc : c < 0x80) :
    String.utf8EncodeChar d = [c] := by
  have hlt : c.toNat < 0x80 := hc
  rw [String.utf8EncodeChar] at h ⊢
  split_ifs at h ⊢ with h₁ h₂ h₃
  · rw [List.mem_singleton.1 h]
  · simp only [List.mem_cons, List.not_mem_nil, or_false] at h
    rcases h with rfl | rfl <;> simp only [UInt8.toNat_ofNat'] at hlt <;> omega
  · simp only [List.mem_cons, List.not_mem_nil, or_false] at h
    rcases h with rfl | rfl | rfl <;> simp only [UInt8.toNat_ofNat'] at hlt <;> omega
  · simp only [List.mem_cons, List.not_mem_nil, or_false] at h
    rcases h with rfl | rfl | rfl | rfl <;> simp only [UInt8.toNat_ofNat'] at hlt <;> omega

/-- A character is one byte below `0x80`, or some bytes that are not. -/
theorem encodeChar_cases (d : Char) :
    (∃ c, c < 0x80 ∧ String.utf8EncodeChar d = [c]) ∨ ∀ c ∈ String.utf8EncodeChar d, ¬c < 0x80 := by
  by_cases h : ∃ c ∈ String.utf8EncodeChar d, c < 0x80
  · obtain ⟨c, hmem, hc⟩ := h
    exact .inl ⟨c, hc, encodeChar_eq_of_mem hmem hc⟩
  · exact .inr fun c hmem hc ↦ h ⟨c, hmem, hc⟩

/-- No character has an empty encoding. -/
theorem encodeChar_ne_nil (c : Char) : String.utf8EncodeChar c ≠ [] := by
  rw [String.utf8EncodeChar]
  split_ifs <;> exact List.cons_ne_nil _ _

/-! ### Cutting

A byte below `0x80` is in no longer encoding, so it ends one character and begins another: what
stands before it and behind it are strings on their own. -/

/-- Where the byte stands in the string, by induction on the characters in front of it. -/
theorem isUtf8_of_append_cons {cs : List Char} (hc : c < 0x80)
    (h : cs.flatMap String.utf8EncodeChar = a ++ c :: b) : IsUtf8 a ∧ IsUtf8 b := by
  induction cs generalizing a with
  | nil => simp at h
  | cons d cs ih =>
    rw [List.flatMap_cons, List.append_eq_append_iff] at h
    -- the byte is either beyond the first character or in it
    rcases h with ⟨a', rfl, ha'⟩ | ⟨d', hd, hd'⟩
    · obtain ⟨h₁, h₂⟩ := ih ha'
      exact ⟨(isUtf8_encodeChar d).append h₁, h₂⟩
    · cases d' with
      | nil =>
        rw [List.append_nil] at hd
        obtain ⟨h₁, h₂⟩ := ih (a := []) hd'.symm
        exact ⟨hd ▸ isUtf8_encodeChar d, h₂⟩
      | cons e d' =>
        obtain ⟨rfl, rfl⟩ := List.cons.inj hd'
        have hmem : c ∈ String.utf8EncodeChar d := by simp [hd]
        have hone := hd ▸ encodeChar_eq_of_mem hmem hc
        have hlen := congrArg List.length hone
        simp only [List.length_append, List.length_cons, List.length_nil] at hlen
        have ha : a = [] := List.length_eq_zero_iff.1 (by omega)
        have hd'' : d' = [] := List.length_eq_zero_iff.1 (by omega)
        subst ha hd''
        exact ⟨isUtf8_nil, ⟨cs, rfl⟩⟩

/-- **A string can be cut at a byte below `0x80`.** -/
theorem isUtf8_append_cons_iff (hc : c < 0x80) : IsUtf8 (a ++ c :: b) ↔ IsUtf8 a ∧ IsUtf8 b := by
  constructor
  · rintro ⟨cs, h⟩
    exact isUtf8_of_append_cons hc h.symm
  · rintro ⟨ha, hb⟩
    exact ha.append (hb.cons hc)

/-- A byte below `0x80` at the front. -/
theorem isUtf8_cons_iff (hc : c < 0x80) : IsUtf8 (c :: b) ↔ IsUtf8 b := by
  simpa [isUtf8_nil] using isUtf8_append_cons_iff (a := []) (b := b) hc

/-- What follows some bytes below `0x80`. -/
theorem IsUtf8.of_append (ha : ∀ c ∈ a, c < 0x80) (h : IsUtf8 (a ++ b)) : IsUtf8 b := by
  induction a with
  | nil => exact h
  | cons c a ih =>
    exact ih (fun d hd ↦ ha d (List.mem_cons_of_mem _ hd))
      ((isUtf8_cons_iff (ha c List.mem_cons_self)).1 h)

/-- What follows a character. -/
theorem IsUtf8.of_encodeChar_append (d : Char) (h : IsUtf8 (String.utf8EncodeChar d ++ b)) :
    IsUtf8 b := by
  rw [isUtf8_iff_isValidUTF8] at h ⊢
  refine ByteArray.isValidUTF8_utf8Encode_singleton_append_iff (c := d).1 ?_
  rwa [List.utf8Encode, List.flatMap_singleton, ← List.toByteArray_append]

end Utf8
