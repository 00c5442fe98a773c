import Mathlib.Data.Nat.Digits.Lemmas

/-!
# Decimal numerals

Natural numbers as ASCII decimal numerals, most significant digit first and without leading zeros,
and how a numeral is read from the front of a text: the longest run of digits, folded from the
left. What is read after a numeral is printed is the number, whatever follows that is not a digit.

Two facts carry this. Folding the digits of a number from the most significant one on gives the
number back (`value_numeral`), and the longest run of digits in front of a numeral and something
that is not a digit is the numeral (`takeWhile_numeral`, `dropWhile_numeral`). A number that is
printed without padding begins with a zero only if it is zero (`head_numeral_ne_zero`), which is
what a parser that refuses leading zeros looks at.
-/

namespace Decimal

/-- The ASCII character of a digit. -/
def digit (d : ℕ) : UInt8 := UInt8.ofNat (48 + d)

/-- An ASCII digit. -/
def isDigit (c : UInt8) : Bool := 48 ≤ c.toNat && c.toNat ≤ 57

/-- The number that some digits stand for. -/
def value (text : List UInt8) : ℕ := text.foldl (fun n c ↦ 10 * n + (c.toNat - 48)) 0

/-- The numeral of a number. -/
def numeral (n : ℕ) : List UInt8 :=
  if n = 0 then [digit 0] else (Nat.digits 10 n).reverse.map digit

variable {n d : ℕ} {c : UInt8} {text rest : List UInt8}

/-- The digits by their codes. -/
theorem isDigit_iff : isDigit c = true ↔ 48 ≤ c.toNat ∧ c.toNat ≤ 57 := by
  rw [isDigit, Bool.and_eq_true, decide_eq_true_eq, decide_eq_true_eq]

theorem isDigit_of_le (h : 0x30 ≤ c ∧ c ≤ 0x39) : isDigit c = true :=
  isDigit_iff.2 ⟨UInt8.le_iff_toNat_le.1 h.1, UInt8.le_iff_toNat_le.1 h.2⟩

/-- A digit is no other character. -/
theorem ne_of_isDigit {e : UInt8} (hc : isDigit c = true) (he : isDigit e = false) : c ≠ e := by
  rintro rfl
  exact absurd hc (he ▸ Bool.false_ne_true)

/-- The code of a digit. -/
theorem toNat_digit (h : d < 10) : (digit d).toNat = 48 + d := by
  rw [digit, UInt8.toNat_ofNat']
  omega

/-- What is printed for a digit is one. -/
theorem isDigit_digit (h : d < 10) : isDigit (digit d) = true := by
  simp only [isDigit, toNat_digit h, Bool.and_eq_true, decide_eq_true_eq]
  omega

/-- A numeral consists of digits. -/
theorem isDigit_of_mem_numeral (h : c ∈ numeral n) : isDigit c = true := by
  rw [numeral] at h
  split at h
  · rw [List.mem_singleton.1 h]
    exact isDigit_digit (by decide)
  · obtain ⟨d, hd, rfl⟩ := List.mem_map.1 h
    exact isDigit_digit (Nat.digits_lt_base (by decide) (List.mem_reverse.1 hd))

/-- A numeral is not empty: zero is printed as one digit. -/
theorem numeral_ne_nil (n : ℕ) : numeral n ≠ [] := by
  rw [numeral]
  split
  · exact List.cons_ne_nil _ _
  · rename_i h
    simpa [Nat.digits_ne_nil_iff_ne_zero] using h

/-- Folding the digits from the most significant one gives the number back. -/
theorem value_map_digit {ds : List ℕ} (h : ∀ d ∈ ds, d < 10) :
    value (ds.reverse.map digit) = Nat.ofDigits 10 ds := by
  induction ds with
  | nil => rfl
  | cons d ds ih =>
    have hd : d < 10 := h d List.mem_cons_self
    have hds := ih fun d' hd' ↦ h d' (List.mem_cons_of_mem _ hd')
    rw [List.reverse_cons, List.map_append, value, List.foldl_append, ← value, hds]
    show 10 * Nat.ofDigits 10 ds + ((digit d).toNat - 48) = _
    rw [toNat_digit hd, Nat.ofDigits_cons]
    omega

/-- **A numeral stands for the number it was printed for.** -/
@[simp] theorem value_numeral (n : ℕ) : value (numeral n) = n := by
  rw [numeral]
  split
  · rename_i h
    rw [h]
    rfl
  · rw [value_map_digit fun d hd ↦ Nat.digits_lt_base (by decide) hd, Nat.ofDigits_digits]

/-- A numeral has no leading zero. -/
theorem head_numeral_ne_zero (h : numeral n = digit 0 :: text) : n = 0 ∧ text = [] := by
  rw [numeral] at h
  split at h
  · rename_i hn
    exact ⟨hn, (List.cons.inj h).2.symm⟩
  · rename_i hn
    -- the first character is the last digit of `Nat.digits`, which is not zero
    have hne : Nat.digits 10 n ≠ [] := Nat.digits_ne_nil_iff_ne_zero.2 hn
    have hlast := Nat.getLast_digit_ne_zero 10 hn
    have hmem := Nat.digits_lt_base (by decide) (List.getLast_mem hne)
    have hhead : digit ((Nat.digits 10 n).getLast hne) = digit 0 := by
      rw [← List.dropLast_concat_getLast hne, List.reverse_append, List.map_append] at h
      exact (List.cons.inj h).1
    have heq := congrArg UInt8.toNat hhead
    rw [toNat_digit hmem, toNat_digit (by decide)] at heq
    omega

/-! ### Reading

A reader takes the longest run of digits. Where a numeral is followed by no further digit, this is
the numeral. -/

/-- What comes next is not a digit. -/
def Ends (rest : List UInt8) : Prop := ∀ c ∈ rest.head?, isDigit c = false

/-- The longest run of digits in front of something that is none. -/
theorem takeWhile_append (h : ∀ c ∈ text, isDigit c = true) (hrest : Ends rest) :
    (text ++ rest).takeWhile isDigit = text := by
  rw [List.takeWhile_append_of_pos h]
  cases rest with
  | nil => simp
  | cons c rest => simp [hrest c rfl]

/-- What is left behind it. -/
theorem dropWhile_append (h : ∀ c ∈ text, isDigit c = true) (hrest : Ends rest) :
    (text ++ rest).dropWhile isDigit = rest := by
  rw [List.dropWhile_append_of_pos h]
  cases rest with
  | nil => simp
  | cons c rest => simp [hrest c rfl]

/-- **A printed numeral is read back**, and reading stops where it ends. -/
theorem takeWhile_numeral (n : ℕ) (hrest : Ends rest) :
    (numeral n ++ rest).takeWhile isDigit = numeral n :=
  takeWhile_append (fun _ ↦ isDigit_of_mem_numeral) hrest

/-- The same for what is left. -/
theorem dropWhile_numeral (n : ℕ) (hrest : Ends rest) :
    (numeral n ++ rest).dropWhile isDigit = rest :=
  dropWhile_append (fun _ ↦ isDigit_of_mem_numeral) hrest

end Decimal
