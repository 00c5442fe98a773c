import Mathlib.Algebra.Order.Group.Nat
import Mathlib.Data.Nat.Notation
import Mathlib.Tactic.Common

/-!
# Streams of bits, most significant first

A stream of bits is a function of the position. `number` is the number that some consecutive bits
form when the first is the most significant; its rules say how a number is cut in two. A stream of
`w`-bit words has a stream of bits (`ofWords`), and a stream of bits can be cut into words
(`words`); the two undo each other.

The interface is small on purpose. A number is cut at any bit (`number_add`), which gives its
quotient and its remainder by a power of two (`number_div`, `number_mod`); two streams that agree on
the bits in question give the same number (`number_congr`); and a number below `2 ^ w` is the one
its own `w` bits form (`number_eq_mod`). A program that packs words by shifts and masks is then
compared with the stream word by word, and never bit by bit.
-/

namespace BitStream

/-- The number that the `w` bits from position `a` on form, most significant first. -/
def number (b : ℕ → Bool) (a : ℕ) : ℕ → ℕ
  | 0 => 0
  | w + 1 => 2 * number b a w + (b (a + w)).toNat

variable {b b' : ℕ → Bool} {a a' v w x : ℕ}

@[simp] theorem number_zero : number b a 0 = 0 := rfl

theorem number_succ : number b a (w + 1) = 2 * number b a w + (b (a + w)).toNat := rfl

/-- `w` bits form a number below `2 ^ w`. -/
theorem number_lt (b : ℕ → Bool) (a w : ℕ) : number b a w < 2 ^ w := by
  induction w with
  | zero => exact Nat.one_pos
  | succ w ih =>
    have hbit := (b (a + w)).toNat_lt
    rw [number_succ, Nat.pow_succ]
    omega

/-- Streams that agree on the bits in question form the same number there. -/
theorem number_congr (h : ∀ r < w, b (a + r) = b' (a' + r)) : number b a w = number b' a' w := by
  induction w with
  | zero => rfl
  | succ w ih =>
    rw [number_succ, number_succ, ih fun r hr ↦ h r (Nat.lt_succ_of_lt hr),
      h w (Nat.lt_succ_self w)]

/-- **A number is cut in two**: the bits from `a + v` on are its low end. -/
theorem number_add (b : ℕ → Bool) (a v w : ℕ) :
    number b a (v + w) = number b a v * 2 ^ w + number b (a + v) w := by
  induction w with
  | zero => simp
  | succ w ih =>
    rw [← Nat.add_assoc, number_succ, ih, number_succ, Nat.pow_succ, ← Nat.mul_assoc,
      Nat.add_assoc a v w]
    omega

/-- A shift to the right drops the low end of a number. -/
theorem number_div (b : ℕ → Bool) (a v w : ℕ) : number b a (v + w) / 2 ^ w = number b a v := by
  rw [number_add, Nat.add_comm, Nat.add_mul_div_right _ _ (Nat.two_pow_pos w),
    Nat.div_eq_of_lt (number_lt b (a + v) w), Nat.zero_add]

/-- A mask keeps the low end of a number. -/
theorem number_mod (b : ℕ → Bool) (a v w : ℕ) :
    number b a (v + w) % 2 ^ w = number b (a + v) w := by
  rw [number_add, Nat.mul_add_mod_self_right, Nat.mod_eq_of_lt (number_lt b (a + v) w)]

/-- The bits of a number form it. -/
theorem number_eq_mod (h : ∀ r < w, b (a + r) = x.testBit (w - 1 - r)) :
    number b a w = x % 2 ^ w := by
  induction w generalizing x with
  | zero => simp [Nat.mod_one]
  | succ w ih =>
    have hhigh : number b a w = x / 2 % 2 ^ w := by
      refine ih fun r hr ↦ ?_
      rw [h r (Nat.lt_succ_of_lt hr), Nat.testBit_div_two]
      congr 1
      omega
    have hlow : (b (a + w)).toNat = x % 2 := by
      rw [h w (Nat.lt_succ_self w), show w + 1 - 1 - w = 0 by omega, Nat.testBit_zero]
      rcases Nat.mod_two_eq_zero_or_one x with h0 | h1
      · simp [h0]
      · simp [h1]
    rw [number_succ, hhigh, hlow, Nat.pow_succ, Nat.mul_comm (2 ^ w), Nat.mod_mul]
    omega

/-- The bits of a number are those of the stream, the last one first. -/
theorem testBit_number (b : ℕ → Bool) (a w : ℕ) {r : ℕ} (hr : r < w) :
    (number b a w).testBit r = b (a + (w - 1 - r)) := by
  induction w generalizing r with
  | zero => exact absurd hr (Nat.not_lt_zero r)
  | succ w ih =>
    have hbit := (b (a + w)).toNat_lt
    rw [number_succ]
    cases r with
    | zero =>
      rw [Nat.testBit_zero, Nat.mul_add_mod_self_left]
      cases hb : b (a + w) <;> simp [hb]
    | succ r =>
      rw [Nat.testBit_succ, Nat.add_comm, Nat.add_mul_div_left _ _ Nat.two_pos,
        Nat.div_eq_of_lt hbit, Nat.zero_add, ih (Nat.lt_of_succ_lt_succ hr)]
      congr 2
      omega

/-! ### Words -/

/-- The bits of a stream of `w`-bit words. -/
def ofWords (w : ℕ) (x : ℕ → ℕ) : ℕ → Bool := fun j ↦ (x (j / w)).testBit (w - 1 - j % w)

/-- A stream of bits cut into `w`-bit words. -/
def words (w : ℕ) (b : ℕ → Bool) : ℕ → ℕ := fun k ↦ number b (k * w) w

/-- A word is the number its bits form. -/
theorem number_ofWords (x : ℕ → ℕ) (i w : ℕ) : number (ofWords w x) (i * w) w = x i % 2 ^ w := by
  refine number_eq_mod fun r hr ↦ ?_
  rw [ofWords, Nat.add_comm, Nat.add_mul_div_right _ _ (by omega), Nat.add_mul_mod_self_right,
    Nat.div_eq_of_lt hr, Nat.mod_eq_of_lt hr, Nat.zero_add]

/-- What is cut out of a stream fits a word. -/
theorem words_lt (w : ℕ) (b : ℕ → Bool) (k : ℕ) : words w b k < 2 ^ w := number_lt b (k * w) w

/-- Cutting into words and reading the bits again. -/
theorem ofWords_words (hw : 0 < w) (b : ℕ → Bool) : ofWords w (words w b) = b := by
  funext j
  have hmod := Nat.mod_lt j hw
  have hdiv := Nat.div_add_mod' j w
  rw [ofWords, words, testBit_number b _ w (by omega)]
  congr 1
  omega

end BitStream
