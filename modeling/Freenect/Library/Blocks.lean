import Mathlib.Data.List.Basic

/-!
# Cutting a list into blocks

`blocks b l` is the list `l` cut into blocks of `b` elements; the last one may be shorter. A loop
that sends a buffer in pieces goes through the blocks from left to right (`blocks_drop`), and what
it has sent in the end is the list itself (`flatten_blocks`). Two nested loops over rows of `b`
elements visit the elements in order (`flatMap_range`).

The induction of a proof about such a loop is on the number of rounds: `blocks_drop` gives the block
of one round and the blocks that are left, `blocks_drop_of_le` says when there is none left, and
`length_block` is the length of the block, the short last one included.
-/

universe u

namespace ListBlocks

variable {α : Type u} {b : ℕ} {l : List α}

/-- **Rows of equal length, one behind the other**: the index `y * b + x` runs through the numbers
in order. -/
theorem flatMap_range (a b : ℕ) :
    ((List.range a).flatMap fun y ↦ (List.range b).map fun x ↦ y * b + x) = List.range (a * b) := by
  induction a with
  | zero => rw [Nat.zero_mul, List.range_zero, List.flatMap_nil]
  | succ a ih =>
    rw [List.range_succ, List.flatMap_append, ih, Nat.succ_mul, List.range_add,
      List.flatMap_singleton]

/-- The list in blocks of `b` elements. -/
def blocks (b : ℕ) (l : List α) : List (List α) :=
  (List.range ((l.length + b - 1) / b)).map fun i ↦ (l.drop (i * b)).take b

/-- How many blocks there are: the quotient, rounded up. -/
@[simp] theorem length_blocks (b : ℕ) (l : List α) :
    (blocks b l).length = (l.length + b - 1) / b := by
  simp [blocks]

/-- An empty list has no block, not an empty one. -/
theorem blocks_nil (hb : 0 < b) : blocks b ([] : List α) = [] := by
  have h : ([] : List α).length + b - 1 < b := by
    rw [List.length_nil]
    omega
  rw [← List.length_eq_zero_iff, length_blocks, Nat.div_eq_of_lt h]

/-- The first block, and those of the rest. -/
theorem blocks_of_ne_nil (hb : 0 < b) (hl : l ≠ []) :
    blocks b l = l.take b :: blocks b (l.drop b) := by
  have hpos := List.length_pos_iff.2 hl
  have hcount : (l.length + b - 1) / b = ((l.drop b).length + b - 1) / b + 1 := by
    rw [List.length_drop]
    rcases Nat.le_total l.length b with hle | hle
    · rw [Nat.sub_eq_zero_of_le hle, Nat.div_eq_of_lt (by omega : 0 + b - 1 < b)]
      exact Nat.div_eq_of_lt_le (by omega) (by omega)
    · rw [← Nat.add_div_right _ hb]
      congr 1
      omega
  rw [blocks, hcount, List.range_succ_eq_map, List.map_cons, List.map_map]
  refine congrArg₂ _ (by simp) (List.map_congr_left fun i _ ↦ ?_)
  simp only [Function.comp_apply, List.drop_drop]
  congr 2
  rw [Nat.succ_mul, Nat.add_comm]

/-- The block that begins behind `k` elements. -/
theorem length_block (l : List α) (b k : ℕ) :
    ((l.drop k).take b).length = min b (l.length - k) := by
  rw [List.length_take, List.length_drop]

/-- The blocks of what is left behind `k` elements: the first one, and what is left behind it. -/
theorem blocks_drop (hb : 0 < b) {k : ℕ} (hk : k < l.length) :
    blocks b (l.drop k) =
      (l.drop k).take b :: blocks b (l.drop (k + ((l.drop k).take b).length)) := by
  have hne : l.drop k ≠ [] := List.drop_eq_nil_iff.not.2 (Nat.not_le.2 hk)
  have hrest : (l.drop k).drop b = l.drop (k + ((l.drop k).take b).length) := by
    rw [← List.drop_drop, List.length_take]
    rcases Nat.le_total b (l.drop k).length with hle | hle
    · rw [Nat.min_eq_left hle]
    · rw [Nat.min_eq_right hle, List.drop_length, List.drop_eq_nil_of_le hle]
  rw [blocks_of_ne_nil hb hne, hrest]

/-- Nothing is left. -/
theorem blocks_drop_of_le (hb : 0 < b) {k : ℕ} (hk : l.length ≤ k) : blocks b (l.drop k) = [] := by
  rw [List.drop_eq_nil_of_le hk, blocks_nil hb]

/-- A block has at most `b` elements. -/
theorem length_le_of_mem {x : List α} (h : x ∈ blocks b l) : x.length ≤ b := by
  obtain ⟨i, -, rfl⟩ := List.mem_map.1 h
  exact List.length_take_le _ _

/-- **The blocks make up the list.** -/
theorem flatten_blocks (hb : 0 < b) (l : List α) : (blocks b l).flatten = l := by
  induction hn : l.length using Nat.strongRecOn generalizing l with
  | ind n ih =>
    by_cases hl : l = []
    · rw [hl, blocks_nil hb]
      rfl
    · have hpos := List.length_pos_iff.2 hl
      rw [blocks_of_ne_nil hb hl, List.flatten_cons,
        ih (l.drop b).length (by rw [List.length_drop]; omega) _ rfl, List.take_append_drop]

end ListBlocks
