import Mathlib.Data.List.Basic

/-!
# Block memory

Memory as a cell for every block and offset, with one operation: `store`, which copies a list of
cells to an offset of a block. `Holds m b off data` says that the block carries the list there.

The rules are the usual frame rules: a store is read back (`holds_store_self`), leaves other blocks
and disjoint ranges alone (`store_of_ne`, `holds_store_of_disjoint`), and two adjacent ranges
make one (`holds_append`). Blocks have no length here: that an access stays inside a block is a
property of the program that makes it, not of the memory.
-/

universe u

/-- A cell for every block and every offset inside it. -/
def BlockMemory (β : Type u) : Type u := ℕ → ℕ → β

namespace BlockMemory

variable {β : Type u}

/-- Copy `data` to the cells of block `b` from offset `off` on. -/
def store (m : BlockMemory β) (b off : ℕ) (data : List β) : BlockMemory β := fun b' x ↦
  if b' = b ∧ off ≤ x then (data[x - off]?).getD (m b' x) else m b' x

/-- Block `b` carries `data` at offset `off`. -/
def Holds (m : BlockMemory β) (b off : ℕ) (data : List β) : Prop :=
  ∀ i (h : i < data.length), m b (off + i) = data[i]

variable {m : BlockMemory β} {b b' off off' : ℕ} {data data' : List β}

/-- Other blocks are as they were. -/
theorem store_of_ne (h : b' ≠ b) : m.store b off data b' = m b' := by
  funext x
  simp [store, h]

/-- So are the cells in front of the stored ones. -/
theorem store_of_lt {x : ℕ} (h : x < off) : m.store b off data b' x = m b' x := by
  simp [store, Nat.not_le.2 h]

theorem store_of_le {x : ℕ} (h : off + data.length ≤ x) :
    m.store b off data b' x = m b' x := by
  have hnone : data[x - off]? = none := List.getElem?_eq_none (by omega)
  simp [store, hnone]

/-- A cell after a store is what it was, or it is one of the stored ones. -/
theorem store_cases (m : BlockMemory β) (b off : ℕ) (data : List β) (b' x : ℕ) :
    m.store b off data b' x = m b' x ∨ m.store b off data b' x ∈ data := by
  by_cases h : b' = b ∧ off ≤ x
  · cases hc : data[x - off]? with
    | none => exact Or.inl (by simp [store, hc])
    | some c => exact Or.inr (by simp only [store, if_pos h, hc]; exact List.mem_of_getElem? hc)
  · exact Or.inl (if_neg h)

theorem holds_nil : m.Holds b off [] := fun _ h ↦ absurd h (Nat.not_lt_zero _)

/-- **A store is read back.** -/
theorem holds_store_self : (m.store b off data).Holds b off data := by
  intro i hi
  simp [store, hi]

/-- A store leaves what another range of the block carries. -/
theorem holds_store_of_disjoint (hdis : off' + data'.length ≤ off ∨ off + data.length ≤ off')
    (h : m.Holds b' off' data') : (m.store b off data).Holds b' off' data' := by
  intro i hi
  rcases hdis with hdis | hdis
  · rw [store_of_lt (by omega)]
    exact h i hi
  · rw [store_of_le (by omega)]
    exact h i hi

/-- Adjacent ranges make one range. -/
theorem holds_append (h : m.Holds b off data) (h' : m.Holds b (off + data.length) data') :
    m.Holds b off (data ++ data') := by
  intro i hi
  rcases Nat.lt_or_ge i data.length with hlt | hge
  · rw [List.getElem_append_left hlt]
    exact h i hlt
  · rw [List.getElem_append_right hge]
    have := h' (i - data.length) (by simp only [List.length_append] at hi; omega)
    rwa [show off + data.length + (i - data.length) = off + i by omega] at this

end BlockMemory
