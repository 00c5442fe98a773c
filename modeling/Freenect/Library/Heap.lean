import Mathlib.Algebra.Group.Nat.Defs
import Mathlib.Data.List.Basic

/-!
# A heap of blocks

`malloc` and `free` without addresses: blocks are numbers, `0` is the null pointer, and a block is
live from the `malloc` that returns it to the `free` that takes it. Which block `malloc` returns is
not the heap's choice, it is an argument; that it is a new one is `Fresh`.

`free` of a block that is not live, be it one that was never returned or one that has been freed
already, is a `fault`, and stays one. So `fault = false` at the end of a run says that every block
was freed at most once and nothing else ever was; that a block is no longer live says that it was
freed.

The rules for `free` are stated for one block and for a list of blocks, since a program that shuts
down frees many: the blocks that are live afterwards (`live_freeAll`), and that freeing different
live blocks is no fault (`fault_freeAll`). `Grown` is the invariant of a loop that allocates: the
heap so far is the old one with the listed blocks, which are different and were none before.
-/

/-- The size of every live block, and whether there was a bad `free`. -/
structure Heap where
  live : ℕ → Option ℕ
  fault : Bool

namespace Heap

/-- No block has been allocated yet. -/
def empty : Heap where
  live := fun _ ↦ none
  fault := false

/-- `p` may be returned by the next `malloc`, if that does not fail. -/
def Fresh (h : Heap) (p : ℕ) : Prop := p ≠ 0 ∧ h.live p = none

/-- `malloc(n)` returns `p`. -/
def malloc (h : Heap) (p n : ℕ) : Heap where
  live := fun q ↦ if q = p then some n else h.live q
  fault := h.fault

/-- `free(p)`. -/
def free (h : Heap) (p : ℕ) : Heap :=
  if p = 0 then h
  else
    { live := fun q ↦ if q = p then none else h.live q
      fault := h.fault || (h.live p).isNone }

/-- Several calls of `free`. -/
def freeAll (h : Heap) (ps : List ℕ) : Heap := ps.foldl free h

variable {h : Heap} {p q n : ℕ}

@[simp] theorem live_malloc_self : (h.malloc p n).live p = some n := if_pos rfl

/-- Other blocks are as they were. -/
theorem live_malloc_of_ne (hq : q ≠ p) : (h.malloc p n).live q = h.live q := if_neg hq

/-- What is not live after `malloc`. -/
theorem live_malloc_eq_none_iff : (h.malloc p n).live q = none ↔ q ≠ p ∧ h.live q = none := by
  by_cases hq : q = p
  · simp [malloc, hq]
  · simp [malloc, hq]

@[simp] theorem free_null : h.free 0 = h := if_pos rfl

/-- `free` of one block leaves the others. -/
theorem live_free_of_ne (hq : q ≠ p) : (h.free p).live q = h.live q := by
  rw [free]
  split
  · rfl
  · exact if_neg hq

/-- A block that was freed is not live, whether that was a fault or not. -/
theorem live_free_self (hp : p ≠ 0) : (h.free p).live p = none := by
  rw [free, if_neg hp]
  exact if_pos rfl

/-- `free` of a live block is no fault. -/
theorem fault_free (hp : h.live p ≠ none) : (h.free p).fault = h.fault := by
  rw [free]
  split
  · rfl
  · cases hl : h.live p with
    | none => exact absurd hl hp
    | some n => simp

/-- Freeing does not bring blocks back. -/
theorem live_free_of_none (hq : h.live q = none) : (h.free p).live q = none := by
  by_cases hqp : q = p
  · by_cases hp : p = 0
    · rw [hp, free_null, hq]
    · rw [hqp, live_free_self hp]
  · rw [live_free_of_ne hqp, hq]

@[simp] theorem freeAll_nil : h.freeAll [] = h := rfl

@[simp] theorem freeAll_cons (p : ℕ) (ps : List ℕ) :
    h.freeAll (p :: ps) = (h.free p).freeAll ps := rfl

/-- Nor do several calls of `free`. -/
theorem live_freeAll_of_none {ps : List ℕ} (hq : h.live q = none) :
    (h.freeAll ps).live q = none := by
  induction ps generalizing h with
  | nil => exact hq
  | cons p ps ih => exact ih (live_free_of_none hq)

/-- The blocks that are live after several calls of `free`. -/
theorem live_freeAll {ps : List ℕ} (hnull : h.live 0 = none) (q : ℕ) :
    (h.freeAll ps).live q = if q ∈ ps then none else h.live q := by
  induction ps generalizing h with
  | nil => simp
  | cons p ps ih =>
    rw [freeAll_cons, ih (live_free_of_none hnull)]
    by_cases hq : q ∈ ps
    · rw [if_pos hq, if_pos (List.mem_cons_of_mem _ hq)]
    · rw [if_neg hq]
      by_cases hqp : q = p
      · subst hqp
        rw [if_pos List.mem_cons_self]
        by_cases hq0 : q = 0
        · rw [hq0, free_null, hnull]
        · exact live_free_self hq0
      · rw [if_neg (by simp [hqp, hq]), live_free_of_ne hqp]

/-- **Freeing different live blocks is no fault.** -/
theorem fault_freeAll {ps : List ℕ} (hps : ps.Nodup) (hlive : ∀ p ∈ ps, h.live p ≠ none) :
    (h.freeAll ps).fault = h.fault := by
  induction ps generalizing h with
  | nil => rfl
  | cons p ps ih =>
    obtain ⟨hp, hps⟩ := List.nodup_cons.1 hps
    rw [freeAll_cons, ih hps, fault_free (hlive p List.mem_cons_self)]
    intro q hq
    rw [live_free_of_ne (by rintro rfl; exact hp hq)]
    exact hlive q (List.mem_cons_of_mem _ hq)

/-! ### Allocation that may fail

Where a program looks at the result of `malloc`, the block is an answer of the heap, and one that
may not be returned stands for a call that fails. -/

instance (h : Heap) (p : ℕ) : Decidable (h.Fresh p) := inferInstanceAs (Decidable (_ ∧ _))

/-- `malloc(n)`: the new block is `p`, unless `p` is none, and then the call fails. -/
def allocate (h : Heap) (p n : ℕ) : Heap × ℕ := if h.Fresh p then (h.malloc p n, p) else (h, 0)

/-- The call that succeeds. -/
theorem allocate_of_fresh (hp : h.Fresh p) : h.allocate p n = (h.malloc p n, p) := if_pos hp

/-- A call returns a block exactly when the answer may be returned. -/
theorem allocate_ne_zero_iff : (h.allocate p n).2 ≠ 0 ↔ h.Fresh p := by
  rw [allocate]
  split
  next hp => exact iff_of_true hp.1 hp
  next hp => exact iff_of_false (fun hne ↦ hne rfl) hp

/-- What may be returned next, after a `malloc`. -/
theorem fresh_malloc_iff : (h.malloc p n).Fresh q ↔ q ≠ p ∧ h.Fresh q := by
  rw [Fresh]
  rw [live_malloc_eq_none_iff]
  exact ⟨fun hq ↦ ⟨hq.2.1, hq.1, hq.2.2⟩, fun hq ↦ ⟨hq.2.1, hq.1, hq.2.2⟩⟩

/-- `h'` is `h` with the blocks of a list, each of size `n`; where the list has a null pointer,
`malloc` has failed. -/
structure Grown (h h' : Heap) (ps : List ℕ) (n : ℕ) : Prop where
  old : ∀ q, h.live q ≠ none → h'.live q = h.live q
  new : ∀ p ∈ ps, p ≠ 0 → h'.live p = some n ∧ h.live p = none
  only : ∀ q, h'.live q ≠ none → h.live q ≠ none ∨ (q ∈ ps ∧ q ≠ 0)
  distinct : (ps.filter (· ≠ 0)).Nodup
  fault : h'.fault = h.fault

/-- In front of the loop nothing has been allocated. -/
theorem Grown.nil (h : Heap) (n : ℕ) : Grown h h [] n where
  old _ _ := rfl
  new _ hp := absurd hp List.not_mem_nil
  only _ hq := Or.inl hq
  distinct := List.nodup_nil
  fault := rfl

/-- A call of `malloc` that fails. -/
theorem Grown.concat_zero {h' : Heap} {ps : List ℕ} (hg : Grown h h' ps n) :
    Grown h h' (ps ++ [0]) n := by
  refine ⟨hg.old, fun q hq hne ↦ ?_, fun q hq ↦ ?_, ?_, hg.fault⟩
  · rcases List.mem_append.1 hq with hq | hq
    · exact hg.new q hq hne
    · exact absurd (List.mem_singleton.1 hq) hne
  · exact (hg.only q hq).imp_right fun hq' ↦ ⟨List.mem_append_left _ hq'.1, hq'.2⟩
  · rw [List.filter_append]
    simpa using hg.distinct

/-- A new block was none before the list either, and it is none of the list. -/
theorem Grown.not_mem_of_fresh {h' : Heap} {ps : List ℕ} (hg : Grown h h' ps n)
    (hfresh : h'.Fresh p) : h.live p = none ∧ p ∉ ps := by
  constructor
  · by_contra hlive
    have hold := hg.old p hlive
    rw [hfresh.2] at hold
    exact hlive hold.symm
  · intro hp
    have hlive := (hg.new p hp hfresh.1).1
    rw [hfresh.2] at hlive
    cases hlive

/-- A call of `malloc` that returns a block. -/
theorem Grown.malloc {h' : Heap} {ps : List ℕ} (hg : Grown h h' ps n) (hfresh : h'.Fresh p) :
    Grown h (h'.malloc p n) (ps ++ [p]) n := by
  obtain ⟨hnone, hnot⟩ := hg.not_mem_of_fresh hfresh
  have hold (q : ℕ) (hq : h'.live q ≠ none) : q ≠ p := fun heq ↦ hq (heq ▸ hfresh.2)
  refine ⟨fun q hq ↦ ?_, fun q hq hne ↦ ?_, fun q hq ↦ ?_, ?_, hg.fault⟩
  · have hq' := hg.old q hq
    exact (live_malloc_of_ne (hold q (hq'.symm ▸ hq))).trans hq'
  · rcases List.mem_append.1 hq with hq | hq
    · obtain ⟨hlive, hnew⟩ := hg.new q hq hne
      exact ⟨(live_malloc_of_ne (hold q (by rw [hlive]; simp))).trans hlive, hnew⟩
    · obtain rfl := List.mem_singleton.1 hq
      exact ⟨live_malloc_self, hnone⟩
  · by_cases hqp : q = p
    · exact Or.inr ⟨List.mem_append_right _ (List.mem_singleton.2 hqp), hqp ▸ hfresh.1⟩
    · have hq' : h'.live q ≠ none := fun hl ↦ hq ((live_malloc_of_ne hqp).trans hl)
      exact (hg.only q hq').imp_right fun hq'' ↦ ⟨List.mem_append_left _ hq''.1, hq''.2⟩
  · have hp : [p].filter (· ≠ 0) = [p] := List.filter_singleton.trans (by simp [hfresh.1])
    rw [List.filter_append, hp]
    exact List.nodup_append.2 ⟨hg.distinct, by simp, fun a ha b hb ↦ by
      obtain rfl := List.mem_singleton.1 hb
      rintro rfl
      exact hnot (List.mem_filter.1 ha).1⟩

/-- One more call of `malloc`. -/
theorem Grown.allocate {h' : Heap} {ps : List ℕ} (hg : Grown h h' ps n) (p : ℕ) :
    Grown h (h'.allocate p n).1 (ps ++ [(h'.allocate p n).2]) n := by
  rw [Heap.allocate]
  split
  next hfresh => exact hg.malloc hfresh
  next => exact hg.concat_zero

end Heap
