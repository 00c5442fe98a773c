import Mathlib.Data.List.Basic
import Mathlib.Order.Bounds.Basic
import Mathlib.Order.Defs.LinearOrder

/-!
# Depth buffers

A buffer with a cell for every target, into which depths are put one after the other; a cell keeps
the least depth it was given, and one value of the depth type stands for "empty".

`fill` puts a list of depths. A cell that started empty ends as the least depth of its target
(`isLeast_fill`), or empty if there was none (`fill_eq_empty`); so the order in which depths are put
does not matter (`fill_perm`). Cells are independent of each other (`fill_congr`).

The argument is one pass over the list. A cell that is full stays full and never gets deeper
(`fill_le`), so it is at most as deep as anything it was given (`fill_le_of_mem`); and what it holds
it was given, or held before (`fill_mem`). These three say that the result is a least element, and a
least element does not depend on the order. The depths are of any linear order, and `empty` is one
of its values, which is never put; it need be neither the least nor the greatest.
-/

universe u v

namespace DepthBuffer

variable {τ : Type u} {δ : Type v} [DecidableEq τ] [LinearOrder δ] (empty : δ)

/-- Put a depth: it is kept if the cell is empty or holds a greater one. -/
def put (b : τ → δ) (p : τ × δ) : τ → δ :=
  if b p.1 = empty ∨ p.2 < b p.1 then fun t ↦ if t = p.1 then p.2 else b t else b

/-- Put several depths, from left to right. -/
def fill (b : τ → δ) (ps : List (τ × δ)) : τ → δ := ps.foldl (put empty) b

variable {empty} {b b' : τ → δ} {ps : List (τ × δ)} {p : τ × δ} {t : τ}

@[simp] theorem fill_nil : fill empty b [] = b := rfl

@[simp] theorem fill_cons : fill empty b (p :: ps) = fill empty (put empty b p) ps := rfl

/-- Two lists, one after the other. -/
theorem fill_append {qs : List (τ × δ)} :
    fill empty b (ps ++ qs) = fill empty (fill empty b ps) qs :=
  List.foldl_append

/-- The other cells stay as they are. -/
theorem put_of_ne (h : t ≠ p.1) : put empty b p t = b t := by
  rw [put]
  split
  · exact if_neg h
  · rfl

/-- The cell that a depth is for. -/
theorem put_self (b : τ → δ) (p : τ × δ) :
    put empty b p p.1 = if b p.1 = empty ∨ p.2 < b p.1 then p.2 else b p.1 := by
  rw [put]
  by_cases h : b p.1 = empty ∨ p.2 < b p.1
  · simp [h]
  · simp [h]

/-- What a cell becomes depends on that cell alone. -/
theorem put_congr (h : b t = b' t) : put empty b p t = put empty b' p t := by
  by_cases ht : t = p.1
  · subst ht
    rw [put_self, put_self, h]
  · rw [put_of_ne ht, put_of_ne ht, h]

/-- **Cells are independent**: what becomes of a cell depends on that cell alone. -/
theorem fill_congr (h : b t = b' t) : fill empty b ps t = fill empty b' ps t := by
  induction ps generalizing b b' with
  | nil => exact h
  | cons p ps ih => exact ih (put_congr h)

/-- A cell that is full stays full and never gets deeper. -/
theorem fill_le (hne : ∀ q ∈ ps, q.2 ≠ empty) (hb : b t ≠ empty) :
    fill empty b ps t ≠ empty ∧ fill empty b ps t ≤ b t := by
  induction ps generalizing b with
  | nil => exact ⟨hb, le_refl _⟩
  | cons p ps ih =>
    have hstep : put empty b p t ≠ empty ∧ put empty b p t ≤ b t := by
      by_cases ht : t = p.1
      · subst ht
        rw [put_self]
        split
        · rename_i h
          exact ⟨hne p List.mem_cons_self, (h.resolve_left hb).le⟩
        · exact ⟨hb, le_refl _⟩
      · rw [put_of_ne ht]
        exact ⟨hb, le_refl _⟩
    obtain ⟨h₁, h₂⟩ := ih (fun q hq ↦ hne q (List.mem_cons_of_mem _ hq)) hstep.1
    exact ⟨h₁, h₂.trans hstep.2⟩

/-- A cell that got a depth is full and at most that deep. -/
theorem fill_le_of_mem (hne : ∀ q ∈ ps, q.2 ≠ empty) {d : δ} (h : (t, d) ∈ ps) :
    fill empty b ps t ≠ empty ∧ fill empty b ps t ≤ d := by
  induction ps generalizing b with
  | nil => exact absurd h List.not_mem_nil
  | cons p ps ih =>
    have hne' : ∀ q ∈ ps, q.2 ≠ empty := fun q hq ↦ hne q (List.mem_cons_of_mem _ hq)
    rcases List.mem_cons.1 h with rfl | h
    · have hput : put empty b (t, d) t ≠ empty ∧ put empty b (t, d) t ≤ d := by
        rw [put_self b (t, d)]
        split
        · exact ⟨hne _ List.mem_cons_self, le_refl _⟩
        · rename_i hcell
          obtain ⟨hfull, hle⟩ := not_or.1 hcell
          exact ⟨hfull, not_lt.1 hle⟩
      obtain ⟨h₁, h₂⟩ := fill_le hne' hput.1
      exact ⟨h₁, h₂.trans hput.2⟩
    · exact ih hne' h

/-- A full cell holds what it held before, or a depth it was given. -/
theorem fill_mem (b : τ → δ) (ps : List (τ × δ)) (t : τ) :
    fill empty b ps t = b t ∨ (t, fill empty b ps t) ∈ ps := by
  induction ps generalizing b with
  | nil => exact Or.inl rfl
  | cons p ps ih =>
    rcases ih (put empty b p) with h | h
    · rw [fill_cons, h]
      by_cases ht : t = p.1
      · subst ht
        rw [put_self]
        split
        · exact Or.inr List.mem_cons_self
        · exact Or.inl rfl
      · exact Or.inl (put_of_ne ht)
    · exact Or.inr (List.mem_cons_of_mem _ h)

/-- A cell that started empty and got no depth is empty. -/
theorem fill_eq_empty (hb : b t = empty) (h : ∀ d, (t, d) ∉ ps) : fill empty b ps t = empty := by
  rcases fill_mem b ps t with hcell | hcell
  · rw [hcell, hb]
  · exact absurd hcell (h _)

/-- **A cell that started empty holds the least depth it was given.** -/
theorem isLeast_fill (hne : ∀ q ∈ ps, q.2 ≠ empty) (hb : b t = empty) {d : δ} (h : (t, d) ∈ ps) :
    IsLeast {d | (t, d) ∈ ps} (fill empty b ps t) := by
  refine ⟨?_, fun d' hd' ↦ (fill_le_of_mem hne hd').2⟩
  rcases fill_mem b ps t with hcell | hcell
  · exact absurd (hcell.trans hb) (fill_le_of_mem hne h).1
  · exact hcell

/-- **The order does not matter** to a cell that started empty. -/
theorem fill_perm {qs : List (τ × δ)} (hperm : ps.Perm qs) (hne : ∀ q ∈ ps, q.2 ≠ empty)
    (hb : b t = empty) : fill empty b ps t = fill empty b qs t := by
  have hmem : {d | (t, d) ∈ ps} = {d | (t, d) ∈ qs} := Set.ext fun d ↦ hperm.mem_iff
  have hne' : ∀ q ∈ qs, q.2 ≠ empty := fun q hq ↦ hne q (hperm.mem_iff.2 hq)
  by_cases hput : ∃ d, (t, d) ∈ ps
  · obtain ⟨d, hd⟩ := hput
    have hleast := isLeast_fill hne hb hd
    rw [hmem] at hleast
    exact hleast.unique (isLeast_fill hne' hb (hperm.mem_iff.1 hd))
  · have hno : ∀ d, (t, d) ∉ ps := fun d hd ↦ hput ⟨d, hd⟩
    rw [fill_eq_empty hb hno, fill_eq_empty hb fun d hd ↦ hno d (hperm.mem_iff.2 hd)]

end DepthBuffer
