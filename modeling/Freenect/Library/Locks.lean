import Mathlib.Algebra.BigOperators.Group.Finset.Piecewise
import Mathlib.Data.Fintype.Basic

/-!
# Locks, their holders, and counts

A lock that is held by at most one of any number of agents, and knows by which. `LockMove` is what
one step of an agent can do with it: nothing, take it while it is free, or give it back. If the
agents that have the lock are always the one it names (`Guarded`), then this stays so in such a step
(`Guarded.move`), and no two have it (`Guarded.unique`).

How many of finitely many agents are in some place changes in such a step by what it changes for the
one agent (`card_filter_step`).
-/

universe u

open scoped Finset

section Locks

variable {α : Type u} {holder holder' : Option α} {holds holds' : α → Bool} {a b : α}

/-- The agents that have the lock are the one that it names. -/
def Guarded (holder : Option α) (holds : α → Bool) : Prop := ∀ a, holds a = true ↔ holder = some a

/-- What a step of agent `a` does with the lock, if `a` had it before (`old`) and has it afterwards
(`new`). -/
inductive LockMove (a : α) : Bool → Bool → Option α → Option α → Prop
  | keep (old : Bool) (holder : Option α) : LockMove a old old holder holder
  | take : LockMove a false true none (some a)
  | give (holder : Option α) : LockMove a true false holder none

/-- A lock that is free may be taken; the form in which a program that tries the lock has it. -/
theorem LockMove.take_of_isNone (h : holder.isNone = true) :
    LockMove a false true holder (some a) := by
  rw [Option.isNone_iff_eq_none.1 h]
  exact .take

/-- No two agents have the lock. -/
theorem Guarded.unique (h : Guarded holder holds) (ha : holds a = true) (hb : holds b = true) :
    a = b :=
  Option.some.inj (((h a).1 ha).symm.trans ((h b).1 hb))

/-- **A step of one agent** keeps the lock guarded. -/
theorem Guarded.move (h : Guarded holder holds)
    (hmove : LockMove a (holds a) (holds' a) holder holder')
    (hother : ∀ b, b ≠ a → holds' b = holds b) : Guarded holder' holds' := by
  have hnot : ∀ b, holder ≠ some b → holds b = false := fun b hb ↦
    Bool.eq_false_iff.2 fun hb' ↦ hb ((h b).1 hb')
  intro b
  generalize hold : holds a = old, hnew : holds' a = new at hmove
  by_cases hba : b = a
  · subst hba
    cases hmove with
    | keep => rw [hnew, ← hold]; exact h b
    | take => exact iff_of_true hnew rfl
    | give => exact iff_of_false (by rw [hnew]; decide) fun h' ↦ nomatch h'
  · rw [hother b hba]
    cases hmove with
    | keep => exact h b
    | take =>
      refine iff_of_false (by rw [hnot b fun h' ↦ nomatch h']; decide) fun h' ↦ hba ?_
      exact (Option.some.inj h').symm
    | give =>
      refine iff_of_false (fun hb ↦ hba ?_) fun h' ↦ nomatch h'
      exact h.unique hb hold

/-- The agents in some place are counted: only the one that moves makes a difference. -/
theorem card_filter_step [Fintype α] [DecidableEq α] {p q : α → Bool}
    (h : ∀ b, b ≠ a → q b = p b) :
    #{b | q b = true} + (p a).toNat = #{b | p b = true} + (q a).toNat := by
  have hsum : ∀ r : α → Bool,
      #{b | r b = true} = (r a).toNat + ∑ b ∈ Finset.univ.erase a, (r b).toNat := by
    intro r
    rw [Finset.card_filter, ← Finset.add_sum_erase _ _ (Finset.mem_univ a)]
    congr 1
    · cases r a <;> rfl
    · exact Finset.sum_congr rfl fun b _ ↦ by cases r b <;> rfl
  have hrest : ∑ b ∈ Finset.univ.erase a, (q b).toNat = ∑ b ∈ Finset.univ.erase a, (p b).toNat :=
    Finset.sum_congr rfl fun b hb ↦ congrArg Bool.toNat (h b (Finset.ne_of_mem_erase hb))
  rw [hsum q, hsum p, hrest]
  omega

end Locks
