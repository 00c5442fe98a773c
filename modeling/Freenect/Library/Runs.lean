import Mathlib.Data.List.Basic
import Mathlib.Logic.Relation

/-!
# Runs of deterministic and of nondeterministic machines

Two small kits, both outside any particular program.

* `Mealy`: a deterministic step `σ → ι → σ × ο` folded over a list of inputs. `run` is the state
  reached, `trace` the list of outputs. The rules are the two append laws and the invariant rules:
  an invariant of one step is an invariant of the run (`run_invariant`), and what every step
  guarantees from the invariant, every output of the trace satisfies (`trace_forall`). A condition
  on each step is `Along` a run.
* `Machine`: a set of initial states and a labelled step relation. `Reachable` is the least set
  holding the former and closed under the latter, `Machine.invariant` its induction rule;
  `Path` is a finite run between two given states, with the same rule.

Nothing is assumed of the state, input and output types.

**Exact conditions.** Many properties of a program hold of some runs only. `Along step ok` is the
condition that each step of a run is `ok` in the state it is made in, and three rules turn what is
known of one step into a statement about whole runs that is an equivalence: `always_iff_along` for
an invariant, `alive_iff_along` for a machine that never recovers, and `refines_iff_along` for a
refinement. In each the hypothesis is about one step from a state in which all was well so far, and
both directions of it are used: a step that is not `ok` breaks the property at once.

`run_range` is the rule for a loop that counts, with the output of every round; `trace_pairwise`
relates two outputs of one run, and `countP_trace_le` bounds how many there are of a kind.
-/

universe u v w

/-! ### Deterministic machines with output

The step takes an input and gives an output, and is total. A step that can crash has the crash as a
state. -/

namespace Mealy

variable {σ : Type u} {ι : Type v} {ο : Type w} (step : σ → ι → σ × ο)

/-- The state reached by feeding the inputs from left to right. -/
def run : σ → List ι → σ
  | s, [] => s
  | s, i :: is => run (step s i).1 is

/-- The outputs produced on the way, one for each input. -/
def trace : σ → List ι → List ο
  | _, [] => []
  | s, i :: is => (step s i).2 :: trace (step s i).1 is

@[simp] theorem run_nil (s : σ) : run step s [] = s := rfl

@[simp] theorem run_cons (s : σ) (i : ι) (is : List ι) :
    run step s (i :: is) = run step (step s i).1 is := rfl

@[simp] theorem trace_nil (s : σ) : trace step s [] = [] := rfl

@[simp] theorem trace_cons (s : σ) (i : ι) (is : List ι) :
    trace step s (i :: is) = (step s i).2 :: trace step (step s i).1 is := rfl

/-- Two runs, one after the other. -/
theorem run_append (s : σ) (is js : List ι) :
    run step s (is ++ js) = run step (run step s is) js := by
  induction is generalizing s with
  | nil => rfl
  | cons i is ih => exact ih _

/-- What they put out. -/
theorem trace_append (s : σ) (is js : List ι) :
    trace step s (is ++ js) = trace step s is ++ trace step (run step s is) js := by
  induction is generalizing s with
  | nil => rfl
  | cons i is ih => simp only [List.cons_append, trace_cons, run_cons, ih]

@[simp] theorem length_trace (s : σ) (is : List ι) : (trace step s is).length = is.length := by
  induction is generalizing s with
  | nil => rfl
  | cons i is ih => exact congrArg Nat.succ (ih _)

variable {step}

/-- **The invariant rule**: what one step preserves, a run preserves. -/
theorem run_invariant {I : σ → Prop} (hstep : ∀ s i, I s → I (step s i).1) {s : σ} (hs : I s)
    (is : List ι) : I (run step s is) := by
  induction is generalizing s with
  | nil => exact hs
  | cons i is ih => exact ih (hstep s i hs)

/-- What one step preserves holds from its first time in a run on. -/
theorem run_take_mono {I : σ → Prop} (hstep : ∀ s i, I s → I (step s i).1) {s : σ} {is : List ι}
    {j k : ℕ} (hjk : j ≤ k) (h : I (run step s (is.take j))) : I (run step s (is.take k)) := by
  obtain ⟨d, rfl⟩ := Nat.exists_eq_add_of_le hjk
  rw [List.take_add, run_append]
  exact run_invariant hstep h _

/-- What every step from the invariant guarantees of its output holds of the whole trace. -/
theorem trace_forall {I : σ → Prop} {Q : ο → Prop} (hstep : ∀ s i, I s → I (step s i).1)
    (hout : ∀ s i, I s → Q (step s i).2) {s : σ} (hs : I s) (is : List ι) :
    ∀ o ∈ trace step s is, Q o := by
  induction is generalizing s with
  | nil => simp
  | cons i is ih =>
    intro o ho
    rcases List.mem_cons.1 ho with rfl | ho
    · exact hout s i hs
    · exact ih (hstep s i hs) o ho

/-- **The rule for a counting loop**: if `I i` holds in front of round `i`, and every round keeps it
and puts out `f i`, as `g` sees it, then `I n` holds after `n` rounds, and these are the outputs. -/
theorem run_range {α : Type*} {step : σ → ℕ → σ × ο} {I : ℕ → σ → Prop} {g : ο → α} {f : ℕ → α}
    {s : σ} {n : ℕ} (hs : I 0 s)
    (hstep : ∀ i s, i < n → I i s → I (i + 1) (step s i).1 ∧ g (step s i).2 = f i) :
    I n (run step s (List.range n)) ∧
      (trace step s (List.range n)).map g = (List.range n).map f := by
  induction n with
  | zero => exact ⟨hs, rfl⟩
  | succ n ih =>
    obtain ⟨hn, htrace⟩ := ih fun i s hi ↦ hstep i s (Nat.lt_succ_of_lt hi)
    obtain ⟨hnext, hout⟩ := hstep n _ (Nat.lt_succ_self n) hn
    rw [List.range_succ, run_append, trace_append, List.map_append, htrace, List.map_append]
    refine ⟨hnext, congrArg (_ ++ ·) ?_⟩
    exact congrArg (fun o ↦ [o]) hout

/-- `ok` holds at every step of a run. -/
def Along (step : σ → ι → σ × ο) (ok : σ → ι → Prop) : σ → List ι → Prop
  | _, [] => True
  | s, i :: is => ok s i ∧ Along step ok (step s i).1 is

instance Along.decidable (step : σ → ι → σ × ο) (ok : σ → ι → Prop)
    [∀ s i, Decidable (ok s i)] : ∀ s is, Decidable (Along step ok s is)
  | _, [] => isTrue trivial
  | s, i :: is =>
    have := Along.decidable step ok (step s i).1 is
    inferInstanceAs (Decidable (ok s i ∧ Along step ok (step s i).1 is))

/-- The invariant rule along a run all of whose steps are `ok`. -/
theorem Along.run_invariant {ok : σ → ι → Prop} {I : σ → Prop}
    (hstep : ∀ s i, I s → ok s i → I (step s i).1) {s : σ} (hs : I s) {is : List ι}
    (h : Along step ok s is) : I (run step s is) := by
  induction is generalizing s with
  | nil => exact hs
  | cons i is ih => exact ih (hstep s i hs h.1) h.2

/-- The first steps of a run are a run. -/
theorem Along.take {ok : σ → ι → Prop} {s : σ} {is : List ι} (h : Along step ok s is) (k : ℕ) :
    Along step ok s (is.take k) := by
  induction is generalizing s k with
  | nil => rwa [List.take_nil]
  | cons i is ih =>
    cases k with
    | zero => trivial
    | succ k => exact ⟨h.1, ih h.2 k⟩

/-- What follows of each step from an invariant holds along the run. -/
theorem Along.imp {ok P : σ → ι → Prop} {I : σ → Prop}
    (hstep : ∀ s i, I s → ok s i → I (step s i).1) (himp : ∀ s i, I s → ok s i → P s i) {s : σ}
    (hs : I s) {is : List ι} (h : Along step ok s is) : Along step P s is := by
  induction is generalizing s with
  | nil => trivial
  | cons i is ih => exact ⟨himp s i hs h.1, ih (hstep s i hs h.1) h.2⟩

/-- Two conditions that say the same in the states of an invariant hold along the same runs. -/
theorem Along.iff_of {ok P Q : σ → ι → Prop} {I : σ → Prop}
    (hstep : ∀ s i, I s → ok s i → I (step s i).1)
    (hiff : ∀ s i, I s → ok s i → (P s i ↔ Q s i)) {s : σ} (hs : I s) {is : List ι}
    (h : Along step ok s is) : Along step P s is ↔ Along step Q s is := by
  induction is generalizing s with
  | nil => exact Iff.rfl
  | cons i is ih => exact and_congr (hiff s i hs h.1) (ih (hstep s i hs h.1) h.2)

/-- **The rule for pairs of outputs**: if the states after an output remember it (`After`), and what
they remember decides how a later output relates to it, then any two outputs are related. -/
theorem Along.trace_pairwise {ok : σ → ι → Prop} {I : σ → Prop} (After : ο → σ → Prop)
    {R : ο → ο → Prop} (hstep : ∀ s i, I s → ok s i → I (step s i).1)
    (hafter : ∀ s i, I s → ok s i → After (step s i).2 (step s i).1)
    (hkeep : ∀ o s i, I s → ok s i → After o s → After o (step s i).1)
    (hout : ∀ o s i, I s → ok s i → After o s → R o (step s i).2) {s : σ} (hs : I s)
    {is : List ι} (h : Along step ok s is) : (trace step s is).Pairwise R := by
  have hlater : ∀ o {s : σ} (is : List ι), I s → Along step ok s is → After o s →
      ∀ o' ∈ trace step s is, R o o' := by
    intro o s is
    induction is generalizing s with
    | nil => simp
    | cons i is ih =>
      intro hs h ho o' ho'
      rcases List.mem_cons.1 ho' with rfl | ho'
      · exact hout o s i hs h.1 ho
      · exact ih (hstep s i hs h.1) h.2 (hkeep o s i hs h.1 ho) o' ho'
  induction is generalizing s with
  | nil => exact List.Pairwise.nil
  | cons i is ih =>
    have hi := hstep s i hs h.1
    exact List.Pairwise.cons (hlater _ is hi h.2 (hafter s i hs h.1)) (ih hi h.2)

/-- **The rule for a budget**: if each output that counts is paid for from what is left (`credit`),
a run puts out no more of them than there was in front of it. -/
theorem Along.countP_trace_le {ok : σ → ι → Prop} {I : σ → Prop} (credit : σ → ℕ) (p : ο → Bool)
    (hstep : ∀ s i, I s → ok s i → I (step s i).1)
    (hcost : ∀ s i, I s → ok s i → credit (step s i).1 + (p (step s i).2).toNat ≤ credit s)
    {s : σ} (hs : I s) {is : List ι} (h : Along step ok s is) :
    (trace step s is).countP p ≤ credit s := by
  induction is generalizing s with
  | nil => exact Nat.zero_le _
  | cons i is ih =>
    have hi := hcost s i hs h.1
    have hrest := ih (hstep s i hs h.1) h.2
    have hcount : (trace step s (i :: is)).countP p =
        (trace step (step s i).1 is).countP p + (p (step s i).2).toNat := by
      rw [trace_cons, List.countP_cons]
      cases p (step s i).2 <;> rfl
    omega

/-- `ok` holds along a run if it holds of every input in the state it comes in. -/
theorem along_iff_forall {ok : σ → ι → Prop} {s : σ} {is : List ι} :
    Along step ok s is ↔ ∀ (k : ℕ) (i : ι), is[k]? = some i → ok (run step s (is.take k)) i := by
  induction is generalizing s with
  | nil => exact iff_of_true trivial fun k i hi ↦ (nomatch hi)
  | cons i is ih =>
    constructor
    · rintro ⟨hok, hrest⟩ k j hj
      cases k with
      | zero =>
        obtain rfl := Option.some.inj hj
        exact hok
      | succ k => exact ih.1 hrest k j hj
    · exact fun h ↦ ⟨h 0 i rfl, ih.2 fun k j hj ↦ h (k + 1) j hj⟩

/-- A condition on the outputs of a run is one along the run. -/
theorem forall_trace_iff_along {Q : ο → Prop} {s : σ} {is : List ι} :
    (∀ o ∈ trace step s is, Q o) ↔ Along step (fun s i ↦ Q (step s i).2) s is := by
  induction is generalizing s with
  | nil => exact iff_of_true (fun o ho ↦ (nomatch ho)) trivial
  | cons i is ih => exact List.forall_mem_cons.trans (and_congr_right fun _ ↦ ih)

/-- Two conditions that say the same in the states of an invariant, which the second keeps, hold
along the same runs. -/
theorem Along.congr {P ok : σ → ι → Prop} {I : σ → Prop} (hiff : ∀ s i, I s → (P s i ↔ ok s i))
    (hstep : ∀ s i, I s → ok s i → I (step s i).1) {s : σ} (hs : I s) (is : List ι) :
    Along step P s is ↔ Along step ok s is := by
  induction is generalizing s with
  | nil => exact Iff.rfl
  | cons i is ih =>
    exact (and_congr_left' (hiff s i hs)).trans
      (and_congr_right fun hok ↦ ih (hstep s i hs hok))

/-- **The exact condition for an invariant**, along a run all of whose inputs are as assumed: if
`ok` says of each step from `I` whether it keeps `I`, then `I` holds all along the run exactly when
every step of it is `ok`. -/
theorem always_iff_along_of {assumed ok : σ → ι → Prop} {I : σ → Prop}
    (hstep : ∀ s i, I s → assumed s i → (I (step s i).1 ↔ ok s i)) {s : σ} (hs : I s) {is : List ι}
    (h : Along step assumed s is) : (∀ k, I (run step s (is.take k))) ↔ Along step ok s is := by
  induction is generalizing s with
  | nil => exact ⟨fun _ ↦ trivial, fun _ k ↦ by rwa [List.take_nil]⟩
  | cons i is ih =>
    have hi := hstep s i hs h.1
    constructor
    · intro hall
      have hnext : I (step s i).1 := hall 1
      exact ⟨hi.1 hnext, (ih hnext h.2).1 fun k ↦ hall (k + 1)⟩
    · rintro ⟨hok, hrest⟩ k
      cases k with
      | zero => exact hs
      | succ k => exact (ih (hi.2 hok) h.2).2 hrest k

/-- Where nothing is asked of a step, every run is as asked. -/
theorem along_true {s : σ} {is : List ι} : Along step (fun _ _ ↦ True) s is := by
  induction is generalizing s with
  | nil => trivial
  | cons i is ih => exact ⟨trivial, ih⟩

/-- The same, along every run. -/
theorem always_iff_along {ok : σ → ι → Prop} {I : σ → Prop}
    (hstep : ∀ s i, I s → (I (step s i).1 ↔ ok s i)) {s : σ} (hs : I s) (is : List ι) :
    (∀ k, I (run step s (is.take k))) ↔ Along step ok s is :=
  always_iff_along_of (fun s i hs _ ↦ hstep s i hs) hs along_true

/-- **The exact condition for staying alive**, for a machine that never revives: if steps that are
`ok` keep an invariant of live states, and others kill, the machine lives at the end of a run
exactly when every step of it was `ok`. -/
theorem alive_iff_along {assumed ok : σ → ι → Prop} {I alive : σ → Prop}
    (halive : ∀ s, I s → alive s) (hdead : ∀ s i, ¬ alive s → ¬ alive (step s i).1)
    (hstep : ∀ s i, I s → assumed s i → ok s i → I (step s i).1)
    (hkill : ∀ s i, I s → assumed s i → ¬ ok s i → ¬ alive (step s i).1) {s : σ} (hs : I s)
    {is : List ι} (h : Along step assumed s is) : alive (run step s is) ↔ Along step ok s is := by
  induction is generalizing s with
  | nil => exact iff_of_true (halive s hs) trivial
  | cons i is ih =>
    by_cases hok : ok s i
    · exact (ih (hstep s i hs h.1 hok) h.2).trans (and_iff_right hok).symm
    · exact iff_of_false (run_invariant hdead (hkill s i hs h.1 hok) is) fun hall ↦ hok hall.1

/-- Two conditions hold along a run if each does. -/
theorem along_and {P Q : σ → ι → Prop} {s : σ} {is : List ι} :
    Along step (fun s i ↦ P s i ∧ Q s i) s is ↔ Along step P s is ∧ Along step Q s is := by
  induction is generalizing s with
  | nil => exact (and_self_iff).symm
  | cons i is ih => exact (and_congr_right fun _ ↦ ih).trans and_and_and_comm

/-- **The exact condition for a refinement**: under `abs` a run follows `spec` and stays in `I`
exactly when it starts in `I` and each of its steps follows `spec` into `I`. -/
theorem refines_iff_along {α : Type*} (abs : σ → α) (spec : α → ι → α) (I : σ → Prop) {s : σ}
    {is : List ι} :
    (∀ k, abs (run step s (is.take k)) = (is.take k).foldl spec (abs s) ∧
        I (run step s (is.take k))) ↔
      I s ∧ Along step (fun s i ↦ abs (step s i).1 = spec (abs s) i ∧ I (step s i).1) s is := by
  induction is generalizing s with
  | nil =>
    constructor
    · exact fun h ↦ ⟨(h 0).2, trivial⟩
    · rintro ⟨hs, -⟩ k
      rw [List.take_nil]
      exact ⟨rfl, hs⟩
  | cons i is ih =>
    constructor
    · intro h
      have hi : abs (step s i).1 = spec (abs s) i := (h 1).1
      refine ⟨(h 0).2, ⟨hi, (h 1).2⟩, (ih.1 fun k ↦ ?_).2⟩
      rw [hi]
      exact h (k + 1)
    · rintro ⟨hs, ⟨hi, hI⟩, hrest⟩ k
      cases k with
      | zero => exact ⟨rfl, hs⟩
      | succ k =>
        have hk := ih.2 ⟨hI, hrest⟩ k
        rwa [hi] at hk

end Mealy

/-! ### Nondeterministic machines

Where a step has several outcomes, or several parties take steps, it is a relation with the action
as its label. Properties are those of all reachable states. -/

/-- Initial states and a labelled step relation. -/
structure Machine (σ : Type u) (α : Type v) where
  /-- The states a run may start in. -/
  init : σ → Prop
  /-- `step s a s'`: action `a` may take the machine from `s` to `s'`. -/
  step : σ → α → σ → Prop

namespace Machine

variable {σ : Type u} {α : Type v} (M : Machine σ α)

/-- A finite sequence of actions leading from one state to another. -/
inductive Path : σ → List α → σ → Prop
  | nil (s : σ) : Path s [] s
  | cons {s t u : σ} {a : α} {as : List α} : M.step s a t → Path t as u → Path s (a :: as) u

/-- The states some run can be in. -/
inductive Reachable : σ → Prop
  | init {s : σ} : M.init s → Reachable s
  | step {s t : σ} {a : α} : Reachable s → M.step s a t → Reachable t

variable {M}

/-- **The invariant rule** for reachable states. -/
theorem invariant {I : σ → Prop} (hinit : ∀ s, M.init s → I s)
    (hstep : ∀ s a t, I s → M.step s a t → I t) {s : σ} (hs : M.Reachable s) : I s := by
  induction hs with
  | init h => exact hinit _ h
  | step _ h ih => exact hstep _ _ _ ih h

/-- The invariant rule along a path all of whose actions satisfy `A`. -/
theorem Path.invariant_on {A : α → Prop} {I : σ → Prop}
    (hstep : ∀ s a t, I s → A a → M.step s a t → I t) {s t : σ} {as : List α} (hs : I s)
    (h : M.Path s as t) (has : ∀ a ∈ as, A a) : I t := by
  induction h with
  | nil => exact hs
  | cons h _ ih =>
    obtain ⟨ha, has⟩ := List.forall_mem_cons.1 has
    exact ih (hstep _ _ _ hs ha h) has

/-- The invariant rule along a path. -/
theorem Path.invariant {I : σ → Prop} (hstep : ∀ s a t, I s → M.step s a t → I t) {s t : σ}
    {as : List α} (hs : I s) (h : M.Path s as t) : I t :=
  h.invariant_on (A := fun _ ↦ True) (fun s a t hs _ ↦ hstep s a t hs) hs fun _ _ ↦ trivial

/-- Two paths, one after the other. -/
theorem Path.append {s t u : σ} {as bs : List α} (h : M.Path s as t) (h' : M.Path t bs u) :
    M.Path s (as ++ bs) u := by
  induction h with
  | nil => exact h'
  | cons hst _ ih => exact .cons hst (ih h')

/-- A path of one action. -/
theorem Path.single {s t : σ} {a : α} (h : M.step s a t) : M.Path s [a] t := .cons h (.nil t)

/-- A path from a reachable state ends in a reachable state. -/
theorem Reachable.path {s t : σ} {as : List α} (hs : M.Reachable s) (h : M.Path s as t) :
    M.Reachable t := by
  induction h with
  | nil => exact hs
  | cons h _ ih => exact ih (hs.step h)

end Machine
