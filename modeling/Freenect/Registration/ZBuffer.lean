import Freenect.Registration.Bounds

/-!
# The registered image is a depth buffer

What `freenect_apply_registration` leaves in a cell of the image does not mention the loop any more:
the least depth of the pixels that are registered there, or nothing (`registration_z_buffer`). So
the order in which the loop visits the pixels does not matter, and neither does what the output held
before.

The theorem is about the function as it is written, with the wiping loop in front of it: that loop
goes by words and sets the cells of the image and no others to zero (`wipeWords_eq`). Behind it the
cells start empty, which is the hypothesis that the rules for depth buffers need; the other cells of
the output, where a target outside the image may lie, are not spoken of.
-/

namespace Freenect

/-! ### The wiping loop

The image is wiped through a pointer to `size_t`, `sizeof(size_t)` bytes at a time. -/

/-- `wipe[i] = DEPTH_NO_MM_VALUE`, for a word of `k` cells. -/
def wipeWord (k : ℕ) (out : ℕ → UInt16) (i : ℕ) : ℕ → UInt16 := fun j ↦
  if i * k ≤ j ∧ j < (i + 1) * k then depthNoMmValue else out j

/-- The wiping loop, over `n` words. -/
def wipeWords (k : ℕ) (out : ℕ → UInt16) (n : ℕ) : ℕ → UInt16 :=
  (List.range n).foldl (wipeWord k) out

/-- After `n` words. -/
theorem wipeWords_apply (k : ℕ) (out : ℕ → UInt16) (n j : ℕ) :
    wipeWords k out n j = if j < n * k then depthNoMmValue else out j := by
  induction n with
  | zero => simp [wipeWords]
  | succ n ih =>
    have hstep : wipeWords k out (n + 1) = wipeWord k (wipeWords k out n) n := by
      simp only [wipeWords, List.range_succ, List.foldl_append, List.foldl_cons, List.foldl_nil]
    have hle : n * k ≤ (n + 1) * k := Nat.mul_le_mul_right k (Nat.le_succ n)
    rw [hstep, wipeWord, ih]
    by_cases hlt : j < n * k
    · rw [if_pos hlt, if_pos (Nat.lt_of_lt_of_le hlt hle), ite_self]
    · simp only [Nat.not_lt.1 hlt, true_and, if_neg hlt]

/-- Word by word, the loop sets the image to zero: `k` is `sizeof(size_t) / sizeof(uint16_t)`. -/
theorem wipeWords_eq {k : ℕ} (hk : k ∣ pixelCount) (out : ℕ → UInt16) :
    wipeWords k out (pixelCount / k) = wipe out := by
  funext j
  rw [wipeWords_apply, Nat.div_mul_cancel hk]
  rfl

/-! ### Any order

The source visits the pixels row by row. The result is that of any other order. -/

section ZBuffer

variable {pad : RegPadInfo} {t : RegistrationTables} {input : DepthInput} {out : ℕ → UInt16}
  {order : List ℕ} {target : ℕ}

/-- The registration with the pixels visited in another order. -/
def registerInOrder (pad : RegPadInfo) (t : RegistrationTables) (input : DepthInput)
    (out : ℕ → UInt16) (order : List ℕ) : ℕ → UInt16 :=
  order.foldl (fun out i ↦ (registerPixel pad t i (depthAt t input i) out).1) (wipe out)

/-- The metric depths of the pixels that are registered at a cell. -/
def depthsAt (pad : RegPadInfo) (t : RegistrationTables) (input : DepthInput) (target : ℕ) :
    Set UInt16 :=
  {d | ∃ i < pixelCount, Contributes t i (depthAt t input i) ∧
    (targetIndex pad t i (depthAt t input i)).toNat = target ∧ depthAt t input i = d}

/-- In any order, the registration fills a depth buffer. -/
theorem registerInOrder_eq :
    registerInOrder pad t input out order =
      DepthBuffer.fill depthNoMmValue (wipe out) (order.filterMap (contribution pad t input)) := by
  rw [registerInOrder]
  generalize wipe out = b
  induction order generalizing b with
  | nil => rfl
  | cons i order ih =>
    rw [List.foldl_cons, ih]
    by_cases hc : Contributes t i (depthAt t input i)
    · have hcon : contribution pad t input i =
        some ((targetIndex pad t i (depthAt t input i)).toNat, depthAt t input i) := if_pos hc
      rw [List.filterMap_cons_some hcon, DepthBuffer.fill_cons, registerPixel_of_contributes hc]
    · have hcon : contribution pad t input i = none := if_neg hc
      rw [List.filterMap_cons_none hcon, registerPixel_of_not_contributes hc]

/-- The depths of a cell are those that are contributed to it. -/
theorem mem_depthsAt {d : UInt16} :
    d ∈ depthsAt pad t input target ↔ (target, d) ∈ contributions pad t input pixelCount := by
  rw [mem_contributions]
  refine exists_congr fun i ↦ and_congr_right fun _ ↦ ?_
  constructor
  · rintro ⟨hc, rfl, rfl⟩
    exact if_pos hc
  · intro hcon
    obtain ⟨hc, heq⟩ := Option.ite_none_right_eq_some.1 hcon
    obtain ⟨htarget, hd⟩ := Prod.ext_iff.1 (Option.some.inj heq)
    exact ⟨hc, htarget, hd⟩

/-- A cell of the image holds the least depth registered there. -/
theorem isLeast_applyRegistration (htarget : target < pixelCount)
    (hsome : (depthsAt pad t input target).Nonempty) :
    IsLeast (depthsAt pad t input target) (applyRegistration pad t input out target) := by
  obtain ⟨d, hd⟩ := hsome
  have hset : depthsAt pad t input target =
    {d | (target, d) ∈ contributions pad t input pixelCount} := Set.ext fun _ ↦ mem_depthsAt
  rw [hset, applyRegistration_eq, outputAfter]
  exact DepthBuffer.isLeast_fill contributions_ne_empty (if_pos htarget) (mem_depthsAt.1 hd)

/-- A cell where nothing is registered is empty. -/
theorem applyRegistration_eq_empty (htarget : target < pixelCount)
    (hnone : ¬ (depthsAt pad t input target).Nonempty) :
    applyRegistration pad t input out target = depthNoMmValue := by
  rw [applyRegistration_eq, outputAfter]
  exact DepthBuffer.fill_eq_empty (if_pos htarget) fun d hd ↦ hnone ⟨d, mem_depthsAt.2 hd⟩

/-- The order of the pixels does not matter. -/
theorem registerInOrder_of_perm (horder : order.Perm pixels) (htarget : target < pixelCount) :
    registerInOrder pad t input out order target = applyRegistration pad t input out target := by
  have hperm := horder.filterMap (contribution pad t input)
  have hpixels : pixels.filterMap (contribution pad t input) =
    contributions pad t input pixelCount := by rw [pixels_eq, contributions]
  have hne : ∀ q ∈ order.filterMap (contribution pad t input), q.2 ≠ depthNoMmValue :=
    fun q hq ↦ contributions_ne_empty q (hpixels ▸ hperm.mem_iff.1 hq)
  rw [registerInOrder_eq, applyRegistration_eq, outputAfter, ← hpixels]
  exact DepthBuffer.fill_perm hperm hne (if_pos htarget)

/-- Nothing of the previous contents survives in the image. -/
theorem applyRegistration_congr (out out' : ℕ → UInt16) (htarget : target < pixelCount) :
    applyRegistration pad t input out' target = applyRegistration pad t input out target := by
  rw [applyRegistration_eq, applyRegistration_eq]
  refine DepthBuffer.fill_congr ?_
  rw [wipe, wipe, if_pos htarget, if_pos htarget]

end ZBuffer

/-- What a registered image is, without the loop that makes it. -/
structure ZBuffered (pad : RegPadInfo) (t : RegistrationTables) (input : DepthInput)
    (out : ℕ → UInt16) : Prop where
  /-- A cell holds the least depth that is registered there. -/
  least : ∀ target < pixelCount, (depthsAt pad t input target).Nonempty →
    IsLeast (depthsAt pad t input target) (applyRegistration pad t input out target)
  /-- A cell where nothing is registered is empty. -/
  empty : ∀ target < pixelCount, ¬ (depthsAt pad t input target).Nonempty →
    applyRegistration pad t input out target = depthNoMmValue
  /-- The pixels may be visited in any order. -/
  order : ∀ order : List ℕ, order.Perm pixels → ∀ target < pixelCount,
    registerInOrder pad t input out order target = applyRegistration pad t input out target
  /-- The previous contents do not matter. -/
  fresh : ∀ out' : ℕ → UInt16, ∀ target < pixelCount,
    applyRegistration pad t input out' target = applyRegistration pad t input out target

/-- **The registration is an order-independent depth buffer**, for every input, all tables and every
previous content of the output. -/
theorem registration_z_buffer (pad : RegPadInfo) (t : RegistrationTables) (input : DepthInput)
    (out : ℕ → UInt16) : ZBuffered pad t input out where
  least _ htarget hsome := isLeast_applyRegistration htarget hsome
  empty _ htarget hnone := applyRegistration_eq_empty htarget hnone
  order _ horder _ htarget := registerInOrder_of_perm horder htarget
  fresh out' _ htarget := applyRegistration_congr out out' htarget

end Freenect
