import Freenect.Sync.ChangeFormat
import Freenect.Sync.Wrapper

/-!
# Rings and labels

Two things about the devices of the wrapper and their rings. Whatever has failed, a device is in
modes of its own and the rings share no buffer (`Kinects.Sound`); and as long as every change of
format has succeeded, a ring that is labelled with a mode belongs to a stream that serves it
(`Kinects.Served`). A change of format keeps the first, and one that succeeds the second; frames
that come in or are fetched keep both.

The two are kept apart because they are needed in different places. That no buffer is in two rings
holds in any run, and is what makes the blocks of one ring safe when the other is freed; that labels
are right is lost as soon as a change of format goes wrong, and is what a get function relies on
when it finds that nothing has to be changed.

`Kinects.put` replaces a device. Each result about an event is one about `put`: what the event does
to one device, and that the others do not notice.
-/

namespace Freenect

namespace Kinects

/-- Another device for an index. -/
def put (kinects : Kinects) (index : ℤ) (k : SyncKinect) : Kinects :=
  fun i ↦ if i = index then some k else kinects i

/-- A buffer in a ring. -/
def Owns (kinects : Kinects) (index : ℤ) (kind : StreamKind) (p : Ptr) : Prop :=
  ∃ k, kinects index = some k ∧ p ∈ (k.ring kind).bufs ∧ p ≠ NULL

/-- **What holds in every state**: a device is in modes of its own, and every buffer in a ring is a
block of the heap, and in no other ring. -/
structure Sound (kinects : Kinects) (heap : Heap) : Prop where
  modes : ∀ i k kind, kinects i = some k → (k.dev.mode kind).Supported
  null : heap.live NULL = none
  live : ∀ i kind p, kinects.Owns i kind p → heap.live p ≠ none
  apart : ∀ i kind i' kind' p, kinects.Owns i kind p → kinects.Owns i' kind' p →
    i = i' ∧ kind = kind'

/-- **Every label is right.** -/
def Served (kinects : Kinects) (heap : Heap) : Prop :=
  ∀ i k m, kinects i = some k → k.Labelled m → Serves k heap m

variable {kinects : Kinects} {heap heap' : Heap} {index i : ℤ} {k k' : SyncKinect} {m : Mode}
  {kind : StreamKind} {p : Ptr} {a : FormatAnswers}

/-- No ring owns the null pointer. -/
theorem Owns.ne_null (h : kinects.Owns i kind p) : p ≠ NULL := h.choose_spec.2.2

/-- The device that is put there. -/
@[simp] theorem put_self : kinects.put index k index = some k := if_pos rfl

/-- The other devices. -/
theorem put_of_ne (h : i ≠ index) : kinects.put index k i = kinects i := if_neg h

/-- A device that is put where it is. -/
theorem put_of_eq (h : kinects index = some k) : kinects.put index k = kinects := by
  funext i
  rw [put]
  split
  next hi => rw [hi, h]
  next => rfl

/-- Owners after a device has been replaced. -/
theorem owns_put (h : (kinects.put index k).Owns i kind p) :
    (i = index ∧ p ∈ (k.ring kind).bufs ∧ p ≠ NULL) ∨ (i ≠ index ∧ kinects.Owns i kind p) := by
  obtain ⟨k', hk', hp⟩ := h
  by_cases hi : i = index
  · subst hi
    obtain rfl := Option.some.inj (put_self.symm.trans hk')
    exact Or.inl ⟨rfl, hp⟩
  · exact Or.inr ⟨hi, k', (put_of_ne hi).symm.trans hk', hp⟩

/-- A device is replaced by one with the same buffers, or by a new one without any. -/
theorem Sound.put_same (h : kinects.Sound heap)
    (hmodes : ∀ kind, (k.dev.mode kind).Supported)
    (hbufs : ∀ kind p, p ∈ (k.ring kind).bufs → p ≠ NULL → kinects.Owns index kind p) :
    (kinects.put index k).Sound heap := by
  have howns : ∀ i kind p, (kinects.put index k).Owns i kind p → kinects.Owns i kind p := by
    intro i kind p hp
    rcases owns_put hp with ⟨rfl, hmem, hne⟩ | ⟨-, hp⟩
    exacts [hbufs kind p hmem hne, hp]
  refine ⟨fun i k' kind hk' ↦ ?_, h.null, fun i kind p hp ↦ h.live i kind p (howns i kind p hp),
    fun i kind i' kind' p hp hp' ↦
      h.apart i kind i' kind' p (howns i kind p hp) (howns i' kind' p hp')⟩
  by_cases hi : i = index
  · subst hi
    obtain rfl := Option.some.inj (put_self.symm.trans hk')
    exact hmodes kind
  · exact h.modes i k' kind ((put_of_ne hi).symm.trans hk')

/-- A device is replaced by one that serves its labels. -/
theorem Served.put (h : kinects.Served heap) (hk : ∀ m, k.Labelled m → Serves k heap m) :
    (kinects.put index k).Served heap := by
  intro i k' m hk' hlabel
  by_cases hi : i = index
  · subst hi
    obtain rfl := Option.some.inj (put_self.symm.trans hk')
    exact hk m hlabel
  · exact h i k' m ((put_of_ne hi).symm.trans hk') hlabel

/-! ### A change of format -/

/-- What a change of format does to the heap: a buffer of another ring stays as it is, and a new one
was no block while the old ring was freed. -/
theorem Sound.changeFormat_heap (h : kinects.Sound heap) (hk : kinects index = some k)
    (a : FormatAnswers) (m : Mode) :
    (∀ i kind p, ¬ (i = index ∧ kind = m.kind) → kinects.Owns i kind p →
      (k.changeFormat heap a m).2.1.live p = heap.live p ∧
        p ∉ ((k.changeFormat heap a m).1.ring m.kind).bufs) ∧
    (∀ p ∈ ((k.changeFormat heap a m).1.ring m.kind).bufs, p ≠ NULL →
      (k.changeFormat heap a m).2.1.live p ≠ none) ∧
    (k.changeFormat heap a m).2.1.live NULL = none := by
  have hfreed (q : Ptr) : ((k.ring m.kind).free heap).live q =
      if q ∈ (k.ring m.kind).bufs then none else heap.live q := Heap.live_freeAll h.null q
  have hfreedNull : ((k.ring m.kind).free heap).live NULL = none := by
    rw [hfreed]
    split
    · rfl
    · exact h.null
  have hother : ∀ i kind p, ¬ (i = index ∧ kind = m.kind) → kinects.Owns i kind p →
      ((k.ring m.kind).free heap).live p = heap.live p := by
    intro i kind p hne hp
    rw [hfreed]
    refine if_neg fun hmem ↦ hne ?_
    exact h.apart i kind index m.kind p hp ⟨k, hk, hmem, hp.ne_null⟩
  -- with a ring the heap has grown by its blocks; without one the old ring has been freed, and that
  -- is all
  by_cases hall : m.Allocated
  · obtain ⟨sz, -, hgrown⟩ := (changeFormat_changed k heap a hall).grown
    refine ⟨fun i kind p hne hp ↦ ?_, fun p hp hp0 ↦ ?_, ?_⟩
    · have hlive := hother i kind p hne hp
      have hold : ((k.ring m.kind).free heap).live p ≠ none := hlive ▸ h.live i kind p hp
      refine ⟨(hgrown.old p hold).trans hlive, fun hmem ↦ hold (hgrown.new p hmem ?_).2⟩
      exact hp.ne_null
    · rw [(hgrown.new p hp hp0).1]
      simp
    · by_contra hne
      rcases hgrown.only NULL hne with h' | ⟨-, h'⟩
      exacts [h' hfreedNull, h' rfl]
  · have hr := changeFormat_rejected k heap a hall
    rw [hr.heap, hr.ring]
    have hempty : ∀ p ∈ BufferRing.empty.bufs, p = NULL := by
      simp [BufferRing.bufs, BufferRing.empty]
    refine ⟨fun i kind p hne hp ↦ ⟨hother i kind p hne hp, fun hmem ↦ ?_⟩,
      fun p hp hp0 ↦ absurd (hempty p hp) hp0, hfreedNull⟩
    exact hp.ne_null (hempty p hmem)

/-- A change of format leaves the device in modes of its own. -/
theorem changeFormat_supported (hmodes : ∀ kind, (k.dev.mode kind).Supported) (heap : Heap)
    (a : FormatAnswers) (m : Mode) (kind : StreamKind) :
    ((k.changeFormat heap a m).1.dev.mode kind).Supported := by
  by_cases hkind : kind = m.kind
  · subst hkind
    by_cases hall : m.Allocated
    · exact ((changeFormat_changed k heap a hall).mode (hmodes _)).1
    · rw [(changeFormat_rejected k heap a hall).mode]
      exact hmodes _
  · rw [(changeFormat_apart k heap a m).mode kind hkind]
    exact hmodes kind

/-- **A change of format** keeps the devices in order, whatever has failed. -/
theorem Sound.changeFormat (h : kinects.Sound heap) (hk : kinects index = some k)
    (a : FormatAnswers) (m : Mode) :
    (kinects.put index (k.changeFormat heap a m).1).Sound (k.changeFormat heap a m).2.1 := by
  obtain ⟨hkeep, hnew, hnull⟩ := h.changeFormat_heap hk a m
  -- an owner is the new ring, or owned the buffer before and is another one
  have howns : ∀ i kind p, (kinects.put index (k.changeFormat heap a m).1).Owns i kind p →
      ((i = index ∧ kind = m.kind) ∧ p ∈ ((k.changeFormat heap a m).1.ring m.kind).bufs ∧
        p ≠ NULL) ∨ (¬ (i = index ∧ kind = m.kind) ∧ kinects.Owns i kind p) := by
    intro i kind p hp
    rcases owns_put hp with ⟨rfl, hmem, hp0⟩ | ⟨hi, hp⟩
    · by_cases hkind : kind = m.kind
      · subst hkind
        exact Or.inl ⟨⟨rfl, rfl⟩, hmem, hp0⟩
      · rw [(changeFormat_apart k heap a m).ring kind hkind] at hmem
        exact Or.inr ⟨fun h' ↦ hkind h'.2, k, hk, hmem, hp0⟩
    · exact Or.inr ⟨fun h' ↦ hi h'.1, hp⟩
  refine ⟨fun i k' kind hk' ↦ ?_, hnull, fun i kind p hp ↦ ?_, fun i kind i' kind' p hp hp' ↦ ?_⟩
  · by_cases hi : i = index
    · subst hi
      obtain rfl := Option.some.inj (put_self.symm.trans hk')
      exact changeFormat_supported (fun kind ↦ h.modes i k kind hk) heap a m kind
    · exact h.modes i k' kind ((put_of_ne hi).symm.trans hk')
  · rcases howns i kind p hp with ⟨-, hmem, hp0⟩ | ⟨hne, hown⟩
    · exact hnew p hmem hp0
    · rw [(hkeep i kind p hne hown).1]
      exact h.live i kind p hown
  -- two owners of one buffer: a new buffer was nobody's, and of the old ones it is known
  · rcases howns i kind p hp with ⟨hwho, hmem, -⟩ | ⟨hne, hown⟩ <;>
      rcases howns i' kind' p hp' with ⟨hwho', hmem', -⟩ | ⟨hne', hown'⟩
    · exact ⟨hwho.1.trans hwho'.1.symm, hwho.2.trans hwho'.2.symm⟩
    · exact absurd hmem (hkeep i' kind' p hne' hown').2
    · exact absurd hmem' (hkeep i kind p hne hown).2
    · exact h.apart i kind i' kind' p hown hown'

/-- A label stays right if its stream, its ring and the blocks of the ring stay as they are. -/
theorem serves_congr (h : Serves k heap m) (hstream : k'.dev.stream m.kind = k.dev.stream m.kind)
    (hmode : k'.dev.mode m.kind = k.dev.mode m.kind) (hring : k'.ring m.kind = k.ring m.kind)
    (hlive : ∀ p ∈ (k.ring m.kind).bufs, heap'.live p = heap.live p) : Serves k' heap' m := by
  obtain ⟨hrun, hm, hlabel, hbufs, hfills⟩ := h
  refine ⟨by rw [hstream]; exact hrun, hmode.trans hm, ?_, fun p hp ↦ ?_, ?_⟩
  · rw [SyncKinect.Labelled]
    rw [hring]
    exact hlabel
  · rw [hring] at hp
    rw [hlive p hp]
    exact hbufs p hp
  · rw [hstream, hring]
    exact hfills

/-- **A change of format that succeeds** keeps every label right. -/
theorem Served.changeFormat (hs : kinects.Served heap) (h : kinects.Sound heap)
    (hk : kinects index = some k) (hok : ChangeSucceeds k heap a m) :
    (kinects.put index (k.changeFormat heap a m).1).Served (k.changeFormat heap a m).2.1 := by
  obtain ⟨hkeep, -, -⟩ := h.changeFormat_heap hk a m
  -- every ring but the new one has its blocks still
  have hlive : ∀ i k' m', kinects i = some k' → ¬ (i = index ∧ m'.kind = m.kind) →
      Serves k' heap m' → ∀ p ∈ (k'.ring m'.kind).bufs,
        (k.changeFormat heap a m).2.1.live p = heap.live p := by
    intro i k' m' hk' hne hserves p hp
    refine (hkeep i m'.kind p hne ⟨k', hk', hp, ?_⟩).1
    rintro rfl
    obtain ⟨n, hn, -⟩ := hserves.bufs NULL hp
    rw [h.null] at hn
    cases hn
  intro i k' m' hk' hlabel
  by_cases hi : i = index
  swap
  · have hk' := (put_of_ne hi).symm.trans hk'
    have hserves := hs i k' m' hk' hlabel
    exact serves_congr hserves rfl rfl rfl (hlive i k' m' hk' (fun h' ↦ hi h'.1) hserves)
  subst hi
  obtain rfl := Option.some.inj (put_self.symm.trans hk')
  by_cases hkind : m'.kind = m.kind
  · -- there is one label on the new ring
    have hnew := (changeFormat_changed k heap a hok.allocated).label
    rw [SyncKinect.Labelled] at hlabel
    rw [hkind] at hlabel
    obtain rfl := Mode.eq_of_codes hkind (hlabel.1.symm.trans hnew.1) (hlabel.2.symm.trans hnew.2)
    exact (serves_iff a (h.modes i k _ hk) h.null).2 hok
  · obtain ⟨hring, hstream, hmode⟩ := changeFormat_apart k heap a m
    have hold : k.Labelled m' := by
      rw [SyncKinect.Labelled] at hlabel ⊢
      rwa [hring m'.kind hkind] at hlabel
    have hserves := hs i k m' hk hold
    exact serves_congr hserves (hstream _ hkind) (hmode _ hkind) (hring _ hkind)
      (hlive i k m' hk (fun h' ↦ hkind h'.2) hserves)

end Kinects

/-! ### A device that has just been opened -/

namespace SyncKinect

/-- A new device has no label. -/
theorem fresh_labelled (videoJunk depthJunk : BufferRing) (m : Mode) :
    ¬ (fresh videoJunk depthJunk).Labelled m := by
  intro h
  refine m.fmt_ne (h.1.symm.trans ?_)
  cases m <;> rfl

theorem fresh_supported (videoJunk depthJunk : BufferRing) (kind : StreamKind) :
    ((fresh videoJunk depthJunk).dev.mode kind).Supported := by
  have hopened : ∀ kind, (CameraDevice.opened.mode kind).Supported := by
    intro kind
    cases kind with
    | video => decide
    | depth => decide
  exact hopened kind

theorem fresh_bufs (videoJunk depthJunk : BufferRing) (kind : StreamKind) {p : Ptr}
    (hp : p ∈ ((fresh videoJunk depthJunk).ring kind).bufs) : p = NULL := by
  have hbufs : ((fresh videoJunk depthJunk).ring kind).bufs = [NULL, NULL, NULL] := by
    cases kind with
    | video => rfl
    | depth => rfl
  rw [hbufs] at hp
  simpa using hp

end SyncKinect

/-! ### Frames -/

namespace SyncKinect

variable {k : SyncKinect} {heap : Heap} {m : Mode} {kind : StreamKind} {pkt : List UInt8}

/-- The ring that is put there. -/
theorem ring_withRing_self {buf : BufferRing} : (k.withRing kind buf).ring kind = buf := by
  cases kind with
  | video => rfl
  | depth => rfl

/-- The other ring. -/
theorem ring_withRing_of_ne {buf : BufferRing} {i : StreamKind} (h : i ≠ kind) :
    (k.withRing kind buf).ring i = k.ring i := by
  cases kind <;> cases i <;> first | rfl | exact absurd rfl h

/-- Neither is part of the device. -/
theorem withRing_dev (k : SyncKinect) (kind : StreamKind) (buf : BufferRing) :
    (k.withRing kind buf).dev = k.dev := by
  cases kind with
  | video => rfl
  | depth => rfl

end SyncKinect

end Freenect
