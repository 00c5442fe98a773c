import Freenect.Audio.Stream

/-!
# Audio packets of any kind

The switch of `iso_in_callback` sorts out the channels that carry audio, 1 to 9. The line behind it,
which notes that the channel was seen in this window, is passed by all packets: it uses the channel
of the packet as an index, whatever it is.

`audio_input_safe_iff` says which packets are harmless: those that are no block of audio, those of
an audio channel, and those of channel 10 in a window in which that channel was noted already.

A call goes through the array where the window changes, copies once, and notes the window of the
channel. Where the copy goes is decided by the `switch`, so it is inside its buffer for any channel
(`copy_inside`). The note uses the channel as it came: the array has ten entries, for the channels 1
to 10, and `indices_iff` is that. Channel 10 is no audio channel but has an entry, so it is harmless
exactly when noting it changes nothing (`unchanged_iff`).
-/

namespace Freenect

/-- A channel that the switch sends to a buffer. -/
def IsAudioChannel (channel : UInt16) : Prop := 1 ≤ channel.toNat ∧ channel.toNat ≤ 9

/-- **A harmless call**: it uses entries of `last_seen_window` and the bytes of a buffer, and a
packet that is of no audio channel changes nothing but `in_window`. -/
structure SafeInput (big : Bool) (s : AudioState) (call : List UInt8 × Bool) : Prop where
  indices : ∀ i ∈ (isoInCallback big s call).2.indices, 0 ≤ i ∧ i < 10
  mic : ∀ c j, (isoInCallback big s call).2.copy = some c → c.buffer = .mic j → j < 4
  copy : ∀ c, (isoInCallback big s call).2.copy = some c → c.off + c.data.length ≤ c.buffer.size
  other : ¬ (IsBlock big call.1 ∧ IsAudioChannel (AudioInBlock.ofBytes big call.1).channel) →
    (isoInCallback big s call).1 =
      { s with inWindow := (isoInCallback big s call).1.inWindow }

/-- The packets that do no harm. -/
def Harmless (big : Bool) (s : AudioState) (pkt : List UInt8) : Prop :=
  IsBlock big pkt →
    IsAudioChannel (AudioInBlock.ofBytes big pkt).channel ∨
      ((AudioInBlock.ofBytes big pkt).channel = 10 ∧
        s.lastSeenWindow 9 = (AudioInBlock.ofBytes big pkt).window)

section Copies

variable {b : AudioInBlock}

/-- A block is copied exactly if it is of an audio channel. -/
theorem copy_isSome_iff : b.copy.isSome ↔ IsAudioChannel b.channel := by
  unfold AudioInBlock.copy IsAudioChannel
  dsimp only
  split
  · exact iff_of_true rfl (by omega)
  next h1 =>
    split
    next h =>
      split
      · exact iff_of_true rfl (by omega)
      · exact iff_of_true rfl (by omega)
    · exact iff_of_false Bool.false_ne_true (by omega)

/-- Where a copy goes: all of the cancelled audio, or one half of a microphone's buffer. -/
theorem copy_cases {c : BlockCopy} (h : b.copy = some c) :
    (b.channel.toNat = 1 ∧ c = { buffer := .cancelled, off := 0, data := b.samples }) ∨
      (2 ≤ b.channel.toNat ∧ b.channel.toNat ≤ 9 ∧
        c = { buffer := .mic ((b.channel.toNat - 2) / 2)
              off := audioBlockSize * (b.channel.toNat % 2)
              data := b.samples }) := by
  unfold AudioInBlock.copy at h
  dsimp only at h
  split at h
  next h1 => exact Or.inl ⟨h1, (Option.some.inj h).symm⟩
  · split at h
    next hmic =>
      refine Or.inr ⟨hmic.1, hmic.2, ?_⟩
      split at h
      next hodd =>
        rw [hodd]
        exact (Option.some.inj h).symm
      next heven =>
        rw [show b.channel.toNat % 2 = 0 by omega]
        exact (Option.some.inj h).symm
    · cases h

end Copies

section Input

variable {big : Bool} {s : AudioState} {call : List UInt8 × Bool}

/-- A packet that is no block of audio does nothing. -/
theorem safeInput_of_not_isBlock (h : ¬ IsBlock big call.1) : SafeInput big s call := by
  have heq := isoInCallback_of_not_isBlock (s := s) h
  constructor
  · intro i hi
    rw [heq] at hi
    cases hi
  · intro c j hc
    rw [heq] at hc
    cases hc
  · intro c hc
    rw [heq] at hc
    cases hc
  · intro _
    rw [heq]

/-- Copies stay inside their buffers, whatever the channel. -/
theorem copy_inside (h : IsBlock big call.1) {c : BlockCopy}
    (hc : (AudioInBlock.ofBytes big call.1).copy = some c) :
    (∀ j, c.buffer = .mic j → j < 4) ∧ c.off + c.data.length ≤ c.buffer.size := by
  have hlen := length_samples call h
  rcases copy_cases hc with ⟨-, rfl⟩ | ⟨hge, hle, rfl⟩
  · refine ⟨fun j hj ↦ (nomatch hj), ?_⟩
    show 0 + (AudioInBlock.ofBytes big call.1).samples.length ≤ 512
    rw [hlen]
    decide
  · constructor
    · intro j hj
      obtain rfl := AudioBuffer.mic.inj hj
      omega
    · show audioBlockSize * _ + (AudioInBlock.ofBytes big call.1).samples.length ≤ 1024
      rw [hlen]
      rw [audioBlockSize]
      omega

/-- The indices of a call with a block of audio are entries of the array exactly if the channel is
one of the ten. -/
theorem indices_iff (h : IsBlock big call.1) :
    (∀ i ∈ (isoInCallback big s call).2.indices, 0 ≤ i ∧ i < 10) ↔
      1 ≤ (AudioInBlock.ofBytes big call.1).channel.toNat ∧
        (AudioInBlock.ofBytes big call.1).channel.toNat ≤ 10 := by
  rw [isoInCallback_of_isBlock h]
  dsimp only
  constructor
  · intro hall
    have hlast := hall _ (List.mem_append_right _ (List.mem_singleton_self _))
    omega
  · intro hch i hi
    rcases List.mem_append.1 hi with hi | hi
    · split at hi
      · obtain ⟨t, ht, rfl⟩ := List.mem_map.1 hi
        have hlt := List.mem_range.1 ht
        omega
      · cases hi
    · obtain rfl := List.mem_singleton.1 hi
      omega

/-- A block of another channel leaves the state as it is but for `in_window` exactly if the entry it
notes is the window already. -/
theorem unchanged_iff (h : IsBlock big call.1)
    (hch : ¬ IsAudioChannel (AudioInBlock.ofBytes big call.1).channel) :
    (isoInCallback big s call).1 = { s with inWindow := (isoInCallback big s call).1.inWindow } ↔
      s.lastSeenWindow ((AudioInBlock.ofBytes big call.1).channel.toNat - 1) =
        (AudioInBlock.ofBytes big call.1).window := by
  have hcopy : (AudioInBlock.ofBytes big call.1).copy = none := by
    rw [← copy_isSome_iff, Bool.not_eq_true, Option.isSome_eq_false_iff, Option.isNone_iff_eq_none]
      at hch
    exact hch
  have hstored : s.stored (AudioInBlock.ofBytes big call.1) = s := by
    rw [AudioState.stored, hcopy]
  rw [isoInCallback_of_isBlock h]
  dsimp only
  rw [hstored, AudioState.mk.injEq]
  simp only [true_and, and_true]
  rw [Function.update_eq_self_iff]
  exact eq_comm

/-- **The step lemma**: a call is harmless exactly if its packet is. -/
theorem safeInput_iff (big : Bool) (s : AudioState) (call : List UInt8 × Bool) :
    SafeInput big s call ↔ Harmless big s call.1 := by
  by_cases hblock : IsBlock big call.1
  swap
  · exact iff_of_true (safeInput_of_not_isBlock hblock) fun h ↦ absurd h hblock
  have hcopies : (isoInCallback big s call).2.copy = (AudioInBlock.ofBytes big call.1).copy := by
    rw [isoInCallback_of_isBlock hblock]
  -- an audio channel is copied and noted in its own entry; of any other one only the note is left
  by_cases hch : IsAudioChannel (AudioInBlock.ofBytes big call.1).channel
  · refine iff_of_true ⟨(indices_iff hblock).2 ⟨hch.1, hch.2.trans (by decide)⟩, ?_, ?_, ?_⟩
      fun _ ↦ Or.inl hch
    · exact fun c j hc ↦ (copy_inside hblock (hcopies.symm.trans hc)).1 j
    · exact fun c hc ↦ (copy_inside hblock (hcopies.symm.trans hc)).2
    · exact fun hnot ↦ absurd ⟨hblock, hch⟩ hnot
  · have hnot : ¬ (IsBlock big call.1 ∧ IsAudioChannel (AudioInBlock.ofBytes big call.1).channel) :=
      fun h ↦ hch h.2
    constructor
    · intro h _
      obtain ⟨hge, hle⟩ := (indices_iff hblock).1 h.indices
      have hten : (AudioInBlock.ofBytes big call.1).channel.toNat = 10 := by
        rw [IsAudioChannel] at hch
        omega
      have hseen := (unchanged_iff hblock hch).1 (h.other hnot)
      rw [hten] at hseen
      exact Or.inr ⟨UInt16.toNat_inj.1 hten, hseen⟩
    · intro h
      obtain ⟨hten, hseen⟩ := (h hblock).resolve_left hch
      refine ⟨(indices_iff hblock).2 ?_, ?_, ?_, fun _ ↦ (unchanged_iff hblock hch).2 ?_⟩
      · rw [hten]
        decide
      · exact fun c j hc ↦ (copy_inside hblock (hcopies.symm.trans hc)).1 j
      · exact fun c hc ↦ (copy_inside hblock (hcopies.symm.trans hc)).2
      · rw [hten]
        exact hseen

end Input

/-- **When audio input is safe**: all calls of a run are harmless exactly if all its packets are. -/
theorem audio_input_safe_iff (big : Bool) (s : AudioState) (calls : List (List UInt8 × Bool)) :
    Mealy.Along (isoInCallback big) (SafeInput big) s calls ↔
      Mealy.Along (isoInCallback big) (fun s call ↦ Harmless big s call.1) s calls :=
  Mealy.Along.congr (I := fun _ ↦ True) (fun s call _ ↦ safeInput_iff big s call)
    (fun _ _ _ _ ↦ trivial) trivial calls

/-- A packet of channel 0 uses the entry in front of the array. -/
theorem audio_input_not_safe :
    ¬ Mealy.Along (isoInCallback false) (SafeInput false)
      (startAudio .zero ⟨fun _ ↦ 0, 0, 0⟩).1 [(mkAudioPacket 0 1 0, false)] := by
  rintro ⟨hsafe, -⟩
  have hblock : IsBlock false (mkAudioPacket 0 1 0) := ⟨by simp [mkAudioPacket]; rfl, rfl⟩
  have hindex := ((indices_iff hblock).1 hsafe.indices).1
  exact absurd hindex (by decide)

end Freenect
