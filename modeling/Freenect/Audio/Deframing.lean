import Freenect.Audio.Safety
import Mathlib.Data.List.Chain
import Mathlib.Data.List.Forall2

/-!
# Windows of audio

If each window comes in nine packets, one for each channel, then the client is called once for each
window, on its first packet, and is given the window before. The order of the packets does not
matter, since each channel has its own slot in the buffers (`slot_step`): a window is complete in
the buffers when all its packets have come, and they are only overwritten by packets of the next
window, which come after the call.

The order of the nine packets is a permutation that nothing is assumed of. That it plays no part is
`slot_step`: a packet writes the slot of its own channel. So after the nine packets each slot holds
what its channel carried (`run_same_window`), whichever came first; the packet that comes first in a
window is the one on which the client is called, before anything of the window is stored
(`run_window`). The induction over windows (`run_windows`) then pairs each window with the call that
the next one makes.
-/

namespace Freenect

/-! ### Windows

A window is what the nine channels carry, together with the packets it arrives in, one for each
channel. -/

/-- A packet of a channel with its window and its samples. -/
structure IsAudioPacket (big : Bool) (window : UInt16) (channel : ℕ) (payload pkt : List UInt8) :
    Prop where
  block : IsBlock big pkt
  channel : (AudioInBlock.ofBytes big pkt).channel.toNat = channel
  window : (AudioInBlock.ofBytes big pkt).window = window
  samples : (AudioInBlock.ofBytes big pkt).samples = payload

/-- A window: its number, what each channel carries, and the packets it comes in. -/
structure AudioWindow where
  window : UInt16
  payload : ℕ → List UInt8
  packets : List (List UInt8)

/-- The channels of a window. -/
def audioChannels : List ℕ := [1, 2, 3, 4, 5, 6, 7, 8, 9]

/-- **A complete window**: one packet for each channel, in any order. -/
def AudioWindow.Complete (big : Bool) (w : AudioWindow) : Prop :=
  ∃ channels : List ℕ, channels.Perm audioChannels ∧
    List.Forall₂ (fun c pkt ↦ IsAudioPacket big w.window c (w.payload c) pkt) channels w.packets

/-- The calls of `iso_in_callback` for a window, with a client that has set a callback. -/
def AudioWindow.calls (w : AudioWindow) : List (List UInt8 × Bool) := w.packets.map (·, true)

/-- **What the client is given is a window**: the two channels of each microphone one after the
other, and the cancelled audio. -/
structure AudioIn.Presents (a : AudioIn) (w : AudioWindow) : Prop where
  numSamples : a.numSamples = 256
  mic : ∀ j < 4, cells (a.mic j) 0 1024 = w.payload (2 * j + 2) ++ w.payload (2 * j + 3)
  cancelled : cells a.cancelled 0 512 = w.payload 1

/-! ### Slots

A microphone has two channels, and its buffer two halves; the cancelled audio has a buffer of its
own. That makes nine slots in five buffers. -/

/-- What the buffers hold in the place of a channel. -/
def AudioState.slot (s : AudioState) (c : ℕ) : List UInt8 :=
  if c = 1 then cells s.cancelledBuffer 0 audioBlockSize
  else cells (s.micBuffer ((c - 2) / 2)) (audioBlockSize * (c % 2)) audioBlockSize

section Slots

variable {big : Bool} {s : AudioState} {w : AudioWindow} {c c' : ℕ} {pkt payload : List UInt8}
  {window : UInt16} {callback : Bool}

/-- A packet carries as many samples as a slot holds. -/
theorem IsAudioPacket.length_payload (h : IsAudioPacket big window c payload pkt) :
    payload.length = audioBlockSize := by
  rw [← h.samples]
  exact length_samples (pkt, true) h.block

/-- A microphone's buffer has two halves. What is copied to one of all these halves is in that one,
and the others stay. -/
theorem cells_update_mic (buf : ℕ → ℕ → UInt8) (hlen : payload.length = audioBlockSize)
    (hc : 2 ≤ c) (hc' : 2 ≤ c') :
    cells (Function.update buf ((c - 2) / 2)
          (copyTo (buf ((c - 2) / 2)) (audioBlockSize * (c % 2)) payload) ((c' - 2) / 2))
        (audioBlockSize * (c' % 2)) audioBlockSize =
      if c' = c then payload
      else cells (buf ((c' - 2) / 2)) (audioBlockSize * (c' % 2)) audioBlockSize := by
  by_cases hmic : (c' - 2) / 2 = (c - 2) / 2
  swap
  · have hne : c' ≠ c := fun heq ↦ hmic (by rw [heq])
    rw [Function.update_of_ne hmic, if_neg hne]
  rw [hmic, Function.update_self]
  by_cases heq : c' = c
  · rw [if_pos heq, heq]
    exact hlen ▸ cells_copyTo_self _ _ payload
  · -- the other half of the same buffer
    rw [if_neg heq]
    refine cells_copyTo_of_disjoint ?_
    rw [hlen]
    rw [audioBlockSize]
    omega

/-- **A packet writes its own slot** and no other. -/
theorem slot_step (h : IsAudioPacket big window c payload pkt) (hc : 1 ≤ c ∧ c ≤ 9)
    (hc' : 1 ≤ c' ∧ c' ≤ 9) (callback : Bool) :
    (isoInCallback big s (pkt, callback)).1.slot c' = if c' = c then payload else s.slot c' := by
  have hlen := h.length_payload
  have hchannel := h.channel
  have hsome : (AudioInBlock.ofBytes big pkt).copy.isSome := by
    rw [copy_isSome_iff, IsAudioChannel, hchannel]
    exact hc
  obtain ⟨copy, hcopy⟩ := Option.isSome_iff_exists.1 hsome
  have hstored : s.stored (AudioInBlock.ofBytes big pkt) = s.copied copy := by
    rw [AudioState.stored, hcopy]
  rw [isoInCallback_of_isBlock h.block]
  dsimp only
  rw [hstored]
  simp only [AudioState.slot]
  -- the cancelled audio, or one half of a microphone
  rcases copy_cases hcopy with ⟨hone, rfl⟩ | ⟨hge, -, rfl⟩
  · rw [hchannel] at hone
    rw [h.samples]
    by_cases h1 : c' = 1
    · rw [if_pos h1, if_pos (h1.trans hone.symm), ← hlen]
      exact cells_copyTo_self _ 0 payload
    · rw [if_neg h1, if_neg fun heq ↦ h1 (heq.trans hone), if_neg h1]
      rfl
  · rw [hchannel] at hge ⊢
    rw [h.samples]
    by_cases h1 : c' = 1
    · rw [if_pos h1, if_neg (by omega), if_pos h1]
      rfl
    · rw [if_neg h1, if_neg h1]
      exact cells_update_mic s.micBuffer hlen hge (by omega)

/-- If all slots hold a window, the client would be given that window. -/
theorem presents_of_slots (h : ∀ c, 1 ≤ c → c ≤ 9 → s.slot c = w.payload c) :
    s.audioIn.Presents w where
  numSamples := rfl
  mic j hj := by
    have hfirst := h (2 * j + 2) (by omega) (by omega)
    have hsecond := h (2 * j + 3) (by omega) (by omega)
    have hj₁ : (2 * j + 2 - 2) / 2 = j := by omega
    have hj₂ : (2 * j + 3 - 2) / 2 = j := by omega
    have hm₁ : audioBlockSize * ((2 * j + 2) % 2) = 0 := by
      rw [audioBlockSize]
      omega
    have hm₂ : audioBlockSize * ((2 * j + 3) % 2) = audioBlockSize := by
      rw [audioBlockSize]
      omega
    rw [AudioState.slot] at hfirst hsecond
    rw [if_neg (by omega), hj₁, hm₁] at hfirst
    rw [if_neg (by omega), hj₂, hm₂] at hsecond
    rw [← hfirst, ← hsecond]
    exact cells_add _ 0 512 512
  cancelled := (if_pos rfl).symm.trans (h 1 (by omega) (by omega))

end Slots

/-! ### Runs

Within a window nothing happens but copies; between two windows the client is called. -/

section Runs

variable {big : Bool} {s : AudioState} {w : AudioWindow} {channels : List ℕ}
  {pkts : List (List UInt8)}

/-- A call with a block notes its window, and calls the client if the window is a new one. -/
theorem isoInCallback_window (s : AudioState) (call : List UInt8 × Bool)
    (h : IsBlock big call.1) :
    (isoInCallback big s call).1.inWindow = (AudioInBlock.ofBytes big call.1).window ∧
      (isoInCallback big s call).2.callback =
        if (AudioInBlock.ofBytes big call.1).window ≠ s.inWindow ∧ call.2 = true then
          some s.audioIn
        else none := by
  rw [isoInCallback_of_isBlock h]
  exact ⟨rfl, rfl⟩

/-- The run lemma for packets of the window that the stream is in: no calls of the client, the slots
of the packets are written, and the others keep what they hold. -/
theorem run_same_window (hs : s.inWindow = w.window)
    (h : List.Forall₂ (fun c pkt ↦ IsAudioPacket big w.window c (w.payload c) pkt) channels pkts)
    (hch : ∀ c ∈ channels, 1 ≤ c ∧ c ≤ 9) :
    (∀ r ∈ Mealy.trace (isoInCallback big) s (pkts.map (·, true)), r.callback = none) ∧
      (Mealy.run (isoInCallback big) s (pkts.map (·, true))).inWindow = w.window ∧
      ∀ c, 1 ≤ c → c ≤ 9 → c ∈ channels ∨ s.slot c = w.payload c →
        (Mealy.run (isoInCallback big) s (pkts.map (·, true))).slot c = w.payload c := by
  induction h generalizing s with
  | nil =>
    refine ⟨fun r hr ↦ absurd hr List.not_mem_nil, hs, fun c _ _ hc ↦ ?_⟩
    exact hc.resolve_left List.not_mem_nil
  | cons hpkt hrest ih =>
    rename_i c pkt channels pkts
    obtain ⟨hc, hchannels⟩ := List.forall_mem_cons.1 hch
    obtain ⟨hwindow, hcallback⟩ := isoInCallback_window s (pkt, true) hpkt.block
    rw [hpkt.window] at hwindow hcallback
    rw [if_neg fun h ↦ h.1 hs.symm] at hcallback
    obtain ⟨hnone, hin, hslots⟩ := ih hwindow hchannels
    refine ⟨List.forall_mem_cons.2 ⟨hcallback, hnone⟩, hin, fun c' hge hle hc' ↦ ?_⟩
    -- a slot is written by its own packet, or not at all
    refine hslots c' hge hle (or_iff_not_imp_left.2 fun hnot ↦ ?_)
    rw [slot_step hpkt hc ⟨hge, hle⟩]
    split
    next heq => rw [heq]
    next hne =>
      refine hc'.resolve_left fun hmem ↦ ?_
      exact (List.mem_cons.1 hmem).elim hne hnot

/-- **The run lemma for a window**: the client is called on the first packet, with the buffers as
they are before it, and afterwards the buffers hold the window. -/
theorem run_window (hw : w.Complete big) (hs : w.window ≠ s.inWindow) :
    (∃ r rs, Mealy.trace (isoInCallback big) s w.calls = r :: rs ∧ rs.length = 8 ∧
      r.callback = some s.audioIn ∧ ∀ r ∈ rs, r.callback = none) ∧
      (Mealy.run (isoInCallback big) s w.calls).inWindow = w.window ∧
      (Mealy.run (isoInCallback big) s w.calls).audioIn.Presents w := by
  obtain ⟨channels, hperm, hpackets⟩ := hw
  have hmem : ∀ c, c ∈ channels ↔ 1 ≤ c ∧ c ≤ 9 := by
    intro c
    rw [hperm.mem_iff]
    simp only [audioChannels, List.mem_cons, List.not_mem_nil, or_false]
    omega
  have hcount : channels.length = 9 := hperm.length_eq
  have hlen := hpackets.length_eq
  rw [AudioWindow.calls]
  generalize w.packets = pkts at hpackets hlen
  cases hpackets with
  | nil => cases hcount
  | cons hpkt hrest =>
    rename_i c pkt channels pkts
    obtain ⟨hwindow, hcallback⟩ := isoInCallback_window s (pkt, true) hpkt.block
    rw [hpkt.window] at hwindow hcallback
    rw [if_pos ⟨hs, rfl⟩] at hcallback
    have hc := (hmem c).1 List.mem_cons_self
    -- the eight packets behind the first are of the same window
    obtain ⟨hnone, hin, hslots⟩ := run_same_window hwindow hrest
      fun c' hc' ↦ (hmem c').1 (List.mem_cons_of_mem _ hc')
    refine ⟨⟨_, _, rfl, ?_, hcallback, hnone⟩, hin, presents_of_slots fun c' hge hle ↦ ?_⟩
    · rw [Mealy.length_trace, List.length_map]
      simp only [List.length_cons] at hlen hcount
      omega
    · refine hslots c' hge hle ?_
      rcases List.mem_cons.1 ((hmem c').2 ⟨hge, hle⟩) with rfl | hmem'
      · right
        rw [slot_step hpkt hc hc, if_pos rfl]
      · exact Or.inl hmem'

/-- What the client is called with in a run. -/
def callbacks (big : Bool) (s : AudioState) (calls : List (List UInt8 × Bool)) : List AudioIn :=
  (Mealy.trace (isoInCallback big) s calls).filterMap AudioReport.callback

/-- The calls of the client in two runs, one after the other. -/
theorem callbacks_append (big : Bool) (s : AudioState) (calls calls' : List (List UInt8 × Bool)) :
    callbacks big s (calls ++ calls') =
      callbacks big s calls ++ callbacks big (Mealy.run (isoInCallback big) s calls) calls' := by
  simp only [callbacks]
  rw [Mealy.trace_append, List.filterMap_append]

/-- A new window calls the client once, on its first packet. -/
theorem callbacks_window (hw : w.Complete big) (hs : w.window ≠ s.inWindow) :
    callbacks big s w.calls = [s.audioIn] ∧
      (Mealy.trace (isoInCallback big) s w.calls).map (fun r ↦ r.callback.isSome) =
        true :: List.replicate 8 false := by
  obtain ⟨⟨r, rs, htrace, hlen, hcallback, hnone⟩, -⟩ := run_window hw hs
  have hrs : rs.filterMap AudioReport.callback = [] := List.filterMap_eq_nil_iff.2 hnone
  have hfalse : rs.map (fun r ↦ r.callback.isSome) = List.replicate 8 false := by
    rw [List.eq_replicate_iff, List.length_map]
    refine ⟨hlen, fun b hb ↦ ?_⟩
    obtain ⟨r', hr', rfl⟩ := List.mem_map.1 hb
    rw [hnone r' hr']
    rfl
  constructor
  · rw [callbacks, htrace, List.filterMap_cons, hcallback, hrs]
  · rw [htrace, List.map_cons, hcallback, hfalse]
    rfl

/-- The calls of the client for one window after another, of which the first is a new one. -/
theorem run_windows {ws : List AudioWindow} (hcomplete : ∀ w ∈ ws, w.Complete big)
    (hchain : (s.inWindow :: ws.map AudioWindow.window).IsChain (· ≠ ·)) :
    (Mealy.trace (isoInCallback big) s (ws.flatMap AudioWindow.calls)).map
        (fun r ↦ r.callback.isSome) = ws.flatMap (fun _ ↦ true :: List.replicate 8 false) ∧
      (∀ w, ws.head? = some w →
        (callbacks big s (ws.flatMap AudioWindow.calls)).head? = some s.audioIn) ∧
      ∀ k w, ws[k]? = some w → k + 1 < ws.length →
        ∃ a, (callbacks big s (ws.flatMap AudioWindow.calls))[k + 1]? = some a ∧ a.Presents w := by
  induction ws generalizing s with
  | nil => exact ⟨rfl, fun w hw ↦ (nomatch hw), fun k w hw ↦ (nomatch hw)⟩
  | cons w ws ih =>
    obtain ⟨hw, hws⟩ := List.forall_mem_cons.1 hcomplete
    obtain ⟨hne, hrest⟩ := List.isChain_cons_cons.1 hchain
    obtain ⟨-, hin, hpresents⟩ := run_window hw (Ne.symm hne)
    obtain ⟨hone, hflags⟩ := callbacks_window hw (Ne.symm hne)
    rw [← hin] at hrest
    obtain ⟨hmap, hhead, hlater⟩ := ih hws hrest
    have hcons : callbacks big s (w.calls ++ ws.flatMap AudioWindow.calls) =
        s.audioIn :: callbacks big (Mealy.run (isoInCallback big) s w.calls)
          (ws.flatMap AudioWindow.calls) := by
      rw [callbacks_append, hone, List.singleton_append]
    refine ⟨?_, fun _ _ ↦ ?_, fun k v hv hk ↦ ?_⟩
    · rw [List.flatMap_cons, List.flatMap_cons, Mealy.trace_append, List.map_append, hflags, hmap]
    · rw [List.flatMap_cons, hcons]
      rfl
    · rw [List.flatMap_cons, hcons]
      cases k with
      | zero =>
        obtain rfl := Option.some.inj hv
        obtain ⟨v, ws', rfl⟩ := List.exists_cons_of_length_pos (Nat.lt_of_succ_lt_succ hk)
        refine ⟨_, ?_, hpresents⟩
        rw [List.getElem?_cons_succ, ← List.head?_eq_getElem?]
        exact hhead v rfl
      | succ k => exact hlater k v hv (Nat.lt_of_succ_lt_succ hk)

/-- **Deframing.** From the state that `freenect_start_audio` sets up, a client that has set a
callback and receives complete windows, the first of them not window zero and no two consecutive
ones the same, is called on the first packet of each window and on no other; and the call on the
first packet of a window presents the window before it. -/
theorem audio_deframing (big : Bool) (s : AudioState) (a : StartAudioAnswers)
    (hstart : (startAudio s a).2 = 0) (ws : List AudioWindow)
    (hcomplete : ∀ w ∈ ws, w.Complete big) (hfirst : ∀ w, ws.head? = some w → w.window ≠ 0)
    (hne : (ws.map AudioWindow.window).IsChain (· ≠ ·)) :
    (Mealy.trace (isoInCallback big) (startAudio s a).1 (ws.flatMap AudioWindow.calls)).map
        (fun r ↦ r.callback.isSome) = ws.flatMap (fun _ ↦ true :: List.replicate 8 false) ∧
      ∀ k w, ws[k]? = some w → k + 1 < ws.length →
        ∃ a', (callbacks big (startAudio s a).1 (ws.flatMap AudioWindow.calls))[k + 1]? = some a' ∧
          a'.Presents w := by
  have hwindow : (startAudio s a).1.inWindow = 0 := by
    rw [startAudio] at hstart ⊢
    split at hstart
    · cases hstart
    next hrunning =>
      rw [if_neg hrunning]
      dsimp only
      split
      · rfl
      · split
        · rfl
        · rfl
  have hchain : ((startAudio s a).1.inWindow :: ws.map AudioWindow.window).IsChain (· ≠ ·) := by
    rw [List.isChain_cons, hwindow]
    refine ⟨fun v hv ↦ ?_, hne⟩
    rw [List.head?_map] at hv
    obtain ⟨w, hw, rfl⟩ := Option.map_eq_some_iff.1 hv
    exact (hfirst w hw).symm
  obtain ⟨hmap, -, hlater⟩ := run_windows hcomplete hchain
  exact ⟨hmap, hlater⟩

/-- A window in which each channel carries its own number. -/
def plainWindow (window : UInt8) (channels : List ℕ) : AudioWindow where
  window := UInt16.ofNat window.toNat
  payload c := List.replicate audioBlockSize (UInt8.ofNat c)
  packets := channels.map fun c ↦ mkAudioPacket (UInt8.ofNat c) window (UInt8.ofNat c)

/-- A packet that is built this way is one of its channel and window. -/
theorem isAudioPacket_mk (window sample : UInt8) {c : ℕ} (hc : c < 256) :
    IsAudioPacket false (UInt16.ofNat window.toNat) c (List.replicate audioBlockSize sample)
      (mkAudioPacket (UInt8.ofNat c) window sample) := by
  rw [mkAudioPacket]
  generalize hdata : List.replicate audioBlockSize sample = data
  refine ⟨⟨?_, ?_⟩, ?_, ?_, rfl⟩
  · rw [← hdata, List.length_append, List.length_replicate]
    simp only [List.length_cons, List.length_nil, audioBlockSize, audioPacketSize]
  · show le32 0x80 0 0 0x80 = 0x80000080
    decide
  · show (UInt16.ofNat ((UInt8.ofNat c).toNat + 0 * 2 ^ 8)).toNat = c
    rw [UInt8.toNat_ofNat', UInt16.toNat_ofNat']
    omega
  · show UInt16.ofNat (window.toNat + 0 * 2 ^ 8) = _
    rw [Nat.zero_mul, Nat.add_zero]

/-- Its packets are one for each channel. -/
theorem plainWindow_complete (window : UInt8) {channels : List ℕ}
    (h : channels.Perm audioChannels) : (plainWindow window channels).Complete false := by
  refine ⟨channels, h, List.forall₂_map_right_iff.2 (List.forall₂_same.2 fun c hc ↦ ?_)⟩
  have hle : c ≤ 9 := by
    rw [h.mem_iff] at hc
    simp only [audioChannels, List.mem_cons, List.not_mem_nil, or_false] at hc
    omega
  exact isAudioPacket_mk window _ (by omega)

/-- Two windows, the second with its packets the other way round. -/
theorem audio_deframing_plain :
    let s := (startAudio .zero ⟨fun _ ↦ 0, 0, 0⟩).1
    let ws := [plainWindow 3 audioChannels, plainWindow 6 audioChannels.reverse]
    (Mealy.trace (isoInCallback false) s (ws.flatMap AudioWindow.calls)).map
        (fun r ↦ r.callback.isSome) = ws.flatMap (fun _ ↦ true :: List.replicate 8 false) ∧
      ∀ k w, ws[k]? = some w → k + 1 < ws.length →
        ∃ a', (callbacks false s (ws.flatMap AudioWindow.calls))[k + 1]? = some a' ∧
          a'.Presents w := by
  refine audio_deframing false .zero ⟨fun _ ↦ 0, 0, 0⟩ rfl
    [plainWindow 3 audioChannels, plainWindow 6 audioChannels.reverse] ?_ ?_ ?_
  · refine List.forall_mem_cons.2 ⟨plainWindow_complete 3 (List.Perm.refl _), ?_⟩
    exact List.forall_mem_singleton.2 (plainWindow_complete 6 (List.reverse_perm _))
  · intro w hw
    obtain rfl := Option.some.inj hw
    decide
  · decide

end Runs

end Freenect
