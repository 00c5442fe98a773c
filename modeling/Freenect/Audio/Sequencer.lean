import Freenect.Audio.Stream
import Mathlib.Tactic.SplitIfs

/-!
# Sending audio

`prepare_iso_out_data` fills the header of a packet for the speakers. No samples are sent yet, but
the device wants the header to be right: a window, a sequence number from 0 to 127, and a byte that
depends on a counter, a timestamp and the parity of the window. A cycle of 128 packets has three
windows, of 43, 43 and 42 packets, and the timestamp advances by 5 with each packet, but by 6 in the
second window.

The five variables are advanced one by one, in 8 and 16 bits. `sequencer_closed_form` says what they
are after `n` packets, for any packets that arrive from the microphones in between.

The closed form has one function for each variable, and the step of each is a fact about `n` and `n
+ 1` alone (`windowIndex_succ`, `windows_succ`, `counter_succ`, `timestamp_succ`). The variables of
the code follow them one by one: `outSeq_nextOut` and its siblings are what the wrap-arounds in 8
and 16 bits come to. Where a window begins is decided by a `switch` on the sequence number in the
code and by `WindowEnds` in the closed form (`newWindow_iff`).
-/

namespace Freenect

/-! ### `prepare_iso_out_data`

The header is filled from the variables as they are, and then they are advanced. -/

/-- The byte behind the sequence number. The sum with 23 is an `int`. -/
def AudioState.weird (s : AudioState) : UInt8 :=
  let counter := s.outCounterWithinWindow.toNat
  let nibble (timestamp shift : ℕ) : UInt8 :=
    UInt8.ofNat (((timestamp >>> shift &&& 0x000f) <<< 4) ||| 0x05)
  if s.outWindowParity = 0 then
    if counter < 4 then nibble s.outWeirdTimestamp.toNat (counter * 4)
    else if counter < 8 then nibble (s.outWeirdTimestamp.toNat + 23) ((counter - 4) * 4)
    else 0x01
  else if counter < 4 then nibble s.outWeirdTimestamp.toNat (counter * 4)
  else 0x01

/-- The packet: 76 zeros with a header. With a callback set the samples would come from the client,
and what is behind the header is left as it is. -/
def AudioState.outPacket (big : Bool) (s : AudioState) (audioOutCb : Bool) (buffer : ℕ → UInt8) :
    ℕ → UInt8 :=
  copyTo (if audioOutCb then buffer else fun i ↦ if i < 76 then 0 else buffer i) 0
    (hostBytes big s.outWindow ++ [s.outSeq, s.weird])

/-- The values for the next packet. -/
def AudioState.nextOut (s : AudioState) : AudioState :=
  let outSeq := s.outSeq + 1
  let newWindow := outSeq = 0x80 ∨ outSeq = 0x2b ∨ outSeq = 0x56
  let outWindowParity := if newWindow then s.outWindowParity + 1 else s.outWindowParity
  { s with
    outSeq := if outSeq = 0x80 then 0 else outSeq
    outCounterWithinWindow := if newWindow then 0 else s.outCounterWithinWindow + 1
    outWeirdTimestamp := s.outWeirdTimestamp + if s.outWindowParity = 1 then 6 else 5
    outWindow := if newWindow then s.outWindow + 1 else s.outWindow
    outWindowParity := if outWindowParity = 3 then 0 else outWindowParity }

/-- `prepare_iso_out_data`: the stream and the packet afterwards. -/
def prepareIsoOutData (big : Bool) (s : AudioState) (audioOutCb : Bool) (buffer : ℕ → UInt8) :
    AudioState × (ℕ → UInt8) :=
  (s.nextOut, s.outPacket big audioOutCb buffer)

/-- A packet of one of the two streams: one that has arrived, with whether the client has set a
callback for it, or one that is to be filled. -/
inductive AudioPacket
  | isoIn (call : List UInt8 × Bool)
  | isoOut (audioOutCb : Bool) (buffer : ℕ → UInt8)

/-- Whether a packet is to be filled. -/
def AudioPacket.isOut : AudioPacket → Bool
  | isoIn _ => false
  | isoOut _ _ => true

/-- `iso_in_callback` or `iso_out_callback`, with the packet that was filled. -/
def audioPacket (big : Bool) (s : AudioState) (p : AudioPacket) :
    AudioState × Option (ℕ → UInt8) :=
  match p with
  | .isoIn call => ((isoInCallback big s call).1, none)
  | .isoOut audioOutCb buffer =>
    let r := prepareIsoOutData big s audioOutCb buffer
    (r.1, some r.2)

/-! ### The closed form

Functions of the number of the packet. A cycle has 128 packets, and `q` is a place in it. -/

/-- The window of a cycle that packet `q` of it belongs to. -/
def windowIndex (q : ℕ) : ℕ := if q < 43 then 0 else if q < 86 then 1 else 2

/-- The first packet of that window. -/
def windowStart (q : ℕ) : ℕ := if q < 43 then 0 else if q < 86 then 43 else 86

/-- What the timestamp advances by with packet `q` of a cycle. -/
def timestampStep (q : ℕ) : ℕ := if windowIndex q = 1 then 6 else 5

/-- What it advances by with the first `q` packets of a cycle. -/
def timestampSum : ℕ → ℕ
  | 0 => 0
  | q + 1 => timestampSum q + timestampStep q

/-- The packets before which a new window begins. -/
def WindowEnds (n : ℕ) : Prop := n % 128 = 0 ∨ n % 128 = 43 ∨ n % 128 = 86

instance (n : ℕ) : Decidable (WindowEnds n) := inferInstanceAs (Decidable (_ ∨ _ ∨ _))

/-- The three windows of a cycle. -/
theorem windowIndex_cases (q : ℕ) :
    (q < 43 ∧ windowIndex q = 0 ∧ windowStart q = 0) ∨
      (43 ≤ q ∧ q < 86 ∧ windowIndex q = 1 ∧ windowStart q = 43) ∨
      (86 ≤ q ∧ windowIndex q = 2 ∧ windowStart q = 86) := by
  rw [windowIndex, windowStart]
  split_ifs <;> omega

/-- Five for each packet, and one more for those of the second window. -/
theorem timestampSum_eq (q : ℕ) : timestampSum q = 5 * q + min (q - 43) 43 := by
  induction q with
  | zero => rfl
  | succ q ih =>
    have hcases := windowIndex_cases q
    rw [timestampSum, ih, timestampStep]
    split_ifs
    · omega
    · omega

section Counting

variable (n : ℕ)

/-- The window goes on where one ends, in turn. -/
theorem windowIndex_succ :
    windowIndex ((n + 1) % 128) =
      if WindowEnds (n + 1) then (windowIndex (n % 128) + 1) % 3 else windowIndex (n % 128) := by
  have hcases := windowIndex_cases (n % 128)
  have hcases_succ := windowIndex_cases ((n + 1) % 128)
  split_ifs with hend <;> rw [WindowEnds] at hend <;> omega

/-- So does the count of all windows. -/
theorem windows_succ :
    3 * ((n + 1) / 128) + windowIndex ((n + 1) % 128) =
      3 * (n / 128) + windowIndex (n % 128) + if WindowEnds (n + 1) then 1 else 0 := by
  have hcases := windowIndex_cases (n % 128)
  have hcases_succ := windowIndex_cases ((n + 1) % 128)
  split_ifs with hend <;> rw [WindowEnds] at hend <;> omega

/-- The counter within a window starts over where a new one begins. -/
theorem counter_succ :
    (n + 1) % 128 - windowStart ((n + 1) % 128) =
      if WindowEnds (n + 1) then 0 else n % 128 - windowStart (n % 128) + 1 := by
  have hcases := windowIndex_cases (n % 128)
  have hcases_succ := windowIndex_cases ((n + 1) % 128)
  split_ifs with hend <;> rw [WindowEnds] at hend <;> omega

/-- The timestamp advances by the step of the packet. -/
theorem timestamp_succ :
    683 * ((n + 1) / 128) + timestampSum ((n + 1) % 128) =
      683 * (n / 128) + timestampSum (n % 128) + timestampStep (n % 128) := by
  have hcases := windowIndex_cases (n % 128)
  rw [timestampSum_eq, timestampSum_eq, timestampStep]
  split_ifs
  · omega
  · omega

end Counting

/-- The variables after `n` packets. -/
structure AudioState.Sequenced (n : ℕ) (s : AudioState) : Prop where
  outSeq : s.outSeq.toNat = n % 128
  outWindowParity : s.outWindowParity.toNat = windowIndex (n % 128)
  outCounterWithinWindow : s.outCounterWithinWindow.toNat = n % 128 - windowStart (n % 128)
  outWindow : s.outWindow.toNat = (3 * (n / 128) + windowIndex (n % 128)) % 2 ^ 16
  outWeirdTimestamp :
    s.outWeirdTimestamp.toNat = (683 * (n / 128) + timestampSum (n % 128)) % 2 ^ 16

section Sequencer

variable {big : Bool} {s : AudioState} {n : ℕ}

/-- The next sequence number, before it is reduced modulo 128. -/
theorem toNat_outSeq_succ (h : s.outSeq.toNat = n % 128) :
    (s.outSeq + 1).toNat = n % 128 + 1 := by
  rw [UInt8.toNat_add, h]
  show (n % 128 + 1) % 256 = _
  omega

/-- The switch. -/
theorem newWindow_iff (h : s.outSeq.toNat = n % 128) :
    (s.outSeq + 1 = 0x80 ∨ s.outSeq + 1 = 0x2b ∨ s.outSeq + 1 = 0x56) ↔ WindowEnds (n + 1) := by
  have hsucc := toNat_outSeq_succ h
  simp only [← UInt8.toNat_inj, hsucc]
  show n % 128 + 1 = 128 ∨ n % 128 + 1 = 43 ∨ n % 128 + 1 = 86 ↔ _
  rw [WindowEnds]
  omega

/-- `freenect_start_audio` sets all five variables to zero. -/
theorem sequenced_startAudio (hrunning : s.running = false) (a : StartAudioAnswers) :
    (startAudio s a).1.Sequenced 0 := by
  rw [startAudio, if_neg (by rw [hrunning]; decide)]
  dsimp only
  split_ifs <;> exact ⟨rfl, rfl, rfl, rfl, rfl⟩

/-- The sequence number runs through a cycle. -/
theorem outSeq_nextOut (h : s.outSeq.toNat = n % 128) :
    s.nextOut.outSeq.toNat = (n + 1) % 128 := by
  have hsucc := toNat_outSeq_succ h
  have hlast : s.outSeq + 1 = 0x80 ↔ n % 128 + 1 = 128 := by
    rw [← UInt8.toNat_inj, hsucc]
    rfl
  show (if s.outSeq + 1 = 0x80 then 0 else s.outSeq + 1).toNat = _
  simp only [hlast]
  split_ifs
  · show 0 = _
    omega
  · omega

/-- The parity counts the windows of a cycle. -/
theorem outWindowParity_nextOut (h : s.outSeq.toNat = n % 128)
    (hparity : s.outWindowParity.toNat = windowIndex (n % 128)) :
    s.nextOut.outWindowParity.toNat = windowIndex ((n + 1) % 128) := by
  have hcases := windowIndex_cases (n % 128)
  have hsucc : (s.outWindowParity + 1).toNat = windowIndex (n % 128) + 1 := by
    rw [UInt8.toNat_add, hparity]
    show (windowIndex (n % 128) + 1) % 256 = _
    omega
  have hthree : s.outWindowParity ≠ 3 := by
    intro heq
    rw [heq] at hparity
    have hparity : 3 = windowIndex (n % 128) := hparity
    omega
  rw [windowIndex_succ, AudioState.nextOut]
  simp only [newWindow_iff h]
  -- where a window begins the parity goes on, and 3 becomes 0
  by_cases hend : WindowEnds (n + 1)
  · simp only [if_pos hend, ← UInt8.toNat_inj, hsucc]
    split_ifs with hlast
    · have hlast : windowIndex (n % 128) + 1 = 3 := hlast
      rw [hlast]
      rfl
    · have hlast : windowIndex (n % 128) + 1 ≠ 3 := hlast
      omega
  · simp only [if_neg hend, if_neg hthree, hparity]

/-- The counter counts the packets of a window. -/
theorem outCounterWithinWindow_nextOut (h : s.outSeq.toNat = n % 128)
    (hcounter : s.outCounterWithinWindow.toNat = n % 128 - windowStart (n % 128)) :
    s.nextOut.outCounterWithinWindow.toNat = (n + 1) % 128 - windowStart ((n + 1) % 128) := by
  rw [counter_succ, AudioState.nextOut]
  simp only [newWindow_iff h]
  split_ifs
  · rfl
  · have hlt : n % 128 < 128 := Nat.mod_lt _ (by decide)
    rw [UInt8.toNat_add, hcounter]
    show (_ + 1) % 256 = _
    omega

/-- A new window begins where the closed form says. -/
theorem outWindow_nextOut (h : s.outSeq.toNat = n % 128) :
    s.nextOut.outWindow = s.outWindow + if WindowEnds (n + 1) then 1 else 0 := by
  rw [AudioState.nextOut]
  simp only [newWindow_iff h]
  split_ifs
  · rfl
  · rw [UInt16.add_zero]

/-- The timestamp advances by 5, or by 6 in the second window, in 16 bits. -/
theorem outWeirdTimestamp_nextOut
    (hparity : s.outWindowParity.toNat = windowIndex (n % 128)) :
    s.nextOut.outWeirdTimestamp.toNat =
      (s.outWeirdTimestamp.toNat + timestampStep (n % 128)) % 2 ^ 16 := by
  have hone : s.outWindowParity = 1 ↔ windowIndex (n % 128) = 1 := by
    rw [← UInt8.toNat_inj, hparity]
    rfl
  show (s.outWeirdTimestamp + if s.outWindowParity = 1 then 6 else 5).toNat = _
  simp only [hone, timestampStep, UInt16.toNat_add]
  split_ifs
  · rfl
  · rfl

/-- **The step lemma.** -/
theorem AudioState.Sequenced.nextOut (h : s.Sequenced n) : s.nextOut.Sequenced (n + 1) where
  outSeq := outSeq_nextOut h.outSeq
  outWindowParity := outWindowParity_nextOut h.outSeq h.outWindowParity
  outCounterWithinWindow := outCounterWithinWindow_nextOut h.outSeq h.outCounterWithinWindow
  outWindow := by
    rw [windows_succ, outWindow_nextOut h.outSeq, UInt16.toNat_add, h.outWindow]
    split_ifs
    · exact Nat.mod_add_mod ..
    · exact Nat.mod_add_mod ..
  outWeirdTimestamp := by
    rw [timestamp_succ, outWeirdTimestamp_nextOut h.outWindowParity, h.outWeirdTimestamp,
      Nat.mod_add_mod]

/-- A packet from the microphones leaves the variables alone. -/
theorem AudioState.Sequenced.isoIn (h : s.Sequenced n) (call : List UInt8 × Bool) :
    (isoInCallback big s call).1.Sequenced n := by
  by_cases hblock : IsBlock big call.1
  · rw [isoInCallback_of_isBlock hblock]
    have hstored : (s.stored (AudioInBlock.ofBytes big call.1)).Sequenced n := by
      simp only [AudioState.stored, AudioState.copied]
      split
      · split <;> exact ⟨h.outSeq, h.outWindowParity, h.outCounterWithinWindow, h.outWindow,
          h.outWeirdTimestamp⟩
      · exact h
    exact ⟨hstored.outSeq, hstored.outWindowParity, hstored.outCounterWithinWindow,
      hstored.outWindow, hstored.outWeirdTimestamp⟩
  · rw [isoInCallback_of_not_isBlock hblock]
    exact h

/-- The run lemma. -/
theorem AudioState.Sequenced.run (h : s.Sequenced n) (big : Bool) (ps : List AudioPacket) :
    (Mealy.run (audioPacket big) s ps).Sequenced (n + ps.countP (·.isOut)) := by
  induction ps generalizing s n with
  | nil => exact h
  | cons p ps ih =>
    rw [Mealy.run_cons]
    cases p with
    | isoIn call =>
      rw [List.countP_cons_of_neg (by simp [AudioPacket.isOut])]
      exact ih (h.isoIn call)
    | isoOut audioOutCb buffer =>
      rw [List.countP_cons_of_pos (by rfl), Nat.add_comm _ 1, ← Nat.add_assoc]
      exact ih h.nextOut

/-- **The sequencer in closed form**: after any packets of the two streams, `n` of which were to be
filled. The next one to be filled advances the window if it is the last of one, and only then. -/
theorem sequencer_closed_form (big : Bool) (s : AudioState) (hrunning : s.running = false)
    (a : StartAudioAnswers) (ps : List AudioPacket) :
    let n := ps.countP (·.isOut)
    let t := Mealy.run (audioPacket big) (startAudio s a).1 ps
    t.Sequenced n ∧ ∀ audioOutCb buffer,
      (prepareIsoOutData big t audioOutCb buffer).1.outWindow =
        t.outWindow + if WindowEnds (n + 1) then 1 else 0 := by
  have hrun := (sequenced_startAudio hrunning a).run big ps
  rw [Nat.zero_add] at hrun
  exact ⟨hrun, fun audioOutCb buffer ↦ outWindow_nextOut hrun.outSeq⟩

/-- More than a cycle of packets is filled, with one from the microphones among them that is too
short to be a block. -/
def overACycle : List AudioPacket :=
  List.replicate 100 (.isoOut false fun _ ↦ 0) ++ .isoIn ([0], true) ::
    List.replicate 30 (.isoOut false fun _ ↦ 0)

/-- 130 of its packets are filled. -/
theorem countP_overACycle : overACycle.countP (·.isOut) = 130 := by
  rw [overACycle, List.countP_append, List.countP_cons, List.countP_replicate,
    List.countP_replicate]
  rfl

/-- The sequence number has started over, and the window is the fourth. -/
theorem sequencer_closed_form_overACycle :
    let t := Mealy.run (audioPacket false) (startAudio .zero ⟨fun _ ↦ 0, 0, 0⟩).1 overACycle
    t.Sequenced 130 ∧ t.outSeq.toNat = 2 ∧ t.outWindow.toNat = 3 := by
  have hseq := (sequencer_closed_form false .zero rfl ⟨fun _ ↦ 0, 0, 0⟩ overACycle).1
  rw [countP_overACycle] at hseq
  exact ⟨hseq, hseq.outSeq, hseq.outWindow⟩

/-- The header that goes out. -/
theorem cells_outPacket (big audioOutCb : Bool) (s : AudioState) (buffer : ℕ → UInt8) :
    cells (s.outPacket big audioOutCb buffer) 0 4 =
      hostBytes big s.outWindow ++ [s.outSeq, s.weird] := by
  have hlen : (hostBytes big s.outWindow ++ [s.outSeq, s.weird]).length = 4 := by
    rw [List.length_append, length_hostBytes]
    rfl
  rw [← hlen]
  exact cells_copyTo_self _ _ _

end Sequencer

end Freenect
