import Freenect.Sync.RunLoop
import Freenect.Sync.SessionSpec

/-!
# Several clients of one stream

A get function sees to the format of a stream in one locked section and fetches a frame in another.
Another client may change the format in between, and the first then gets a frame of the other's
mode. `returnsAsked_iff` says that this is the only way in which a client gets the wrong mode.

By what holds in every state a frame in a ring is of the mode that was asked for last
(`Inv.delivers`), so the question is only who that was. A client waits between its two locked
sections with no sign of it in the ring; nothing keeps another one from changing the label there.
-/

namespace Freenect.Session

variable {ι : Type} [DecidableEq ι]

/-- A client that gets a frame in an event gets one of the mode it has asked for. -/
def ReturnsAsked (s : Session ι) (e : Event ι) : Prop :=
  ∀ r, (s.step e).2 = some r → ∃ f, s.Delivers r f ∧ f.mode = r.mode

/-- A client that is to get a frame is the last one that has asked for a mode of the stream, or has
asked for the same mode as the last one. -/
def AskedLast (s : Session ι) : Event ι → Prop
  | .fetch i => ∀ m, s.asked i = some m → (s.kinect.ring m.kind).valid = true →
    s.lastAsked m.kind = some m
  | _ => True

variable {s : Session ι}

/-- A frame is of the mode that was asked for last. -/
theorem Inv.step_returnsAsked_iff (h : s.Inv) (e : Event ι) : s.ReturnsAsked e ↔ s.AskedLast e := by
  cases e with
  | call | packet | producer => exact iff_of_true (fun r hr ↦ (nomatch hr)) trivial
  | fetch i =>
    have hdelivers := fun r ↦ h.delivers (.fetch i) (r := r)
    rw [ReturnsAsked, AskedLast]
    change (∀ r, (s.fetch i).2 = some r → _) ↔ _
    change ∀ r, (s.fetch i).2 = some r → _ at hdelivers
    rcases s.fetch_cases i with ⟨hno, hinvalid⟩ | ⟨m, hm, hvalid, hfetch⟩
    · rw [hno]
      refine iff_of_true (fun r hr ↦ (nomatch hr)) fun m hm hvalid ↦ ?_
      exact absurd ((hinvalid m hm).symm.trans hvalid) Bool.false_ne_true
    · rw [hfetch] at hdelivers ⊢
      obtain ⟨f, hf, hlast, -⟩ := hdelivers _ rfl
      constructor
      · intro hreturns m' hm' _
        obtain rfl := Option.some.inj (hm.symm.trans hm')
        obtain ⟨f', hf', hmode⟩ := hreturns _ rfl
        -- there is only one newest frame
        obtain rfl := Option.some.inj (hf.newest.symm.trans hf'.newest)
        exact hlast.trans (congrArg some hmode)
      · intro hasked r hr
        obtain rfl := Option.some.inj hr
        refine ⟨f, hf, Option.some.inj ?_⟩
        exact hlast.symm.trans (hasked m hm hvalid)

/-- **When a client gets the mode it has asked for**: in a run in which all changes of format
succeed, every client does, exactly if none finds a frame after another client has asked for another
mode of the stream. -/
theorem returnsAsked_iff (videoJunk depthJunk : BufferRing) (mem : Memory)
    (events : List (Event ι))
    (h : Mealy.Along step ChangesSucceed (initial videoJunk depthJunk mem) events) :
    Mealy.Along step ReturnsAsked (initial videoJunk depthJunk mem) events ↔
      Mealy.Along step AskedLast (initial videoJunk depthJunk mem) events :=
  h.iff_of Inv.step (fun _ e hs _ ↦ hs.step_returnsAsked_iff e)
    (inv_initial videoJunk depthJunk mem)

/-- Two clients ask for different modes of the video stream, then a frame comes in, and the first
client gets it. -/
def twoClients : List (Event ℕ) :=
  [.call 0 (.video .medium .rgb) Wrapper.goodAnswers.format,
    .call 1 (.video .medium .bayer) Wrapper.goodAnswers.format] ++
  sparseFrame.map (.packet .video none) ++ [.producer, .fetch 0]

/-- Two clients that go wrong, by the condition. -/
theorem returnsAsked_iff_twoClients :
    Mealy.Along step ReturnsAsked (initial .empty .empty fun _ _ ↦ 0) twoClients ↔
      Mealy.Along step AskedLast (initial .empty .empty fun _ _ ↦ 0) twoClients :=
  returnsAsked_iff .empty .empty (fun _ _ ↦ 0) twoClients (by decide)

/-- The first client has asked for RGB and gets a Bayer frame. -/
theorem twoClients_mixed :
    ¬ Mealy.Along step ReturnsAsked (initial .empty .empty fun _ _ ↦ 0) twoClients := by
  intro h
  have hfetch := Mealy.along_iff_forall.1 h 31 (.fetch 0) rfl
  generalize hs : Mealy.run step (initial .empty .empty fun _ _ ↦ 0) (twoClients.take 31) = s at *
  have hreply : (s.step (.fetch 0)).2.map SyncReply.mode = some (.video .medium .rgb) := by
    rw [← hs]
    decide +kernel
  have hnewest : (s.frames .video).getLast?.map Frame.mode = some (.video .medium .bayer) := by
    rw [← hs]
    decide +kernel
  obtain ⟨r, hr, hmode⟩ := Option.map_eq_some_iff.1 hreply
  obtain ⟨f, hf, hsame⟩ := hfetch r hr
  have hlast := hf.newest
  rw [hmode] at hlast hsame
  rw [show (Mode.video .medium .rgb).kind = .video from rfl] at hlast
  rw [hlast, Option.map_some, hsame] at hnewest
  exact absurd hnewest (by decide)

end Freenect.Session
