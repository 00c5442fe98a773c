import Freenect.Sync.Labels
import Freenect.Sync.RunLoop

/-!
# What `setup_kinect` promises

A get function goes on to wait for a frame when `setup_kinect` returns `0`. That is the right thing
to do if the stream then serves the mode that was asked for, and `setup_kinect` returns `0` whether
it does or not: it ignores the result of the change of format, and that ignores the results of its
own steps.

## Three ways to wait for nothing

* A step of the change of format fails.
* `thread_running` is set although `ctx` is not live, so that `setup_kinect` does not initialise a
  context and opens the device on the dead one. It does not even return.
* A thread is on its way out, and the ring that it is about to free still has the label that the
  get function looks for. No lock is taken before `sync_get`.

`setup_iff` says that there is no fourth: a client gets what it is promised along a run exactly if
none of these happens on the way.

## What is carried along the run

That every label is right (`Good`). It is not part of what is promised, and without it a get
function could not rely on a label that an earlier call has left. A change of format that fails in a
step after the allocation leaves a label that is wrong, so it is only with the condition that a step
keeps `Good` (`step_good`), while in a `Good` state the promise and the condition are the same
(`setupTells_iff`).
-/

namespace Freenect.Wrapper

/-- Every label is right, and the rings share no buffer. -/
structure Good (s : Wrapper) : Prop where
  sound : s.kinects.Sound s.heap
  served : s.kinects.Served s.heap

variable {s : Wrapper} {index : ℤ} {m : Mode} {a : CallAnswers}

/-- A device that is opened has no label yet, so that nothing is promised about it. -/
theorem Good.kinectFor (h : s.Good) {k : SyncKinect} (hk : s.kinectFor index a = some k) :
    (s.kinects.put index k).Sound s.heap ∧ (s.kinects.put index k).Served s.heap := by
  rw [Wrapper.kinectFor] at hk
  split at hk
  next k' hk' =>
    obtain rfl := Option.some.inj hk
    rw [Kinects.put_of_eq hk']
    exact ⟨h.sound, h.served⟩
  next =>
    split at hk
    next => cases hk
    next =>
      obtain rfl := Option.some.inj hk
      exact ⟨h.sound.put_same (SyncKinect.fresh_supported _ _) fun kind p hp hne ↦
          absurd (SyncKinect.fresh_bufs _ _ kind hp) hne,
        h.served.put fun m hlabel ↦ absurd hlabel (SyncKinect.fresh_labelled _ _ m)⟩

/-- A device is replaced by one with the same buffers, modes and labels, that serves the modes that
the old one served. -/
theorem Good.setKinect (h : s.Good) {k k' : SyncKinect} (hk : s.kinects index = some k)
    (hmode : ∀ kind, k'.dev.mode kind = k.dev.mode kind)
    (hbufs : ∀ kind, (k'.ring kind).bufs.Perm (k.ring kind).bufs)
    (hlabel : ∀ m, k'.Labelled m → k.Labelled m)
    (hserves : ∀ m, Serves k s.heap m → Serves k' s.heap m) : (s.setKinect index k').Good where
  sound := by
    refine h.sound.put_same (fun kind ↦ ?_) fun kind p hp hne ↦ ?_
    · rw [hmode]
      exact h.sound.modes index k kind hk
    · exact ⟨k, hk, (hbufs kind).mem_iff.1 hp, hne⟩
  served := h.served.put fun m hm ↦ hserves m (h.served index k m hk (hlabel m hm))

/-- The index is one of a device that may be there. -/
def InRange (index : ℤ) : Prop := 0 ≤ index ∧ index < maxKinects

end Freenect.Wrapper
