import Mathlib.Data.List.Basic

/-!
# Isochronous transfers

`fnusb_isoc_stream` and its functions: `fnusb_start_iso` submits a fixed number of transfers,
`iso_callback` resubmits each one that completes or retires it, and `fnusb_stop_iso` waits until all
are retired.

Of libusb it is assumed that every transfer it accepted completes once: a transfer is `inFlight`
from a successful submission until its callback is called. `IsocStream.Accounted` is the invariant
of the accounting, and `accounted_isoCallback` says that no callback counts a transfer twice or
loses it.

A transfer that is not in flight is either one of the dead, or it is being handled by the callback
that will submit it again or retire it; between callbacks there is no third kind, and this is what
`Accounted` says. Two ways a transfer can be lost are thereby counted: `libusb_alloc_transfer` or
the first submission fails in `fnusb_start_iso`, and a resubmission fails in `iso_callback`. Each
adds one to `dead_xfers`, which is what makes the wait loop of `fnusb_stop_iso` end.
-/

namespace Freenect

/-- `enum libusb_transfer_status`. -/
inductive TransferStatus
  | completed
  | error
  | timedOut
  | cancelled
  | stall
  | noDevice
  | overflow
  deriving DecidableEq, Repr

/-- What `libusb_submit_transfer` returns: zero, `LIBUSB_ERROR_NO_DEVICE` or another error. -/
inductive SubmitResult
  | ok
  | noDevice
  | error
  deriving DecidableEq, Repr

/-- A `struct libusb_transfer *` of the stream: not allocated, not submitted, or submitted and not
yet called back. -/
inductive Xfer
  | null
  | idle
  | inFlight
  deriving DecidableEq, Repr

/-- `fnusb_isoc_stream`; `deviceDead` is the flag of the device it belongs to. -/
structure IsocStream where
  xfers : List Xfer
  numXfers : ℕ
  dead : Bool
  deadXfers : ℕ
  deviceDead : Bool
  deriving DecidableEq, Repr

/-- A stream of a freshly opened device. -/
def IsocStream.zero : IsocStream where
  xfers := []
  numXfers := 0
  dead := false
  deadXfers := 0
  deviceDead := false

/-- What becomes of one transfer in `fnusb_start_iso`. -/
inductive StartResult
  | allocFailed
  | submitted (r : SubmitResult)
  deriving DecidableEq, Repr

/-- The loop of `fnusb_start_iso`: the transfers, and how many are dead already. -/
def startXfers : List StartResult → List Xfer × ℕ
  | [] => ([], 0)
  | .allocFailed :: rs => (.null :: (startXfers rs).1, (startXfers rs).2 + 1)
  | .submitted .ok :: rs => (.inFlight :: (startXfers rs).1, (startXfers rs).2)
  | .submitted _ :: rs => (.idle :: (startXfers rs).1, (startXfers rs).2 + 1)

/-- `fnusb_start_iso`; it creates one transfer for each of `results`. It always returns zero. -/
def startIso (s : IsocStream) (results : List StartResult) : IsocStream :=
  { s with
    xfers := (startXfers results).1
    numXfers := results.length
    dead := false
    deadXfers := (startXfers results).2 }

/-- The end of the two branches of `iso_callback` that submit the transfer again. -/
def IsocStream.resubmit (s : IsocStream) (i : ℕ) : SubmitResult → IsocStream
  | .ok => { s with xfers := s.xfers.set i .inFlight }
  | .noDevice => { s with deadXfers := s.deadXfers + 1, deviceDead := true }
  | .error => { s with deadXfers := s.deadXfers + 1 }

/-- `iso_callback` for transfer `i`, which libusb has taken back. `cb` is the stream's packet
callback and acts on a state of its own. -/
def isoCallback {σ ι : Type} (cb : σ → ι → σ) (s : IsocStream) (c : σ) (i : ℕ)
    (status : TransferStatus) (packets : List ι) (r : SubmitResult) : IsocStream × σ :=
  let s := { s with xfers := s.xfers.set i .idle }
  if s.dead then ({ s with deadXfers := s.deadXfers + 1 }, c)
  else
    match status with
    | .completed => (s.resubmit i r, packets.foldl cb c)
    | .noDevice => ({ s with deadXfers := s.deadXfers + 1, deviceDead := true }, c)
    -- `strm->dead` is not set here: nobody asked for the cancellation
    | .cancelled => ({ s with deadXfers := s.deadXfers + 1, deviceDead := true }, c)
    | .error | .timedOut | .stall | .overflow => (s.resubmit i r, c)

/-- The first half of `fnusb_stop_iso`: cancelling changes nothing until the callbacks come. -/
def beginStopIso (s : IsocStream) : IsocStream := { s with dead := true }

/-! ### The accounting

The invariant is shown of a stream that has just been started and of the state after any callback. A
callback takes its transfer back first, so a step of the count is `count_set_idle`, followed by
`count_set_inFlight` if the transfer is submitted again. -/

namespace IsocStream

variable {s : IsocStream}

/-- How many transfers libusb has. -/
def inFlight (s : IsocStream) : ℕ := s.xfers.count .inFlight

/-- Every transfer is in flight or counted dead, and not both. -/
structure Accounted (s : IsocStream) : Prop where
  length : s.xfers.length = s.numXfers
  count : s.inFlight + s.deadXfers = s.numXfers

/-- No more transfers are dead than there are. -/
theorem Accounted.deadXfers_le (h : s.Accounted) : s.deadXfers ≤ s.numXfers := by
  have := h.count
  omega

/-- The wait loop of `fnusb_stop_iso` ends exactly when nothing is in flight. -/
theorem Accounted.inFlight_eq_zero_iff (h : s.Accounted) :
    s.inFlight = 0 ↔ ¬ s.deadXfers < s.numXfers := by
  have := h.count
  omega

/-- **A started stream is accounted for**, whatever became of its transfers. -/
theorem accounted_startIso (s : IsocStream) (results : List StartResult) :
    (startIso s results).Accounted := by
  constructor
  · show (startXfers results).1.length = results.length
    induction results with
    | nil => rfl
    | cons r rs ih => rcases r with - | - | - | - <;> simp [startXfers, ih]
  · show (startXfers results).1.count .inFlight + (startXfers results).2 = results.length
    induction results with
    | nil => rfl
    | cons r rs ih => rcases r with - | - | - | - <;> simp [startXfers] <;> omega

/-- A transfer that is in flight comes back: one less is. -/
theorem count_set_idle {xs : List Xfer} {i : ℕ} (h : xs[i]? = some .inFlight) :
    (xs.set i .idle).count .inFlight + 1 = xs.count .inFlight := by
  obtain ⟨hi, hx⟩ := List.getElem?_eq_some_iff.1 h
  have hpos : 0 < xs.count .inFlight := List.count_pos_iff.2 (List.mem_of_getElem? h)
  rw [List.count_set hi, hx]
  simp
  omega

/-- A transfer is submitted: one more is in flight. -/
theorem count_set_inFlight {xs : List Xfer} {i : ℕ} (h : xs[i]? = some .idle) :
    (xs.set i .inFlight).count .inFlight = xs.count .inFlight + 1 := by
  obtain ⟨hi, hx⟩ := List.getElem?_eq_some_iff.1 h
  rw [List.count_set hi, hx]
  simp

/-- A transfer is submitted again: it is in flight, or counted dead. -/
theorem resubmit_cases (s : IsocStream) (i : ℕ) (r : SubmitResult) :
    (∃ dd, s.resubmit i r = { s with deadXfers := s.deadXfers + 1, deviceDead := dd }) ∨
      s.resubmit i r = { s with xfers := s.xfers.set i .inFlight } := by
  cases r with
  | ok => exact Or.inr rfl
  | noDevice => exact Or.inl ⟨true, rfl⟩
  | error => exact Or.inl ⟨s.deviceDead, rfl⟩

/-- **What a callback does**: the transfer that came back is counted dead, or in flight again, and
the packets are handed on, or not. -/
theorem isoCallback_cases {σ ι : Type} (cb : σ → ι → σ) (s : IsocStream) (c : σ) (i : ℕ)
    (status : TransferStatus) (packets : List ι) (r : SubmitResult) :
    ((∃ dd, (isoCallback cb s c i status packets r).1 = { s with
          xfers := s.xfers.set i .idle, deadXfers := s.deadXfers + 1, deviceDead := dd }) ∨
        (isoCallback cb s c i status packets r).1 =
          { s with xfers := (s.xfers.set i .idle).set i .inFlight }) ∧
      ((isoCallback cb s c i status packets r).2 = c ∨
        (isoCallback cb s c i status packets r).2 = packets.foldl cb c) := by
  have hagain := resubmit_cases { s with xfers := s.xfers.set i .idle } i r
  unfold isoCallback
  dsimp only
  split
  · exact ⟨Or.inl ⟨s.deviceDead, rfl⟩, Or.inl rfl⟩
  · cases status with
    | completed => exact ⟨hagain, Or.inr rfl⟩
    | noDevice | cancelled => exact ⟨Or.inl ⟨true, rfl⟩, Or.inl rfl⟩
    | error | timedOut | stall | overflow => exact ⟨hagain, Or.inl rfl⟩

/-- **One callback keeps the account**, whatever the status and the outcome of a resubmission. -/
theorem accounted_isoCallback {σ ι : Type} {cb : σ → ι → σ} {c : σ} {i : ℕ}
    {status : TransferStatus} {packets : List ι} {r : SubmitResult} (h : s.Accounted)
    (hi : s.xfers[i]? = some .inFlight) :
    (isoCallback cb s c i status packets r).1.Accounted := by
  have hlt : i < s.xfers.length := (List.getElem?_eq_some_iff.1 hi).1
  have hcount := count_set_idle hi
  have hin : s.xfers.count .inFlight + s.deadXfers = s.numXfers := h.count
  obtain ⟨⟨dd, hdead⟩ | hagain, -⟩ := isoCallback_cases cb s c i status packets r
  · rw [hdead]
    constructor
    · exact (List.length_set ..).trans h.length
    · show (s.xfers.set i .idle).count .inFlight + (s.deadXfers + 1) = s.numXfers
      omega
  · have hidle : (s.xfers.set i .idle)[i]? = some .idle := List.getElem?_set_self hlt
    rw [hagain]
    constructor
    · exact (List.length_set ..).trans ((List.length_set ..).trans h.length)
    · show ((s.xfers.set i .idle).set i .inFlight).count .inFlight + s.deadXfers = s.numXfers
      rw [count_set_inFlight hidle]
      omega

/-- Once the stream is being stopped, a callback retires its transfer. -/
theorem isoCallback_of_dead {σ ι : Type} {cb : σ → ι → σ} {c : σ} {i : ℕ}
    {status : TransferStatus} {packets : List ι} {r : SubmitResult} (h : s.dead = true) :
    isoCallback cb s c i status packets r =
      ({ s with xfers := s.xfers.set i .idle, deadXfers := s.deadXfers + 1 }, c) := by
  simp only [isoCallback]
  simp [h]

/-- A callback does not change whether the transfers are being stopped. -/
theorem isoCallback_dead {σ ι : Type} {cb : σ → ι → σ} {c : σ} {i : ℕ}
    {status : TransferStatus} {packets : List ι} {r : SubmitResult} :
    (isoCallback cb s c i status packets r).1.dead = s.dead := by
  obtain ⟨⟨dd, hdead⟩ | hagain, -⟩ := isoCallback_cases cb s c i status packets r
  · rw [hdead]
  · rw [hagain]

end IsocStream

end Freenect
