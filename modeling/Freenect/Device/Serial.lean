import Freenect.Device.Open

/-!
# Opening a device by its serial number

`freenect_open_device_by_camera_serial` lists the attributes of the attached cameras, looks for the
serial number, and opens the device whose *index* is the place of the entry it has found. But the
list leaves cameras out: those without a serial number, those that cannot be opened, and those whose
serial number cannot be read; `fnusb_open_subdevices` counts them. `opens_serial_iff` says that the
device with the serial number is opened exactly if no camera in front of it is left out.

The list is a filter of the cameras in their order (`listAttributes_eq`), so an entry cuts them in
two: the cameras in front of the one it is for, and those behind (`cameras_split`). The index that
is handed on is the number of entries in front, the one that would be right is the number of cameras
in front, and the two are equal exactly if no camera in front is left out (`length_front_iff`).
Where they differ the index is smaller, and an earlier camera is opened, which is not listed with
this serial number (`not_mem_entries_of_lt`).
-/

namespace Freenect

/-- What libusb answers while the attributes of the cameras are listed, by the camera that is
looked at; `error` is the return value if there is no device list. -/
structure ListAnswers where
  error : ℤ
  openRes : UsbRef → ℤ
  serial : UsbRef → StringAnswer
  audioDesc : UsbRef → ℤ
  audioOpen : UsbRef → ℤ
  audioSerial : UsbRef → StringAnswer

/-- `K4W_1473_SERIAL`. -/
def k4w1473Serial : List UInt8 := List.replicate 16 0x30

/-- The buffer with the serial number of camera `i`. K4W and 1473 don't provide a camera serial; the
audio serial is used instead, if it can be had. -/
def serialBuffer (devs : List UsbDevice) (a : ListAnswers) (i : UsbRef) : List UInt8 :=
  if (cString (a.serial i).buf).take 16 = k4w1473Serial then
    match findSibling devs i Descriptor.isAudio with
    | none => (a.serial i).buf
    | some _ =>
      if a.audioDesc i ≠ 0 then (a.serial i).buf
      else if a.audioOpen i ≠ 0 then (a.serial i).buf
      else (a.audioSerial i).buf
  else (a.serial i).buf

/-- The serial number listed for camera `i`, `none` if the camera is left out. -/
def listedSerial (devs : List UsbDevice) (a : ListAnswers) (i : UsbRef) (desc : Descriptor) :
    Option (List UInt8) :=
  if desc.iSerialNumber = 0 then none
  else if a.openRes i ≠ 0 then none
  else if (a.serial i).res < 0 then none
  else some (cString (serialBuffer devs a i))

/-- The loop of `fnusb_list_device_attributes` from place `i` on: the entries, each with the camera
it is about. -/
def listAttributes (devs : List UsbDevice) (a : ListAnswers) :
    UsbRef → List UsbDevice → List (UsbRef × List UInt8)
  | _, [] => []
  | i, dev :: ds =>
    match dev.desc with
    | none => listAttributes devs a (i + 1) ds
    | some desc =>
      if ¬ desc.isCamera then listAttributes devs a (i + 1) ds
      else
        match listedSerial devs a i desc with
        | none => listAttributes devs a (i + 1) ds
        | some serial => (i, serial) :: listAttributes devs a (i + 1) ds

/-- The loop of `freenect_open_device_by_camera_serial`: the place of the first entry with the
serial number. -/
def serialIndex (s : List UInt8) : ℕ → List (UsbRef × List UInt8) → Option ℕ
  | _, [] => none
  | index, item :: items => if item.2 = s then some index else serialIndex s (index + 1) items

/-- `freenect_open_device_by_camera_serial`. -/
def openDeviceByCameraSerial (devs : Option (List UsbDevice)) (ctx : DeviceContext)
    (s : List UInt8) (l : ListAnswers) (a : DeviceAnswers) : DeviceContext × ℤ :=
  match devs with
  | none => (ctx, l.error)
  | some ds =>
    match serialIndex s 0 (listAttributes ds l 0 ds) with
    | none => (ctx, -1)
    | some index => openDevice (some ds) ctx index a

/-! ### The cameras on the bus -/

/-- The cameras from place `i` on, with their descriptors. -/
def camerasFrom : UsbRef → List UsbDevice → List (UsbRef × Descriptor)
  | _, [] => []
  | i, dev :: ds =>
    match dev.desc with
    | none => camerasFrom (i + 1) ds
    | some desc =>
      if ¬ desc.isCamera then camerasFrom (i + 1) ds else (i, desc) :: camerasFrom (i + 1) ds

/-- `fnusb_open_subdevices` takes the camera with the index it is asked for. -/
theorem findCamera_eq (index i nrCam : ℕ) (ds : List UsbDevice) (h : nrCam ≤ index) :
    findCamera index i nrCam ds = (camerasFrom i ds)[index - nrCam]? := by
  induction ds generalizing i nrCam with
  | nil => rfl
  | cons dev ds ih =>
    rw [findCamera, camerasFrom]
    cases dev.desc with
    | none => exact ih _ _ h
    | some desc =>
      dsimp only
      split
      · exact ih _ _ h
      · split
        next hne =>
          have hlt : nrCam < index := by omega
          rw [ih _ _ hlt, show index - nrCam = index - (nrCam + 1) + 1 by omega]
          rfl
        next heq =>
          have heq : index = nrCam := by omega
          rw [heq, Nat.sub_self]
          rfl

/-- The list has an entry for every camera that is not left out. -/
theorem listAttributes_eq (devs : List UsbDevice) (a : ListAnswers) (i : UsbRef)
    (ds : List UsbDevice) :
    listAttributes devs a i ds =
      (camerasFrom i ds).filterMap fun cam ↦
        (listedSerial devs a cam.1 cam.2).map (Prod.mk cam.1) := by
  induction ds generalizing i with
  | nil => rfl
  | cons dev ds ih =>
    rw [listAttributes, camerasFrom]
    cases dev.desc with
    | none => exact ih _
    | some desc =>
      dsimp only
      split
      · exact ih _
      · rw [List.filterMap_cons, ih]
        cases listedSerial devs a i desc <;> rfl

/-- Every camera is listed under its own place. -/
theorem camerasFrom_pairwise (i : UsbRef) (ds : List UsbDevice) :
    (camerasFrom i ds).Pairwise (fun p q ↦ p.1 < q.1) ∧ ∀ p ∈ camerasFrom i ds, i ≤ p.1 := by
  induction ds generalizing i with
  | nil => exact ⟨List.Pairwise.nil, by simp [camerasFrom]⟩
  | cons dev ds ih =>
    obtain ⟨hpair, hle⟩ := ih (i + 1)
    have hle' : ∀ p ∈ camerasFrom (i + 1) ds, i ≤ p.1 := fun p hp ↦ Nat.le_of_succ_le (hle p hp)
    rw [camerasFrom]
    cases dev.desc with
    | none => exact ⟨hpair, hle'⟩
    | some desc =>
      dsimp only
      split
      · exact ⟨hpair, hle'⟩
      · refine ⟨List.pairwise_cons.2 ⟨fun p hp ↦ hle p hp, hpair⟩, fun p hp ↦ ?_⟩
        rcases List.mem_cons.1 hp with rfl | hp
        exacts [Nat.le_refl _, hle' p hp]

/-- The first entry with the serial number. -/
theorem serialIndex_eq_some {s : List UInt8} {n k : ℕ} {items : List (UsbRef × List UInt8)}
    (h : serialIndex s n items = some k) :
    ∃ pre r post, items = pre ++ (r, s) :: post ∧ k = n + pre.length ∧ ∀ p ∈ pre, p.2 ≠ s := by
  induction items generalizing n with
  | nil => cases h
  | cons item items ih =>
    obtain ⟨r, serial⟩ := item
    rw [serialIndex] at h
    split at h
    next heq =>
      cases h
      obtain rfl : serial = s := heq
      exact ⟨[], r, items, rfl, rfl, by simp⟩
    next hne =>
      obtain ⟨pre, r', post, rfl, rfl, hpre⟩ := ih h
      refine ⟨(r, serial) :: pre, r', post, rfl, by simp; omega, ?_⟩
      exact List.forall_mem_cons.2 ⟨hne, hpre⟩

/-! ### Which camera is opened -/

/-- Camera `q` is left out of the list. -/
def LeftOut (devs : List UsbDevice) (a : ListAnswers) (q : UsbRef) : Prop :=
  ∃ desc, (q, desc) ∈ camerasFrom 0 devs ∧ listedSerial devs a q desc = none

/-- Whatever is in the context and whatever libusb answers to the opening: if the call succeeds, a
camera it has opened is one whose entry carries the serial number. -/
def OpensSerial (devs : List UsbDevice) (l : ListAnswers) (s : List UInt8) : Prop :=
  ∀ ctx a dev r, 0 ≤ (openDeviceByCameraSerial (some devs) ctx s l a).2 →
    (openDeviceByCameraSerial (some devs) ctx s l a).1.devices = ctx.devices ++ [dev] →
      dev.usbCam = some r → (r, s) ∈ listAttributes devs l 0 devs

section OpenDevice

variable {devs : List UsbDevice} {ctx : DeviceContext} {index : ℤ} {a : DeviceAnswers}
  {dev : OpenDevice} {r : UsbRef}

/-- The camera of an opened device is the one with the index. -/
theorem openDevice_usbCam (hret : 0 ≤ (openDevice (some devs) ctx index a).2)
    (hdev : (openDevice (some devs) ctx index a).1.devices = ctx.devices ++ [dev])
    (hr : dev.usbCam = some r) : ∃ desc, findCamera index 0 0 devs = some (r, desc) := by
  rw [openDevice] at hret hdev
  split at hret
  next => exact absurd hret (show ¬ (0 : ℤ) ≤ -1 by decide)
  next hmalloc =>
    rw [if_neg hmalloc] at hdev
    dsimp only at hret hdev
    split at hret
    next hneg => exact absurd hret (Int.not_le.2 hneg)
    next hres =>
      rw [if_neg hres] at hdev
      have hst : (openSubdevices (some devs) ctx.usb index a.usb).dev = dev := by
        split at hdev
        · simpa using hdev
        · simpa using hdev
      have hno : ¬ SubdevicesFail (some devs) ctx.usb.enabled index a.usb := fun hf ↦
        hres (openSubdevices_of_fails _ _ _ _ hf).1
      obtain ⟨ds, desc, hds, hfind⟩ :=
        (openSubdevices_of_not_fails _ _ _ _ hno).found r (hst.symm ▸ hr)
      obtain rfl := Option.some.inj hds
      exact ⟨desc, hfind⟩

/-- A context in which only cameras are enabled. -/
def cameraContext : DeviceContext where
  usb := { enabled := ⟨false, true, false⟩, zeroPlaneRes := 0, handles := fun _ ↦ 0 }
  devices := []

/-- Answers with which a camera is opened. -/
def DeviceAnswers.allWork : DeviceAnswers where
  malloc := true
  usb := .allWork
  regPadInfo := 0
  zeroPlaneInfo := 0
  regConstShift := 0

/-- If everything works, the camera with the index is opened. -/
theorem openDevice_allWork {desc : Descriptor}
    (hfind : findCamera index 0 0 devs = some (r, desc)) :
    (openDevice (some devs) cameraContext index .allWork).2 = 0 ∧
      ∃ dev, (openDevice (some devs) cameraContext index .allWork).1.devices = [] ++ [dev] ∧
        dev.usbCam = some r := by
  have heff : cameraContext.usb.enabled.effective desc = cameraContext.usb.enabled :=
    Subdevices.effective_of_not_motor rfl desc
  -- only the camera is enabled, and for it everything works
  have hno : ¬ SubdevicesFail (some devs) cameraContext.usb.enabled index .allWork := by
    intro hf
    rcases hf devs r desc rfl hfind with h | h | h
    · rcases h.2 with h | h
      · exact absurd h (by decide)
      · rcases h with h | h | h
        exacts [absurd h.1 (by decide), absurd h (by decide), absurd h.2 (by decide)]
    · rw [heff] at h
      exact absurd h.1 (by decide)
    · rw [heff] at h
      exact absurd h.1 (by decide)
  obtain ⟨hres, hstays, hcam, -⟩ := openSubdevices_of_not_fails (some devs) cameraContext.usb
    index .allWork hno
  have hsome : CameraStays (some devs) cameraContext.usb.enabled index .allWork :=
    ⟨devs, r, desc, rfl, hfind, rfl, fun _ ↦ rfl, fun h ↦ absurd (heff ▸ h) (by decide)⟩
  obtain ⟨r', hr'⟩ := Option.isSome_iff_exists.1 (hstays.2 hsome)
  obtain ⟨ds, desc', hds, hfind'⟩ := hcam r' hr'
  obtain rfl := Option.some.inj hds
  obtain ⟨rfl, -⟩ := Prod.mk.inj (Option.some.inj (hfind.symm.trans hfind'))
  have hopen : openDevice (some devs) cameraContext index .allWork =
      ({ usb := (openSubdevices (some devs) cameraContext.usb index .allWork).ctx
         devices := [] ++ [(openSubdevices (some devs) cameraContext.usb index .allWork).dev] },
        0) := by
    rw [openDevice]
    rw [if_neg (by decide)]
    exact (if_neg (Int.not_lt.2 hres)).trans (if_neg fun h ↦ absurd h.2 (by decide))
  rw [hopen]
  exact ⟨rfl, _, rfl, hr'⟩

end OpenDevice

section Split

variable {devs : List UsbDevice} {l : ListAnswers} {s : List UInt8} {r : UsbRef}
  {pre post : List (UsbRef × List UInt8)}

/-- **An entry of the list cuts the cameras in two**: those in front of its camera, and those behind
it. -/
theorem cameras_split (h : listAttributes devs l 0 devs = pre ++ (r, s) :: post) :
    ∃ cpre desc cpost, camerasFrom 0 devs = cpre ++ (r, desc) :: cpost ∧
      (cpre.filterMap fun cam ↦ (listedSerial devs l cam.1 cam.2).map (Prod.mk cam.1)) = pre ∧
      (cpost.filterMap fun cam ↦ (listedSerial devs l cam.1 cam.2).map (Prod.mk cam.1)) = post ∧
      (∀ cam ∈ cpre, cam.1 < r) ∧ ∀ cam ∈ cpost, r < cam.1 := by
  rw [listAttributes_eq] at h
  obtain ⟨l₁, l₂, hcams, hpre, hrest⟩ := List.filterMap_eq_append_iff.1 h
  obtain ⟨l₃, cam, cpost, rfl, hnone, hcam, hpost⟩ := List.filterMap_eq_cons_iff.1 hrest
  obtain ⟨serial, -, heq⟩ := Option.map_eq_some_iff.1 hcam
  obtain ⟨hr, -⟩ := Prod.mk.inj heq
  have hsplit : camerasFrom 0 devs = (l₁ ++ l₃) ++ (r, cam.2) :: cpost := by
    rw [hcams, List.append_assoc, ← hr]
  obtain ⟨hpair, -⟩ := camerasFrom_pairwise 0 devs
  rw [hsplit] at hpair
  obtain ⟨-, hbehind, hfront⟩ := List.pairwise_append.1 hpair
  refine ⟨l₁ ++ l₃, cam.2, cpost, hsplit, ?_, hpost,
    fun cam hcam ↦ hfront cam hcam _ List.mem_cons_self, (List.pairwise_cons.1 hbehind).1⟩
  rw [List.filterMap_append, hpre, List.filterMap_eq_nil_iff.2 hnone, List.append_nil]

/-- The entries in front count the cameras in front exactly if none of these is left out. -/
theorem length_front_iff {cpre cpost : List (UsbRef × Descriptor)} {desc : Descriptor}
    (hcams : camerasFrom 0 devs = cpre ++ (r, desc) :: cpost) (hfront : ∀ cam ∈ cpre, cam.1 < r)
    (hbehind : ∀ cam ∈ cpost, r < cam.1) :
    (cpre.filterMap fun cam ↦ (listedSerial devs l cam.1 cam.2).map (Prod.mk cam.1)).length =
      cpre.length ↔ ∀ q < r, ¬ LeftOut devs l q := by
  rw [List.filterMap_length_eq_length]
  constructor
  · rintro hall q hq ⟨desc', hmem, hleft⟩
    rw [hcams] at hmem
    have hmem : (q, desc') ∈ cpre := by
      rcases List.mem_append.1 hmem with h | h
      · exact h
      · rcases List.mem_cons.1 h with h | h
        · exact absurd (Prod.mk.inj h).1 (Nat.ne_of_lt hq)
        · exact absurd (hbehind _ h) (Nat.lt_asymm hq)
    have hsome := hall _ hmem
    rw [hleft] at hsome
    cases hsome
  · intro hnone cam hcam
    cases hserial : listedSerial devs l cam.1 cam.2 with
    | none =>
      refine absurd ⟨cam.2, ?_, hserial⟩ (hnone cam.1 (hfront cam hcam))
      rw [hcams]
      exact List.mem_append_left _ hcam
    | some serial => rfl

/-- The index that counts the cameras in front. -/
theorem findCamera_of_split {cpre cpost : List (UsbRef × Descriptor)} {desc : Descriptor}
    (hcams : camerasFrom 0 devs = cpre ++ (r, desc) :: cpost) :
    findCamera (cpre.length : ℕ) 0 0 devs = some (r, desc) := by
  rw [findCamera_eq _ _ _ _ (Nat.zero_le _), hcams, Nat.sub_zero,
    List.getElem?_append_right (Nat.le_refl _), Nat.sub_self]
  rfl

/-- A smaller index is that of a camera in front. -/
theorem findCamera_of_lt {cpre cpost : List (UsbRef × Descriptor)} {desc : Descriptor} {n : ℕ}
    (hcams : camerasFrom 0 devs = cpre ++ (r, desc) :: cpost) (hn : n < cpre.length) :
    findCamera (n : ℕ) 0 0 devs = some cpre[n] := by
  rw [findCamera_eq _ _ _ _ (Nat.zero_le _), hcams, Nat.sub_zero, List.getElem?_append_left hn,
    List.getElem?_eq_getElem hn]

/-- No camera in front is listed with the serial number. -/
theorem not_mem_entries_of_lt {cpost : List (UsbRef × Descriptor)} {q : UsbRef}
    (hpre : ∀ p ∈ pre, p.2 ≠ s)
    (hpost : (cpost.filterMap fun cam ↦ (listedSerial devs l cam.1 cam.2).map (Prod.mk cam.1)) =
      post)
    (hbehind : ∀ cam ∈ cpost, r < cam.1) (hq : q < r) : (q, s) ∉ pre ++ (r, s) :: post := by
  intro hmem
  rcases List.mem_append.1 hmem with h | h
  · exact hpre _ h rfl
  · rcases List.mem_cons.1 h with h | h
    · exact Nat.ne_of_lt hq (Prod.mk.inj h).1
    · rw [← hpost] at h
      obtain ⟨cam, hcam, heq⟩ := List.mem_filterMap.1 h
      obtain ⟨serial, -, heq⟩ := Option.map_eq_some_iff.1 heq
      obtain ⟨heq, -⟩ := Prod.mk.inj heq
      exact Nat.lt_asymm (heq ▸ hbehind cam hcam) hq

/-- The first entry with the serial number, where the list is cut. -/
theorem serialIndex_of_split (n : ℕ) (hpre : ∀ p ∈ pre, p.2 ≠ s) :
    serialIndex s n (pre ++ (r, s) :: post) = some (n + pre.length) := by
  induction pre generalizing n with
  | nil => exact if_pos rfl
  | cons p pre ih =>
    obtain ⟨hp, hpre⟩ := List.forall_mem_cons.1 hpre
    refine (if_neg hp).trans ((ih (n + 1) hpre).trans ?_)
    rw [List.length_cons, Nat.add_right_comm, Nat.add_assoc]

end Split

/-- **When a device is opened by its serial number**: no camera in front of the first one listed
with the serial number is left out of the list. -/
theorem opens_serial_iff (devs : List UsbDevice) (l : ListAnswers) (s : List UInt8) :
    OpensSerial devs l s ↔
      ∀ pre r post, listAttributes devs l 0 devs = pre ++ (r, s) :: post →
        (∀ p ∈ pre, p.2 ≠ s) → ∀ q < r, ¬ LeftOut devs l q := by
  constructor
  · intro hopens pre r post hentries hpre
    obtain ⟨cpre, desc, cpost, hcams, hlisted, hpost, hfront, hbehind⟩ := cameras_split hentries
    rw [← length_front_iff hcams hfront hbehind, hlisted]
    by_contra hne
    have hlen : pre.length < cpre.length := by
      refine Nat.lt_of_le_of_ne ?_ hne
      rw [← hlisted]
      exact List.length_filterMap_le _ _
    -- so the index is that of a camera in front
    obtain ⟨hret, dev, hdev, hcam⟩ := openDevice_allWork (findCamera_of_lt hcams hlen)
    have hindex : openDeviceByCameraSerial (some devs) cameraContext s l .allWork =
        openDevice (some devs) cameraContext (pre.length : ℕ) .allWork := by
      unfold openDeviceByCameraSerial
      dsimp only
      rw [hentries, serialIndex_of_split 0 hpre, Nat.zero_add]
    have hin := hopens cameraContext .allWork dev cpre[pre.length].1
      (Int.le_of_eq (by rw [hindex, hret])) (by rw [hindex]; exact hdev) hcam
    rw [hentries] at hin
    exact not_mem_entries_of_lt hpre hpost hbehind (hfront _ (List.getElem_mem hlen)) hin
  · rintro hnone ctx a dev r hret hdev hr
    unfold openDeviceByCameraSerial at hret hdev
    dsimp only at hret hdev
    split at hret
    next => exact absurd hret (show ¬ (0 : ℤ) ≤ -1 by decide)
    next index hindex =>
      rw [hindex] at hdev
      obtain ⟨pre, r', post, hentries, rfl, hpre⟩ := serialIndex_eq_some hindex
      obtain ⟨cpre, desc, cpost, hcams, hlisted, -, hfront, hbehind⟩ := cameras_split hentries
      -- every camera in front has an entry, so that both count alike
      have hlen : pre.length = cpre.length := by
        rw [← hlisted]
        exact (length_front_iff hcams hfront hbehind).2 (hnone pre r' post hentries hpre)
      obtain ⟨desc', hfind⟩ := openDevice_usbCam hret hdev hr
      rw [Nat.zero_add, hlen, findCamera_of_split hcams] at hfind
      obtain ⟨rfl, -⟩ := Prod.mk.inj (Option.some.inj hfind)
      rw [hentries]
      exact List.mem_append_right _ List.mem_cons_self

/-- A 1414 camera without a serial number. -/
def namelessCamera : UsbDevice where
  desc := some { idVendor := vidMicrosoft, idProduct := pidNuiCamera, bcdDevice := 267,
                 iSerialNumber := 0 }
  bus := 1
  parent := 2

/-- Every camera can be opened and says that its serial number is `A`. -/
def listWorks : ListAnswers where
  error := -1
  openRes := fun _ ↦ 0
  serial := fun _ ↦ { res := 1, buf := [0x41, 0] }
  audioDesc := fun _ ↦ 0
  audioOpen := fun _ ↦ 0
  audioSerial := fun _ ↦ { res := 1, buf := [0x41, 0] }

/-- The serial number of the second camera opens the first, which has none. -/
theorem nameless_camera_opened : ¬ OpensSerial [namelessCamera, nuiCamera] listWorks [0x41] := by
  intro h
  have hin := h cameraContext .allWork _ 0 (by decide) rfl rfl
  exact absurd hin (by decide)

end Freenect
