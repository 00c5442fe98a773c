import Freenect.Usb.Devices
import Mathlib.Data.List.Perm.Basic
import Mathlib.Data.Option.Basic

/-!
# The search for a sibling

`fnusb_find_sibling_device` makes one pass over the device list with two counters and two
candidates. A candidate is the first match and is taken back by the second, so that it is the only
match, if there is exactly one (`Counted`). The first match below the camera's own parent ends the
pass, whatever the counters say.

What the function returns is therefore a matter of which devices match, and not of their order, if
at most one of them hangs on the camera's parent: `findSiblingDevice_order_independent`.

The loop is compared with a specification that mentions no counter: `expectedSibling` takes the only
element of each of three sublists. The relation between the two is `Scanned`, which says of both
counters that they are `Counted`; `siblingLoop_rel` is the induction over the list. The places of
the real list stand for devices, and `findSibling_map` leads back from one to the other.
-/

namespace Freenect

/-! ### The only element of a list

The notion behind "the only match": the element of a list of length one. That it does not depend on
the order is all that is needed of it later. -/

section Only

variable {α : Type} {l l' : List α} {a : α}

/-- The element of a list that has just one. -/
def onlyElement : List α → Option α
  | [a] => some a
  | _ => none

/-- It is what a list of one element has. -/
theorem onlyElement_eq_some_iff : onlyElement l = some a ↔ l = [a] := by
  match l with
  | [] => exact iff_of_false nofun nofun
  | [b] => exact Option.some_inj.trans (List.cons_eq_cons.trans (and_iff_left rfl)).symm
  | b :: c :: l => exact iff_of_false nofun nofun

/-- It does not depend on the order. -/
theorem onlyElement_perm (h : l.Perm l') : onlyElement l = onlyElement l' := by
  refine Option.ext fun a ↦ ?_
  rw [onlyElement_eq_some_iff, onlyElement_eq_some_iff, ← List.perm_singleton,
    ← List.perm_singleton]
  exact h.congr_left [a]

/-- One element more is the only one just if there was none. -/
theorem onlyElement_concat (l : List α) (a : α) :
    onlyElement (l ++ [a]) = if l.length + 1 = 1 then some a else none := by
  match l with
  | [] => rfl
  | [b] => rfl
  | b :: c :: l => rfl

/-- In a list with at most one element, the first is the only one. -/
theorem head?_eq_onlyElement (h : l.length ≤ 1) : l.head? = onlyElement l := by
  match l with
  | [] => rfl
  | [b] => rfl
  | b :: c :: l => exact absurd h (by simp)

end Only

/-! ### A counter and a candidate

A pass that counts and keeps the first element, dropping it when a second one comes. `R` relates
what is kept to the element it stands for. -/

section Counted

variable {ι α : Type} {R : ι → α → Prop} {n : ℕ} {c : Option ι} {l : List α} {i : ι} {a : α}

/-- The counter and the candidate of a pass that has met the elements of `l`. The candidate stands
for an element by `R`. -/
structure Counted (R : ι → α → Prop) (n : ℕ) (c : Option ι) (l : List α) : Prop where
  count : n = l.length
  candidate : Option.Rel R c (onlyElement l)

/-- Before the pass. -/
theorem counted_nil (R : ι → α → Prop) : Counted R 0 none [] := ⟨rfl, Option.Rel.none⟩

/-- **The next element**: the first one becomes the candidate, any later one takes it back. -/
theorem Counted.concat (h : Counted R n c l) (hi : R i a) :
    Counted R (n + 1) (if n + 1 = 1 then some i else none) (l ++ [a]) := by
  refine ⟨by rw [h.count, List.length_append, List.length_singleton], ?_⟩
  rw [onlyElement_concat, ← h.count]
  split
  · exact Option.Rel.some hi
  · exact Option.Rel.none

/-- One counter of several: it counts the elements that fulfil `p`. -/
theorem Counted.filter_concat {p : α → Bool} (h : Counted R n c (l.filter p)) (hi : R i a) :
    Counted R (if p a then n + 1 else n)
      (if p a then (if n + 1 = 1 then some i else none) else c) ((l ++ [a]).filter p) := by
  rw [List.filter_append]
  cases hp : p a with
  | false =>
    rw [List.filter_cons_of_neg (by simp [hp]), List.filter_nil, List.append_nil]
    exact h
  | true =>
    rw [List.filter_cons_of_pos hp, List.filter_nil]
    exact h.concat hi

/-- The first of two candidates stands for the first of two elements. -/
theorem rel_or {c d : Option ι} {x y : Option α} (h : Option.Rel R c x)
    (h' : Option.Rel R d y) : Option.Rel R (c.or d) (x.or y) := by
  cases h with
  | none => exact h'
  | some h => exact Option.Rel.some h

end Counted

/-! ### The search -/

/-- `fnusb_find_sibling_device` with pointers to the devices. `info` is what libusb says about the
device that a pointer stands for, the entries of `deviceList` are the devices, and the camera need
not be one of them. -/
def findSiblingDevice {ι : Type} (info : ι → UsbDevice) (camera : UsbDevice) (deviceList : List ι)
    (predicate : Descriptor → Bool) : Option ι :=
  (siblingLoop camera predicate { total := 0, sameBus := 0, single := none, onBus := none } 0
    (deviceList.map info)).bind (deviceList[·]?)

namespace UsbDevice

variable (d camera : UsbDevice) (predicate : Descriptor → Bool)

/-- A device whose descriptor can be read and fulfils the predicate. -/
def isMatch : Bool := d.desc.any predicate

/-- A match on the camera's bus. -/
def isMatchOnBus : Bool := d.isMatch predicate && camera.bus == d.bus

/-- A match on the camera's bus that hangs on the camera's parent. `NULL` is nobody's parent. -/
def isMatchOnParent : Bool :=
  d.isMatchOnBus camera predicate && camera.parent != 0 && camera.parent == d.parent

end UsbDevice

/-- **What the search is for**: the match on the camera's parent, or else the only one on its bus,
or else the only one there is. -/
def expectedSibling {ι : Type} (info : ι → UsbDevice) (camera : UsbDevice) (deviceList : List ι)
    (predicate : Descriptor → Bool) : Option ι :=
  (onlyElement (deviceList.filter fun a ↦ (info a).isMatchOnParent camera predicate)).or
    ((onlyElement (deviceList.filter fun a ↦ (info a).isMatchOnBus camera predicate)).or
      (onlyElement (deviceList.filter fun a ↦ (info a).isMatch predicate)))

/-- A device that does not end the loop, at place `i`. -/
def SiblingScan.scan (camera : UsbDevice) (predicate : Descriptor → Bool) (s : SiblingScan)
    (i : UsbRef) (d : UsbDevice) : SiblingScan where
  total := if d.isMatch predicate then s.total + 1 else s.total
  sameBus := if d.isMatchOnBus camera predicate then s.sameBus + 1 else s.sameBus
  single :=
    if d.isMatch predicate then (if s.total + 1 = 1 then some i else none) else s.single
  onBus :=
    if d.isMatchOnBus camera predicate then (if s.sameBus + 1 = 1 then some i else none)
    else s.onBus

section Search

variable {ι : Type} {info : ι → UsbDevice} {camera : UsbDevice} {predicate : Descriptor → Bool}
  {deviceList done rest : List ι} {s : SiblingScan} {i : UsbRef}

/-- One device: it ends the loop or is scanned. -/
theorem siblingLoop_cons (camera : UsbDevice) (predicate : Descriptor → Bool) (s : SiblingScan)
    (i : UsbRef) (d : UsbDevice) (devs : List UsbDevice) :
    siblingLoop camera predicate s i (d :: devs) =
      if d.isMatchOnParent camera predicate then some i
      else siblingLoop camera predicate (s.scan camera predicate i d) (i + 1) devs := by
  rw [siblingLoop]
  cases hdesc : d.desc with
  | none =>
    simp [UsbDevice.isMatchOnParent, UsbDevice.isMatchOnBus, UsbDevice.isMatch, SiblingScan.scan,
      hdesc]
  | some desc =>
    have hmatch : d.isMatch predicate = predicate desc := by rw [UsbDevice.isMatch, hdesc]; rfl
    have hbus : d.isMatchOnBus camera predicate ↔ predicate desc ∧ camera.bus = d.bus := by
      rw [UsbDevice.isMatchOnBus, hmatch, Bool.and_eq_true, beq_iff_eq]
    have hparent : d.isMatchOnParent camera predicate ↔ (predicate desc ∧ camera.bus = d.bus) ∧
        ¬ (camera.parent = 0 ∨ camera.parent ≠ d.parent) := by
      rw [UsbDevice.isMatchOnParent, Bool.and_eq_true, Bool.and_eq_true, hbus, beq_iff_eq,
        bne_iff_ne, and_assoc, not_or, not_not]
    simp only [SiblingScan.scan, hmatch, hbus, hparent]
    -- the tests of the loop, one inside the other
    by_cases hpred : predicate desc = true
    swap
    · simp [hpred]
    by_cases hsame : camera.bus = d.bus
    swap
    · simp [hpred, hsame]
    by_cases hhub : camera.parent = 0 ∨ camera.parent ≠ d.parent
    · simp only [hpred, hsame, hhub, and_true, and_false, not_true_eq_false, if_true, if_false,
        ne_eq]
    · simp only [hpred, hsame, hhub, and_true, not_true_eq_false, not_false_eq_true, if_true,
        if_false, ne_eq]

/-- The state of the loop behind the devices `done`. -/
structure Scanned (info : ι → UsbDevice) (camera : UsbDevice) (predicate : Descriptor → Bool)
    (deviceList done : List ι) (s : SiblingScan) : Prop where
  all : Counted (fun i a ↦ deviceList[i]? = some a) s.total s.single
    (done.filter fun a ↦ (info a).isMatch predicate)
  bus : Counted (fun i a ↦ deviceList[i]? = some a) s.sameBus s.onBus
    (done.filter fun a ↦ (info a).isMatchOnBus camera predicate)

/-- **One step** of the loop. -/
theorem Scanned.scan {a : ι} (h : Scanned info camera predicate deviceList done s)
    (ha : deviceList[i]? = some a) :
    Scanned info camera predicate deviceList (done ++ [a])
      (s.scan camera predicate i (info a)) where
  all := h.all.filter_concat ha
  bus := h.bus.filter_concat ha

/-- **The loop**: the first match on the camera's parent, or else what has become of the two
candidates at the end. -/
theorem siblingLoop_rel (h : Scanned info camera predicate deviceList done s)
    (hlist : deviceList = done ++ rest) :
    Option.Rel (fun i a ↦ deviceList[i]? = some a)
      (siblingLoop camera predicate s done.length (rest.map info))
      ((rest.find? fun a ↦ (info a).isMatchOnParent camera predicate).or
        ((onlyElement (deviceList.filter fun a ↦ (info a).isMatchOnBus camera predicate)).or
          (onlyElement (deviceList.filter fun a ↦ (info a).isMatch predicate)))) := by
  -- on the devices still ahead; those behind are accounted for by `Scanned`
  induction rest generalizing done s with
  | nil =>
    obtain rfl : deviceList = done := hlist.trans (List.append_nil done)
    rw [List.find?_nil, Option.none_or]
    exact rel_or h.bus.candidate h.all.candidate
  | cons a rest ih =>
    have ha : deviceList[done.length]? = some a := by
      rw [hlist, List.getElem?_append_right (Nat.le_refl _), Nat.sub_self]
      rfl
    have hlist' : deviceList = (done ++ [a]) ++ rest := by rw [hlist, List.append_assoc]; rfl
    rw [List.map_cons, siblingLoop_cons, List.find?_cons]
    cases hparent : (info a).isMatchOnParent camera predicate with
    | true => exact Option.Rel.some ha
    | false =>
      have hnext := ih (h.scan ha) hlist'
      rw [List.length_append, List.length_singleton] at hnext
      exact hnext

/-- What a place stands for. -/
theorem bind_eq_of_rel {c : Option UsbRef} {x : Option ι}
    (h : Option.Rel (fun i a ↦ deviceList[i]? = some a) c x) : c.bind (deviceList[·]?) = x := by
  cases h with
  | none => rfl
  | some h => exact h

/-- **The search**, for every device list. -/
theorem findSiblingDevice_eq (info : ι → UsbDevice) (camera : UsbDevice) (deviceList : List ι)
    (predicate : Descriptor → Bool) :
    findSiblingDevice info camera deviceList predicate =
      (deviceList.find? fun a ↦ (info a).isMatchOnParent camera predicate).or
        ((onlyElement (deviceList.filter fun a ↦ (info a).isMatchOnBus camera predicate)).or
          (onlyElement (deviceList.filter fun a ↦ (info a).isMatch predicate))) := by
  have hnone : Scanned info camera predicate deviceList []
      { total := 0, sameBus := 0, single := none, onBus := none } :=
    ⟨counted_nil _, counted_nil _⟩
  exact bind_eq_of_rel (siblingLoop_rel hnone rfl)

/-- It is the search of the functions that open the subdevices. -/
theorem findSibling_map {deviceList : List ι} {c : UsbRef} {a : ι} (hc : deviceList[c]? = some a)
    (predicate : Descriptor → Bool) :
    (findSibling (deviceList.map info) c predicate).bind (deviceList[·]?) =
      findSiblingDevice info (info a) deviceList predicate := by
  rw [findSibling, List.getElem?_map, hc]
  rfl

/-- What the search is for does not depend on the order. -/
theorem expectedSibling_perm {l l' : List ι} (h : l.Perm l') :
    expectedSibling info camera l predicate = expectedSibling info camera l' predicate := by
  rw [expectedSibling, expectedSibling, onlyElement_perm (h.filter _),
    onlyElement_perm (h.filter fun a ↦ (info a).isMatchOnBus camera predicate),
    onlyElement_perm (h.filter fun a ↦ (info a).isMatch predicate)]

/-- **The search finds what it is for**, if at most one match hangs on the parent; the early end of
the loop then takes the match that the specification takes. -/
theorem findSiblingDevice_eq_expected
    (h : deviceList.countP (fun a ↦ (info a).isMatchOnParent camera predicate) ≤ 1) :
    findSiblingDevice info camera deviceList predicate =
      expectedSibling info camera deviceList predicate := by
  rw [List.countP_eq_length_filter] at h
  rw [findSiblingDevice_eq, expectedSibling, ← head?_eq_onlyElement h, List.head?_filter]

end Search

/-- **The search does not depend on the order of the devices**, if at most one match hangs on the
camera's parent: it finds the sibling that is expected, and the same one in every permutation of the
device list. -/
theorem findSiblingDevice_order_independent {ι : Type} (info : ι → UsbDevice) (camera : UsbDevice)
    (predicate : Descriptor → Bool) (deviceList : List ι)
    (h : deviceList.countP (fun a ↦ (info a).isMatchOnParent camera predicate) ≤ 1) :
    findSiblingDevice info camera deviceList predicate =
        expectedSibling info camera deviceList predicate ∧
      ∀ deviceList' : List ι, deviceList'.Perm deviceList →
        findSiblingDevice info camera deviceList' predicate =
          findSiblingDevice info camera deviceList predicate := by
  refine ⟨findSiblingDevice_eq_expected h, fun deviceList' hperm ↦ ?_⟩
  rw [findSiblingDevice_eq_expected h, ← expectedSibling_perm hperm]
  exact findSiblingDevice_eq_expected (by rwa [hperm.countP_eq])

/-- A motor on a bus, below a hub. -/
def motorAt (bus parent : ℕ) : UsbDevice where
  desc := some { idVendor := 0x45e, idProduct := 0x02b0, bcdDevice := 0, iSerialNumber := 0 }
  bus := bus
  parent := parent

/-- A camera below hub 7 finds the motor there, in front of or behind a motor below another hub of
the same bus and one on another bus. -/
theorem findSiblingDevice_order_independent_motor :
    findSiblingDevice id { desc := none, bus := 1, parent := 7 }
        [motorAt 1 8, motorAt 2 7, motorAt 1 7] Descriptor.isMotor = some (motorAt 1 7) ∧
      findSiblingDevice id { desc := none, bus := 1, parent := 7 }
        [motorAt 1 7, motorAt 1 8, motorAt 2 7] Descriptor.isMotor = some (motorAt 1 7) := by
  obtain ⟨hsibling, hsame⟩ := findSiblingDevice_order_independent id
    { desc := none, bus := 1, parent := 7 } Descriptor.isMotor
    [motorAt 1 8, motorAt 2 7, motorAt 1 7] (by decide)
  have hmotor : findSiblingDevice id { desc := none, bus := 1, parent := 7 }
      [motorAt 1 8, motorAt 2 7, motorAt 1 7] Descriptor.isMotor = some (motorAt 1 7) :=
    hsibling.trans (by decide)
  exact ⟨hmotor, (hsame _ (by decide)).trans hmotor⟩

end Freenect
