import Freenect.Firmware.Upload
import Mathlib.Data.List.Chain

/-!
# The image that arrives

If all transfers go through, the pages an upload announces are one range of addresses cut in order,
and their data is the image as far as its header declares it; then comes the launch. If the header
declares more than there is, all there is is sent and the launch is not.

`Reproduces` states this of a list of page commands without the loops that made them: consecutive
tags, addresses that begin at the base address and follow each other, ranges that do not overlap,
and data that is the image. It is proved field by field (`reproduces_pages`) from one lemma for each
over `pageExchanges`, the list of exchanges that the outer loop has been shown to make. Tags and
addresses are 32-bit numbers and wrap around; that two pages do not overlap even so is
`pageExchanges_disjoint`, which needs that the image is shorter than the address space.
-/

namespace Freenect

open ListBlocks

/-- The device is told that a page covers an address. -/
def BootExchange.Covers (e : BootExchange) (addr : UInt32) : Prop :=
  (addr - e.command.addr).toNat < e.command.bytes.toNat

/-- **What reproduces an image**: page commands with consecutive tags for ranges of addresses that
start at the base address, follow each other modulo `2 ^ 32` and do not overlap, and the data behind
them, in transfers of at most 512 bytes. -/
structure Reproduces (fw : FirmwareImage) (tag : UInt32) (pages : List BootExchange) : Prop where
  command : ∀ e ∈ pages, e.command.magic = 0x06022009 ∧ e.command.cmd = 0x03 ∧ e.command.unk = 0
  size : ∀ e ∈ pages, e.command.bytes.toNat = e.data.flatten.length ∧ e.command.bytes ≤ 0x4000
  tags : ∀ i e, pages[i]? = some e → e.command.tag = tag + UInt32.ofNat i
  start : ∀ e, pages.head? = some e → e.command.addr = fw.header.baseAddr
  contiguous :
    pages.IsChain fun e e' ↦ e'.command.addr = e.command.addr + e.command.bytes
  disjoint : pages.Pairwise fun e e' ↦ ∀ addr, ¬ (e.Covers addr ∧ e'.Covers addr)
  transfers : ∀ e ∈ pages, ∀ d ∈ e.data, d.length ≤ 512
  image : (pages.flatMap BootExchange.data).flatten = fw.bytes.take fw.header.size.toNat

section Pages

variable {a : UploadAnswers} {ps : List (List UInt8)} {e : BootExchange} {n : ℕ}
  {addr tag : UInt32}

/-- Each exchange is one of a page. -/
theorem mem_pageExchanges (h : e ∈ pageExchanges a n addr tag ps) :
    ∃ p ∈ ps, ∃ m addr' tag', e = pageExchange a m addr' tag' p := by
  induction ps generalizing n addr tag with
  | nil => cases h
  | cons p ps ih =>
    rcases List.mem_cons.1 h with rfl | h
    · exact ⟨p, List.mem_cons_self, _, _, _, rfl⟩
    · obtain ⟨q, hq, hrest⟩ := ih h
      exact ⟨q, List.mem_cons_of_mem _ hq, hrest⟩

/-- The tags count up from the first one, and each page gets its own reply. -/
theorem pageExchanges_tag {i : ℕ} (h : (pageExchanges a n addr tag ps)[i]? = some e) :
    e.command.tag = tag + UInt32.ofNat i ∧ e.reply = some (a.reply (n + i)) := by
  induction ps generalizing n addr tag i with
  | nil => cases h
  | cons p ps ih =>
    cases i with
    | zero =>
      obtain rfl := Option.some.inj h
      exact ⟨(UInt32.add_zero _).symm, rfl⟩
    | succ i =>
      obtain ⟨htag, hreply⟩ := ih h
      refine ⟨htag.trans (tag_add_succ tag i), hreply.trans ?_⟩
      rw [Nat.add_right_comm, Nat.add_assoc]

/-- The first page is for the address at which the pages start. -/
theorem pageExchanges_head (h : (pageExchanges a n addr tag ps).head? = some e) :
    e.command.addr = addr := by
  cases ps with
  | nil => cases h
  | cons p ps =>
    obtain rfl := Option.some.inj h
    rfl

/-- **Each page begins where the one before it ends.** -/
theorem pageExchanges_contiguous (a : UploadAnswers) (n : ℕ) (addr tag : UInt32)
    (ps : List (List UInt8)) : (pageExchanges a n addr tag ps).IsChain
      fun e e' ↦ e'.command.addr = e.command.addr + e.command.bytes := by
  induction ps generalizing n addr tag with
  | nil => exact List.IsChain.nil
  | cons p ps ih =>
    refine List.isChain_cons.2 ⟨fun e' he' ↦ ?_, ih _ _ _⟩
    exact pageExchanges_head he'

/-- **The data of the pages is the image.** -/
theorem pageExchanges_data (a : UploadAnswers) (n : ℕ) (addr tag : UInt32)
    (ps : List (List UInt8)) :
    ((pageExchanges a n addr tag ps).flatMap BootExchange.data).flatten = ps.flatten := by
  induction ps generalizing n addr tag with
  | nil => rfl
  | cons p ps ih =>
    rw [pageExchanges, List.flatMap_cons, List.flatten_append, ih, List.flatten_cons]
    exact congrArg (· ++ _) (flatten_blocks (by decide) p)

/-- A page lies somewhere behind the address at which the pages start. -/
theorem pageExchanges_offset (hps : ps.flatten.length < 2 ^ 32)
    (h : e ∈ pageExchanges a n addr tag ps) :
    ∃ off, e.command.addr = addr + UInt32.ofNat off ∧
      off + e.command.bytes.toNat ≤ ps.flatten.length := by
  induction ps generalizing n addr tag with
  | nil => cases h
  | cons p ps ih =>
    rw [List.flatten_cons, List.length_append] at hps ⊢
    rcases List.mem_cons.1 h with rfl | h
    · refine ⟨0, (UInt32.add_zero _).symm, ?_⟩
      show 0 + (UInt32.ofNat p.length).toNat ≤ _
      rw [UInt32.toNat_ofNat']
      omega
    · obtain ⟨off, haddr, hle⟩ := ih (by omega) h
      refine ⟨p.length + off, haddr.trans ?_, by omega⟩
      rw [UInt32.ofNat_add, ← UInt32.add_assoc]

/-- **No two pages cover the same address**, although addresses wrap around. -/
theorem pageExchanges_disjoint (a : UploadAnswers) (n : ℕ) (addr tag : UInt32)
    (hps : ps.flatten.length < 2 ^ 32) : (pageExchanges a n addr tag ps).Pairwise
      fun e e' ↦ ∀ x, ¬ (e.Covers x ∧ e'.Covers x) := by
  induction ps generalizing n addr tag with
  | nil => exact List.Pairwise.nil
  | cons p ps ih =>
    rw [List.flatten_cons, List.length_append] at hps
    refine List.Pairwise.cons (fun e he x ↦ ?_) (ih _ _ _ (by omega))
    rintro ⟨hfirst, hlater⟩
    obtain ⟨off, haddr, hle⟩ := pageExchanges_offset (by omega) he
    have hp : (UInt32.ofNat p.length).toNat = p.length := by
      rw [UInt32.toNat_ofNat']
      omega
    have hoff : (UInt32.ofNat off).toNat = off := by
      rw [UInt32.toNat_ofNat']
      omega
    have hfirst : (x - addr).toNat < (UInt32.ofNat p.length).toNat := hfirst
    have hlater : (x - e.command.addr).toNat < e.command.bytes.toNat := hlater
    -- seen from the first page, the later one begins behind it
    have hsub : x - e.command.addr = x - addr - UInt32.ofNat p.length - UInt32.ofNat off := by
      rw [haddr]
      grind
    rw [hp] at hfirst
    rw [hsub, UInt32.toNat_sub, UInt32.toNat_sub, hp, hoff] at hlater
    omega

end Pages

section Image

variable {fw : FirmwareImage} {a : UploadAnswers} {errno : ℤ} {tag : UInt32}

/-- The pages of an image reproduce it. -/
theorem reproduces_pages (fw : FirmwareImage) (a : UploadAnswers) (tag : UInt32) :
    Reproduces fw tag (pageExchanges a 0 fw.header.baseAddr tag fw.pages) where
  command e he := by
    obtain ⟨p, -, m, addr, tag', rfl⟩ := mem_pageExchanges he
    exact ⟨rfl, rfl, rfl⟩
  size e he := by
    obtain ⟨p, hp, m, addr, tag', rfl⟩ := mem_pageExchanges he
    have hle : p.length ≤ 0x4000 := length_le_of_mem hp
    have hbytes : (UInt32.ofNat p.length).toNat = p.length := by
      rw [UInt32.toNat_ofNat']
      omega
    refine ⟨hbytes.trans (congrArg List.length (flatten_blocks (by decide) p)).symm, ?_⟩
    rw [UInt32.le_iff_toNat_le]
    exact hbytes.trans_le hle
  tags i e he := (pageExchanges_tag he).1
  start e he := pageExchanges_head he
  contiguous := pageExchanges_contiguous a 0 _ tag _
  disjoint := by
    have hlt := fw.length_lt
    have hdeclared := length_declared fw
    refine pageExchanges_disjoint a 0 _ tag ?_
    rw [FirmwareImage.pages, flatten_blocks (by decide)]
    exact (hdeclared.trans_le (Nat.min_le_right _ _)).trans_lt hlt
  transfers e he d hd := by
    obtain ⟨p, -, m, addr, tag', rfl⟩ := mem_pageExchanges he
    exact length_le_of_mem hd
  image := (pageExchanges_data a 0 _ tag _).trans (flatten_blocks (by decide) _)

/-- **All transfers to the device succeed.** What it replies is of no importance. -/
structure UploadAnswers.Succeed (a : UploadAnswers) : Prop where
  command : ∀ n, (a.command n).Complete bootloaderCommandSize
  data : ∀ n i len, (a.data n i len).Complete len

/-- Then the data of any page goes through. -/
theorem UploadAnswers.Succeed.dataSends (h : a.Succeed) (n i : ℕ) (ds : List (List UInt8)) :
    DataSends (a.data n) i ds := by
  induction ds generalizing i with
  | nil => exact .nil i
  | cons d ds ih => exact .cons (h.data n i d.length) (ih (i + 1))

theorem UploadAnswers.Succeed.pagesSend (h : a.Succeed) (n : ℕ) (ps : List (List UInt8)) :
    PagesSend a n ps := by
  induction ps generalizing n with
  | nil => exact .nil n
  | cons p ps ih => exact .cons (h.command n) (h.dataSends n 0 _) (ih (n + 1))

/-- An image with fewer bytes than it declares is sent as far as it goes. -/
theorem upload_of_truncated (hheader : firmwareHeaderSize ≤ fw.size) (hlt : fw.size < 2 ^ 31)
    (hdeclared : fw.size < fw.header.size.toNat) (hpages : PagesSend a 0 fw.pages) :
    uploadFirmwareFromMemory fw errno tag a =
      { ret := -1
        audioTag := tag + UInt32.ofNat fw.pages.length
        exchanges := pageExchanges a 0 fw.header.baseAddr tag fw.pages } := by
  obtain ⟨hdone, htotal, htag, hexchanges⟩ := sendPages_initial tag (Or.inl hlt) hpages
  have hlen : fw.declared.length = fw.size :=
    (length_declared fw).trans (Nat.min_eq_right hdeclared.le)
  have hne : UInt32.ofNat fw.size ≠ fw.header.size := by
    intro heq
    have hnat := congrArg UInt32.toNat heq
    rw [UInt32.toNat_ofNat'] at hnat
    omega
  rw [uploadFirmwareFromMemory, if_neg (Nat.not_lt.2 hheader)]
  dsimp only
  rw [← LoaderState.initial, hdone, if_neg (by decide), htotal, hlen, if_pos hne, htag,
    hexchanges]

/-- **An upload reproduces the image.** If all transfers to the device succeed, the pages of the
image are sent and then the launch; if the image has fewer bytes than it declares, the upload fails
and nothing is launched. -/
theorem upload_reproduces (errno : ℤ) (tag : UInt32) (hheader : firmwareHeaderSize ≤ fw.size)
    (hlt : fw.size < 2 ^ 31) (h : a.Succeed) :
    (fw.header.size.toNat ≤ fw.size →
      (uploadFirmwareFromMemory fw errno tag a).ret = 0 ∧
      ∃ pages launch, (uploadFirmwareFromMemory fw errno tag a).exchanges = pages ++ [launch] ∧
        Reproduces fw tag pages ∧
        launch.command = { magic := 0x06022009, tag := tag + UInt32.ofNat pages.length, bytes := 0,
                           cmd := 0x04, addr := fw.header.entryAddr, unk := 0 } ∧
        launch.data = []) ∧
    (fw.size < fw.header.size.toNat →
      (uploadFirmwareFromMemory fw errno tag a).ret < 0 ∧
      ∀ e ∈ (uploadFirmwareFromMemory fw errno tag a).exchanges, e.command.cmd ≠ 0x04) := by
  have hpages := reproduces_pages fw a tag
  constructor
  · intro hdeclared
    -- all there is is declared, so the loops end and the launch follows
    have huploads : Uploads fw a := ⟨hdeclared, Or.inl hlt, h.pagesSend 0 _, h.command _⟩
    rw [upload_of_uploads hheader huploads]
    refine ⟨rfl, _, _, rfl, hpages, ?_, rfl⟩
    rw [length_pageExchanges]
    rfl
  · intro hdeclared
    -- the image ends before what it declares: the pages are sent, and no command is the launch
    rw [upload_of_truncated hheader hlt hdeclared (h.pagesSend 0 _)]
    refine ⟨Int.negSucc_lt_zero 0, fun e he ↦ ?_⟩
    rw [(hpages.command e he).2.1]
    decide

/-- An image that consists of its header, at `0x80000` and to be entered at `0x80018`. -/
def headerImage : FirmwareImage where
  bytes := [0, 0, 0, 0, 0, 0, 0, 0, 0, 0, 0, 0, 0, 0, 8, 0, 24, 0, 0, 0, 24, 0, 8, 0]
  length_lt := by decide

/-- A device with which all transfers succeed and that replies with zeros. -/
def silentDevice : UploadAnswers where
  command _ := { res := 0, transferred := 24 }
  data _ _ len := { res := 0, transferred := len }
  reply _ := { res := 0, transferred := 12, dump := fun _ ↦ 0 }

theorem silentDevice_succeed : silentDevice.Succeed where
  command _ := ⟨rfl, rfl⟩
  data _ _ _ := ⟨rfl, rfl⟩

/-- An image of a whole page and a second one of 512 bytes. -/
def twoPageImage : FirmwareImage where
  bytes := [0, 0, 0, 0, 0, 0, 0, 0, 0, 0, 0, 0, 0, 0, 8, 0, 0, 0x42, 0, 0, 24, 0, 8, 0] ++
    List.replicate 16872 0
  length_lt := by
    rw [List.length_append, List.length_replicate]
    decide

theorem size_twoPageImage : twoPageImage.size = 0x4200 := by
  rw [FirmwareImage.size, twoPageImage, List.length_append, List.length_replicate]
  rfl

theorem size_header_twoPageImage : twoPageImage.header.size = 0x4200 := rfl

/-- All of it is sent, and then launched. -/
theorem upload_reproduces_twoPages :
    (uploadFirmwareFromMemory twoPageImage 0 0 silentDevice).ret = 0 ∧
    ∃ pages launch,
      (uploadFirmwareFromMemory twoPageImage 0 0 silentDevice).exchanges = pages ++ [launch] ∧
      Reproduces twoPageImage 0 pages ∧
      launch.command = { magic := 0x06022009, tag := 0 + UInt32.ofNat pages.length, bytes := 0,
                         cmd := 0x04, addr := twoPageImage.header.entryAddr, unk := 0 } ∧
      launch.data = [] := by
  refine (upload_reproduces 0 0 ?_ ?_ silentDevice_succeed).1 ?_
  · rw [size_twoPageImage]
    decide
  · rw [size_twoPageImage]
    decide
  · rw [size_twoPageImage, size_header_twoPageImage]
    decide

end Image

end Freenect
