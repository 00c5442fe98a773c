import Freenect.Firmware.Loader
import Freenect.Library.Blocks

/-!
# What an upload sends

The two loops of `upload_firmware_from_memory` go through the image in blocks: pages of `0x4000`
bytes, and in a page transfers of 512. `sendPages_of_sends` says what they do if all transfers go
through, and `sendPages_of_not_sends` that they do not come to their end if one does not.

Each loop is described from both sides, by an induction on what is left of the image. `DataSends`
and `PagesSend` say that all transfers from some point on go through; they are defined along the
blocks, like the loops, so that an induction step takes one block from each. `LoaderState.At` is the
invariant of the outer loop: where it stands in the image and what its variables then hold.

From this the function itself has three cases that exclude each other: an image without a header
(`upload_of_short`), an upload that goes through (`upload_of_uploads`), and any other one, which
returns `-1` (`upload_of_not_uploads`).
-/

namespace Freenect

open ListBlocks

/-! ### A page

The inner loop sends a page in blocks of 512 bytes. -/

/-- Transfers from the `i`-th on go through. -/
inductive DataSends (answer : ℕ → ℕ → BulkOut) : ℕ → List (List UInt8) → Prop
  | nil (i : ℕ) : DataSends answer i []
  | cons {i : ℕ} {d : List UInt8} {ds : List (List UInt8)}
      (head : (answer i d.length).Complete d.length) (tail : DataSends answer (i + 1) ds) :
      DataSends answer i (d :: ds)

section Page

variable {answer : ℕ → ℕ → BulkOut} {page : List UInt8} {i bytesSent : ℕ}

/-- At the end of the page the loop is left. -/
theorem sendPage_of_le (h : page.length ≤ bytesSent) (i total : ℕ) :
    sendPage answer page page.length i bytesSent total = ([], .ok total) := by
  rw [sendPage, if_neg (Nat.not_lt.2 h)]

/-- The next transfer takes the first block of what is left. -/
theorem sendPage_of_lt (h : bytesSent < page.length) (i total : ℕ) :
    sendPage answer page page.length i bytesSent total =
      let d := (page.drop bytesSent).take 512
      if ¬ (answer i d.length).Complete d.length then ([d], .error (answer i d.length).res)
      else
        let r := sendPage answer page page.length (i + 1) (bytesSent + d.length) (total + d.length)
        (d :: r.1, r.2) := by
  have hsize : (if 512 < page.length - bytesSent then 512 else page.length - bytesSent) =
      ((page.drop bytesSent).take 512).length := by
    rw [List.length_take, List.length_drop]
    split
    · omega
    · omega
  have hdata : (page.drop bytesSent).take ((page.drop bytesSent).take 512).length =
      (page.drop bytesSent).take 512 := by
    rw [List.length_take, ← List.take_take, List.take_length]
  rw [sendPage, if_pos h]
  dsimp only
  rw [hsize, hdata]
  refine if_congr ?_ rfl rfl
  exact not_and_or.symm

/-- **A page of which all transfers go through.** -/
theorem sendPage_of_sends (hle : bytesSent ≤ page.length) (total : ℕ)
    (h : DataSends answer i (blocks 512 (page.drop bytesSent))) :
    sendPage answer page page.length i bytesSent total =
      (blocks 512 (page.drop bytesSent), .ok (total + (page.length - bytesSent))) := by
  induction hn : page.length - bytesSent using Nat.strongRecOn generalizing i bytesSent total with
  | ind n ih =>
    rcases Nat.lt_or_ge bytesSent page.length with hlt | hge
    · rw [blocks_drop (by decide) hlt] at h ⊢
      obtain _ | ⟨hcomplete, hrest⟩ := h
      have hlen := length_block page 512 bytesSent
      rw [sendPage_of_lt hlt]
      dsimp only
      rw [if_neg (not_not.2 hcomplete), ih _ (by omega) (by omega) _ hrest rfl]
      refine congrArg (Prod.mk _) (congrArg Except.ok ?_)
      omega
    · rw [sendPage_of_le hge, blocks_drop_of_le (by decide) hge]
      refine congrArg (Prod.mk _) (congrArg Except.ok ?_)
      omega

/-- If one does not, the page fails. -/
theorem sendPage_of_not_sends (total : ℕ)
    (h : ¬ DataSends answer i (blocks 512 (page.drop bytesSent))) :
    ∃ data res, sendPage answer page page.length i bytesSent total = (data, .error res) := by
  induction hn : page.length - bytesSent using Nat.strongRecOn generalizing i bytesSent total with
  | ind n ih =>
    rcases Nat.lt_or_ge bytesSent page.length with hlt | hge
    · rw [blocks_drop (by decide) hlt] at h
      rw [sendPage_of_lt hlt]
      dsimp only
      split
      · exact ⟨_, _, rfl⟩
      next hcomplete =>
        have hrest := fun hrest ↦ h (.cons (not_not.1 hcomplete) hrest)
        have hlen := length_block page 512 bytesSent
        obtain ⟨data, res, heq⟩ := ih _ (by omega) (total + _) hrest rfl
        rw [heq]
        exact ⟨_, _, rfl⟩
    · rw [blocks_drop_of_le (by decide) hge] at h
      exact absurd (.nil i) h

end Page

/-! ### The pages

The outer loop. The number of bytes to read is bounded by what the header still promises and by what
is left of the file, and so is the next block of the declared image. -/

/-- The commands for pages from the `n`-th on go through, and so does their data. -/
inductive PagesSend (a : UploadAnswers) : ℕ → List (List UInt8) → Prop
  | nil (n : ℕ) : PagesSend a n []
  | cons {n : ℕ} {p : List UInt8} {ps : List (List UInt8)}
      (command : (a.command n).Complete bootloaderCommandSize)
      (data : DataSends (a.data n) 0 (blocks 512 p)) (tail : PagesSend a (n + 1) ps) :
      PagesSend a n (p :: ps)

/-- The exchange for a page. -/
def pageExchange (a : UploadAnswers) (n : ℕ) (addr tag : UInt32) (page : List UInt8) :
    BootExchange where
  command := { magic := 0x06022009, tag := tag, bytes := UInt32.ofNat page.length, cmd := 0x03,
               addr := addr, unk := 0 }
  data := blocks 512 page
  reply := some (a.reply n)
  res := Bootloader.getReply tag (a.reply n)

/-- The exchanges for pages from the `n`-th on. -/
def pageExchanges (a : UploadAnswers) : ℕ → UInt32 → UInt32 → List (List UInt8) → List BootExchange
  | _, _, _, [] => []
  | n, addr, tag, p :: ps =>
    pageExchange a n addr tag p ::
      pageExchanges a (n + 1) (addr + UInt32.ofNat p.length) (tag + 1) ps

/-- One exchange for each page. -/
@[simp] theorem length_pageExchanges (a : UploadAnswers) (n : ℕ) (addr tag : UInt32)
    (ps : List (List UInt8)) : (pageExchanges a n addr tag ps).length = ps.length := by
  induction ps generalizing n addr tag with
  | nil => rfl
  | cons p ps ih => exact congrArg Nat.succ (ih _ _ _)

/-- What of the image is sent: as much as its header declares. -/
def FirmwareImage.declared (fw : FirmwareImage) : List UInt8 :=
  fw.bytes.take fw.header.size.toNat

/-- The pages of an image. -/
def FirmwareImage.pages (fw : FirmwareImage) : List (List UInt8) := blocks 0x4000 fw.declared

/-- The loop has got to byte `t` of the image. -/
structure LoaderState.At (fw : FirmwareImage) (t : ℕ) (s : LoaderState) : Prop where
  readIndex : s.readIndex = t
  bytesLeft : s.bytesLeft = fw.size - t
  totalBytesSent : s.totalBytesSent = t
  le : t ≤ fw.declared.length

/-- The variables after a page of `read` bytes. -/
def LoaderState.afterPage (s : LoaderState) (read : ℕ) : LoaderState where
  readIndex := s.readIndex + read
  bytesLeft := s.bytesLeft - read
  totalBytesSent := s.totalBytesSent + read
  addr := s.addr + UInt32.ofNat read
  audioTag := s.audioTag + 1

/-- The tag behind the next one. -/
theorem tag_add_succ (tag : UInt32) (k : ℕ) :
    tag + 1 + UInt32.ofNat k = tag + UInt32.ofNat (k + 1) := by
  rw [Nat.add_comm k, UInt32.ofNat_add, ← UInt32.add_assoc]
  rfl

section Pages

variable {fw : FirmwareImage} {a : UploadAnswers} {n t : ℕ} {s : LoaderState}

/-- What is sent is as long as the header declares, or as the image if that is shorter. -/
theorem length_declared (fw : FirmwareImage) :
    fw.declared.length = min fw.header.size.toNat fw.size :=
  List.length_take

/-- The next page is the first block of what is left. -/
theorem LoaderState.At.read (h : s.At fw t) :
    s.read fw.header.size = ((fw.declared.drop t).take 0x4000).length := by
  have hle := h.le
  have hlen := length_declared fw
  have hsize : fw.header.size.toNat < 2 ^ 32 := fw.header.size.toNat_lt
  have ht : (UInt32.ofNat t).toNat = t := by
    rw [UInt32.toNat_ofNat']
    omega
  have hrest : (fw.header.size - UInt32.ofNat t).toNat = fw.header.size.toNat - t := by
    rw [UInt32.toNat_sub, ht]
    omega
  have hlt : fw.header.size - UInt32.ofNat t < 0x4000 ↔ fw.header.size.toNat - t < 0x4000 := by
    rw [UInt32.lt_iff_toNat_lt, hrest]
    rfl
  unfold LoaderState.read
  dsimp only
  rw [h.totalBytesSent, h.bytesLeft, List.length_take, List.length_drop]
  simp only [hlt, hrest]
  split <;> split <;> omega

/-- The bytes of the next page are in the image. -/
theorem LoaderState.At.page (h : s.At fw t) :
    (fw.bytes.drop s.readIndex).take ((fw.declared.drop t).take 0x4000).length =
      (fw.declared.drop t).take 0x4000 := by
  rw [h.readIndex, FirmwareImage.declared, List.drop_take, List.take_take, List.length_take]
  exact List.take_eq_take_iff.2 (by omega)

/-- **The invariant behind a page.** -/
theorem LoaderState.At.next (h : s.At fw t) :
    (s.afterPage ((fw.declared.drop t).take 0x4000).length).At fw
      (t + ((fw.declared.drop t).take 0x4000).length) where
  readIndex := congrArg (· + _) h.readIndex
  bytesLeft := by
    have hleft := h.bytesLeft
    rw [LoaderState.afterPage]
    dsimp only
    omega
  totalBytesSent := congrArg (· + _) h.totalBytesSent
  le := by
    have hle := h.le
    rw [List.length_take, List.length_drop]
    omega

/-- At the end of the declared image the loop ends. -/
theorem sendPages_of_end (h : s.At fw t) (hend : fw.declared.length ≤ t) (n : ℕ) :
    sendPages fw a n s = { exchanges := [], state := s, done := true } := by
  have hread := h.read
  rw [List.drop_eq_nil_of_le hend] at hread
  rw [sendPages]
  exact dif_pos (Int.le_of_eq hread)

/-- Before it, the loop sends a page. -/
theorem sendPages_of_lt (h : s.At fw t) (hlt : t < fw.declared.length)
    (hcommand : (a.command n).Complete bootloaderCommandSize)
    (hdata : DataSends (a.data n) 0 (blocks 512 ((fw.declared.drop t).take 0x4000))) :
    sendPages fw a n s =
      let page := (fw.declared.drop t).take 0x4000
      let rest := sendPages fw a (n + 1) (s.afterPage page.length)
      { rest with exchanges := pageExchange a n s.addr s.audioTag page :: rest.exchanges } := by
  have hread := h.read
  have hpage := h.page
  have hlen := length_block fw.declared 0x4000 t
  have hsend := sendPage_of_sends (Nat.zero_le _) s.totalBytesSent hdata
  rw [sendPages]
  dsimp only
  rw [hread, dif_neg (by omega), Int.toNat_natCast, hpage,
    if_neg (not_or.2 ⟨not_not.2 hcommand.1, not_not.2 hcommand.2⟩), hsend]
  rfl

/-- If its transfers do not all go through, the loop does not come to its end. -/
theorem sendPages_of_lt_fails (h : s.At fw t) (hlt : t < fw.declared.length)
    (hfails : ¬ ((a.command n).Complete bootloaderCommandSize ∧
      DataSends (a.data n) 0 (blocks 512 ((fw.declared.drop t).take 0x4000)))) :
    (sendPages fw a n s).done = false := by
  have hread := h.read
  have hpage := h.page
  have hlen := length_block fw.declared 0x4000 t
  rw [sendPages]
  dsimp only
  rw [hread, dif_neg (by omega), Int.toNat_natCast, hpage]
  by_cases hcommand : (a.command n).Complete bootloaderCommandSize
  · have hdata : ¬ DataSends (a.data n) 0
        (blocks 512 (((fw.declared.drop t).take 0x4000).drop 0)) :=
      fun hdata ↦ hfails ⟨hcommand, hdata⟩
    obtain ⟨data, res, hsend⟩ := sendPage_of_not_sends s.totalBytesSent hdata
    rw [if_neg (not_or.2 ⟨not_not.2 hcommand.1, not_not.2 hcommand.2⟩), hsend]
  · rw [if_pos (not_and_or.1 hcommand)]

/-- **The outer loop, if all transfers go through.** -/
theorem sendPages_of_sends (h : s.At fw t)
    (hsend : PagesSend a n (blocks 0x4000 (fw.declared.drop t))) :
    (sendPages fw a n s).done = true ∧
      (sendPages fw a n s).state.totalBytesSent = fw.declared.length ∧
      (sendPages fw a n s).state.audioTag =
        s.audioTag + UInt32.ofNat (blocks 0x4000 (fw.declared.drop t)).length ∧
      (sendPages fw a n s).exchanges =
        pageExchanges a n s.addr s.audioTag (blocks 0x4000 (fw.declared.drop t)) := by
  induction hm : fw.declared.length - t using Nat.strongRecOn generalizing n t s with
  | ind m ih =>
    rcases Nat.lt_or_ge t fw.declared.length with hlt | hge
    -- one page is left or more: it is sent, and the rest is the induction hypothesis
    · have hlen := length_block fw.declared 0x4000 t
      rw [blocks_drop (by decide) hlt] at hsend ⊢
      obtain _ | ⟨hcommand, hdata, hrest⟩ := hsend
      obtain ⟨hdone, htotal, htag, hexchanges⟩ := ih _ (by omega) h.next hrest rfl
      rw [sendPages_of_lt h hlt hcommand hdata]
      dsimp only
      refine ⟨hdone, htotal, htag.trans ?_, ?_⟩
      · rw [List.length_cons]
        exact tag_add_succ _ _
      · rw [hexchanges, pageExchanges]
        rfl
    · rw [sendPages_of_end h hge, blocks_drop_of_le (by decide) hge]
      exact ⟨rfl, h.totalBytesSent.trans (Nat.le_antisymm h.le hge), (UInt32.add_zero _).symm, rfl⟩

/-- **If one transfer fails**, the loop does not come to its end. -/
theorem sendPages_of_not_sends (h : s.At fw t)
    (hsend : ¬ PagesSend a n (blocks 0x4000 (fw.declared.drop t))) :
    (sendPages fw a n s).done = false := by
  induction hm : fw.declared.length - t using Nat.strongRecOn generalizing n t s with
  | ind m ih =>
    rcases Nat.lt_or_ge t fw.declared.length with hlt | hge
    · have hlen := length_block fw.declared 0x4000 t
      rw [blocks_drop (by decide) hlt] at hsend
      by_cases hpage : (a.command n).Complete bootloaderCommandSize ∧
          DataSends (a.data n) 0 (blocks 512 ((fw.declared.drop t).take 0x4000))
      · rw [sendPages_of_lt h hlt hpage.1 hpage.2]
        exact ih _ (by omega) h.next (fun hrest ↦ hsend (.cons hpage.1 hpage.2 hrest)) rfl
      · exact sendPages_of_lt_fails h hlt hpage
    · rw [blocks_drop_of_le (by decide) hge] at hsend
      exact absurd (.nil n) hsend

end Pages

/-! ### The upload

`bytesLeft` is an `int`. An image of `2 ^ 31` bytes or more makes it negative, so that no page is
sent at all, and the function fails unless the header declares no bytes either. -/

/-- **An upload goes through**: the image has all bytes that its header declares, `bytesLeft` can
hold their number, and all transfers to the device are complete. -/
structure Uploads (fw : FirmwareImage) (a : UploadAnswers) : Prop where
  declared : fw.header.size.toNat ≤ fw.size
  addressable : fw.size < 2 ^ 31 ∨ fw.header.size = 0
  pages : PagesSend a 0 fw.pages
  launch : (a.command fw.pages.length).Complete bootloaderCommandSize

/-- The exchange that launches the firmware. -/
def launchExchange (fw : FirmwareImage) (a : UploadAnswers) (tag : UInt32) : BootExchange where
  command := { magic := 0x06022009, tag := tag, bytes := 0, cmd := 0x04,
               addr := fw.header.entryAddr, unk := 0 }
  data := []
  reply := some (a.reply fw.pages.length)
  res := Bootloader.getReply tag (a.reply fw.pages.length)

section Upload

variable {fw : FirmwareImage} {a : UploadAnswers} {errno : ℤ} {tag : UInt32}

/-- The variables before the outer loop. -/
def LoaderState.initial (fw : FirmwareImage) (tag : UInt32) : LoaderState where
  readIndex := 0
  bytesLeft := (UInt32.ofNat fw.size).toInt32.toInt
  totalBytesSent := 0
  addr := fw.header.baseAddr
  audioTag := tag

/-- For any shorter image it is the size. -/
theorem bytesLeft_of_lt (tag : UInt32) (h : fw.size < 2 ^ 31) :
    (LoaderState.initial fw tag).bytesLeft = fw.size := by
  show (UInt32.ofNat fw.size).toBitVec.toInt = fw.size
  rw [BitVec.toInt_eq_toNat_of_lt] <;> simp <;> omega

/-- An image of `2 ^ 31` bytes has a negative `bytesLeft`. -/
theorem bytesLeft_of_le (tag : UInt32) (h : 2 ^ 31 ≤ fw.size) :
    (LoaderState.initial fw tag).bytesLeft < 0 := by
  have hlt : fw.size < 2 ^ 32 := fw.length_lt
  show (UInt32.ofNat fw.size).toBitVec.toInt < 0
  rw [BitVec.toInt_eq_toNat_cond]
  simp
  omega

/-- The loop begins at the start of the image. -/
theorem at_initial (tag : UInt32) (h : fw.size < 2 ^ 31) :
    (LoaderState.initial fw tag).At fw 0 where
  readIndex := rfl
  bytesLeft := (bytesLeft_of_lt tag h).trans (by omega)
  totalBytesSent := rfl
  le := Nat.zero_le _

/-- With a negative `bytesLeft` no page is sent. -/
theorem sendPages_of_negative (n : ℕ) {s : LoaderState} (h : s.bytesLeft < 0) :
    sendPages fw a n s = { exchanges := [], state := s, done := true } := by
  have hread : s.read fw.header.size ≤ 0 := by
    unfold LoaderState.read
    dsimp only
    split
    · omega
    · omega
  rw [sendPages]
  exact dif_pos hread

/-- **The loop of an upload that goes through.** -/
theorem sendPages_initial (tag : UInt32) (h : fw.size < 2 ^ 31 ∨ fw.header.size = 0)
    (hpages : PagesSend a 0 fw.pages) :
    (sendPages fw a 0 (.initial fw tag)).done = true ∧
      (sendPages fw a 0 (.initial fw tag)).state.totalBytesSent = fw.declared.length ∧
      (sendPages fw a 0 (.initial fw tag)).state.audioTag =
        tag + UInt32.ofNat fw.pages.length ∧
      (sendPages fw a 0 (.initial fw tag)).exchanges =
        pageExchanges a 0 fw.header.baseAddr tag fw.pages := by
  by_cases hlt : fw.size < 2 ^ 31
  · have hsends := sendPages_of_sends (n := 0) (at_initial tag hlt) hpages
    rw [List.drop_zero, ← FirmwareImage.pages] at hsends
    exact hsends
  · have hdeclared : fw.declared = [] := by
      rw [FirmwareImage.declared]
      rw [h.resolve_left hlt]
      rfl
    have hnone : fw.pages = [] := by
      rw [FirmwareImage.pages]
      rw [hdeclared, blocks_nil (by decide)]
    rw [sendPages_of_negative 0 (bytesLeft_of_le tag (Nat.not_lt.1 hlt)), hnone, hdeclared]
    exact ⟨rfl, rfl, (UInt32.add_zero _).symm, rfl⟩

/-- An image without a header is not sent. -/
theorem upload_of_short (h : fw.size < firmwareHeaderSize) :
    uploadFirmwareFromMemory fw errno tag a =
      { ret := -errno, audioTag := tag, exchanges := [] } :=
  if_pos h

/-- **An upload that goes through**: all pages, and then the launch. -/
theorem upload_of_uploads (hheader : firmwareHeaderSize ≤ fw.size) (h : Uploads fw a) :
    uploadFirmwareFromMemory fw errno tag a =
      { ret := 0
        audioTag := tag + UInt32.ofNat fw.pages.length + 1
        exchanges := pageExchanges a 0 fw.header.baseAddr tag fw.pages ++
          [launchExchange fw a (tag + UInt32.ofNat fw.pages.length)] } := by
  obtain ⟨hdone, htotal, htag, hexchanges⟩ := sendPages_initial tag h.addressable h.pages
  have hlen : fw.declared.length = fw.header.size.toNat :=
    (length_declared fw).trans (Nat.min_eq_left h.declared)
  rw [uploadFirmwareFromMemory, if_neg (Nat.not_lt.2 hheader)]
  dsimp only
  rw [← LoaderState.initial, hdone, if_neg (by decide), htotal, hlen, UInt32.ofNat_toNat,
    if_neg (not_not.2 rfl), htag, hexchanges, length_pageExchanges,
    if_neg (not_or.2 ⟨not_not.2 h.launch.1, not_not.2 h.launch.2⟩)]
  rfl

/-- Any other upload fails. -/
theorem upload_of_not_uploads (hheader : firmwareHeaderSize ≤ fw.size) (h : ¬ Uploads fw a) :
    (uploadFirmwareFromMemory fw errno tag a).ret = -1 := by
  rw [uploadFirmwareFromMemory, if_neg (Nat.not_lt.2 hheader)]
  dsimp only
  rw [← LoaderState.initial]
  by_cases hpages : (fw.size < 2 ^ 31 ∨ fw.header.size = 0) ∧ PagesSend a 0 fw.pages
  · -- the pages are sent, so there are too few bytes, or the launch fails
    obtain ⟨hdone, htotal, -, hexchanges⟩ := sendPages_initial tag hpages.1 hpages.2
    rw [hdone, if_neg (by decide), htotal, hexchanges, length_pageExchanges]
    split
    · rfl
    next heq =>
      split
      · rfl
      next hlaunch =>
        refine absurd ⟨?_, hpages.1, hpages.2, ?_⟩ h
        · have hnat := congrArg UInt32.toNat (not_not.1 heq)
          have hlen := length_declared fw
          have hlt : fw.size < 2 ^ 32 := fw.length_lt
          rw [UInt32.toNat_ofNat'] at hnat
          omega
        · obtain ⟨hres, htransferred⟩ := not_or.1 hlaunch
          exact ⟨not_not.1 hres, not_not.1 htransferred⟩
  · rcases Nat.lt_or_ge fw.size (2 ^ 31) with hlt | hge
    -- a transfer of a page has failed
    · rw [if_pos (sendPages_of_not_sends (at_initial tag hlt)
        fun hsend ↦ hpages ⟨Or.inl hlt, hsend⟩)]
    · -- no page is sent, and the image declares some bytes
      have hsize : fw.header.size ≠ 0 := by
        intro hsize
        refine hpages ⟨Or.inr hsize, ?_⟩
        have hnone : fw.pages = [] := by
          rw [FirmwareImage.pages, FirmwareImage.declared]
          rw [hsize]
          exact blocks_nil (by decide)
        rw [hnone]
        exact .nil 0
      have hne : UInt32.ofNat (LoaderState.initial fw tag).totalBytesSent ≠ fw.header.size :=
        hsize.symm
      rw [sendPages_of_negative 0 (bytesLeft_of_le tag hge)]
      dsimp only
      rw [if_neg (by decide), if_pos hne]

end Upload

end Freenect
