import Freenect.Firmware.Image

/-!
# What an upload that succeeds says about the device

`get_reply` looks at each reply and `upload_firmware_from_memory` does not look at `get_reply`, so a
value that is not negative says nothing about the replies. An image without a header returns
`-errno`, which nobody has set.

`Accepted` is what a caller may conclude from success if it takes it at its word: the image had all
its bytes, the last command was the launch, and the device answered each command with its own tag
and a status of zero. `upload_accepted_iff` says when a return value that is not negative means
that. For an image with a header it is a condition on the replies alone (`answered_iff`), because
nothing else stands between a transfer that goes through and the next one.
-/

namespace Freenect

/-- **The device has accepted the firmware**: the image was complete, it was launched, and each
command was answered by a status of zero. -/
structure Accepted (fw : FirmwareImage) (exchanges : List BootExchange) : Prop where
  header : firmwareHeaderSize ≤ fw.size
  declared : fw.header.size.toNat ≤ fw.size
  launched : ∃ e ∈ exchanges, e.command.cmd = 0x04 ∧ e.command.addr = fw.header.entryAddr
  answered : ∀ e ∈ exchanges, ∃ r, e.reply = some r ∧ r.Accepts e.command.tag

/-- The exchanges of an upload that goes through are answered as they should be if and only if each
reply accepts the tag of its command. -/
theorem answered_iff {fw : FirmwareImage} {a : UploadAnswers} {tag : UInt32} :
    (∀ e ∈ pageExchanges a 0 fw.header.baseAddr tag fw.pages ++
        [launchExchange fw a (tag + UInt32.ofNat fw.pages.length)],
      ∃ r, e.reply = some r ∧ r.Accepts e.command.tag) ↔
    ∀ n ≤ fw.pages.length, (a.reply n).Accepts (tag + UInt32.ofNat n) := by
  constructor
  · intro h n hn
    rcases Nat.lt_or_eq_of_le hn with hlt | rfl
    · -- the `n`-th page
      have hlen : n < (pageExchanges a 0 fw.header.baseAddr tag fw.pages).length := by
        rw [length_pageExchanges]
        exact hlt
      obtain ⟨htag, hreply⟩ := pageExchanges_tag (List.getElem?_eq_getElem hlen)
      obtain ⟨r, hr, haccepts⟩ := h _ (List.mem_append_left _ (List.getElem_mem hlen))
      obtain rfl := Option.some.inj (hreply.symm.trans hr)
      rwa [htag, Nat.zero_add] at haccepts
    -- the launch, whose number is that of the pages
    · obtain ⟨r, hr, haccepts⟩ := h _ (List.mem_append_right _ (List.mem_singleton_self _))
      obtain rfl := Option.some.inj hr
      exact haccepts
  · intro h e he
    rcases List.mem_append.1 he with he | he
    · obtain ⟨n, hlen, rfl⟩ := List.getElem_of_mem he
      obtain ⟨htag, hreply⟩ := pageExchanges_tag (List.getElem?_eq_getElem hlen)
      rw [length_pageExchanges] at hlen
      refine ⟨_, hreply, ?_⟩
      rw [htag, Nat.zero_add]
      exact h n hlen.le
    · obtain rfl := List.mem_singleton.1 he
      exact ⟨_, rfl, h _ le_rfl⟩

/-- **When success means that the device has accepted the firmware**: exactly if an image without a
header finds an error in `errno`, and an upload that goes through is answered as it should be. -/
theorem upload_accepted_iff (fw : FirmwareImage) (errno : ℤ) (tag : UInt32) (a : UploadAnswers) :
    (0 ≤ (uploadFirmwareFromMemory fw errno tag a).ret →
      Accepted fw (uploadFirmwareFromMemory fw errno tag a).exchanges) ↔
    (fw.size < firmwareHeaderSize → 0 < errno) ∧
    (firmwareHeaderSize ≤ fw.size → Uploads fw a →
      ∀ n ≤ fw.pages.length, (a.reply n).Accepts (tag + UInt32.ofNat n)) := by
  rcases Nat.lt_or_ge fw.size firmwareHeaderSize with hshort | hheader
  -- without a header the result is the errno that is found
  · rw [upload_of_short hshort]
    constructor
    · intro h
      refine ⟨fun _ ↦ ?_, fun hle ↦ absurd hle (Nat.not_le.2 hshort)⟩
      by_contra herrno
      have haccepted := h (Int.neg_nonneg_of_nonpos (Int.not_lt.1 herrno))
      exact absurd haccepted.header (Nat.not_le.2 hshort)
    · intro h hret
      exact absurd (h.1 hshort) (Int.not_lt.2 (Int.nonpos_of_neg_nonneg hret))
  · by_cases huploads : Uploads fw a
    · rw [upload_of_uploads hheader huploads]
      constructor
      · intro h
        refine ⟨fun hlt ↦ absurd hheader (Nat.not_le.2 hlt), fun _ _ ↦ ?_⟩
        exact answered_iff.1 (h (Int.le_refl 0)).answered
      · intro h _
        refine ⟨hheader, huploads.declared, ?_, answered_iff.2 (h.2 hheader huploads)⟩
        exact ⟨_, List.mem_append_right _ (List.mem_singleton_self _), rfl, rfl⟩
    -- an upload that does not go through returns an error
    · refine iff_of_true (fun hret ↦ ?_) ?_
      · rw [upload_of_not_uploads hheader huploads] at hret
        exact absurd hret (by decide)
      · exact ⟨fun hlt ↦ absurd hheader (Nat.not_le.2 hlt), fun _ h ↦ absurd h huploads⟩

/-- An image without bytes is a success if `errno` is zero, and so is a device that replies with
zeros. -/
theorem upload_not_accepted :
    ¬ (0 ≤ (uploadFirmwareFromMemory ⟨[], by decide⟩ 0 0 silentDevice).ret →
      Accepted ⟨[], by decide⟩
        (uploadFirmwareFromMemory ⟨[], by decide⟩ 0 0 silentDevice).exchanges) ∧
    ¬ (0 ≤ (uploadFirmwareFromMemory headerImage 0 0 silentDevice).ret →
      Accepted headerImage (uploadFirmwareFromMemory headerImage 0 0 silentDevice).exchanges) := by
  constructor
  · intro h
    rw [upload_of_short (by decide)] at h
    exact absurd (h (Int.le_refl 0)).header (by decide)
  · intro h
    have huploads : Uploads headerImage silentDevice :=
      ⟨by decide, Or.inl (by decide), silentDevice_succeed.pagesSend 0 _, ⟨rfl, rfl⟩⟩
    rw [upload_of_uploads (by decide) huploads] at h
    have hmagic := (answered_iff.1 (h (Int.le_refl 0)).answered 0 (Nat.zero_le _)).magic
    exact absurd hmagic (by decide)

end Freenect
