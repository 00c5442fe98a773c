import Freenect.Camera.Bayer
import Freenect.Camera.DepthProcess
import Freenect.Camera.Modes
import Freenect.Camera.Unpackers

/-!
# The conversions of the video stream

`convert_uyvy_to_rgb` and the `switch` of `video_process`. Each arm of the two switches, of the
video and of the depth stream, is taken together with the offsets of `raw_buf` that it reads and the
entries of `raw_to_mm_shift` that it looks up. `ConversionArm.Fits` says that these stay inside the
raw frame and inside the table, and that the arm fills the frame it hands out: `videoArm_fits` and
`depthArm_fits`, for every mode the tables have. Of the registered depth format this says what it
reads there; where it writes, and what it reads of the other two tables, depends on what the tables
of the device hold.

The reads are lists and not bounds, so that they can be read off the loops of the source one by one;
each bound is then found where the loop has been given its meaning (`decodedPairs_eq` here, and the
lemmas of `Bayer` and `Unpackers`).
-/

namespace Freenect

/-! ### YUV

The two nested loops take two pixels at a time from four bytes. The arithmetic is that of `int`,
with a division that rounds toward zero, and a clamp at the end. -/

/-- `CLAMP`. -/
def clamp (x : ℤ) : ℤ :=
  let x := if x < 0 then 0 else x
  if 255 < x then 255 else x

/-- `(y-16)*1164/1000`. The division of the source rounds toward zero. -/
def lumaTerm (y : UInt8) : ℤ := (((y.toNat : ℤ) - 16) * 1164).tdiv 1000

/-- A multiple of a colour difference, `(u-128)*factor/1000` or `(v-128)*factor/1000`. -/
def chromaTerm (factor : ℤ) (c : UInt8) : ℤ := (((c.toNat : ℤ) - 128) * factor).tdiv 1000

/-- `r1`, `g1` and `b1`, or `r2`, `g2` and `b2`, after `CLAMP`. -/
def rgbOfYuv (y u v : UInt8) : List ℤ :=
  [clamp (lumaTerm y + chromaTerm 1596 v),
    clamp (lumaTerm y - chromaTerm 813 v - chromaTerm 391 u),
    clamp (lumaTerm y + chromaTerm 2018 u)]

/-- One turn of the inner loop of `convert_uyvy_to_rgb`: what it reads of `raw_buf`, and what it
writes to `proc_buf` from `offset` on. -/
structure DecodedPair where
  reads : List ℕ
  offset : ℕ
  written : List UInt8

/-- The pair of pixels whose first one has number `i`. -/
def decodePair (raw : Bytes) (i : ℕ) : DecodedPair :=
  let u := raw (2 * i)
  let y1 := raw (2 * i + 1)
  let v := raw (2 * i + 2)
  let y2 := raw (2 * i + 3)
  { reads := [2 * i, 2 * i + 1, 2 * i + 2, 2 * i + 3]
    offset := 3 * i
    written := (rgbOfYuv y1 u v ++ rgbOfYuv y2 u v).map fun c ↦ UInt8.ofNat c.toNat }

/-- The two loops: `x` takes the even values below `width`. -/
def decodedPairs (raw : Bytes) (width height : ℕ) : List DecodedPair :=
  (List.range height).flatMap fun y ↦
    (List.range ((width + 1) / 2)).map fun k ↦ decodePair raw (width * y + 2 * k)

/-- `convert_uyvy_to_rgb`: what it writes, one pair behind the other. -/
def convertUyvyToRgb (raw : Bytes) (width height : ℕ) : List UInt8 :=
  (decodedPairs raw width height).flatMap DecodedPair.written

/-- The offsets that `convert_uyvy_to_rgb` reads. -/
def uyvyReads (raw : Bytes) (width height : ℕ) : List ℕ :=
  (decodedPairs raw width height).flatMap DecodedPair.reads

section Uyvy

variable (raw : Bytes)

/-- A turn writes two pixels. -/
@[simp] theorem length_written_decodePair (i : ℕ) : (decodePair raw i).written.length = 6 := rfl

/-- The pairs in a row: with an even width they cover the frame without a gap, in reading and in
writing. -/
theorem decodedPairs_eq (half height : ℕ) :
    decodedPairs raw (2 * half) height =
      (List.range (height * half)).map fun k ↦ decodePair raw (2 * k) := by
  have hhalf : (2 * half + 1) / 2 = half := by omega
  rw [decodedPairs, hhalf, ← ListBlocks.flatMap_range height half, List.map_flatMap]
  refine List.flatMap_congr fun y _ ↦ ?_
  rw [List.map_map]
  refine List.map_congr_left fun k _ ↦ ?_
  show decodePair raw (2 * half * y + 2 * k) = decodePair raw (2 * (y * half + k))
  rw [Nat.mul_add, Nat.mul_assoc, Nat.mul_comm half y]

/-- A picture of even width is written as a whole. -/
theorem length_convertUyvyToRgb (half height : ℕ) :
    (convertUyvyToRgb raw (2 * half) height).length = 6 * (height * half) := by
  rw [convertUyvyToRgb, decodedPairs_eq, List.flatMap_map, List.length_flatMap]
  simp only [length_written_decodePair, List.map_const', List.length_range,
    List.sum_replicate_nat]
  exact Nat.mul_comm _ _

/-- What is read lies in the raw frame. -/
theorem lt_of_mem_uyvyReads {half height k : ℕ} (hk : k ∈ uyvyReads raw (2 * half) height) :
    k < 4 * (height * half) := by
  rw [uyvyReads, decodedPairs_eq, List.flatMap_map] at hk
  obtain ⟨j, hj, hk⟩ := List.mem_flatMap.1 hk
  have hj := List.mem_range.1 hj
  simp only [decodePair, List.mem_cons, List.not_mem_nil, or_false] at hk
  omega

/-- A frame depends on what is read. -/
theorem convertUyvyToRgb_congr {raw' : Bytes} {half height : ℕ}
    (h : ∀ k < 4 * (height * half), raw k = raw' k) :
    convertUyvyToRgb raw (2 * half) height = convertUyvyToRgb raw' (2 * half) height := by
  rw [convertUyvyToRgb, convertUyvyToRgb, decodedPairs_eq, decodedPairs_eq, List.flatMap_map,
    List.flatMap_map]
  refine List.flatMap_congr fun k hk ↦ ?_
  have hk := List.mem_range.1 hk
  simp only [decodePair]
  rw [h _ (by omega), h _ (by omega), h _ (by omega), h _ (by omega)]

end Uyvy

/-! ### The two switches

An arm of a `switch`, with its reads beside it. The conversions to millimetres and the registration
look a raw value up in a table, so their arms have lookups too. -/

/-- An arm of a `switch` on the format: what it writes to `proc_buf`, the offsets of `raw_buf` that
it reads, and the indices at which it looks `raw_to_mm_shift` up, if it does. -/
structure ConversionArm where
  convert : Conversion
  reads : Bytes → List ℕ
  lookups : Bytes → List ℕ := fun _ ↦ []

/-- An arm for a raw frame of `rawBytes` bytes and a frame of `frameBytes`. -/
structure ConversionArm.Fits (arm : ConversionArm) (rawBytes frameBytes : ℕ) : Prop where
  /-- It reads the raw frame, and nothing behind it. -/
  reads : ∀ raw, ∀ k ∈ arm.reads raw, k < rawBytes
  /-- Whatever the raw frame holds, the table has an entry for it. -/
  lookups : ∀ raw, ∀ i ∈ arm.lookups raw, i < depthMaxRawValue
  /-- What it writes has the size of a frame. -/
  written : ∀ raw proc, (arm.convert raw proc).length = frameBytes
  /-- What it writes is made of the raw frame alone. -/
  determined : ∀ raw raw' proc proc', (∀ k < rawBytes, raw k = raw' k) →
    arm.convert raw proc = arm.convert raw' proc'

/-- The `switch` of `video_process`; `mode` is what `freenect_get_current_video_mode` returns. -/
def videoArm (big : Bool) (mode : FrameMode VideoFormat) : VideoFormat → Option ConversionArm
  | .rgb => some
    { convert := fun raw _ ↦ (convertBayerToRgb raw mode.width mode.height).written
      reads := fun raw ↦ (convertBayerToRgb raw mode.width mode.height).reads }
  | .ir10Bit => some
    { convert := fun raw _ ↦
        hostFrame big (convertPackedTo16bit raw 10 (mode.width * mode.height))
      reads := fun raw ↦ List.range
        (packedBytesRead (BitBuffer.toWord 10) raw 10 (mode.width * mode.height)) }
  | .ir8Bit => some
    { convert := fun raw _ ↦ convertPackedTo8bit raw 10 (mode.width * mode.height)
      reads := fun raw ↦ List.range
        (packedBytesRead (BitBuffer.toByte 10) raw 10 (mode.width * mode.height)) }
  | .yuvRgb => some
    { convert := fun raw _ ↦ convertUyvyToRgb raw mode.width mode.height
      reads := fun raw ↦ uyvyReads raw mode.width mode.height }
  | .bayer | .ir10BitPacked | .yuvRaw | .dummy => none

/-- `video_process`. -/
def videoProcess (big : Bool) (fmt : VideoFormat) (mode : FrameMode VideoFormat)
    (strm : PacketStream) (mem : Memory) (pkt : List UInt8) (chunkCb : Bool)
    (newBuf : Option Ptr) : PacketStream × Memory × Option FrameOut :=
  frameProcess ((videoArm big mode fmt).map ConversionArm.convert) strm mem pkt chunkCb newBuf

/-- What the arms of `depth_process` read: the unrolled unpacker, the generic one, and the cache of
eight pixels of the conversions to millimetres. -/
def depthReads (fmt : DepthFormat) (raw : Bytes) : List ℕ :=
  match fmt with
  | .d11Bit => packed11Reads 0 (640 * 480)
  | .registered | .mm => List.range
    (Mealy.run (fun u (_ : ℕ) ↦ u.next raw) Unpacker.start (List.range (640 * 480))).input
  | .d10Bit => List.range (packedBytesRead (BitBuffer.toWord 10) raw 10 (640 * 480))
  | .d10BitPacked | .d11BitPacked | .dummy => []

/-- The entries of `raw_to_mm_shift` that the conversions to millimetres look up: for each pixel the
one of the raw value that comes out of the cache. -/
def depthLookups (fmt : DepthFormat) (raw : Bytes) : List ℕ :=
  match fmt with
  | .registered | .mm =>
    (Mealy.trace (fun u (_ : ℕ) ↦ u.next raw) Unpacker.start (List.range (640 * 480))).map
      UInt16.toNat
  | .d11Bit | .d10Bit | .d10BitPacked | .d11BitPacked | .dummy => []

/-- The `switch` of `depth_process`. -/
def depthArm (big : Bool) (fmt : DepthFormat) (pad : RegPadInfo) (t : RegistrationTables) :
    Option ConversionArm :=
  (depthConversion big fmt pad t).map fun convert ↦
    { convert := convert, reads := depthReads fmt, lookups := depthLookups fmt }

/-! ### The arms fit

One lemma for each conversion, and from them one theorem for each `switch`. The frame sizes are
those of the mode tables, whose products of width and height are checked once
(`pictures_of_supported`). -/

section Bayer

variable {raw raw' : Bytes} {width height : ℕ}

/-- What the Bayer filter reads and writes, of the whole picture. -/
theorem values_convertBayerToRgb (raw : Bytes) (hwidth : 2 ≤ width) (hheight : 3 ≤ height) :
    (convertBayerToRgb raw width height).values =
      ((List.range height).flatMap (rowOffsets width height),
        (List.range height).flatMap fun y ↦
          (List.range width).flatMap (bayerTriple raw width height y)) := by
  have hrow : ∀ y (s : BayerFilter), y < height → (y < height → s.AtRow width y) →
      (y + 1 < height → (bayerRow raw width height s y).1.AtRow width (y + 1)) ∧
        (bayerRow raw width height s y).2.values = (rowOffsets width height y,
          (List.range width).flatMap (bayerTriple raw width height y)) :=
    fun y s hy hs ↦ ⟨(hs hy).next hwidth hheight, (hs hy).values_row hwidth hheight hy⟩
  have htrace := (Mealy.run_range (I := fun y (s : BayerFilter) ↦ y < height → s.AtRow width y)
    (fun _ ↦ BayerFilter.atRow_start) hrow).2
  rw [convertBayerToRgb, BayerOut.values_flatten, htrace, List.flatMap_map, List.flatMap_map]

/-- A mirrored neighbour of a column or line is one of the picture. -/
theorem mirrorPred_lt {i n : ℕ} (hn : 2 ≤ n) (hi : i < n) : mirrorPred i < n := by
  rw [mirrorPred]
  split
  · omega
  · omega

/-- The same on the other side. -/
theorem mirrorSucc_lt {i n : ℕ} (hn : 2 ≤ n) (hi : i < n) : mirrorSucc n i < n := by
  rw [mirrorSucc]
  split
  · omega
  · omega

/-- The colours of a pixel are made of the picture. -/
theorem bayerTriple_congr (hwidth : 2 ≤ width) (hheight : 3 ≤ height)
    (h : ∀ k < width * height, raw k = raw' k) {x y : ℕ} (hx : x < width) (hy : y < height) :
    bayerTriple raw width height y x = bayerTriple raw' width height y x := by
  have hbayer : ∀ i < width, ∀ j < height, bayerAt raw width i j = bayerAt raw' width i j := by
    intro i hi j hj
    rw [bayerAt, bayerAt, h (j * width + i)]
    calc j * width + i < (j + 1) * width := by rw [Nat.succ_mul]; omega
      _ ≤ height * width := Nat.mul_le_mul_right width hj
      _ = width * height := Nat.mul_comm height width
  have hpredX := mirrorPred_lt hwidth hx
  have hsuccX := mirrorSucc_lt hwidth hx
  have hpredY := mirrorPred_lt (by omega : 2 ≤ height) hy
  have hsuccY := mirrorSucc_lt (by omega : 2 ≤ height) hy
  have hvertical : ∀ i < width,
      verticalAverage raw width height i y = verticalAverage raw' width height i y := by
    intro i hi
    rw [verticalAverage, verticalAverage, hbayer i hi _ hpredY, hbayer i hi _ hsuccY]
  have hhorizontal : horizontalAverage raw width x y = horizontalAverage raw' width x y := by
    rw [horizontalAverage, horizontalAverage, hbayer _ hpredX y hy, hbayer _ hsuccX y hy]
  simp only [bayerTriple, crossAverage, cornerAverage, hhorizontal, hbayer x hx y hy,
    hvertical x hx, hvertical _ hpredX, hvertical _ hsuccX]

/-- The Bayer filter. -/
theorem bayer_fits (hwidth : 2 ≤ width) (hheight : 3 ≤ height) :
    ConversionArm.Fits
      { convert := fun raw _ ↦ (convertBayerToRgb raw width height).written
        reads := fun raw ↦ (convertBayerToRgb raw width height).reads }
      (width * height) (3 * width * height) where
  reads raw k hk := by
    have hreads : (convertBayerToRgb raw width height).reads = _ :=
      congrArg Prod.fst (values_convertBayerToRgb raw hwidth hheight)
    simp only [hreads] at hk
    obtain ⟨y, hy, hk⟩ := List.mem_flatMap.1 hk
    obtain ⟨x, hx, hk⟩ := mem_rowOffsets hwidth hk
    exact lt_of_mem_lineOffsets hheight hx (List.mem_range.1 hy) hk
  lookups _ _ hi := (List.not_mem_nil hi).elim
  written raw _ := by
    have hwritten : (convertBayerToRgb raw width height).written.map UInt8.toNat = _ :=
      congrArg Prod.snd (values_convertBayerToRgb raw hwidth hheight)
    rw [← length_pixels raw]
    exact (List.length_map _).symm.trans (congrArg List.length hwritten)
  -- two raw frames that agree on the picture have the same colours, pixel by pixel
  determined raw raw' _ _ h := by
    refine List.map_injective_iff.2 (fun _ _ ↦ UInt8.toNat_inj.1) ?_
    have hwritten : ∀ raw, (convertBayerToRgb raw width height).written.map UInt8.toNat = _ :=
      fun raw ↦ congrArg Prod.snd (values_convertBayerToRgb raw hwidth hheight)
    rw [hwritten raw, hwritten raw']
    refine List.flatMap_congr fun y hy ↦ List.flatMap_congr fun x hx ↦ ?_
    exact bayerTriple_congr hwidth hheight h (List.mem_range.1 hx) (List.mem_range.1 hy)

end Bayer

section Packed

variable (big : Bool) (n : ℕ)

/-- Words that were unpacked are as many as asked for, and made of the bytes read. -/
theorem convertPackedTo16bit_length (raw : Bytes) {vw : ℕ} (hvw : vw ≤ 16) :
    (convertPackedTo16bit raw vw n).length = n := by
  simpa using congrArg List.length (map_toNat_convertPackedTo16bit raw vw n hvw)

/-- The words depend on the bytes that are read. -/
theorem convertPackedTo16bit_congr {raw raw' : Bytes} {vw : ℕ} (hvw : vw ≤ 16)
    (h : ∀ k < (n * vw + 7) / 8, raw k = raw' k) :
    convertPackedTo16bit raw vw n = convertPackedTo16bit raw' vw n := by
  refine List.map_injective_iff.2 (fun _ _ ↦ UInt16.toNat_inj.1) ?_
  rw [map_toNat_convertPackedTo16bit raw vw n hvw, map_toNat_convertPackedTo16bit raw' vw n hvw]
  exact List.map_congr_left fun i hi ↦ packedField_congr (List.mem_range.1 hi) h

/-- The unpacker to words. -/
theorem packed_fits :
    ConversionArm.Fits
      { convert := fun raw _ ↦ hostFrame big (convertPackedTo16bit raw 10 n)
        reads := fun raw ↦ List.range (packedBytesRead (BitBuffer.toWord 10) raw 10 n) }
      ((n * 10 + 7) / 8) (2 * n) where
  reads raw _ hk := (List.mem_range.1 hk).trans_le (packedBytesRead_eq raw 10 n _).le
  lookups _ _ hi := (List.not_mem_nil hi).elim
  written raw _ := by
    rw [length_hostFrame, convertPackedTo16bit_length n raw (by decide)]
  determined raw raw' _ _ h :=
    congrArg (hostFrame big) (convertPackedTo16bit_congr n (by decide) h)

/-- The unpacker to bytes. -/
theorem packedTop_fits :
    ConversionArm.Fits
      { convert := fun raw _ ↦ convertPackedTo8bit raw 10 n
        reads := fun raw ↦ List.range (packedBytesRead (BitBuffer.toByte 10) raw 10 n) }
      ((n * 10 + 7) / 8) n where
  reads raw _ hk := (List.mem_range.1 hk).trans_le (packedBytesRead_eq raw 10 n _).le
  lookups _ _ hi := (List.not_mem_nil hi).elim
  written raw _ := by
    simpa using congrArg List.length
      (map_toNat_convertPackedTo8bit raw 10 n (by decide) (by decide))
  determined raw raw' _ _ h := by
    refine List.map_injective_iff.2 (fun _ _ ↦ UInt8.toNat_inj.1) ?_
    rw [map_toNat_convertPackedTo8bit raw 10 n (by decide) (by decide),
      map_toNat_convertPackedTo8bit raw' 10 n (by decide) (by decide)]
    refine List.map_congr_left fun i hi ↦ ?_
    rw [packedField_congr (List.mem_range.1 hi) h]

/-- The YUV decoder. -/
theorem uyvy_fits (half height : ℕ) :
    ConversionArm.Fits
      { convert := fun raw _ ↦ convertUyvyToRgb raw (2 * half) height
        reads := fun raw ↦ uyvyReads raw (2 * half) height }
      (4 * (height * half)) (6 * (height * half)) where
  reads raw _ hk := lt_of_mem_uyvyReads raw hk
  lookups _ _ hi := (List.not_mem_nil hi).elim
  written raw _ := length_convertUyvyToRgb raw half height
  determined raw _ _ _ h := convertUyvyToRgb_congr raw h

/-- The first `n` pixels of eleven bits, `n` a multiple of eight. -/
theorem packedPixel_congr {raw raw' : Bytes} (h : ∀ k < (n * 11 + 7) / 8, raw k = raw' k)
    {i : ℕ} (hi : i < n) : packedPixel raw i = packedPixel raw' i := by
  rw [packedPixel_eq, packedPixel_eq, packedField_congr hi h]

end Packed

/-- The bytes of the raw frame that the arm of a format takes: one byte a pixel, ten bits, or two
bytes. -/
def rawFrameBytes (mode : FrameMode VideoFormat) : VideoFormat → ℕ
  | .rgb => mode.width * mode.height
  | .ir8Bit | .ir10Bit => (mode.width * mode.height * 10 + 7) / 8
  | .yuvRgb => 4 * (mode.height * (mode.width / 2))
  | .bayer | .ir10BitPacked | .yuvRaw | .dummy => mode.bytes

/-- What the arms need to know of a mode. -/
structure FrameMode.Pictures (mode : FrameMode VideoFormat) : Prop where
  even : mode.width = 2 * (mode.width / 2)
  width : 2 ≤ mode.width
  height : 3 ≤ mode.height
  rgb : mode.format = .rgb → mode.bytes = 3 * mode.width * mode.height
  ir10Bit : mode.format = .ir10Bit → mode.bytes = 2 * (mode.width * mode.height)
  ir8Bit : mode.format = .ir8Bit → mode.bytes = mode.width * mode.height
  yuvRgb : mode.format = .yuvRgb → mode.bytes = 6 * (mode.height * (mode.width / 2))

/-- Every mode of the table is as the arms need it. -/
theorem pictures_of_supported : ∀ mode ∈ supportedVideoModes, mode.Pictures := by
  intro mode hmode
  obtain ⟨heven, hwidth, hheight, hrgb, hir10, hir8, hyuv⟩ :
      mode.width = 2 * (mode.width / 2) ∧ 2 ≤ mode.width ∧ 3 ≤ mode.height ∧
        (mode.format = .rgb → mode.bytes = 3 * mode.width * mode.height) ∧
        (mode.format = .ir10Bit → mode.bytes = 2 * (mode.width * mode.height)) ∧
        (mode.format = .ir8Bit → mode.bytes = mode.width * mode.height) ∧
        (mode.format = .yuvRgb → mode.bytes = 6 * (mode.height * (mode.width / 2))) := by
    revert mode
    decide
  exact ⟨heven, hwidth, hheight, hrgb, hir10, hir8, hyuv⟩

/-- **Every arm of `video_process` fits** the raw frame it takes and the frame that the mode
promises to the client. -/
theorem videoArm_fits (big : Bool) {mode : FrameMode VideoFormat}
    (hmode : mode ∈ supportedVideoModes) {arm : ConversionArm}
    (harm : videoArm big mode mode.format = some arm) :
    arm.Fits (rawFrameBytes mode mode.format) mode.bytes := by
  have h := pictures_of_supported mode hmode
  cases hfmt : mode.format <;> rw [hfmt] at harm <;> cases harm
  case rgb =>
    rw [h.rgb hfmt]
    exact bayer_fits h.width h.height
  case ir8Bit =>
    rw [h.ir8Bit hfmt]
    exact packedTop_fits _
  case ir10Bit =>
    rw [h.ir10Bit hfmt]
    exact packed_fits big _
  case yuvRgb =>
    rw [h.yuvRgb hfmt, h.even]
    simpa only [rawFrameBytes, ← h.even] using uyvy_fits (mode.width / 2) mode.height

/-- The bytes of a depth frame as the camera packs it. -/
def packedFrameBytes : DepthFormat → ℕ
  | .d10Bit | .d10BitPacked => 640 * 480 * 10 / 8
  | .d11Bit | .d11BitPacked | .registered | .mm => 640 * 480 * 11 / 8
  | .dummy => 0

/-- The unpackers read the packed frame, those of the registration included. -/
theorem lt_of_mem_depthReads {fmt : DepthFormat} {raw : Bytes} {k : ℕ}
    (hk : k ∈ depthReads fmt raw) : k < packedFrameBytes fmt := by
  have hcache : (Mealy.run (fun u (_ : ℕ) ↦ u.next raw) Unpacker.start
      (List.range (640 * 480))).input = 640 * 480 * 11 / 8 :=
    (run_unpacker_next raw (640 * 480)).1.input_eq
  cases fmt with
  | d11Bit =>
    rw [depthReads, packed11Reads_eq] at hk
    obtain ⟨j, hj, rfl⟩ := List.mem_map.1 hk
    have hj := List.mem_range.1 hj
    rw [packedFrameBytes]
    omega
  | d10Bit => exact (List.mem_range.1 hk).trans_le (packedBytesRead_eq raw 10 (640 * 480) _).le
  | registered => exact (List.mem_range.1 hk).trans_le hcache.le
  | mm => exact (List.mem_range.1 hk).trans_le hcache.le
  | d11BitPacked => cases hk
  | d10BitPacked => cases hk
  | dummy => cases hk

/-- A raw value has eleven bits, and the table an entry for each. -/
theorem packedPixel_lt (raw : Bytes) (i : ℕ) : (packedPixel raw i).toNat < depthMaxRawValue := by
  have hlt : packedField raw 11 i < 2 ^ 11 := packedField_lt raw 11 i
  rw [packedPixel_eq, UInt16.toNat_ofNat', Nat.mod_eq_of_lt (hlt.trans (by decide))]
  exact hlt

/-- Every lookup is inside the table. -/
theorem lt_of_mem_depthLookups {fmt : DepthFormat} {raw : Bytes} {i : ℕ}
    (hi : i ∈ depthLookups fmt raw) : i < depthMaxRawValue := by
  have hcache (h : i ∈ (Mealy.trace (fun u (_ : ℕ) ↦ u.next raw) Unpacker.start
      (List.range (640 * 480))).map UInt16.toNat) : i < depthMaxRawValue := by
    rw [(run_unpacker_next raw (640 * 480)).2] at h
    obtain ⟨v, hv, rfl⟩ := List.mem_map.1 h
    obtain ⟨k, -, rfl⟩ := List.mem_map.1 hv
    exact packedPixel_lt raw k
  cases fmt with
  | registered => exact hcache hi
  | mm => exact hcache hi
  | d11Bit => cases hi
  | d10Bit => cases hi
  | d11BitPacked => cases hi
  | d10BitPacked => cases hi
  | dummy => cases hi

section Depth

variable {big : Bool} {fmt : DepthFormat} {pad : RegPadInfo} {t : RegistrationTables}
  {convert : Conversion}

/-- An unpacked depth frame has 640 by 480 words. -/
theorem length_depthConversion (hfmt : fmt ≠ .registered)
    (hconvert : depthConversion big fmt pad t = some convert) (raw proc : ℕ → UInt8) :
    (convert raw proc).length = 640 * 480 * 2 := by
  cases fmt with
  | d11Bit =>
    obtain rfl := Option.some.inj hconvert
    rw [length_hostFrame, convertPacked11To16bit_eq_map, List.length_map, List.length_range]
  | d10Bit =>
    obtain rfl := Option.some.inj hconvert
    exact (packed_fits big (640 * 480)).written raw proc
  | mm =>
    obtain rfl := Option.some.inj hconvert
    rw [length_hostFrame, imageOf, List.length_map, List.length_range, pixelCount]
    rfl
  | registered => exact absurd rfl hfmt
  | d11BitPacked => cases hconvert
  | d10BitPacked => cases hconvert
  | dummy => cases hconvert

/-- It is made of the packed frame alone. -/
theorem depthConversion_congr (hfmt : fmt ≠ .registered)
    (hconvert : depthConversion big fmt pad t = some convert) {raw raw' : Bytes}
    (proc proc' : ℕ → UInt8) (h : ∀ k < packedFrameBytes fmt, raw k = raw' k) :
    convert raw proc = convert raw' proc' := by
  -- format by format; the packed formats and the dummy have no conversion
  cases fmt with
  | d11Bit =>
    obtain rfl := Option.some.inj hconvert
    have h : ∀ k < (640 * 480 * 11 + 7) / 8, raw k = raw' k := h
    refine congrArg (hostFrame big) ?_
    rw [convertPacked11To16bit_eq_map, convertPacked11To16bit_eq_map]
    exact List.map_congr_left fun i hi ↦ packedPixel_congr (640 * 480) h (List.mem_range.1 hi)
  | d10Bit =>
    obtain rfl := Option.some.inj hconvert
    exact (packed_fits big (640 * 480)).determined raw raw' proc proc' h
  | mm =>
    obtain rfl := Option.some.inj hconvert
    have h : ∀ k < (pixelCount * 11 + 7) / 8, raw k = raw' k := h
    refine congrArg (hostFrame big) (List.map_congr_left fun i hi ↦ ?_)
    have hi : i < pixelCount := List.mem_range.1 hi
    rw [applyDepthToMm_eq, applyDepthToMm_eq]
    dsimp only
    rw [if_pos hi, if_pos hi, packedPixel_congr pixelCount h hi]
  | registered => exact absurd rfl hfmt
  | d11BitPacked => cases hconvert
  | d10BitPacked => cases hconvert
  | dummy => cases hconvert

/-- **The arms of `depth_process` fit** the packed frame they take and the frame of 640 by 480
words. -/
theorem depthArm_fits (hfmt : fmt ≠ .registered) {arm : ConversionArm}
    (harm : depthArm big fmt pad t = some arm) :
    arm.Fits (packedFrameBytes fmt) (640 * 480 * 2) := by
  obtain ⟨convert, hconvert, rfl⟩ := Option.map_eq_some_iff.1 harm
  exact ⟨fun raw k hk ↦ lt_of_mem_depthReads (show k ∈ depthReads fmt raw from hk),
    fun raw i hi ↦ lt_of_mem_depthLookups (show i ∈ depthLookups fmt raw from hi),
    length_depthConversion hfmt hconvert,
    fun raw raw' proc proc' ↦ depthConversion_congr hfmt hconvert proc proc'⟩

end Depth

end Freenect
