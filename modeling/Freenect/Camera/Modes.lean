import Mathlib.Data.List.Basic

/-!
# Frame modes

The enumerations of `libfreenect.h`, `freenect_frame_mode` with the two tables of supported modes of
`cameras.c`, and the functions that look a mode up. A lookup that fails returns a record of which
only `is_valid` is set; what the other fields hold then is not determined by the code, and is an
argument here (`junk`).

The tables are lists in the order of the source, since a lookup takes the first row that fits. What
a format has rows for is decidable (`VideoSupported`, `DepthSupported`), so that a statement about
all modes can be checked row by row.
-/

namespace Freenect

/-- `freenect_resolution`. -/
inductive Resolution
  | low
  | medium
  | high
  | dummy
  deriving DecidableEq, Repr

/-- `freenect_video_format`. -/
inductive VideoFormat
  | rgb
  | bayer
  | ir8Bit
  | ir10Bit
  | ir10BitPacked
  | yuvRgb
  | yuvRaw
  | dummy
  deriving DecidableEq, Repr

/-- `freenect_depth_format`. -/
inductive DepthFormat
  | d11Bit
  | d10Bit
  | d11BitPacked
  | d10BitPacked
  | registered
  | mm
  | dummy
  deriving DecidableEq, Repr

/-- The value of an enumerator. -/
def Resolution.toNat : Resolution → ℕ
  | low => 0
  | medium => 1
  | high => 2
  | dummy => 2147483647

/-- The value of an enumerator. -/
def VideoFormat.toNat : VideoFormat → ℕ
  | rgb => 0
  | bayer => 1
  | ir8Bit => 2
  | ir10Bit => 3
  | ir10BitPacked => 4
  | yuvRgb => 5
  | yuvRaw => 6
  | dummy => 2147483647

/-- The value of an enumerator. -/
def DepthFormat.toNat : DepthFormat → ℕ
  | d11Bit => 0
  | d10Bit => 1
  | d11BitPacked => 2
  | d10BitPacked => 3
  | registered => 4
  | mm => 5
  | dummy => 2147483647

/-- `MAKE_RESERVED`. -/
def makeReserved (res fmt : ℕ) : ℕ := (res &&& 0xff) <<< 8 ||| (fmt &&& 0xff)

/-- `freenect_frame_mode`; `φ` is the format it is about, `freenect_video_format` or
`freenect_depth_format`. -/
structure FrameMode (φ : Type) where
  reserved : ℕ
  resolution : Resolution
  format : φ
  bytes : ℕ
  width : ℕ
  height : ℕ
  dataBitsPerPixel : ℕ
  paddingBitsPerPixel : ℕ
  framerate : ℕ
  isValid : Bool
  deriving DecidableEq, Repr

/-- A row of `supported_video_modes`. -/
def videoMode (res : Resolution) (fmt : VideoFormat)
    (bytes width height dataBits paddingBits framerate : ℕ) : FrameMode VideoFormat where
  reserved := makeReserved res.toNat fmt.toNat
  resolution := res
  format := fmt
  bytes := bytes
  width := width
  height := height
  dataBitsPerPixel := dataBits
  paddingBitsPerPixel := paddingBits
  framerate := framerate
  isValid := true

/-- A row of `supported_depth_modes`. -/
def depthMode (fmt : DepthFormat) (bytes dataBits paddingBits : ℕ) : FrameMode DepthFormat where
  reserved := makeReserved Resolution.medium.toNat fmt.toNat
  resolution := .medium
  format := fmt
  bytes := bytes
  width := 640
  height := 480
  dataBitsPerPixel := dataBits
  paddingBitsPerPixel := paddingBits
  framerate := 30
  isValid := true

/-- `supported_video_modes`. -/
def supportedVideoModes : List (FrameMode VideoFormat) :=
  [videoMode .high .rgb (1280 * 1024 * 3) 1280 1024 24 0 10,
    videoMode .medium .rgb (640 * 480 * 3) 640 480 24 0 30,
    videoMode .high .bayer (1280 * 1024) 1280 1024 8 0 10,
    videoMode .medium .bayer (640 * 480) 640 480 8 0 30,
    videoMode .high .ir8Bit (1280 * 1024) 1280 1024 8 0 10,
    videoMode .medium .ir8Bit (640 * 488) 640 488 8 0 30,
    videoMode .high .ir10Bit (1280 * 1024 * 2) 1280 1024 10 6 10,
    videoMode .medium .ir10Bit (640 * 488 * 2) 640 488 10 6 30,
    videoMode .high .ir10BitPacked (1280 * 1024 * 10 / 8) 1280 1024 10 0 10,
    videoMode .medium .ir10BitPacked (640 * 488 * 10 / 8) 640 488 10 0 30,
    videoMode .medium .yuvRgb (640 * 480 * 3) 640 480 24 0 15,
    videoMode .medium .yuvRaw (640 * 480 * 2) 640 480 16 0 15]

/-- `supported_depth_modes`. -/
def supportedDepthModes : List (FrameMode DepthFormat) :=
  [depthMode .d11Bit (640 * 480 * 2) 11 5,
    depthMode .d10Bit (640 * 480 * 2) 10 6,
    depthMode .d11BitPacked (640 * 480 * 11 / 8) 11 0,
    depthMode .d10BitPacked (640 * 480 * 10 / 8) 10 0,
    depthMode .registered (640 * 480 * 2) 16 0,
    depthMode .mm (640 * 480 * 2) 16 0]

/-- The lookup of both functions below. -/
def findMode {φ : Type} (modes : List (FrameMode φ)) (junk : FrameMode φ) (uniqueId : ℕ) :
    FrameMode φ :=
  match modes.find? fun mode ↦ mode.reserved = uniqueId with
  | some mode => mode
  | none => { junk with isValid := false }

/-- `freenect_find_video_mode`. -/
def findVideoMode (junk : FrameMode VideoFormat) (res : Resolution) (fmt : VideoFormat) :
    FrameMode VideoFormat :=
  findMode supportedVideoModes junk (makeReserved res.toNat fmt.toNat)

/-- `freenect_find_depth_mode`. -/
def findDepthMode (junk : FrameMode DepthFormat) (res : Resolution) (fmt : DepthFormat) :
    FrameMode DepthFormat :=
  findMode supportedDepthModes junk (makeReserved res.toNat fmt.toNat)

/-- A pair the video table has. -/
def VideoSupported (res : Resolution) (fmt : VideoFormat) : Prop :=
  (supportedVideoModes.find? fun mode ↦
    mode.reserved = makeReserved res.toNat fmt.toNat).isSome = true

/-- A pair the depth table has. -/
def DepthSupported (res : Resolution) (fmt : DepthFormat) : Prop :=
  (supportedDepthModes.find? fun mode ↦
    mode.reserved = makeReserved res.toNat fmt.toNat).isSome = true

instance (res : Resolution) (fmt : VideoFormat) : Decidable (VideoSupported res fmt) :=
  inferInstanceAs (Decidable (_ = true))

instance (res : Resolution) (fmt : DepthFormat) : Decidable (DepthSupported res fmt) :=
  inferInstanceAs (Decidable (_ = true))

end Freenect
