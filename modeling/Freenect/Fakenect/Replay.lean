import Freenect.Camera.DepthProcess
import Freenect.Fakenect.DeviceInfo

/-!
# Recording a depth frame and playing it back

The recorder runs the driver in the 11-bit format and writes each frame as the driver converted it,
behind a one-line header; the player reads the file back and converts it to the format its client
asked for. The driver converts from packed pixels with an eight-pixel cache, the player from 16-bit
words: `replay_agrees` says that the client cannot tell the two apart, whatever the device's
registration data and whatever the two output buffers held before.
-/

namespace Freenect

/-! ### The recorder -/

/-- What `dump_depth` prints in front of the frame: `P5 640 480 65535` and a newline. -/
def pgmHeader : List UInt8 :=
  [0x50, 0x35, 0x20, 0x36, 0x34, 0x30, 0x20, 0x34, 0x38, 0x30, 0x20, 0x36, 0x35, 0x35, 0x33, 0x35,
    0x0a]

/-- `dump_depth`: the file for a frame of `data_size` bytes. -/
def dumpDepth (data : List UInt8) (dataSize : ℕ) : List UInt8 := pgmHeader ++ data.take dataSize

/-- The bytes of a mode with 16-bit pixels, in both tables of modes. -/
def frameBytes : ℕ := 640 * 480 * 2

/-- The recorder's `depth_cb`: it is handed the driver's 11-bit frame of the packed frame `p`. -/
def recordDepth (big : Bool) (p : Bytes) : List UInt8 :=
  dumpDepth (hostFrame big (convertPacked11To16bit p (640 * 480))) frameBytes

/-! ### The player -/

/-- `skip_line`: what is behind the first newline. `none` is the `exit` of a file without one;
`strchr` stops at a zero byte. -/
def skipLine : List UInt8 → Option (List UInt8)
  | [] => none
  | c :: rest => if c = 0x0a then some rest else if c = 0 then none else skipLine rest

/-- The arm `'d'` of the player's `freenect_process_events`: the frame handed to the depth callback.
The formats the player does not know end in `assert(0)`. -/
def replayFrame (big : Bool) (fmt : DepthFormat) (pad : RegPadInfo) (t : RegistrationTables)
    (curDepth : List UInt8) (depthBuffer : ℕ → UInt8) : Option (List UInt8) :=
  let words := hostWord big fun k ↦ curDepth.getD k 0
  match fmt with
  | .d11Bit => some (curDepth.take frameBytes)
  | .registered =>
    some (hostFrame big (registeredFrame pad t (.unpacked words) (hostWord big depthBuffer)))
  | .mm =>
    some (hostFrame big (imageOf (applyDepthUnpackedToMm t words (hostWord big depthBuffer))))
  | .d10Bit | .d10BitPacked | .d11BitPacked | .dummy => none

section Replay

variable {F D : Type} [Mul F] [IntCast F] [Add D] [Sub D] [Mul D] [Div D] [IntCast D]
  [OfScientific D] [LT D] [DecidableLT D] [LE D] [DecidableLE D] [FloatConversions F D]

/-- Playing a depth file on a device with registration data `reg`. -/
def replayDepth (big : Bool) (fmt : DepthFormat) (reg : RegistrationData F D)
    (data : List UInt8) (depthBuffer : ℕ → UInt8) : Option (List UInt8) :=
  (skipLine data).bind fun curDepth ↦
    replayFrame big fmt reg.regPadInfo (completeTables reg) curDepth depthBuffer

/-! ### Live and replayed frames -/

/-- What is behind the header of a file is the frame. -/
theorem skipLine_dumpDepth (data : List UInt8) (n : ℕ) :
    skipLine (dumpDepth data n) = some (data.take n) := rfl

/-- The recorded words are the packed pixels. -/
theorem hostWord_recorded (big : Bool) (p : Bytes) {i : ℕ} (hi : i < pixelCount) :
    hostWord big (fun k ↦ ((hostFrame big (convertPacked11To16bit p (640 * 480))).take
      frameBytes).getD k 0) i = packedPixel p i := by
  have hconv : convertPacked11To16bit p (640 * 480) = (List.range pixelCount).map (packedPixel p) :=
    convertPacked11To16bit_eq p ⟨38400, by decide⟩
  have hlen : ((List.range pixelCount).map (packedPixel p)).length = pixelCount := by simp
  rw [hconv, List.take_of_length_le (by rw [length_hostFrame, hlen]; decide),
    hostWord_hostFrame big _ (by rwa [hlen])]
  simp

/-- The tables do not use what is not recorded. -/
theorem completeTables_recordedOver (reg : RegistrationData F D) (old : RegInfo) :
    completeTables { reg with regInfo := reg.regInfo.recordedOver old } = completeTables reg := rfl

/-- On the recording of `p` the player hands out what `depth_process` makes of `p`. `reg` is the
registration data of the device that was recorded, `fake` what the player's device had before it
read the recording. -/
def ReplayAgrees (big : Bool) (reg fake : RegistrationData F D) (p : Bytes)
    (procBuf depthBuffer : ℕ → UInt8) (fmt : DepthFormat) : Prop :=
  ∃ convert, depthConversion big fmt reg.regPadInfo (completeTables reg) = some convert ∧
    replayDepth big fmt (readDeviceInfo fake (writeDeviceInfo reg)) (recordDepth big p)
      depthBuffer = some (convert p procBuf)

/-- **Replay agrees with the live driver** in the three formats the player supports. -/
theorem replay_agrees (big : Bool) (reg fake : RegistrationData F D) (p : Bytes)
    (procBuf depthBuffer : ℕ → UInt8) :
    ReplayAgrees big reg fake p procBuf depthBuffer .registered ∧
      ReplayAgrees big reg fake p procBuf depthBuffer .mm ∧
      ReplayAgrees big reg fake p procBuf depthBuffer .d11Bit := by
  have hread := readDeviceInfo_writeDeviceInfo fake reg
  refine ⟨⟨_, rfl, ?_⟩, ⟨_, rfl, ?_⟩, ⟨_, rfl, ?_⟩⟩ <;>
    rw [replayDepth, hread, completeTables_recordedOver, recordDepth, skipLine_dumpDepth]
  · -- registered: the two inputs have the same raw values
    refine congrArg (fun frame ↦ some (hostFrame big frame)) (registeredFrame_congr fun i hi ↦ ?_)
    exact hostWord_recorded big p hi
  · -- millimetres: pixel by pixel
    refine congrArg (fun frame ↦ some (hostFrame big frame)) ?_
    rw [applyDepthToMm_eq, applyDepthUnpackedToMm_eq]
    refine List.map_congr_left fun i hi ↦ ?_
    have hi : i < pixelCount := List.mem_range.1 hi
    rw [if_pos hi, if_pos hi, hostWord_recorded big p hi]
  · -- 11 bit: the bytes of the file
    refine congrArg some ?_
    rw [List.take_take, Nat.min_self, List.take_of_length_le]
    rw [length_hostFrame, convertPacked11To16bit_eq p ⟨38400, by decide⟩, List.length_map,
      List.length_range]
    decide

end Replay

end Freenect
