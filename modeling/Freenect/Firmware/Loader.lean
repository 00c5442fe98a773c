import Freenect.Camera.PacketStream

/-!
# The firmware loader

`upload_firmware_from_memory` of `loader.c`: the image is sent in pages, each announced by a command
to the bootloader and answered by a status code, and the last command launches it.

The bulk transfers are arguments: what `fnusb_bulk` returned for each, by the number of the command
and, for the data of a page, the number of the transfer and the length that was asked for. What the
function did is the list of its exchanges. `get_reply` says whether an answer is in order, and
nobody looks at what it says.

The two loops keep their variables with the widths of the source. `bytesLeft` is an `int` and starts
as the size of the image, which is an `unsigned int`; `addr` and `tag` are 32-bit numbers; the tag
counts on in the device and is not reset between uploads. A transfer that fails, or goes through
only in part, ends the function at once (`return -1`), and then its exchange is the last of the
list.
-/

namespace Freenect

/-- `bootloader_command`. -/
structure BootloaderCommand where
  magic : UInt32
  tag : UInt32
  bytes : UInt32
  cmd : UInt32
  addr : UInt32
  unk : UInt32
  deriving DecidableEq, Repr

/-- `sizeof(bootloader_command)`. -/
def bootloaderCommandSize : ℕ := 24

/-- `firmware_header`, without the version, which is only logged. -/
structure FirmwareHeader where
  magic : UInt32
  baseAddr : UInt32
  size : UInt32
  entryAddr : UInt32
  deriving DecidableEq, Repr

/-- `sizeof(firmware_header)`. -/
def firmwareHeaderSize : ℕ := 24

/-- The header at the start of an image, which is little-endian. -/
def FirmwareHeader.ofBytes (fw : List UInt8) : FirmwareHeader :=
  let word (i : ℕ) := le32 (fw.getD i 0) (fw.getD (i + 1) 0) (fw.getD (i + 2) 0) (fw.getD (i + 3) 0)
  { magic := word 0, baseAddr := word 12, size := word 16, entryAddr := word 20 }

/-- An image in memory: its size is an `unsigned int`. -/
structure FirmwareImage where
  bytes : List UInt8
  length_lt : bytes.length < 2 ^ 32

namespace FirmwareImage

variable (fw : FirmwareImage)

/-- The size of the image. -/
def size : ℕ := fw.bytes.length

/-- The header of the image. -/
def header : FirmwareHeader := .ofBytes fw.bytes

end FirmwareImage

/-! ### Transfers

What `fnusb_bulk` reports of a transfer is the value it returns and the number of bytes; the two are
looked at separately. -/

/-- A bulk transfer to the device: the value `fnusb_bulk` returned, and `transferred`. -/
structure BulkOut where
  res : ℤ
  transferred : ℤ
  deriving DecidableEq, Repr

/-- A bulk transfer from the device, with what `dump` holds after it. -/
structure BulkIn extends BulkOut where
  dump : ℕ → UInt8

/-- All of a transfer of `len` bytes went through. -/
def BulkOut.Complete (o : BulkOut) (len : ℕ) : Prop := o.res = 0 ∧ o.transferred = len

instance (o : BulkOut) (len : ℕ) : Decidable (o.Complete len) := inferInstanceAs (Decidable (_ ∧ _))

namespace BulkIn

variable (r : BulkIn)

/-- A little-endian word of `bootloader_status_code`. -/
def word (i : ℕ) : UInt32 := le32 (r.dump i) (r.dump (i + 1)) (r.dump (i + 2)) (r.dump (i + 3))

/-- `buffer.magic`. -/
def magic : UInt32 := r.word 0

/-- `buffer.tag`. -/
def tag : UInt32 := r.word 4

/-- `buffer.status`. -/
def status : UInt32 := r.word 8

end BulkIn

/-- `sizeof(bootloader_status_code)`. -/
def bootloaderStatusCodeSize : ℕ := 12

/-- `get_reply`. A status other than zero is only logged. -/
def Bootloader.getReply (audioTag : UInt32) (r : BulkIn) : ℤ :=
  if r.res ≠ 0 ∨ r.transferred ≠ bootloaderStatusCodeSize then r.res
  else if r.magic ≠ 0x0a6fe000 then -1
  else if r.tag ≠ audioTag then -1
  else r.res

/-- The device has accepted the command with tag `tag`. -/
structure BulkIn.Accepts (r : BulkIn) (tag : UInt32) : Prop where
  complete : r.Complete bootloaderStatusCodeSize
  magic : r.magic = 0x0a6fe000
  tag : r.tag = tag
  status : r.status = 0

/-- What the transfers of an upload come to. Those of one command are numbered by the commands sent
before it, and those of its data also by the ones sent before in the page. -/
structure UploadAnswers where
  command : ℕ → BulkOut
  data : ℕ → ℕ → ℕ → BulkOut
  reply : ℕ → BulkIn

/-! ### The upload

The inner loop is a recursion on what is left of a page. The outer one goes on while there is
something to read, which makes `bytesLeft` smaller. -/

/-- A command with the data behind it, transfer by transfer, the reply if it came to one, and what
is then in `res`. -/
structure BootExchange where
  command : BootloaderCommand
  data : List (List UInt8)
  reply : Option BulkIn
  res : ℤ

/-- The inner loop: `read` bytes of a page are sent, 512 at a time. The transfers, and
`total_bytes_sent`, or the `res` of the one that fails. -/
def sendPage (answer : ℕ → ℕ → BulkOut) (page : List UInt8) (read i bytesSent totalBytesSent : ℕ) :
    List (List UInt8) × Except ℤ ℕ :=
  if bytesSent < read then
    let toSend := if 512 < read - bytesSent then 512 else read - bytesSent
    let data := (page.drop bytesSent).take toSend
    let o := answer i toSend
    if o.res ≠ 0 ∨ o.transferred ≠ toSend then ([data], .error o.res)
    else
      let r := sendPage answer page read (i + 1) (bytesSent + toSend) (totalBytesSent + toSend)
      (data :: r.1, r.2)
  else ([], .ok totalBytesSent)
termination_by read - bytesSent
decreasing_by
  split <;> omega

/-- The variables of the outer loop, and `dev->parent->audio_tag`. -/
structure LoaderState where
  readIndex : ℕ
  bytesLeft : ℤ
  totalBytesSent : ℕ
  addr : UInt32
  audioTag : UInt32

/-- The number of bytes of the next page. -/
def LoaderState.read (s : LoaderState) (size : UInt32) : ℤ :=
  let rest := size - UInt32.ofNat s.totalBytesSent
  let read : ℤ := if rest < 0x4000 then rest.toNat else 0x4000
  if s.bytesLeft < read then s.bytesLeft else read

/-- What the outer loop has done: the exchanges, the variables, and whether it came to its end. -/
structure PagesSent where
  exchanges : List BootExchange
  state : LoaderState
  done : Bool

/-- The command for a page. -/
def LoaderState.pageCommand (s : LoaderState) (read : ℕ) : BootloaderCommand where
  magic := 0x06022009
  tag := s.audioTag
  bytes := UInt32.ofNat read
  cmd := 0x03
  addr := s.addr
  unk := 0

/-- The outer loop. -/
def sendPages (fw : FirmwareImage) (a : UploadAnswers) (n : ℕ) (s : LoaderState) : PagesSent :=
  let read := s.read fw.header.size
  if _h : read ≤ 0 then { exchanges := [], state := s, done := true }
  else
    let page := (fw.bytes.drop s.readIndex).take read.toNat
    let command := s.pageCommand read.toNat
    if (a.command n).res ≠ 0 ∨ (a.command n).transferred ≠ bootloaderCommandSize then
      { exchanges := [{ command := command, data := [], reply := none, res := (a.command n).res }]
        state := s
        done := false }
    else
      match sendPage (a.data n) page read.toNat 0 0 s.totalBytesSent with
      | (data, .error res) =>
        { exchanges := [{ command := command, data := data, reply := none, res := res }]
          state := s
          done := false }
      | (data, .ok totalBytesSent) =>
        let rest := sendPages fw a (n + 1)
          { readIndex := s.readIndex + read.toNat
            bytesLeft := s.bytesLeft - read
            totalBytesSent := totalBytesSent
            addr := s.addr + UInt32.ofNat read.toNat
            audioTag := s.audioTag + 1 }
        { rest with
          exchanges :=
            { command := command, data := data, reply := some (a.reply n)
              res := Bootloader.getReply s.audioTag (a.reply n) } :: rest.exchanges }
termination_by s.bytesLeft.toNat
decreasing_by
  have hle : s.read fw.header.size ≤ s.bytesLeft := by
    unfold LoaderState.read
    dsimp only
    split <;> omega
  omega

/-- What `upload_firmware_from_memory` returns and leaves behind. -/
structure UploadResult where
  ret : ℤ
  audioTag : UInt32
  exchanges : List BootExchange

/-- `upload_firmware_from_memory`. `errno` is what it reads when the image has no header. -/
def uploadFirmwareFromMemory (fw : FirmwareImage) (errno : ℤ) (audioTag : UInt32)
    (a : UploadAnswers) : UploadResult :=
  if fw.size < firmwareHeaderSize then { ret := -errno, audioTag := audioTag, exchanges := [] }
  else
    let pages := sendPages fw a 0
      { readIndex := 0
        bytesLeft := (UInt32.ofNat fw.size).toInt32.toInt
        totalBytesSent := 0
        addr := fw.header.baseAddr
        audioTag := audioTag }
    let s := pages.state
    if pages.done = false then
      { ret := -1, audioTag := s.audioTag, exchanges := pages.exchanges }
    else if UInt32.ofNat s.totalBytesSent ≠ fw.header.size then
      { ret := -1, audioTag := s.audioTag, exchanges := pages.exchanges }
    else
      let n := pages.exchanges.length
      let launch : BootloaderCommand :=
        { magic := 0x06022009, tag := s.audioTag, bytes := 0, cmd := 0x04
          addr := fw.header.entryAddr, unk := 0 }
      if (a.command n).res ≠ 0 ∨ (a.command n).transferred ≠ bootloaderCommandSize then
        { ret := -1, audioTag := s.audioTag
          exchanges := pages.exchanges ++
            [{ command := launch, data := [], reply := none, res := (a.command n).res }] }
      else
        { ret := 0, audioTag := s.audioTag + 1
          exchanges := pages.exchanges ++
            [{ command := launch, data := [], reply := some (a.reply n)
               res := Bootloader.getReply s.audioTag (a.reply n) }] }

end Freenect
