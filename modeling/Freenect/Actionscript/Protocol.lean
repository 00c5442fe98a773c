import Freenect.Camera.PacketStream
import Mathlib.Data.List.GetD

/-!
# The messages between an ActionScript client and its server

A client asks the server with commands of six bytes, and the server answers with messages: two
bytes that say what a message is about, the length of the data, and the data. The value of a command
is written by `writeInt` and read by `ntohl`, so it is big-endian; the length of a message is copied
out of an `int` of the server and read in little-endian order, so the server is taken to be a
little-endian host.
-/

namespace Freenect.Actionscript

/-! ### Words -/

/-- The bytes of an `int`, the lowest first. -/
def intBytes (v : Int32) : List UInt8 :=
  let n := v.toUInt32.toNat
  [UInt8.ofNat n, UInt8.ofNat (n / 2 ^ 8), UInt8.ofNat (n / 2 ^ 16), UInt8.ofNat (n / 2 ^ 24)]

/-- The `int` of four bytes, the lowest first. -/
def intOfBytes (b0 b1 b2 b3 : UInt8) : Int32 := (le32 b0 b1 b2 b3).toInt32

/-- An `int` has four bytes. -/
@[simp] theorem length_intBytes (v : Int32) : (intBytes v).length = 4 := rfl

theorem intOfBytes_intBytes (v : Int32) :
    intOfBytes (UInt8.ofNat v.toUInt32.toNat) (UInt8.ofNat (v.toUInt32.toNat / 2 ^ 8))
      (UInt8.ofNat (v.toUInt32.toNat / 2 ^ 16)) (UInt8.ofNat (v.toUInt32.toNat / 2 ^ 24)) = v := by
  have hlt : v.toUInt32.toNat < 2 ^ 32 := v.toUInt32.toNat_lt
  have hword : le32 (UInt8.ofNat v.toUInt32.toNat) (UInt8.ofNat (v.toUInt32.toNat / 2 ^ 8))
      (UInt8.ofNat (v.toUInt32.toNat / 2 ^ 16)) (UInt8.ofNat (v.toUInt32.toNat / 2 ^ 24)) =
        v.toUInt32 := by
    rw [← UInt32.toNat_inj, le32, UInt32.toNat_ofNat']
    simp only [UInt8.toNat_ofNat']
    omega
  rw [intOfBytes, hword]
  exact Int32.toInt32_toUInt32 v

/-! ### Commands -/

/-- A command: `writeByte` twice, and `writeInt`. -/
structure Command where
  first : UInt8
  second : UInt8
  value : Int32
  deriving DecidableEq, Repr

/-- `COMMAND_SIZE`. -/
def commandSize : ℕ := 6

/-- What the client writes to the socket. -/
def Command.encode (c : Command) : List UInt8 := [c.first, c.second] ++ (intBytes c.value).reverse

/-- Command `i` of the server's buffer. -/
def commandAt (buff : List UInt8) (i : ℕ) : Command where
  first := buff.getD (0 + i * 6) 0
  second := buff.getD (1 + i * 6) 0
  value := intOfBytes (buff.getD (5 + i * 6) 0) (buff.getD (4 + i * 6) 0)
    (buff.getD (3 + i * 6) 0) (buff.getD (2 + i * 6) 0)

/-- The commands of a buffer of `len` bytes. -/
def commandsIn (buff : List UInt8) (len : ℕ) : List Command :=
  (List.range (len / 6)).map (commandAt buff)

/-- A command has six bytes. -/
@[simp] theorem Command.length_encode (c : Command) : c.encode.length = 6 := rfl

/-- The first command of a buffer. -/
theorem commandAt_encode (c : Command) (rest : List UInt8) :
    commandAt (c.encode ++ rest) 0 = c := by
  obtain ⟨first, second, value⟩ := c
  exact congrArg (Command.mk first second) (intOfBytes_intBytes value)

theorem commandAt_append (c : Command) (rest : List UInt8) (i : ℕ) :
    commandAt (c.encode ++ rest) (i + 1) = commandAt rest i := by
  have hget : ∀ k, (c.encode ++ rest).getD (k + (i + 1) * 6) 0 = rest.getD (k + i * 6) 0 := by
    intro k
    rw [List.getD_append_right _ _ _ _ (by rw [Command.length_encode]; omega),
      Command.length_encode]
    congr 1
    omega
  simp only [commandAt, hget]

/-- The commands of a buffer are those that were written. -/
theorem commandsIn_flatMap (cs : List Command) (rest : List UInt8) :
    commandsIn (cs.flatMap Command.encode ++ rest) (6 * cs.length) = cs := by
  rw [commandsIn, Nat.mul_div_cancel_left _ (by decide)]
  induction cs with
  | nil => rfl
  | cons c cs ih =>
    rw [List.length_cons, List.range_succ_eq_map, List.map_cons, List.map_map, List.flatMap_cons,
      List.append_assoc, commandAt_encode]
    refine congrArg (c :: ·) (Eq.trans (List.map_congr_left fun i _ ↦ ?_) ih)
    exact commandAt_append c _ i

/-- Commands one after the other. -/
theorem length_flatMap_encode (cs : List Command) :
    (cs.flatMap Command.encode).length = 6 * cs.length := by
  simp [List.length_flatMap, Nat.mul_comm]

/-- A read that ends between two commands takes whole commands. -/
theorem take_flatMap_encode {cs : List Command} {k : ℕ} (hk : k ≤ cs.length) :
    (cs.flatMap Command.encode).take (6 * k) = (cs.take k).flatMap Command.encode ∧
      (cs.flatMap Command.encode).drop (6 * k) = (cs.drop k).flatMap Command.encode := by
  have hlen : ((cs.take k).flatMap Command.encode).length = 6 * k := by
    rw [length_flatMap_encode, List.length_take_of_le hk]
  have hsplit : cs.flatMap Command.encode =
      (cs.take k).flatMap Command.encode ++ (cs.drop k).flatMap Command.encode := by
    rw [← List.flatMap_append, List.take_append_drop]
  rw [hsplit]
  exact ⟨List.take_left' hlen, List.drop_left' hlen⟩

/-! ### Messages -/

/-- A message of the server. -/
structure Message where
  first : UInt8
  second : UInt8
  data : List UInt8
  deriving DecidableEq, Repr

/-- `freenect_network_sendMessage`: what it writes. -/
def sendMessage (first second : UInt8) (data : List UInt8) : List UInt8 :=
  [first, second] ++ intBytes (Int32.ofNat data.length) ++ data

/-- The bytes of a message. -/
def Message.encode (m : Message) : List UInt8 := sendMessage m.first m.second m.data

/-- A message that the client can read back: its data are not empty, and their length fits an
`int`. -/
def Message.Sendable (m : Message) : Prop := 0 < m.data.length ∧ m.data.length < 2 ^ 31

instance (m : Message) : Decidable m.Sendable := inferInstanceAs (Decidable (_ ∧ _))

/-- The header is read back. -/
theorem Message.Sendable.size {m : Message} (h : m.Sendable) :
    (Int32.ofNat m.data.length).toInt = m.data.length :=
  Int32.toInt_ofNat_of_lt h.2

end Freenect.Actionscript
