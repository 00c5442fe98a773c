import Freenect.Fakenect.JsonString
import Freenect.Fakenect.Playback
import Freenect.Library.Decimal
import Freenect.Registration.Rationals
import Mathlib.Data.List.Nodup

/-!
# The recorder

The callbacks and the main loop of `record`: every frame and every accelerometer state becomes a
file of its own, whose name tells the type, the time and the timestamp, and a line of `INDEX.txt`
with that name. Two dumps with one name share a file, and the later one is kept.

`recorder_run` is what a run leaves behind: in the index the names of all dumps in order, and in
each file the last dump of its name. `scanLine_name` is the player's `sscanf` on a name.

The two are connected through `dumps`, the list of the dumps that a run makes, which depends on the
calls and on the last timestamp only. `recorder_run` is an induction over the calls, for any state
of the recorder, so that what is in the index and in the files before the run is carried along.

What `%f` prints of a time and what `%lf` reads is left open (`DoubleText`): all that is used of
them is that the text of a time is a line, and is read to its end. `rationalText` is such a pair,
for exact numbers.
-/

namespace Freenect

/-- `double`, as the recorder prints it and the player reads it. -/
class DoubleText (D : Type) where
  /-- `printf` of `%f`. -/
  format : D → List UInt8
  /-- `sscanf` of `%lf`: the number and what is left. -/
  scan : List UInt8 → Option (D × List UInt8)
  /-- No newline and no zero byte is printed. -/
  format_plain : ∀ x, ∀ c ∈ format x, c ≠ 0x0a ∧ c ≠ 0
  /-- What is printed in front of a hyphen is read up to the hyphen. -/
  scan_format : ∀ x rest, ∃ y, scan (format x ++ 0x2d :: rest) = some (y, 0x2d :: rest)

variable {D : Type}

/-! ### Dumps

A dump is what the function is called with, and the time at which it is called. Of the header of a
picture all that matters later is that it is a line of its own, which `skip_line` passes over. -/

/-- The types that `dump` knows. -/
inductive DumpType
  | depth
  | rgb
  | accel
  deriving DecidableEq, Repr

/-- The type as a character. -/
def DumpType.char : DumpType → UInt8
  | .depth => 0x64
  | .rgb => 0x72
  | .accel => 0x61

/-- The extension that `dump` gives to `open_dump`. -/
def DumpType.extension : DumpType → List UInt8
  | .depth => [0x70, 0x67, 0x6d]
  | .rgb => [0x70, 0x70, 0x6d]
  | .accel => [0x64, 0x75, 0x6d, 0x70]

/-- A call of `dump`. `curTime` is what `get_time` says. -/
structure Dump (D : Type) where
  type : DumpType
  curTime : D
  timestamp : UInt32
  data : List UInt8

/-- What `dump_rgb` prints in front of the frame: `P6 640 480 255` and a newline. -/
def ppmHeader : List UInt8 :=
  [0x50, 0x36, 0x20, 0x36, 0x34, 0x30, 0x20, 0x34, 0x38, 0x30, 0x20, 0x32, 0x35, 0x35, 0x0a]

/-- `dump_rgb`. -/
def dumpRgb (data : List UInt8) (dataSize : ℕ) : List UInt8 := ppmHeader ++ data.take dataSize

/-- The bytes of the recorder's video mode. -/
def videoBytes : ℕ := 640 * 480 * 3

/-- The size that a dump is called with: the bytes of a mode, or `sizeof *state`. -/
def DumpType.dataSize : DumpType → ℕ
  | .depth => frameBytes
  | .rgb => videoBytes
  | .accel => tiltStateSize

/-- What a dump writes to its file. -/
def Dump.content (d : Dump D) : List UInt8 :=
  match d.type with
  | .depth => dumpDepth d.data d.type.dataSize
  | .rgb => dumpRgb d.data d.type.dataSize
  | .accel => d.data.take d.type.dataSize

/-- The player loads the whole file. -/
theorem Dump.loadFile_content {d : Dump D}
    (haccel : d.type = .accel → d.data.length = tiltStateSize) :
    loadFile d.content = d.content ∧ d.content ≠ [] := by
  have hlength : d.content.length < 2 ^ 32 ∧ 0 < d.content.length := by
    rw [Dump.content]
    cases htype : d.type
    · simp only [dumpDepth, pgmHeader, DumpType.dataSize, frameBytes, List.length_append,
        List.length_take, List.length_cons, List.length_nil]
      omega
    · simp only [dumpRgb, ppmHeader, DumpType.dataSize, videoBytes, List.length_append,
        List.length_take, List.length_cons, List.length_nil]
      omega
    · rw [List.length_take, haccel htype]
      decide
  refine ⟨?_, List.length_pos_iff.1 hlength.2⟩
  rw [loadFile, Nat.mod_eq_of_lt hlength.1, List.take_length]

/-- Behind the header is what was dumped. -/
theorem Dump.skipLine_content {d : Dump D} (htype : d.type ≠ .accel) :
    skipLine d.content = some (d.data.take d.type.dataSize) := by
  rw [Dump.content]
  cases h : d.type
  · rfl
  · rfl
  · exact absurd h htype

/-! ### Callbacks -/

/-- What happens to the recorder: a callback, or the end of a turn of its main loop, where the
driver's tilt state is looked up. -/
inductive RecorderCall (D : Type)
  | depthCb (curTime : D) (timestamp : UInt32) (depth : List UInt8)
  | rgbCb (curTime : D) (timestamp : UInt32) (rgb : List UInt8)
  | snapshotAccel (curTime : D) (state : Vector UInt8 tiltStateSize)

/-- The dump that a call makes; no state is recorded before the first timestamp. -/
def RecorderCall.dump (lastTimestamp : UInt32) : RecorderCall D → Option (Dump D)
  | .depthCb curTime timestamp depth => some ⟨.depth, curTime, timestamp, depth⟩
  | .rgbCb curTime timestamp rgb => some ⟨.rgb, curTime, timestamp, rgb⟩
  | .snapshotAccel curTime state =>
    if lastTimestamp = 0 then none else some ⟨.accel, curTime, lastTimestamp, state.toList⟩

/-- The dumps of a run. -/
def dumps (lastTimestamp : UInt32) : List (RecorderCall D) → List (Dump D)
  | [] => []
  | call :: calls =>
    match call.dump lastTimestamp with
    | none => dumps lastTimestamp calls
    | some d => d :: dumps d.timestamp calls

/-- A dump is made by one of the calls. -/
theorem exists_call_of_mem_dumps {calls : List (RecorderCall D)} {lastTimestamp : UInt32}
    {d : Dump D} (hd : d ∈ dumps lastTimestamp calls) :
    ∃ call ∈ calls, ∃ timestamp, call.dump timestamp = some d := by
  induction calls generalizing lastTimestamp with
  | nil => exact absurd hd List.not_mem_nil
  | cons call calls ih =>
    rw [dumps] at hd
    cases hdump : call.dump lastTimestamp with
    | none =>
      obtain ⟨call', hcall, hd⟩ := ih (by simpa only [hdump] using hd)
      exact ⟨call', List.mem_cons_of_mem _ hcall, hd⟩
    | some d' =>
      simp only [hdump] at hd
      rcases List.mem_cons.1 hd with rfl | hd
      · exact ⟨call, List.mem_cons_self, lastTimestamp, hdump⟩
      · obtain ⟨call', hcall, hd⟩ := ih hd
        exact ⟨call', List.mem_cons_of_mem _ hcall, hd⟩

/-- A recorded state is a whole one. -/
theorem length_of_mem_dumps {calls : List (RecorderCall D)} {lastTimestamp : UInt32} {d : Dump D}
    (hd : d ∈ dumps lastTimestamp calls) (htype : d.type = .accel) :
    d.data.length = tiltStateSize := by
  obtain ⟨call, -, timestamp, hdump⟩ := exists_call_of_mem_dumps hd
  cases call with
  | depthCb =>
    rw [← Option.some.inj hdump] at htype
    exact nomatch htype
  | rgbCb =>
    rw [← Option.some.inj hdump] at htype
    exact nomatch htype
  | snapshotAccel curTime state =>
    rw [RecorderCall.dump] at hdump
    split at hdump
    · exact nomatch hdump
    · rw [← Option.some.inj hdump]
      exact state.length_toList

/-! ### Names -/

section Names

variable [DoubleText D]

/-- The file name of `open_dump`, printed with `%c-%f-%u.%s`. -/
def Dump.name (d : Dump D) : List UInt8 :=
  d.type.char :: 0x2d :: (DoubleText.format d.curTime ++ 0x2d ::
    (Decimal.numeral d.timestamp.toNat ++ 0x2e :: d.type.extension))

/-- The characters tell the types apart. -/
theorem DumpType.char_injective : Function.Injective DumpType.char := by
  intro a b h
  cases a <;> cases b <;> first | rfl | exact absurd h (by decide)

/-- The character and the extension of a type fit into a line. -/
theorem DumpType.plain : ∀ t : DumpType, ∀ c ∈ t.char :: t.extension, c ≠ 0x0a ∧ c ≠ 0
  | .depth => by simp [char, extension]
  | .rgb => by simp [char, extension]
  | .accel => by simp [char, extension]

/-- A name is a line: it holds no newline, and no zero byte. -/
theorem Dump.name_plain (d : Dump D) : ∀ c ∈ d.name, c ≠ 0x0a ∧ c ≠ 0 := by
  have hdigit : ∀ c, Decimal.isDigit c = true → c ≠ 0x0a ∧ c ≠ 0 := fun c hc ↦
    ⟨Decimal.ne_of_isDigit hc rfl, Decimal.ne_of_isDigit hc rfl⟩
  intro c hc
  rw [Dump.name] at hc
  simp only [List.mem_cons, List.mem_append] at hc
  rcases hc with rfl | rfl | hc | rfl | hc | rfl | hc
  · exact d.type.plain _ List.mem_cons_self
  · decide
  · exact DoubleText.format_plain d.curTime c hc
  · decide
  · exact hdigit c (Decimal.isDigit_of_mem_numeral hc)
  · decide
  · exact d.type.plain c (List.mem_cons_of_mem _ hc)

/-- The name tells the type. -/
theorem Dump.type_eq_of_name {d d' : Dump D} (h : d.name = d'.name) : d.type = d'.type :=
  DumpType.char_injective (List.cons.inj h).1

/-! ### Reading a name -/

/-- `%u`: white space, a sign and digits, read by `strtoul`. -/
def scanUnsigned (text : List UInt8) : Option UInt32 :=
  let text := text.dropWhile isspace
  let negative := text.head? = some 0x2d
  let digits := (if negative ∨ text.head? = some 0x2b then text.drop 1 else text).takeWhile
    Decimal.isDigit
  let n := Decimal.value digits
  if digits = [] then none
  else if 2 ^ 64 ≤ n then some (UInt32.ofNat (2 ^ 64 - 1))
  else if negative then some (UInt32.ofNat (2 ^ 64 - n))
  else some (UInt32.ofNat n)

/-- `sscanf` of `%c-%lf-%u-%*s`, behind the character: the time and the timestamp, as far as they
are read. -/
def scanLine (line : List UInt8) : Option D × Option UInt32 :=
  if (line.drop 1).head? = some 0x2d then
    match DoubleText.scan (line.drop 2) with
    | none => (none, none)
    | some (curTime, rest) =>
      (some curTime, if rest.head? = some 0x2d then scanUnsigned (rest.drop 1) else none)
  else (none, none)

/-- A numeral is read as a `%u`. -/
theorem scanUnsigned_numeral (n : UInt32) {rest : List UInt8} (hrest : Decimal.Ends rest) :
    scanUnsigned (Decimal.numeral n.toNat ++ rest) = some n := by
  obtain ⟨c, t, htext⟩ := List.exists_cons_of_ne_nil (Decimal.numeral_ne_nil n.toNat)
  have hc : c ∈ Decimal.numeral n.toNat := htext ▸ List.mem_cons_self
  have hdigit := Decimal.isDigit_of_mem_numeral hc
  have hspace : isspace c = false := isspace_of_isDigit hdigit
  have hminus : c ≠ 0x2d := Decimal.ne_of_isDigit hdigit rfl
  have hplus : c ≠ 0x2b := Decimal.ne_of_isDigit hdigit rfl
  have hskip : (Decimal.numeral n.toNat ++ rest).dropWhile isspace =
      Decimal.numeral n.toNat ++ rest := by
    rw [htext, List.cons_append, List.dropWhile_cons_of_neg (by simp [hspace])]
  have hhead : (Decimal.numeral n.toNat ++ rest).head? = some c := by rw [htext]; rfl
  have hlt : n.toNat < 2 ^ 32 := n.toNat_lt
  rw [scanUnsigned]
  simp only [hskip, hhead, Option.some.injEq, hminus, hplus, or_self, if_false,
    Decimal.takeWhile_numeral _ hrest, Decimal.value_numeral, Decimal.numeral_ne_nil]
  rw [if_neg (by omega), UInt32.ofNat_toNat]

/-- **The player reads the timestamp of a dump from its name.** -/
theorem scanLine_name (d : Dump D) : (scanLine d.name : Option D × _).2 = some d.timestamp := by
  obtain ⟨y, hscan⟩ := DoubleText.scan_format d.curTime
    (Decimal.numeral d.timestamp.toNat ++ 0x2e :: d.type.extension)
  have hends : Decimal.Ends (0x2e :: d.type.extension) := by
    intro c hc
    rw [← Option.some.inj hc]
    decide
  rw [scanLine, Dump.name]
  simp only [List.drop_succ_cons, List.drop_zero, List.head?_cons, if_true, hscan]
  exact scanUnsigned_numeral d.timestamp hends

/-! ### The recorder -/

/-- What the recorder keeps: `last_timestamp`, what it has written to the index, and the files. -/
structure Recorder where
  lastTimestamp : UInt32
  index : List UInt8
  files : List UInt8 → List UInt8

/-- `dump`: the timestamp is kept, the name goes to the index, and the file is written anew. -/
def Recorder.write (r : Recorder) (d : Dump D) : Recorder where
  lastTimestamp := d.timestamp
  index := r.index ++ (d.name ++ [0x0a])
  files := Function.update r.files d.name d.content

/-- One call. -/
def Recorder.step (r : Recorder) (call : RecorderCall D) : Recorder :=
  match call.dump r.lastTimestamp with
  | none => r
  | some d => r.write d

/-- The recorder with an empty index. -/
def Recorder.init : Recorder := ⟨0, [], fun _ ↦ []⟩

/-! ### Runs -/

/-- The dump that the file `name` holds in the end. -/
def lastDump (ds : List (Dump D)) (name : List UInt8) : Option (Dump D) :=
  (ds.filter (·.name = name)).getLast?

/-- A dump is the last one of its name if none comes after it. -/
theorem lastDump_cons (d : Dump D) (ds : List (Dump D)) (name : List UInt8) :
    lastDump (d :: ds) name =
      (lastDump ds name).or (if d.name = name then some d else none) := by
  rw [lastDump, List.filter_cons]
  by_cases hname : d.name = name
  · rw [if_pos (by simpa using hname), if_pos hname, List.getLast?_cons, lastDump]
    cases (ds.filter (·.name = name)).getLast? <;> rfl
  · rw [if_neg (by simpa using hname), if_neg hname, Option.or_none, lastDump]

/-- **What a run leaves behind**, from any state of the recorder. -/
theorem recorder_run (r : Recorder) (calls : List (RecorderCall D)) :
    (calls.foldl Recorder.step r).index =
        r.index ++ (dumps r.lastTimestamp calls).flatMap (fun d ↦ d.name ++ [0x0a]) ∧
      ∀ name, (calls.foldl Recorder.step r).files name =
        ((lastDump (dumps r.lastTimestamp calls) name).map Dump.content).getD (r.files name) := by
  induction calls generalizing r with
  | nil => simp [dumps, lastDump]
  | cons call calls ih =>
    obtain ⟨hindex, hfiles⟩ := ih (r.step call)
    rw [List.foldl_cons]
    cases hd : call.dump r.lastTimestamp with
    | none =>
      have hstep : r.step call = r := by rw [Recorder.step, hd]
      rw [hstep] at hindex hfiles ⊢
      rw [dumps, hd]
      exact ⟨hindex, hfiles⟩
    | some d =>
      have hstep : r.step call = r.write d := by rw [Recorder.step, hd]
      rw [hstep] at hindex hfiles ⊢
      rw [dumps, hd]
      refine ⟨?_, fun name ↦ ?_⟩
      · rw [hindex, List.flatMap_cons]
        simp only [Recorder.write, List.append_assoc]
      · rw [hfiles, lastDump_cons]
        show ((lastDump (dumps d.timestamp calls) name).map Dump.content).getD
          (Function.update r.files d.name d.content name) = _
        -- a later dump of the name wins, in the file as in `lastDump`
        cases lastDump (dumps d.timestamp calls) name with
        | some last => rfl
        | none =>
          by_cases hname : d.name = name
          · subst hname
            simp
          · simp [hname, Function.update_of_ne (Ne.symm hname)]

/-- The file of a dump holds a dump with its name. -/
theorem exists_lastDump {ds : List (Dump D)} {d : Dump D} (hd : d ∈ ds) :
    ∃ d' ∈ ds, lastDump ds d.name = some d' ∧ d'.name = d.name := by
  have hne : ds.filter (·.name = d.name) ≠ [] :=
    List.ne_nil_of_mem (List.mem_filter.2 ⟨hd, by simp⟩)
  have hmem := List.getLast_mem hne
  refine ⟨_, (List.mem_filter.1 hmem).1, List.getLast?_eq_getLast_of_ne_nil hne, ?_⟩
  simpa using (List.mem_filter.1 hmem).2

/-- Of dumps with different names, every file holds its own. -/
theorem lastDump_of_nodup {ds : List (Dump D)} (h : (ds.map Dump.name).Nodup) {d : Dump D}
    (hd : d ∈ ds) : lastDump ds d.name = some d := by
  obtain ⟨d', hd', hlast, hname⟩ := exists_lastDump hd
  rw [hlast, List.inj_on_of_nodup_map h hd' hd hname]

end Names

/-! ### Rational numbers as text -/

/-- `%f` rounds to millionths. -/
def millionths (x : ℚ) : ℕ := (2 * x.num.natAbs * 10 ^ 6 + x.den) / (2 * x.den)

/-- The digits behind the point. -/
def sixDigits (n : ℕ) : List UInt8 :=
  (List.range 6).map fun i ↦ Decimal.digit (n / 10 ^ (5 - i) % 10)

/-- Digits are digits. -/
theorem isDigit_of_mem_sixDigits {n : ℕ} {c : UInt8} (hc : c ∈ sixDigits n) :
    Decimal.isDigit c = true := by
  obtain ⟨i, -, rfl⟩ := List.mem_map.1 hc
  exact Decimal.isDigit_digit (Nat.mod_lt _ (by decide))

/-- A numeral without a sign and an exponent. -/
def scanDecimal (text : List UInt8) : Option (ℚ × List UInt8) :=
  let whole := text.takeWhile Decimal.isDigit
  let rest := text.dropWhile Decimal.isDigit
  if whole = [] then none
  else if rest.head? = some 0x2e then
    let fraction := (rest.drop 1).takeWhile Decimal.isDigit
    some (Decimal.value whole + Decimal.value fraction / (10 ^ fraction.length : ℕ),
      (rest.drop 1).dropWhile Decimal.isDigit)
  else some (Decimal.value whole, rest)

/-- What is printed of a number is read to its end. -/
theorem scanDecimal_append (whole n : ℕ) (rest : List UInt8) :
    ∃ y, scanDecimal (Decimal.numeral whole ++ 0x2e :: (sixDigits n ++ 0x2d :: rest)) =
      some (y, 0x2d :: rest) := by
  have hpoint : Decimal.Ends (0x2e :: (sixDigits n ++ 0x2d :: rest)) := by
    rintro c hc
    rw [← Option.some.inj hc]
    decide
  have hhyphen : Decimal.Ends (0x2d :: rest) := by
    rintro c hc
    rw [← Option.some.inj hc]
    decide
  rw [scanDecimal]
  simp only [Decimal.takeWhile_numeral _ hpoint, Decimal.dropWhile_numeral _ hpoint,
    Decimal.numeral_ne_nil, if_false, List.head?_cons, if_true, List.drop_succ_cons,
    List.drop_zero, Decimal.dropWhile_append (fun _ ↦ isDigit_of_mem_sixDigits) hhyphen]
  exact ⟨_, rfl⟩

/-- Exact numbers, printed as `%f` does. Of what `%lf` reads these are the numerals without an
exponent. -/
instance rationalText : DoubleText ℚ where
  format x := (if x < 0 then [0x2d] else []) ++ (Decimal.numeral (millionths x / 10 ^ 6) ++
    0x2e :: sixDigits (millionths x))
  scan text :=
    if text.head? = some 0x2d then (scanDecimal (text.drop 1)).map fun y ↦ (-y.1, y.2)
    else scanDecimal text
  format_plain x c hc := by
    have hdigit : ∀ c, Decimal.isDigit c = true → c ≠ 0x0a ∧ c ≠ 0 := fun c hc ↦
      ⟨Decimal.ne_of_isDigit hc rfl, Decimal.ne_of_isDigit hc rfl⟩
    simp only [List.mem_append, List.mem_cons] at hc
    rcases hc with hc | hc | rfl | hc
    · split at hc
      · rw [List.mem_singleton.1 hc]
        decide
      · exact absurd hc List.not_mem_nil
    · exact hdigit c (Decimal.isDigit_of_mem_numeral hc)
    · decide
    · exact hdigit c (isDigit_of_mem_sixDigits hc)
  scan_format x rest := by
    obtain ⟨y, hscan⟩ := scanDecimal_append (millionths x / 10 ^ 6) (millionths x) rest
    have hhead : (Decimal.numeral (millionths x / 10 ^ 6) ++
        0x2e :: (sixDigits (millionths x) ++ 0x2d :: rest)).head? ≠ some 0x2d := by
      rw [List.head?_append_of_ne_nil _ (Decimal.numeral_ne_nil _)]
      intro hc
      exact absurd (Decimal.isDigit_of_mem_numeral (List.mem_of_head? hc)) (by decide)
    by_cases hx : x < 0
    · refine ⟨-y, ?_⟩
      rw [if_pos hx, List.append_assoc, List.append_assoc, List.cons_append, List.cons_append,
        List.nil_append, List.head?_cons, if_pos rfl, List.drop_one, List.tail_cons, hscan]
      rfl
    · refine ⟨y, ?_⟩
      rw [if_neg hx, List.nil_append, List.append_assoc, List.cons_append, if_neg hhead, hscan]

end Freenect
