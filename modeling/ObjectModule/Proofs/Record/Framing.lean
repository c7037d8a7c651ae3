import ObjectModule.Proofs.Record.Entry
import ObjectModule.Proofs.Record.Written

/-! Records as they are written.

A `Frame` is a record apart from the place where it stands: its type code, its body and its
checksum. It is written with its length in two bytes, and reading it back gives the record of
that place (`read_toBytes`). An input that starts with frames, none of which ends the module,
is cut into their records and those of the rest (`split_frames`). What a record says does not
depend on its place. -/
namespace ObjectModule

namespace Record

/-- Reads one record, told where it stands. -/
def readAt (start : Nat) : Reader Record := do
  let type : RecordType := ⟨← Reader.u8⟩
  let length ← Reader.u16
  if length = 0 then throw (.zeroLength type start)
  let body ← Reader.bytes (length - 1)
  let checksum ← Reader.u8
  return ⟨type, start, body, UInt8.ofNat checksum⟩

end Record

/-- A record, wherever it stands. Its length has to fit into two bytes. -/
structure Frame where
  code : UInt8
  body : Bytes
  checksum : UInt8
  fits : body.length < 0xFFFF := by decide

namespace Frame

/-- The type of the record. -/
def type (r : Frame) : RecordType := ⟨r.code.toNat⟩

/-- The record at a place. -/
def recordAt (r : Frame) (offset : Nat) : Record := ⟨r.type, offset, r.body, r.checksum⟩

/-- The record as it is written: the length counts the body and the checksum. -/
def toBytes (r : Frame) : Bytes :=
  [r.code] ++ Bytes.ofNat 2 (r.body.length + 1) ++ r.body ++ [r.checksum]

/-- Records one behind the other. -/
def allBytes (frames : List Frame) : Bytes := frames.flatMap toBytes

/-- The records from a place on. -/
def recordsFrom (offset : Nat) : List Frame → List Record
  | [] => []
  | r :: rest => r.recordAt offset :: recordsFrom (offset + r.toBytes.length) rest

/-- What the record says. -/
def entry (r : Frame) : Except FormatError Entry := (r.recordAt 0).entry

variable {frames : List Frame} {limit offset : Nat} {done : List Record} {rest : Bytes}

theorem length_toBytes (r : Frame) : r.toBytes.length = r.body.length + 4 := by
  simp only [toBytes, List.length_append, List.length_singleton, Bytes.length_ofNat]
  omega

theorem toBytes_ne_nil (r : Frame) : r.toBytes ≠ [] := List.cons_ne_nil _ _

theorem allBytes_cons (r : Frame) (others : List Frame) :
    allBytes (r :: others) = r.toBytes ++ allBytes others := List.flatMap_cons

theorem recordsFrom_append (offset : Nat) (front back : List Frame) :
    recordsFrom offset (front ++ back) =
      recordsFrom offset front ++ recordsFrom (offset + (allBytes front).length) back := by
  induction front generalizing offset with
  | nil => rfl
  | cons r others ih =>
    rw [List.cons_append, recordsFrom, recordsFrom, ih, allBytes_cons, List.length_append,
      Nat.add_assoc, List.cons_append]

theorem reads_readAt (r : Frame) (start : Nat) :
    (Record.readAt start).Reads r.toBytes (r.recordAt start) := by
  have hlength : r.body.length + 1 < .pow 256 2 := Nat.add_lt_of_lt_sub r.fits
  have hsize : ((r.body.length + 1 : Nat) : Int) - 1 = r.body.length := by omega
  have hchecksum : UInt8.ofNat r.checksum.toNat = r.checksum := UInt8.ofNat_toNat
  rw [toBytes, List.append_assoc, List.append_assoc]
  refine (Reader.reads_u8 r.code).bind ((Reader.reads_number_ofNat hlength).bind ?_)
  rw [if_neg (Nat.succ_ne_zero _), hsize, ← List.append_nil [r.checksum]]
  refine (Reader.reads_bytes r.body).bind ((Reader.reads_u8 r.checksum).bind ?_)
  rw [hchecksum]
  exact Reader.reads_pure _

/-- **A record is read as it was written**, wherever it stands and whatever follows. -/
theorem read_toBytes (r : Frame) (offset : Nat) (rest : Bytes) :
    Record.read ⟨offset, r.toBytes ++ rest, 0⟩ =
      .ok (r.recordAt offset) ⟨offset + r.toBytes.length, rest, 0⟩ :=
  r.reads_readAt offset offset rest

/-! ### Cutting an input -/

theorem splitAfter_cons (r : Frame) (hr : r.type.endsModule = false) :
    Record.splitAfter (limit + 1) done ⟨offset, r.toBytes ++ rest, 0⟩ =
      Record.splitAfter limit (r.recordAt offset :: done) ⟨offset + r.toBytes.length, rest, 0⟩ := by
  have inside : Cursor.atEnd ⟨offset, r.toBytes ++ rest, 0⟩ = false := rfl
  have hr : (r.recordAt offset).type.endsModule = false := hr
  rw [Record.splitAfter, inside, read_toBytes]
  simp only [Bool.false_eq_true, if_false, hr]

/-- Cutting goes on behind frames as it would have begun there. -/
theorem splitAfter_frames (hframes : ∀ r ∈ frames, r.type.endsModule = false) :
    Record.splitAfter (frames.length + limit) done ⟨offset, allBytes frames ++ rest, 0⟩ =
      Record.splitAfter limit ((recordsFrom offset frames).reverse ++ done)
        ⟨offset + (allBytes frames).length, rest, 0⟩ := by
  induction frames generalizing offset done with
  | nil => simp [allBytes, recordsFrom]
  | cons r others ih =>
    obtain ⟨hr, hothers⟩ := List.forall_mem_cons.mp hframes
    rw [allBytes_cons, List.append_assoc, List.length_cons, Nat.add_right_comm,
      splitAfter_cons r hr, ih hothers]
    simp [recordsFrom, allBytes, Nat.add_assoc]

/-- Records cut before stay before those cut later. -/
theorem splitAfter_eq (limit : Nat) (done : List Record) (c : Cursor) :
    Record.splitAfter limit done c =
      ⟨done.reverse ++ (Record.splitAfter limit [] c).records,
        (Record.splitAfter limit [] c).fault⟩ := by
  induction limit generalizing done c with
  | zero => simp [Record.splitAfter]
  | succ limit ih =>
    simp only [Record.splitAfter]
    split
    · simp
    · split
      · simp
      · next r c' _ =>
        split
        · simp
        · rw [ih (r :: done), ih [r]]
          simp

theorem length_le_allBytes (frames : List Frame) : frames.length ≤ (allBytes frames).length :=
  Bytes.length_le_flatMap fun r _ => r.toBytes_ne_nil

/-- What is cut from an input behind so many frames of so many bytes. -/
def cutBehind (count size : Nat) (rest : Bytes) : Records :=
  Record.splitAfter (size + rest.length - count) [] ⟨size, rest, 0⟩

/-- **An input is cut into the frames it starts with** and what is behind them. -/
theorem split_frames (hframes : ∀ r ∈ frames, r.type.endsModule = false) (rest : Bytes) :
    Record.split (allBytes frames ++ rest) =
      let behind := cutBehind frames.length (allBytes frames).length rest
      ⟨recordsFrom 0 frames ++ behind.records, behind.fault⟩ := by
  have hlimit : (allBytes frames ++ rest).length =
      frames.length + ((allBytes frames).length + rest.length - frames.length) := by
    have := length_le_allBytes frames
    rw [List.length_append]
    omega
  rw [Record.split, Cursor.start_zero, hlimit, splitAfter_frames hframes, splitAfter_eq]
  simp [cutBehind]

/-! ### What records say -/

/-- What a record says does not depend on its place. -/
theorem mapM_entry_recordsFrom (offset : Nat) (frames : List Frame) :
    (recordsFrom offset frames).mapM Record.entry = frames.mapM entry := by
  induction frames generalizing offset with
  | nil => rfl
  | cons r others ih =>
    rw [recordsFrom, List.mapM_cons, List.mapM_cons, ih]
    rfl

theorem entry_of_other {r : Frame} (h : r.type.kind = .other) : r.entry = .ok .other :=
  Record.entry_of_other h

theorem entry_of_endsModule {r : Frame} (h : r.type.endsModule = true) : r.entry = .ok .other :=
  Record.entry_of_endsModule h

end Frame
end ObjectModule
