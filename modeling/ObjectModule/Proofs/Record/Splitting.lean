import ObjectModule.Proofs.Record.Framing
import ObjectModule.Proofs.Record.Taken

/-! Cutting an input and writing records are inverse.

Records of which at most the last ends a module are cut from what they are written as, up to the
end of the input or to the record that ends the module (`splitAfter_whole`). And whatever the
input, what is cut from it is written at its front (`exists_isCut`): behind it is nothing, or
what follows a module, or what no record starts. -/
namespace ObjectModule

namespace Record
variable {offset : Nat} {rest : Bytes} {a : Record} {e : FormatError} {after : Cursor}

/-! ### One record -/

/-- A record is taken from what it is written as. -/
theorem takes_readAt (start : Nat) :
    (readAt start).Takes fun front a => ∃ r : Frame, front = r.toBytes ∧ a = r.recordAt start := by
  refine Reader.takes_u8.bind fun type front htype => ?_
  obtain ⟨code, rfl, rfl⟩ := htype
  refine (Reader.takes_number 2).bind fun length front hlength => ?_
  obtain ⟨rfl, hfits⟩ := hlength
  have hfits : length < 65536 := hfits
  split
  · exact (Reader.takes_throw (P := fun _ _ => False) _).bind fun _ _ never => never.elim
  · next hpositive =>
    refine (Reader.takes_bytes _).bind fun body front hbody => ?_
    obtain ⟨rfl, hbody⟩ := hbody
    refine Reader.takes_u8.bind fun checksum front hchecksum => ?_
    obtain ⟨checksum, rfl, rfl⟩ := hchecksum
    have hlength : length = body.length + 1 := by omega
    refine Reader.takes_pure ⟨⟨code, body, checksum, by omega⟩, ?_, ?_⟩
    · simp [Frame.toBytes, hlength]
    · simp [Frame.recordAt, Frame.type]

/-- Where no record is read, bytes are lacking, or there is a length of zero behind a type. -/
theorem lacks_readAt (start : Nat) :
    (readAt start).Lacks fun back e => ∃ (code : UInt8) (more : Bytes),
      back = code :: 0 :: 0 :: more ∧ e = .zeroLength ⟨code.toNat⟩ start := by
  refine (Reader.lacks_number 1).bind Reader.takes_u8 fun type front htype => ?_
  obtain ⟨code, rfl, rfl⟩ := htype
  refine (Reader.lacks_number 2).bind (Reader.takes_number 2) fun length front hlength => ?_
  obtain ⟨rfl, hfits⟩ := hlength
  split
  · next hzero =>
    subst hzero
    refine (Reader.lacks_throw fun back => ?_).bind
      (Reader.takes_throw (P := fun _ _ => False) _) fun _ _ never => never.elim
    exact ⟨code, back, rfl, rfl⟩
  · next hpositive =>
    refine (Reader.lacks_bytes (by omega)).bind (Reader.takes_bytes _) fun body front _ => ?_
    exact (Reader.lacks_number 1).bind Reader.takes_u8 fun checksum front _ => Reader.lacks_pure _

/-- **A record is read exactly where one is written.** -/
theorem read_eq_ok :
    read ⟨offset, rest, 0⟩ = .ok a after ↔ ∃ (r : Frame) (back : Bytes), rest = r.toBytes ++ back ∧
      a = r.recordAt offset ∧ after = ⟨offset + r.toBytes.length, back, 0⟩ := by
  constructor
  · intro h
    obtain ⟨_, back, hrest, hafter, r, rfl, ha⟩ := takes_readAt offset _ _ _ _ h
    exact ⟨r, back, hrest, ha, hafter⟩
  · rintro ⟨r, back, rfl, rfl, rfl⟩
    exact r.read_toBytes offset back

/-- How an error tells of bytes behind an offset which no record starts: they end before the
record does, or its length is zero. -/
def StopsAt (offset : Nat) (back : Bytes) (e : FormatError) : Prop :=
  e.IsShortage offset back ∨
    ∃ (code : UInt8) (more : Bytes), back = code :: 0 :: 0 :: more ∧
      e = .zeroLength ⟨code.toNat⟩ offset

theorem stopsAt_of_read (h : read ⟨offset, rest, 0⟩ = .error e after) : StopsAt offset rest e :=
  lacks_readAt offset offset rest e after h

end Record

/-! ### All of an input -/

namespace Frame
variable {r : Frame} {frames others : List Frame} {limit offset : Nat} {done : List Record}
  {rest : Bytes}

/-- At most the last of some records ends a module. -/
def EndAtLast (frames : List Frame) : Prop := ∀ r ∈ frames.dropLast, r.type.endsModule = false

/-- The last of some records ends a module. -/
def EndModule (frames : List Frame) : Prop := ∃ r ∈ frames.getLast?, r.type.endsModule = true

theorem not_endModule_nil : ¬ EndModule [] := by
  rintro ⟨r, hr, _⟩
  cases hr

theorem endModule_cons_of_not (hr : r.type.endsModule = false) :
    EndModule (r :: others) ↔ EndModule others := by
  cases others with
  | nil => simp [EndModule, hr]
  | cons next others => simp [EndModule, List.getLast?_cons_cons]

theorem endAtLast_nil : EndAtLast [] := by simp [EndAtLast]

theorem endAtLast_cons :
    EndAtLast (r :: others) ↔ (r.type.endsModule = true → others = []) ∧ EndAtLast others := by
  cases others with
  | nil => simp [EndAtLast]
  | cons next others => simp [EndAtLast]

theorem endAtLast_cons_of_not (hr : r.type.endsModule = false) :
    EndAtLast (r :: others) ↔ EndAtLast others := by
  simp [endAtLast_cons, hr]

/-- Behind the record that ends the module nothing is cut. -/
theorem splitAfter_last (hr : r.type.endsModule = true) :
    Record.splitAfter (limit + 1) done ⟨offset, r.toBytes ++ rest, 0⟩ =
      ⟨(r.recordAt offset :: done).reverse, none⟩ := by
  have inside : Cursor.atEnd ⟨offset, r.toBytes ++ rest, 0⟩ = false := rfl
  have hr : (r.recordAt offset).type.endsModule = true := hr
  rw [Record.splitAfter, inside, read_toBytes]
  simp only [Bool.false_eq_true, if_false, hr, if_true]

/-- **What is written is cut as it was**, up to the end or to the record that ends the module. -/
theorem splitAfter_whole (hframes : EndAtLast frames) (hrest : rest = [] ∨ EndModule frames)
    (hlimit : frames.length ≤ limit) :
    Record.splitAfter limit [] ⟨offset, allBytes frames ++ rest, 0⟩ =
      ⟨recordsFrom offset frames, none⟩ := by
  induction frames generalizing limit offset with
  | nil =>
    obtain rfl := hrest.resolve_right not_endModule_nil
    cases limit <;> rfl
  | cons r others ih =>
    obtain ⟨halone, hothers⟩ := endAtLast_cons.mp hframes
    obtain ⟨limit, rfl⟩ : ∃ l, limit = l + 1 := Nat.exists_eq_add_one.mpr (Nat.zero_lt_of_lt hlimit)
    rw [allBytes_cons, List.append_assoc]
    cases hr : r.type.endsModule with
    | true =>
      rw [halone hr, splitAfter_last hr]
      rfl
    | false =>
      rw [endModule_cons_of_not hr] at hrest
      rw [splitAfter_cons r hr, splitAfter_eq, ih hothers hrest (Nat.le_of_succ_le_succ hlimit)]
      rfl

/-- What is cut from an input behind an offset: records written at its front, and what comes
behind them. -/
structure IsCut (offset : Nat) (input : Bytes) (cut : Records) (frames : List Frame)
    (back : Bytes) : Prop where
  written : input = allBytes frames ++ back
  records : cut.records = recordsFrom offset frames
  endAtLast : EndAtLast frames
  /-- Without a fault all is cut, or all up to the end of the module. -/
  whole : cut.fault = none → back = [] ∨ EndModule frames
  /-- A fault is found in what no record starts. -/
  stopped : ∀ e, cut.fault = some e → ¬ EndModule frames ∧ back ≠ [] ∧
    (∀ (r : Frame) (more : Bytes), back ≠ r.toBytes ++ more) ∧
    Record.StopsAt (offset + (allBytes frames).length) back e

/-- From an input that is at its end nothing is cut. -/
theorem isCut_nil (offset : Nat) : IsCut offset [] ⟨[], none⟩ [] [] where
  written := rfl
  records := rfl
  endAtLast := endAtLast_nil
  whole _ := .inl rfl
  stopped e he := by cases he

/-- Nothing is cut where no record is read. -/
theorem isCut_of_error {e : FormatError} {after : Cursor} (hrest : rest ≠ [])
    (hread : Record.read ⟨offset, rest, 0⟩ = .error e after) :
    IsCut offset rest ⟨[], some e⟩ [] rest where
  written := rfl
  records := rfl
  endAtLast := endAtLast_nil
  whole hfault := by cases hfault
  stopped e' he := by
    cases he
    refine ⟨not_endModule_nil, hrest, fun r more hmore => ?_, Record.stopsAt_of_read hread⟩
    rw [hmore, read_toBytes] at hread
    cases hread

/-- The record that ends the module is the last to be cut. -/
theorem isCut_of_endsModule {back : Bytes} (hr : r.type.endsModule = true) :
    IsCut offset (r.toBytes ++ back) ⟨[r.recordAt offset], none⟩ [r] back where
  written := by rw [allBytes_cons, allBytes, List.flatMap_nil, List.append_nil]
  records := rfl
  endAtLast := endAtLast_cons.mpr ⟨fun _ => rfl, endAtLast_nil⟩
  whole _ := .inr ⟨r, rfl, hr⟩
  stopped e he := by cases he

/-- The first record is cut before those of the rest. -/
theorem IsCut.cons {cut : Records} {back : Bytes} (hr : r.type.endsModule = false)
    (h : IsCut (offset + r.toBytes.length) rest cut others back) :
    IsCut offset (r.toBytes ++ rest) ⟨r.recordAt offset :: cut.records, cut.fault⟩
      (r :: others) back where
  written := by rw [allBytes_cons, List.append_assoc, ← h.written]
  records := congrArg (r.recordAt offset :: ·) h.records
  endAtLast := (endAtLast_cons_of_not hr).mpr h.endAtLast
  whole := by
    rw [endModule_cons_of_not hr]
    exact h.whole
  stopped e he := by
    rw [endModule_cons_of_not hr, allBytes_cons, List.length_append, ← Nat.add_assoc]
    exact h.stopped e he

/-- **What is cut is written at the front of the input**, whatever the input. -/
theorem exists_isCut (hlimit : rest.length ≤ limit) :
    ∃ frames back,
      IsCut offset rest (Record.splitAfter limit [] ⟨offset, rest, 0⟩) frames back := by
  induction limit generalizing offset rest with
  | zero =>
    obtain rfl := List.eq_nil_of_length_eq_zero (Nat.le_zero.mp hlimit)
    exact ⟨[], [], isCut_nil offset⟩
  | succ limit ih =>
    unfold Record.splitAfter
    split
    · next hend =>
      obtain rfl : rest = [] := by simpa [Cursor.atEnd] using hend
      exact ⟨[], [], isCut_nil offset⟩
    · next hend =>
      have hne : rest ≠ [] := by
        rintro rfl
        exact hend rfl
      split
      · next e after hread => exact ⟨[], rest, isCut_of_error hne hread⟩
      · next a after hread =>
        obtain ⟨r, back, rfl, rfl, rfl⟩ := Record.read_eq_ok.mp hread
        have hback : back.length ≤ limit := by
          have := r.length_toBytes
          rw [List.length_append] at hlimit
          omega
        split
        · next hr => exact ⟨[r], back, isCut_of_endsModule hr⟩
        · next hr =>
          rw [splitAfter_eq]
          obtain ⟨others, back', h⟩ := ih hback
          exact ⟨r :: others, back', h.cons (Bool.eq_false_iff.mpr hr)⟩

/-- Of an input that starts with whole records, and goes on only behind the end of a module, these
are cut. -/
theorem split_whole (hframes : EndAtLast frames) (hrest : rest = [] ∨ EndModule frames) :
    Record.split (allBytes frames ++ rest) = ⟨recordsFrom 0 frames, none⟩ := by
  have hlimit : frames.length ≤ (allBytes frames ++ rest).length := by
    have := length_le_allBytes frames
    rw [List.length_append]
    omega
  rw [Record.split, Cursor.start_zero, splitAfter_whole hframes hrest hlimit]

theorem isCut_split (input : Bytes) :
    ∃ frames back, IsCut 0 input (Record.split input) frames back := by
  rw [Record.split, Cursor.start_zero]
  exact exists_isCut (Nat.le_refl _)

/-- **Cutting and writing are inverse.** Records that are written are cut as they were, each at
the offset it was written at, and what is cut from any input is written at its front. -/
theorem split_inverts_writing :
    (∀ frames rest, EndAtLast frames → (rest = [] ∨ EndModule frames) →
      Record.split (allBytes frames ++ rest) = ⟨recordsFrom 0 frames, none⟩) ∧
    ∀ input, ∃ frames back, IsCut 0 input (Record.split input) frames back :=
  ⟨fun _ _ => split_whole, isCut_split⟩

/-- A record of names and the end of the module. -/
def namesThenEnd : List Frame := [⟨0x96, [1, 0x41], 7, by decide⟩, ⟨0x8A, [0], 0, by decide⟩]

theorem split_namesThenEnd :
    EndAtLast namesThenEnd ∧ EndModule namesThenEnd ∧
      Record.split [0x96, 3, 0, 1, 0x41, 7, 0x8A, 2, 0, 0, 0, 0xFF] =
        ⟨[⟨.lnames, 0, [1, 0x41], 7⟩, ⟨.modend, 6, [0], 0⟩], none⟩ := by
  have hlast : EndAtLast namesThenEnd := List.forall_mem_singleton.mpr rfl
  have hends : EndModule namesThenEnd := ⟨_, rfl, rfl⟩
  have hbytes : allBytes namesThenEnd ++ [0xFF] =
      [0x96, 3, 0, 1, 0x41, 7, 0x8A, 2, 0, 0, 0, 0xFF] := by decide
  have hrecords : recordsFrom 0 namesThenEnd =
      [⟨.lnames, 0, [1, 0x41], 7⟩, ⟨.modend, 6, [0], 0⟩] := by decide
  rw [← hbytes, ← hrecords]
  exact ⟨hlast, hends, split_inverts_writing.1 namesThenEnd [0xFF] hlast (.inr hends)⟩

end Frame
end ObjectModule
