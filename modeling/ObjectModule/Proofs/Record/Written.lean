import ObjectModule.Field

/-! Reading what was written.

A reader `Reads` a string of bytes as a value if it takes exactly these bytes, wherever they
stand and whatever follows. What a reader made of others reads is what its parts read, one
behind the other. -/
namespace ObjectModule

namespace Bytes

/-- A number as so many bytes, lowest first. What does not fit is cut off. -/
def ofNat : (width n : Nat) → Bytes
  | 0, _ => []
  | width + 1, n => UInt8.ofNat n :: ofNat width (n / 256)

@[simp] theorem length_ofNat (width n : Nat) : (ofNat width n).length = width := by
  induction width generalizing n with
  | zero => rfl
  | succ width ih => rw [ofNat, List.length_cons, ih]

/-- A string of bytes behind the count of its bytes. -/
def counted (text : Bytes) : Bytes := ofNat 1 text.length ++ text

/-- A number that fits is read as it was written. -/
theorem littleEndian_ofNat {width n : Nat} (h : n < .pow 256 width) :
    littleEndian (ofNat width n) = n := by
  induction width generalizing n with
  | zero => exact (Nat.lt_one_iff.mp h).symm
  | succ width ih =>
    have hdiv : n / 256 < .pow 256 width := Nat.div_lt_of_lt_mul (Nat.mul_comm .. ▸ h)
    rw [ofNat, littleEndian, ih hdiv, UInt8.toNat_ofNat']
    omega

/-- What is written of at least one byte for each item is no shorter than the items are many. -/
theorem length_le_flatMap {α : Type} {write : α → Bytes} {all : List α}
    (h : ∀ a ∈ all, write a ≠ []) : all.length ≤ (all.flatMap write).length := by
  induction all with
  | nil => exact Nat.le_refl 0
  | cons a others ih =>
    obtain ⟨ha, hothers⟩ := List.forall_mem_cons.mp h
    have hfirst := List.length_pos_iff.mpr ha
    have hbehind := ih hothers
    rw [List.flatMap_cons, List.length_append, List.length_cons]
    omega

end Bytes

theorem Cursor.start_zero (input : Bytes) : start input 0 = ⟨0, input, 0⟩ := by simp [start]

namespace Reader
variable {α β : Type} {reader : Reader α} {next : α → Reader β} {front back : Bytes} {a : α} {b : β}

/-- A reader takes a string of bytes, in any place, and gives a value. -/
def Reads (reader : Reader α) (bytes : Bytes) (a : α) : Prop :=
  ∀ offset rest, reader ⟨offset, bytes ++ rest, 0⟩ = .ok a ⟨offset + bytes.length, rest, 0⟩

theorem reads_pure (a : α) : Reads (pure a) [] a := fun _ _ => rfl

theorem Reads.bind (h : reader.Reads front a) (hnext : (next a).Reads back b) :
    (reader >>= next).Reads (front ++ back) b := by
  intro offset rest
  rw [List.append_assoc, List.length_append, ← Nat.add_assoc]
  exact bind_eq_ok.mpr ⟨a, _, h offset (back ++ rest), hnext _ rest⟩

theorem Reads.bind_pure {f : α → β} (h : reader.Reads front a) :
    (do return f (← reader) : Reader β).Reads front (f a) := by
  rw [← List.append_nil front]
  exact h.bind (reads_pure _)

/-- What is read from the front of an input does not depend on what stands behind it. -/
theorem Reads.parse (h : reader.Reads front a) (rest : Bytes) :
    reader.parse (front ++ rest) = .ok a := by
  have hrun : reader.run (.start (front ++ rest) 0) = .ok a ⟨0 + front.length, rest, 0⟩ :=
    Cursor.start_zero (front ++ rest) ▸ h 0 rest
  rw [Reader.parse, hrun]

theorem reads_bytes (front : Bytes) : (bytes front.length).Reads front front := by
  intro offset rest
  rw [bytes_eq, if_pos (by simp only [List.length_append]; omega)]
  simp

theorem reads_number (digits : Bytes) :
    (number digits.length).Reads digits (Bytes.littleEndian digits) := by
  intro offset rest
  rw [number_eq, if_pos (by simp), List.take_left, List.drop_left]

/-- A number that fits its width is read as it was written. -/
theorem reads_number_ofNat {width n : Nat} (h : n < .pow 256 width) :
    (number width).Reads (Bytes.ofNat width n) n := by
  have := reads_number (Bytes.ofNat width n)
  rwa [Bytes.length_ofNat, Bytes.littleEndian_ofNat h] at this

theorem reads_u8 (byte : UInt8) : u8.Reads [byte] byte.toNat := reads_number [byte]

/-- A text is read as it was written behind its count. -/
theorem reads_countedString {text : Bytes} (h : text.length < 0x100) :
    countedString.Reads text.counted text.latin1 :=
  (reads_number_ofNat (show text.length < .pow 256 1 from h)).bind (reads_bytes text).bind_pure

/-! ### Repetition -/

section
variable {item : Reader α} {write : α → Bytes} {all done : List α}

theorem reads_timesAfter (h : ∀ a ∈ all, item.Reads (write a) a) :
    (timesAfter item all.length done).Reads (all.flatMap write) (done.reverse ++ all) := by
  induction all generalizing done with
  | nil =>
    rw [List.append_nil]
    exact reads_pure done.reverse
  | cons a others ih =>
    obtain ⟨ha, hothers⟩ := List.forall_mem_cons.mp h
    have hall : done.reverse ++ a :: others = (a :: done).reverse ++ others := by simp
    rw [List.flatMap_cons, hall]
    exact ha.bind (ih hothers)

/-- Items are read as they were written, one behind the other. -/
theorem reads_times (h : ∀ a ∈ all, item.Reads (write a) a) :
    (times all.length item).Reads (all.flatMap write) all :=
  reads_timesAfter h

end

/-! ### Up to the end of the input -/

/-- A reader takes a string of bytes up to the end of the input, in any place, and gives a
value. -/
def ReadsAll (reader : Reader α) (bytes : Bytes) (a : α) : Prop :=
  ∀ offset, reader ⟨offset, bytes, 0⟩ = .ok a ⟨offset + bytes.length, [], 0⟩

theorem Reads.readsAll (h : reader.Reads front a) : reader.ReadsAll front a := by
  intro offset
  have := h offset []
  rwa [List.append_nil] at this

theorem Reads.bind_all (h : reader.Reads front a) (hnext : (next a).ReadsAll back b) :
    (reader >>= next).ReadsAll (front ++ back) b := by
  intro offset
  rw [List.length_append, ← Nat.add_assoc]
  exact bind_eq_ok.mpr ⟨a, _, h offset back, hnext _⟩

theorem ReadsAll.bind_pure {f : α → β} (h : reader.ReadsAll front a) :
    (do return f (← reader) : Reader β).ReadsAll front (f a) :=
  fun offset => bind_eq_ok.mpr ⟨a, _, h offset, rfl⟩

theorem ReadsAll.parse (h : reader.ReadsAll front a) : reader.parse front = .ok a := by
  have hrun : reader.run (.start front 0) = .ok a ⟨0 + front.length, [], 0⟩ :=
    Cursor.start_zero front ▸ h 0
  rw [Reader.parse, hrun]

theorem readsAll_remainder (front : Bytes) : remainder.ReadsAll front front :=
  fun offset => (reads_bytes front).readsAll offset

section
variable {item : Reader α} {write : α → Bytes} {all done : List α} {limit : Nat}

/-- At the end of the input no item is read. -/
theorem untilEndAfter_at_end (limit offset : Nat) :
    untilEndAfter item limit done ⟨offset, [], 0⟩ = .ok done.reverse ⟨offset, [], 0⟩ := by
  cases limit <;> rfl

/-- Before the end of the input an item is read, and then others. -/
theorem untilEndAfter_inside {offset : Nat} {rest : Bytes} (h : rest ≠ []) :
    untilEndAfter item (limit + 1) done ⟨offset, rest, 0⟩ =
      (do untilEndAfter item limit ((← item) :: done) : Reader (List α)) ⟨offset, rest, 0⟩ := by
  have inside : Cursor.atEnd ⟨offset, rest, 0⟩ = false := by simpa [Cursor.atEnd] using h
  rw [untilEndAfter]
  show (if Cursor.atEnd ⟨offset, rest, 0⟩ then pure done.reverse
    else do untilEndAfter item limit ((← item) :: done) : Reader (List α)) ⟨offset, rest, 0⟩ = _
  rw [inside]
  rfl

theorem readsAll_untilEndAfter (h : ∀ a ∈ all, item.Reads (write a) a ∧ write a ≠ [])
    (hlimit : all.length ≤ limit) :
    (untilEndAfter item limit done).ReadsAll (all.flatMap write) (done.reverse ++ all) := by
  induction all generalizing limit done with
  | nil =>
    intro offset
    rw [List.append_nil]
    exact untilEndAfter_at_end limit offset
  | cons a others ih =>
    obtain ⟨⟨ha, hne⟩, hothers⟩ := List.forall_mem_cons.mp h
    obtain ⟨limit, rfl⟩ : ∃ l, limit = l + 1 := Nat.exists_eq_add_one.mpr (Nat.zero_lt_of_lt hlimit)
    have hall : done.reverse ++ a :: others = (a :: done).reverse ++ others := by simp
    have hbytes : (a :: others).flatMap write ≠ [] := by simp [hne]
    intro offset
    rw [untilEndAfter_inside hbytes, hall, List.flatMap_cons]
    exact ha.bind_all (ih hothers (Nat.le_of_succ_le_succ hlimit)) offset

/-- Items of at least one byte each are read as they were written, up to the end. -/
theorem readsAll_untilEnd (h : ∀ a ∈ all, item.Reads (write a) a ∧ write a ≠ []) :
    (untilEnd item).ReadsAll (all.flatMap write) all :=
  readsAll_untilEndAfter h (Bytes.length_le_flatMap fun a ha => (h a ha).2)

end

end Reader
end ObjectModule
