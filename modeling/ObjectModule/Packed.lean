import ObjectModule.Bytes

/-! Packed bytes.

The data of fragments, what iterated data expands to and the images of segments may be
millions of bytes long. They are kept side by side in memory. `toBytes` gives the
string they stand for, and each operation is told by what it does to that string:
`toBytes_append`, `toBytes_part`, `toBytes_replicated` and `allZero_eq`. -/
namespace ObjectModule

/-- Bytes kept side by side. -/
structure Packed where
  raw : ByteArray

namespace Packed

instance : DecidableEq Packed := fun p q =>
  match ByteArray.instDecidableEq p.raw q.raw with
  | isTrue same => isTrue (by
    cases p
    cases q
    exact congrArg mk same)
  | isFalse other => isFalse fun same => other (congrArg raw same)

/-- The bytes as a string. -/
def toBytes (p : Packed) : Bytes := p.raw.data.toList

/-- A string of bytes, packed. -/
def ofBytes (bytes : Bytes) : Packed := ⟨bytes.toByteArray⟩

instance : Repr Packed := ⟨fun p => reprPrec p.toBytes⟩

/-- No bytes. -/
def empty : Packed := ⟨.empty⟩

/-- How many bytes there are. -/
def size (p : Packed) : Nat := p.raw.size

/-- The bytes of two, one behind the other. Nothing is moved to stand behind nothing. -/
def append (p q : Packed) : Packed := if p.size = 0 then q else ⟨p.raw ++ q.raw⟩

instance : Append Packed := ⟨append⟩

/-- The bytes from one place up to another, as far as there are any. -/
def part (p : Packed) (first last : Nat) : Packed :=
  ⟨p.raw.extract (min first p.size) (min last p.size)⟩

/-- The bytes from one place up to another, which are found as in `Bytes.slice`. -/
def slice (p : Packed) (first last : Int) : Packed :=
  p.part (Bytes.place p.size first) (Bytes.place p.size last)

/-- A pattern written `count` times, for counts up to a limit. Every round writes the
pattern twice and halves the count. -/
def replicatedWithin : (limit count : Nat) → Packed → Packed
  | 0, _, _ => empty
  | limit + 1, count, pattern =>
    if count = 0 then empty
    else if count = 1 then pattern
    else
      let most := replicatedWithin limit (count / 2) (pattern ++ pattern)
      if count % 2 = 0 then most else most ++ pattern

/-- A pattern written `count` times, end to end. -/
def replicated (count : Nat) (pattern : Packed) : Packed := replicatedWithin count count pattern

/-- A byte written `count` times. -/
def filled (count : Nat) (byte : UInt8) : Packed := replicated count (ofBytes [byte])

/-- A gap: `count` zero bytes. -/
def zeros (count : Nat) : Packed := filled count 0

/-- Whether the first `count` bytes are zero. -/
def zerosBelow (p : Packed) : (count : Nat) → count ≤ p.size → Bool
  | 0, _ => true
  | count + 1, h => p.raw[count] == 0 && zerosBelow p count (Nat.le_of_succ_le h)

/-- Whether no byte differs from zero. -/
def allZero (p : Packed) : Bool := p.zerosBelow p.size (Nat.le_refl _)

/-! ### What the operations do to the string -/

theorem eq_of_toBytes_eq {p q : Packed} (h : p.toBytes = q.toBytes) : p = q := by
  cases p
  cases q
  exact congrArg mk (ByteArray.ext (Array.toList_inj.mp h))

@[simp] theorem length_toBytes (p : Packed) : p.toBytes.length = p.size := rfl

@[simp] theorem toBytes_ofBytes (bytes : Bytes) : (ofBytes bytes).toBytes = bytes :=
  List.toList_data_toByteArray

@[simp] theorem toBytes_empty : empty.toBytes = [] := rfl

@[simp] theorem toBytes_append (p q : Packed) : (p ++ q).toBytes = p.toBytes ++ q.toBytes := by
  show (append p q).toBytes = _
  rw [append]
  split
  · next none =>
    rw [List.eq_nil_of_length_eq_zero ((length_toBytes p).trans none), List.nil_append]
  · exact ByteArray.toList_data_append

theorem size_append (p q : Packed) : (p ++ q).size = p.size + q.size := by
  rw [← length_toBytes, toBytes_append, List.length_append, length_toBytes, length_toBytes]

theorem empty_append (p : Packed) : empty ++ p = p := eq_of_toBytes_eq (by simp)

theorem append_empty (p : Packed) : p ++ empty = p := eq_of_toBytes_eq (by simp)

theorem append_assoc (p q r : Packed) : p ++ q ++ r = p ++ (q ++ r) := eq_of_toBytes_eq (by simp)

@[simp] theorem toBytes_part (p : Packed) (first last : Nat) :
    (p.part first last).toBytes = (p.toBytes.take last).drop first := by
  have hl : p.raw.data.toList.length = p.size := rfl
  simp only [part, toBytes, ByteArray.data_extract, Array.toList_extract, List.take_drop]
  by_cases hf : first ≤ p.size
  · rw [Nat.min_eq_left hf]
    by_cases h : first ≤ min last p.size
    · rw [Nat.add_sub_cancel' h, ← hl, ← List.take_eq_take_min]
    · rw [List.drop_of_length_le (by simp; omega), List.drop_of_length_le (by simp; omega)]
  · rw [List.drop_of_length_le (by simp [hl]; omega),
      List.drop_of_length_le (by simp [hl]; omega)]

@[simp] theorem toBytes_slice (p : Packed) (first last : Int) :
    (p.slice first last).toBytes = p.toBytes.slice first last :=
  toBytes_part ..

theorem toBytes_replicatedWithin {limit count : Nat} (h : count ≤ limit) (pattern : Packed) :
    (replicatedWithin limit count pattern).toBytes =
      (List.replicate count pattern.toBytes).flatten := by
  induction limit generalizing count pattern with
  | zero =>
    obtain rfl := Nat.le_zero.mp h
    rfl
  | succ limit ih =>
    have twice : ∀ n, (List.replicate n (pattern.toBytes ++ pattern.toBytes)).flatten =
        (List.replicate (2 * n) pattern.toBytes).flatten := by
      intro n
      induction n with
      | zero => rfl
      | succ n ih => simp [Nat.mul_add, List.replicate_succ, ih]
    have split := Nat.div_add_mod count 2
    rw [replicatedWithin]
    split
    · next zero => simp [zero]
    · split
      · next one => simp [one]
      · have half := ih (show count / 2 ≤ limit by omega) (pattern ++ pattern)
        rw [toBytes_append, twice] at half
        split
        · next even => rw [half, show 2 * (count / 2) = count by omega]
        · next odd =>
          rw [toBytes_append, half, show count = 2 * (count / 2) + 1 by omega,
            List.replicate_succ', List.flatten_append]
          simp only [List.flatten_cons, List.flatten_nil, List.append_nil]
          rw [show (2 * (count / 2) + 1) / 2 = count / 2 by omega]

@[simp] theorem toBytes_replicated (count : Nat) (pattern : Packed) :
    (replicated count pattern).toBytes = (List.replicate count pattern.toBytes).flatten :=
  toBytes_replicatedWithin (Nat.le_refl _) pattern

@[simp] theorem toBytes_filled (count : Nat) (byte : UInt8) :
    (filled count byte).toBytes = List.replicate count byte := by
  simp [filled, List.flatten_replicate_singleton]

@[simp] theorem toBytes_zeros (count : Nat) : (zeros count).toBytes = List.replicate count 0 :=
  toBytes_filled count 0

/-! ### Zeros -/

theorem zerosBelow_eq (p : Packed) (count : Nat) (h : count ≤ p.size) :
    p.zerosBelow count h = Bytes.allZero (p.toBytes.take count) := by
  induction count with
  | zero => rfl
  | succ count ih =>
    have inside : count < p.toBytes.length := h
    rw [zerosBelow, ih, ← List.take_append_getElem inside, Bytes.allZero, Bytes.allZero,
      List.all_append, Bool.and_comm]
    congr 1
    simp only [List.all_cons, List.all_nil, Bool.and_true]
    rfl

theorem allZero_eq (p : Packed) : p.allZero = Bytes.allZero p.toBytes := by
  rw [allZero, zerosBelow_eq, ← length_toBytes, List.take_length]

end Packed
end ObjectModule
