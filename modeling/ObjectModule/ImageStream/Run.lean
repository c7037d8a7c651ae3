import ObjectModule.Packed

/-! Runs: stretches of an image in the form they come in.

A run is either a count of zero bytes or what is left of bytes that are already
there. Gaps of any size cost nothing until they are taken from, and taking from the
front does not move what stays. -/
namespace ObjectModule

/-- A stretch of an image. -/
inductive Run where
  | zeros (count : Nat)
  /-- All but the first `passed` bytes of a content. -/
  | bytes (content : Packed) (passed : Nat)
deriving DecidableEq, Repr

namespace Run

/-- The run of some bytes. -/
def ofPacked (content : Packed) : Run := bytes content 0

/-- The bytes a run stands for. -/
def toBytes : Run → Bytes
  | zeros count => List.replicate count 0
  | bytes content passed => content.toBytes.drop passed

/-- Whether the run stands for no bytes. -/
def isEmpty : Run → Bool
  | zeros count => count == 0
  | bytes content passed => content.size ≤ passed

/-- The first `n` bytes, or all there are. -/
def take (n : Nat) : Run → Packed
  | zeros count => .zeros (min n count)
  | bytes content passed => content.part passed (passed + n)

/-- What is left behind the first `n` bytes. -/
def drop (n : Nat) : Run → Run
  | zeros count => zeros (count - n)
  | bytes content passed => bytes content (passed + n)

theorem toBytes_take (r : Run) (n : Nat) : (r.take n).toBytes = r.toBytes.take n := by
  cases r <;> simp [take, toBytes, List.take_replicate, List.take_drop]

theorem toBytes_drop (r : Run) (n : Nat) : (r.drop n).toBytes = r.toBytes.drop n := by
  cases r <;> simp [drop, toBytes, Nat.add_comm]

theorem isEmpty_eq (r : Run) : r.isEmpty = r.toBytes.isEmpty := by
  cases r with
  | zeros count => cases count <;> simp [isEmpty, toBytes, List.replicate_succ]
  | bytes content passed =>
    rw [Bool.eq_iff_iff]
    simp [isEmpty, toBytes, List.drop_eq_nil_iff]

theorem size_take (r : Run) (n : Nat) : (r.take n).size = min n r.toBytes.length := by
  rw [← Packed.length_toBytes, toBytes_take, List.length_take]

theorem size_take_le (r : Run) (n : Nat) : (r.take n).size ≤ n := by
  rw [size_take]
  exact Nat.min_le_left ..

theorem take_add (r : Run) (a b : Nat) : r.take (a + b) = r.take a ++ (r.drop a).take b := by
  apply Packed.eq_of_toBytes_eq
  rw [Packed.toBytes_append, toBytes_take, toBytes_take, toBytes_take, toBytes_drop, List.take_add]

theorem take_eq_take {r : Run} {a b : Nat} (ha : r.toBytes.length ≤ a)
    (hb : r.toBytes.length ≤ b) : r.take a = r.take b := by
  apply Packed.eq_of_toBytes_eq
  rw [toBytes_take, toBytes_take, List.take_of_length_le ha, List.take_of_length_le hb]

theorem drop_drop (r : Run) (a b : Nat) : (r.drop a).drop b = r.drop (a + b) := by
  cases r with
  | zeros count => simp only [drop, Nat.sub_sub]
  | bytes content passed => simp only [drop, Nat.add_assoc]

theorem isEmpty_drop {r : Run} {n : Nat} (h : n < r.toBytes.length) :
    (r.drop n).isEmpty = false := by
  rw [isEmpty_eq, toBytes_drop, List.isEmpty_eq_false_iff, ← List.length_pos_iff,
    List.length_drop]
  omega

theorem isEmpty_drop_of_le {r : Run} {n : Nat} (h : r.toBytes.length ≤ n) :
    (r.drop n).isEmpty = true := by
  rw [isEmpty_eq, toBytes_drop, List.isEmpty_iff]
  exact List.drop_of_length_le h

/-- Taking something from a run that is not empty gives something. -/
theorem size_take_pos {r : Run} (h : r.isEmpty = false) {n : Nat} (hn : 0 < n) :
    0 < (r.take n).size := by
  rw [isEmpty_eq, List.isEmpty_eq_false_iff] at h
  have := List.length_pos_iff.mpr h
  rw [size_take]
  omega

end Run
end ObjectModule
