/-! How much a machine can deal with at a time.

Counts of bytes are signed numbers of 64 bits. How much memory there is, and how deep a
recursion may go, depends on the machine; both are parameters. What is asked for by a
number may exceed any of these bounds; the checks of this file say so before anything is
set aside. Within the bounds they pass and change nothing. -/
namespace ObjectModule

/-- The bounds of a machine. -/
class Machine where
  /-- The first amount of bytes that no longer fits in memory. -/
  memory : Int
  /-- How deep blocks may stand in one another to be followed. -/
  levels : Nat

/-- Why bytes cannot be had. -/
inductive CapacityError where
  /-- Their count is beyond what a signed number of 64 bits can hold. -/
  | uncountable
  /-- There is less memory than that. -/
  | outOfMemory
  /-- They are written by blocks too deep in one another. -/
  | tooDeep
deriving DecidableEq, Repr

/-- The wording of a capacity error. -/
def CapacityError.message : CapacityError → String
  | uncountable => "more bytes than can be counted"
  | outOfMemory => "more bytes than fit in memory"
  | tooDeep => "blocks too deep in one another to be followed"

namespace Capacity

/-- The first number too large to be a count. -/
def countBound : Int := 0x8000000000000000

/-- How many bytes a string of bytes takes besides its contents. -/
def stringRecord : Nat := 33

/-- Passes numbers that can be counts, those below zero included. -/
def count (n : Int) : Except CapacityError Unit :=
  if -countBound ≤ n ∧ n < countBound then .ok () else .error .uncountable

section
variable [Machine]

/-- Passes amounts of bytes that there is room for. -/
def room (n : Int) : Except CapacityError Unit := do
  count n
  if Machine.memory ≤ n then throw .outOfMemory

/-- Passes the sizes a string of bytes can have. -/
def string (size : Nat) : Except CapacityError Unit := do
  count (size + stringRecord)
  room size

/-- The size of a pattern of `size` bytes written `n` times, where below zero counts
as never. -/
def repeated (size : Nat) (n : Int) : Except CapacityError Nat := do
  count n
  let total := size * n.toNat
  room total
  return total

/-- The size of strings put together, which have `size` bytes in all. -/
def joined (size : Nat) : Except CapacityError Nat := do
  string size
  return size

/-- Passes depths that can be followed. -/
def depth (levels : Nat) : Except CapacityError Unit :=
  if levels ≤ Machine.levels then .ok () else .error .tooDeep

end

/-! ### Within the bounds -/

theorem count_eq_ok {n : Int} (low : 0 ≤ n) (high : n < countBound) : count n = .ok () :=
  if_pos ⟨Int.le_trans (by decide) low, high⟩

section
variable [Machine]

theorem room_eq_ok {n : Int} (low : 0 ≤ n) (countable : n < countBound)
    (fits : n < Machine.memory) : room n = .ok () := by
  have h : ¬ Machine.memory ≤ n := Int.not_le.mpr fits
  simp only [room, count_eq_ok low countable, h, if_false]
  rfl

theorem string_eq_ok {size : Nat} (countable : (size : Int) + stringRecord < countBound)
    (fits : size < Machine.memory) : string size = .ok () := by
  have hc : count ((size : Int) + stringRecord) = .ok () := count_eq_ok (by omega) countable
  have hr : room size = .ok () := room_eq_ok (by omega) (by omega) fits
  simp only [string, hc, hr]
  rfl

theorem depth_eq_ok {levels : Nat} (h : levels ≤ Machine.levels) : depth levels = .ok () :=
  if_pos h

end

/-- What a computation gives after a check, it gives on a value that passed. -/
theorem exists_of_bind_eq_ok {α β : Type} {x : Except CapacityError α}
    {f : α → Except CapacityError β} {b : β} (h : (x >>= f) = .ok b) :
    ∃ a, x = .ok a ∧ f a = .ok b := by
  cases x with
  | error cause => cases h
  | ok a => exact ⟨a, rfl, h⟩

theorem eq_mul_of_repeated [Machine] {size total : Nat} {n : Int}
    (h : repeated size n = .ok total) : total = size * n.toNat := by
  obtain ⟨_, _, h⟩ := exists_of_bind_eq_ok h
  obtain ⟨_, _, h⟩ := exists_of_bind_eq_ok h
  cases h
  rfl

theorem eq_of_joined [Machine] {size total : Nat} (h : joined size = .ok total) :
    total = size := by
  obtain ⟨_, _, h⟩ := exists_of_bind_eq_ok h
  cases h
  rfl

end Capacity
end ObjectModule
