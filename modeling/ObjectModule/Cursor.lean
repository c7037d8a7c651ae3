import ObjectModule.Error

/-! Reading bytes in order.

A `Cursor` is a place in an input: how far in it is and what lies ahead. A
`Reader` moves a cursor forward and gives a value, or fails and leaves the cursor
where its last successful step put it. Every reader is made of `bytes`, which
takes exactly as many as asked for or none at all. A place may also lie outside the
input: nothing can be read behind the end, and places before the start are counted
from the end. -/
namespace ObjectModule

/-- A place in an input. -/
structure Cursor where
  /-- How many bytes of the input lie behind. -/
  offset : Nat
  /-- The bytes of the input ahead. -/
  rest : Bytes
  /-- How far the place is outside the input: above zero behind the end, below zero
  before the start. -/
  outside : Int := 0
deriving DecidableEq, Repr

namespace Cursor

/-- The place at an offset, which may lie outside the input. -/
def start (input : Bytes) (offset : Int) : Cursor :=
  let inside := min offset.toNat input.length
  ⟨inside, input.drop inside, offset - inside⟩

/-- The offset of the place. -/
def place (c : Cursor) : Int := c.offset + c.outside

/-- How many bytes there are to the end; below zero behind it. -/
def remaining (c : Cursor) : Int := c.rest.length - c.outside

/-- Whether the end is reached. -/
def atEnd (c : Cursor) : Bool := c.rest.isEmpty && 0 ≤ c.outside

end Cursor

/-- A step along an input that gives a value or fails. -/
abbrev Reader := EStateM FormatError Cursor

namespace Reader
variable {α β : Type}

/-- The value a reader gives on a whole input. -/
def parse (reader : Reader α) (input : Bytes) : Except FormatError α :=
  match reader.run (.start input 0) with
  | .ok a _ => .ok a
  | .error e _ => .error e

/-- Takes the next `size` bytes. When fewer are left, or the size is negative,
fails and takes none. A read from before the start moves on by `size` too, but may
find fewer bytes. -/
def bytes (size : Int) : Reader Bytes := fun c =>
  if c.outside = 0 then
    let (front, back) := c.rest.splitAt size.toNat
    if 0 ≤ size ∧ front.length = size.toNat then .ok front ⟨c.offset + size.toNat, back, 0⟩
    else .error (.unexpectedEnd size c.place c.remaining) c
  else if 0 ≤ size ∧ size ≤ c.remaining then
    .ok (c.rest.slice c.outside (c.outside + size)) (.start c.rest (c.outside + size))
  else .error (.unexpectedEnd size c.place c.remaining) c

/-- A number of the given width in bytes, lowest byte first. -/
def number (width : Nat) : Reader Nat := do
  let digits ← bytes width
  if digits.length ≠ width then throw .incompleteNumber
  return Bytes.littleEndian digits

/-- A number of one byte. -/
def u8 : Reader Nat := number 1

/-- A number of two bytes. -/
def u16 : Reader Nat := number 2

/-- A number of four bytes. -/
def u32 : Reader Nat := number 4

/-- A number of four bytes in wide records and of two in others. -/
def u16or32 (wide : Bool) : Reader Nat := if wide then u32 else u16

/-- All bytes ahead. -/
def remainder : Reader Bytes := do
  bytes (← get).remaining

/-- Reads an item `count` times, after those already read (latest first). -/
def timesAfter (item : Reader α) : Nat → List α → Reader (List α)
  | 0, done => pure done.reverse
  | count + 1, done => do
    let a ← item
    timesAfter item count (a :: done)

/-- Reads an item `count` times. -/
def times (count : Nat) (item : Reader α) : Reader (List α) := timesAfter item count []

/-- Reads items while any byte lies ahead, at most `limit` of them, after those
already read (latest first). -/
def untilEndAfter (item : Reader α) : Nat → List α → Reader (List α)
  | 0, done => pure done.reverse
  | limit + 1, done => do
    if (← get).atEnd then return done.reverse
    let a ← item
    untilEndAfter item limit (a :: done)

/-- Reads items of at least one byte each until no byte lies ahead. There can be
no more items than bytes. -/
def untilEnd (item : Reader α) : Reader (List α) := do
  untilEndAfter item (← get).rest.length []

/-! ### One reader behind another -/

section
variable {reader : Reader α} {next : α → Reader β} {c after : Cursor} {b : β} {e : FormatError}

theorem bind_eq_ok :
    (reader >>= next) c = .ok b after ↔
      ∃ a middle, reader c = .ok a middle ∧ next a middle = .ok b after := by
  show EStateM.bind reader next c = .ok b after ↔ _
  unfold EStateM.bind
  cases reader c <;> simp [and_assoc]

theorem bind_eq_error :
    (reader >>= next) c = .error e after ↔
      reader c = .error e after ∨
        ∃ a middle, reader c = .ok a middle ∧ next a middle = .error e after := by
  show EStateM.bind reader next c = .error e after ↔ _
  unfold EStateM.bind
  cases reader c <;> simp [and_assoc]

end

/-! ### What the smallest steps do -/

theorem bytes_eq (size : Int) (offset : Nat) (rest : Bytes) :
    bytes size ⟨offset, rest, 0⟩ =
      if 0 ≤ size ∧ size ≤ rest.length then
        .ok (rest.take size.toNat) ⟨offset + size.toNat, rest.drop size.toNat, 0⟩
      else
        .error (.unexpectedEnd size offset rest.length) ⟨offset, rest, 0⟩ := by
  unfold bytes
  rw [if_pos rfl, List.splitAt_eq]
  simp only [List.length_take, Cursor.place, Cursor.remaining, Int.add_zero, Int.sub_zero]
  by_cases h : 0 ≤ size ∧ min size.toNat rest.length = size.toNat
  · rw [if_pos h, if_pos]
    omega
  · rw [if_neg h, if_neg]
    omega

/-- Within an input all bytes of a number are there, or none is taken. -/
theorem number_eq (width offset : Nat) (rest : Bytes) :
    number width ⟨offset, rest, 0⟩ =
      if width ≤ rest.length then
        .ok (Bytes.littleEndian (rest.take width)) ⟨offset + width, rest.drop width, 0⟩
      else
        .error (.unexpectedEnd width offset rest.length) ⟨offset, rest, 0⟩ := by
  show EStateM.bind (bytes width) _ _ = _
  unfold EStateM.bind
  rw [bytes_eq]
  by_cases h : width ≤ rest.length
  · have hs : (0 : Int) ≤ width ∧ (width : Int) ≤ rest.length := by omega
    rw [if_pos h, if_pos hs]
    simp [List.length_take, Nat.min_eq_left h]
    rfl
  · have hs : ¬ ((0 : Int) ≤ width ∧ (width : Int) ≤ rest.length) := by omega
    rw [if_neg h, if_neg hs]

end Reader
end ObjectModule
