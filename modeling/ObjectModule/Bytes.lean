/-! Byte strings.

Everything an object module holds is a list of bytes. This file says how such a
list is read as a number (lowest byte first) and as text (one character per
byte), and how a part of it is found by numbers that may count from the end. -/
namespace ObjectModule

/-- A string of bytes. -/
abbrev Bytes := List UInt8

namespace Bytes

/-- The number whose digits in base 256, lowest first, are the bytes. -/
def littleEndian : Bytes → Nat
  | [] => 0
  | b :: rest => b.toNat + 256 * littleEndian rest

/-- The text in which each byte is the character of the same code. -/
def latin1 (bytes : Bytes) : String :=
  String.ofList (bytes.map fun b => Char.ofNat b.toNat)

/-- Whether no byte differs from zero. -/
def allZero (bytes : Bytes) : Bool := bytes.all (· == 0)

/-- The place a number stands for in a string of a given length: counted from the end if
it is below zero, and the nearest end if it is outside. -/
def place (length : Nat) (n : Int) : Nat := min (if n < 0 then length + n else n).toNat length

/-- The bytes from one place up to another. -/
def slice (bytes : Bytes) (first last : Int) : Bytes :=
  (bytes.take (place bytes.length last)).drop (place bytes.length first)

/-! ### Equations -/

theorem littleEndian_lt (bytes : Bytes) : littleEndian bytes < .pow 256 bytes.length := by
  induction bytes with
  | nil => exact Nat.one_pos
  | cons b rest ih =>
    have := b.toNat_lt
    show b.toNat + 256 * littleEndian rest < Nat.pow 256 rest.length * 256
    omega

end Bytes
end ObjectModule
