import ObjectModule.Bytes

/-! The attribute byte of a segment.

From the high end: three bits of alignment code, three of combination code, one
that says the declared length is to be ignored because the segment is as big as it
can be, and one that marks 32-bit code. An alignment code names a boundary, except
zero, which makes the segment absolute, and the codes above five, which mean
nothing. -/
namespace ObjectModule

/-- The attribute byte. -/
structure Attributes where
  raw : UInt8
deriving DecidableEq, Repr

namespace Attributes

/-- The low eight bits of a number as attributes. -/
def ofInt (value : Int) : Attributes := ⟨UInt8.ofInt value⟩

/-- The alignment code. -/
def alignment (a : Attributes) : Nat := a.raw.toNat / 32

/-- The combination code. -/
def combine (a : Attributes) : Nat := a.raw.toNat / 4 % 8

/-- Whether the length field is to be ignored. -/
def isBig (a : Attributes) : Bool := a.raw.toNat / 2 % 2 == 1

/-- Whether the segment holds 32-bit code. -/
def uses32Bit (a : Attributes) : Bool := a.raw.toNat % 2 == 1

/-- Whether the segment stands at an address of its own definition. -/
def isAbsolute (a : Attributes) : Bool := a.alignment == 0

end Attributes

namespace Alignment

/-- The boundary an alignment code names: byte, word, paragraph, page and double
word. -/
def boundary? (code : Int) : Option Nat :=
  if code = 1 then some 1
  else if code = 2 then some 2
  else if code = 3 then some 16
  else if code = 4 then some 4096
  else if code = 5 then some 4
  else none

/-- The least multiple of a boundary that is not below an address. -/
def roundUp (boundary : Nat) (address : Int) : Int :=
  (address + boundary - 1) / boundary * boundary

end Alignment
end ObjectModule
