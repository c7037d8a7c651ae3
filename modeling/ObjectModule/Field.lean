import ObjectModule.Cursor

/-! The fields of variable width that records are made of.

An index takes one byte below 128 and two bytes, the first of them marked by its
high bit, up to 32767; the long form may also hold a small value. A sized integer
takes two bytes or, in wide records, four. Both keep the width they were read at,
so that a record's layout can be told from its fields. A counted string is a
length byte and that many characters. -/
namespace ObjectModule

/-- A reference to a name or segment, with the bytes its field takes. What is read is
not below zero. -/
structure Index where
  width : Int
  value : Int
deriving DecidableEq, Repr

/-- An integer with the bytes its field takes. -/
structure SizedInt where
  width : Int
  value : Int
deriving DecidableEq, Repr

/-- The field with another value. The width stays, whether or not the value fits
it. -/
def SizedInt.withValue (field : SizedInt) (value : Int) : SizedInt := { field with value }

namespace Reader

/-- An index in either form. -/
def index : Reader Index := do
  let first ← u8
  if first < 0x80 then return ⟨1, first⟩
  let second ← u8
  return ⟨2, (first - 0x80) * 0x100 + second⟩

/-- A sized integer. -/
def sizedInt (wide : Bool) : Reader SizedInt := do
  return ⟨if wide then 4 else 2, ← u16or32 wide⟩

/-- A counted string. -/
def countedString : Reader String := do
  let length ← u8
  return Bytes.latin1 (← bytes length)

end Reader
end ObjectModule
