/-! Numbers in base sixteen, as messages and dumps write them.

A negative number is its magnitude behind a minus sign, and the sign comes before
the `0x` mark or the padding. -/
namespace ObjectModule.Text

/-- The magnitude in lower-case hexadecimal digits. -/
def hexDigits (n : Nat) : String := String.ofList (Nat.toDigits 16 n)

/-- A sign if the number is negative, the `0x` mark, and the digits. -/
def hex (n : Int) : String :=
  if n < 0 then s!"-0x{hexDigits n.natAbs}" else s!"0x{hexDigits n.natAbs}"

/-- The digits behind the sign, with zeros between them up to `width` characters
in all. -/
def paddedHex (width : Nat) (n : Int) : String :=
  let digits := Nat.toDigits 16 n.natAbs
  if n < 0 then
    String.ofList ('-' :: List.replicate (width - 1 - digits.length) '0' ++ digits)
  else
    String.ofList (List.replicate (width - digits.length) '0' ++ digits)

end ObjectModule.Text
