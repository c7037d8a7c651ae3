/-! Digits and blanks of every script.

Decimal digits come in blocks of ten, zero first, one block a script. The letters
of the Latin alphabet serve as digits beyond nine. Digits write a number with the
highest first; those of a long number are taken in halves, so that most of the work is
in few multiplications. Blanks are the characters that may surround a number without
being part of it. -/
namespace ObjectModule.Text

/-- The zeros beyond ASCII; each is followed by the digits one to nine of its
script. -/
def scriptZeros : List Nat :=
  [0x660, 0x6F0, 0x7C0, 0x966, 0x9E6, 0xA66, 0xAE6, 0xB66, 0xBE6, 0xC66, 0xCE6, 0xD66, 0xDE6,
   0xE50, 0xED0, 0xF20, 0x1040, 0x1090, 0x17E0, 0x1810, 0x1946, 0x19D0, 0x1A80, 0x1A90, 0x1B50,
   0x1BB0, 0x1C40, 0x1C50, 0xA620, 0xA8D0, 0xA900, 0xA9D0, 0xA9F0, 0xAA50, 0xABF0, 0xFF10,
   0x104A0, 0x10D30, 0x11066, 0x110F0, 0x11136, 0x111D0, 0x112F0, 0x11450, 0x114D0, 0x11650,
   0x116C0, 0x11730, 0x118E0, 0x11950, 0x11C50, 0x11D50, 0x11DA0, 0x16A60, 0x16AC0, 0x16B50,
   0x1D7CE, 0x1D7D8, 0x1D7E2, 0x1D7EC, 0x1D7F6, 0x1E140, 0x1E2F0, 0x1E950, 0x1FBF0]

/-- The ASCII digit of the same value for a digit of any script; any other
character as it is. -/
def plainDigit (c : Char) : Char :=
  match scriptZeros.find? fun first => first ≤ c.toNat && c.toNat < first + 10 with
  | some first => Char.ofNat ('0'.toNat + (c.toNat - first))
  | none => c

/-- The value of an ASCII digit, and from ten on of a Latin letter in either
case. -/
def digitValue? (c : Char) : Option Nat :=
  if '0' ≤ c ∧ c ≤ '9' then some (c.toNat - '0'.toNat)
  else if 'a' ≤ c ∧ c ≤ 'z' then some (c.toNat - 'a'.toNat + 10)
  else if 'A' ≤ c ∧ c ≤ 'Z' then some (c.toNat - 'A'.toNat + 10)
  else none

/-- The blanks: the space, the controls from tab to carriage return, and the
spaces and line ends beyond ASCII. -/
def isBlank (c : Char) : Bool :=
  c = ' ' || (0x9 ≤ c.toNat && c.toNat ≤ 0xD) || c.toNat == 0x85 || c.toNat == 0xA0 ||
  c.toNat == 0x1680 || (0x2000 ≤ c.toNat && c.toNat ≤ 0x200A) || c.toNat == 0x2028 ||
  c.toNat == 0x2029 || c.toNat == 0x202F || c.toNat == 0x205F || c.toNat == 0x3000

/-! ### Numbers -/

/-- A number continued by more digits, which follow one by one. -/
def continued (base value : Nat) (digits : List Nat) : Nat :=
  digits.foldl (fun value d => value * base + d) value

/-- The number written by digits, which are halved as often as the limit says. -/
def ofDigitsWithin (base : Nat) : (limit : Nat) → List Nat → Nat
  | 0, digits => continued base 0 digits
  | limit + 1, digits =>
    let (front, back) := digits.splitAt (digits.length / 2)
    ofDigitsWithin base limit front * base.pow back.length + ofDigitsWithin base limit back

/-- How many digits are taken one by one. -/
def shortLength : Nat := 64

/-- The number written by the digits, highest first. -/
def ofDigits (base : Nat) (digits : List Nat) : Nat :=
  ofDigitsWithin base (digits.length / shortLength).log2 digits

theorem continued_eq (base value : Nat) (digits : List Nat) :
    continued base value digits = value * base.pow digits.length + continued base 0 digits := by
  induction digits generalizing value with
  | nil => simp [continued]
  | cons d rest ih =>
    have hpow : base.pow (d :: rest).length = base.pow rest.length * base := rfl
    simp only [continued, List.foldl_cons, Nat.zero_mul, Nat.zero_add] at ih ⊢
    rw [ih (value * base + d), ih d, hpow, Nat.add_mul, Nat.mul_assoc, Nat.mul_comm base,
      Nat.add_assoc]

/-- However often the digits are halved, they write the same number. -/
theorem ofDigitsWithin_eq (base limit : Nat) (digits : List Nat) :
    ofDigitsWithin base limit digits = continued base 0 digits := by
  induction limit generalizing digits with
  | zero => rfl
  | succ limit ih =>
    rw [ofDigitsWithin, List.splitAt_eq]
    simp only [ih]
    rw [← continued_eq]
    simp only [continued]
    rw [← List.foldl_append, List.take_append_drop]

theorem ofDigits_eq (base : Nat) (digits : List Nat) :
    ofDigits base digits = continued base 0 digits :=
  ofDigitsWithin_eq ..

end ObjectModule.Text
