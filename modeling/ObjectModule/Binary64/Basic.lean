import ObjectModule.Text.Digit

/-! Binary floating-point numbers of 64 bits.

A finite number is a significand of at most 53 bits times a power of two, which is
not below the one of the smallest number. A decimal stands for the number nearest
to it; of two equally near it takes the one with the even significand, and beyond
the largest number it becomes an infinity. All of this is exact arithmetic on
integers. -/
namespace ObjectModule

/-- A floating-point number. -/
inductive Binary64 where
  | finite (negative : Bool) (significand : Nat) (exponent : Int)
  | infinite (negative : Bool)
  | notANumber
deriving DecidableEq, Repr, Inhabited

namespace Binary64

/-- The first significand that is too large. -/
def significandBound : Nat := 1 <<< 53

/-- The exponent of the smallest number. -/
def leastExponent : Int := -1074

/-- The exponent of the largest number. -/
def greatestExponent : Int := 971

/-! ### Rounding -/

/-- A quotient rounded to the nearest integer, and to the even one of two. -/
def roundedQuotient (numerator denominator : Nat) : Nat :=
  let quotient := numerator / denominator
  let twice := 2 * (numerator % denominator)
  if twice < denominator then quotient
  else if denominator < twice then quotient + 1
  else quotient + quotient % 2

/-- A fraction measured in units of two to the given power. -/
def inUnits (exponent : Int) (numerator denominator : Nat) : Nat × Nat :=
  (numerator <<< (-exponent).toNat, denominator <<< exponent.toNat)

/-- The exponent that leaves a fraction a significand of full width, or the least. -/
def exponentFor (numerator denominator : Nat) : Int :=
  let guess := max ((numerator.log2 : Int) - denominator.log2 - 53) leastExponent
  let (n, d) := inUnits guess numerator denominator
  if n / d < significandBound then guess else guess + 1

/-- The number nearest to a fraction. -/
def nearest (negative : Bool) (numerator denominator : Nat) : Binary64 :=
  let exponent := exponentFor numerator denominator
  let (n, d) := inUnits exponent numerator denominator
  let rounded := roundedQuotient n d
  let (significand, exponent) :=
    if rounded < significandBound then (rounded, exponent) else (rounded / 2, exponent + 1)
  if greatestExponent < exponent then infinite negative
  else finite negative significand exponent

/-- The number nearest to what decimal digits write, times ten to the given power.
Powers so high or so low that the digits do not matter are not raised. -/
def ofDecimal (negative : Bool) (digits : List Nat) (power : Int) : Binary64 :=
  let digits := digits.dropWhile (· = 0)
  let lead := power + digits.length
  if digits.isEmpty ∨ lead < -330 then finite negative 0 leastExponent
  else if 330 < lead then infinite negative
  else nearest negative (Text.ofDigits 10 digits * .pow 10 power.toNat) (.pow 10 (-power).toNat)

/-! ### As integers -/

/-- The significand with its sign. -/
def signed (negative : Bool) (significand : Nat) : Int :=
  if negative then -significand else significand

/-- The largest integer not above a finite number. -/
def floor? : Binary64 → Option Int
  | finite negative significand exponent =>
    some (signed negative (significand <<< exponent.toNat) >>> (-exponent).toNat)
  | _ => none

/-- The integer that a finite number is equal to, if it is one. -/
def integer? : Binary64 → Option Int
  | finite negative significand exponent =>
    if (significand <<< exponent.toNat) % (1 <<< (-exponent).toNat) = 0 then
      some (signed negative (significand <<< exponent.toNat) >>> (-exponent).toNat)
    else none
  | _ => none

/-- Whether a number is below zero. -/
def isNegative : Binary64 → Bool
  | finite negative significand _ => negative && significand != 0
  | infinite negative => negative
  | notANumber => false

theorem floor?_eq_of_integer? {x : Binary64} {n : Int} (h : x.integer? = some n) :
    x.floor? = some n := by
  cases x <;> simp_all [integer?, floor?]

end Binary64
end ObjectModule
