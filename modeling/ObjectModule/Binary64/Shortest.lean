import ObjectModule.Binary64.Basic

/-! Floating-point numbers as decimals.

A number is written with the fewest digits that still stand for it: the decimal
must lie between the halfway points to the neighbouring numbers, which themselves
belong only to an even significand. Of several such decimals the nearest is taken,
and of two equally near the one with the even last digit. The point stands where it belongs for
leading digits from the fourth place behind the point to the sixteenth in front
of it; other numbers get an exponent. -/
namespace ObjectModule.Binary64

/-! ### Digits -/

/-- A decimal: an integer times a power of ten. -/
structure Decimal where
  digits : Nat
  power : Int
deriving DecidableEq, Repr

/-- How many decimal digits an integer has. -/
def digitCount (n : Nat) : Nat := (Nat.toDigits 10 n).length

/-- A finite number with the halfway points around it, all three in quarters of the
unit of its significand. -/
structure Neighbourhood where
  low : Nat
  value : Nat
  high : Nat
  /-- Whether the halfway points belong to the number. -/
  closed : Bool

/-- The neighbourhood of a number. The numbers below a power of two lie closer
together than those above it. -/
def neighbourhood (significand : Nat) (exponent : Int) : Neighbourhood where
  low := 4 * significand -
    if significand = significandBound / 2 ∧ leastExponent < exponent then 1 else 2
  value := 4 * significand
  high := 4 * significand + 2
  closed := significand % 2 == 0

/-- The decimal of the given power that is nearest to a number among those that stand
for it. Only the two next to the number can. -/
def decimalAt? (significand : Nat) (exponent power : Int) : Option Decimal :=
  let around := neighbourhood significand exponent
  -- a quarter unit is `unit / grid` steps of the decimal grid
  let unit := Nat.pow 10 (-power).toNat <<< (exponent - 2).toNat
  let grid := Nat.pow 10 power.toNat <<< (2 - exponent).toNat
  let standsFor := fun digits : Nat =>
    if around.closed then around.low * unit ≤ digits * grid && digits * grid ≤ around.high * unit
    else around.low * unit < digits * grid && digits * grid < around.high * unit
  let below := around.value * unit / grid
  let nearer := roundedQuotient (around.value * unit) grid
  let farther := if nearer = below then below + 1 else below
  ([nearer, farther].find? standsFor).map (⟨·, power⟩)

/-- A power below that of every number's last digit. -/
def finestPower : Nat := 400

/-- The power of ten of a number's leading digit. -/
def leadingPower (significand : Nat) (exponent : Int) : Int :=
  let scaled := (significand * .pow 10 finestPower) <<< exponent.toNat >>> (-exponent).toNat
  (digitCount scaled : Int) - 1 - finestPower

/-- How many digits suffice for every number. -/
def mostDigits : Nat := 17

/-- The decimal with the fewest digits that stands for a number. -/
def shortest (significand : Nat) (exponent : Int) : Decimal :=
  let lead := leadingPower significand exponent
  let powers := (List.range mostDigits).map fun (n : Nat) => lead - n
  (powers.findSome? (decimalAt? significand exponent)).getD ⟨0, 0⟩

/-! ### Layout -/

/-- An exponent: its sign and at least two digits. -/
def exponentText (power : Int) : String :=
  let digits := toString power.natAbs
  (if power < 0 then "e-" else "e+") ++ (if digits.length < 2 then "0" ++ digits else digits)

/-- Digits with the point in its place, for a leading digit of the given power. -/
def laidOut (digits : List Char) (lead : Int) : String :=
  if lead < -4 ∨ 16 ≤ lead then
    let fraction := digits.drop 1
    String.ofList (digits.take 1 ++ if fraction.isEmpty then [] else '.' :: fraction) ++
      exponentText lead
  else if lead < 0 then
    String.ofList ('0' :: '.' :: List.replicate (-lead - 1).toNat '0' ++ digits)
  else
    let whole := digits.take (lead.toNat + 1)
    let fraction := digits.drop (lead.toNat + 1)
    String.ofList (whole ++ List.replicate (lead.toNat + 1 - whole.length) '0' ++
      '.' :: if fraction.isEmpty then ['0'] else fraction)

/-- A decimal in digits, without zeros at the end that say nothing. -/
def Decimal.text (d : Decimal) : String :=
  let digits := Nat.toDigits 10 d.digits
  let trimmed := (digits.reverse.dropWhile (· = '0')).reverse
  if trimmed.isEmpty then "0.0" else laidOut trimmed (d.power + digits.length - 1)

/-- A number as text. -/
def text : Binary64 → String
  | finite negative significand exponent =>
    let magnitude := if significand = 0 then ⟨0, 0⟩ else shortest significand exponent
    (if negative then "-" else "") ++ magnitude.text
  | infinite negative => if negative then "-inf" else "inf"
  | notANumber => "nan"

end ObjectModule.Binary64
