import ObjectModule.Text.Digit

/-! Integers as a user writes them.

A literal may stand between blanks and carry a sign. Its digits may be of any
script, and single underscores may part them. In a free literal the base is
announced by `0x`, `0o` or `0b` in either case, after which an underscore may
come first; without such a mark the literal is decimal and starts with a zero
only if it is zero. A plain literal is always decimal and may start with
zeros. -/
namespace ObjectModule.Text

/-- The most digits a decimal literal may have. -/
def maxDecimalDigits : Nat := 4300

/-- The digits of a literal in the given base, with single underscores between
them and none at either end. -/
def groupedDigits? (base : Nat) : List Char → Option (List Nat)
  | [] => none
  | c :: rest => do
    let d ← digitValue? c
    if base ≤ d then none else
    match rest with
    | [] => some [d]
    | '_' :: more => (d :: ·) <$> groupedDigits? base more
    | next :: more => (d :: ·) <$> groupedDigits? base (next :: more)

/-- A decimal literal without sign. -/
def decimal? (text : List Char) : Option Nat := do
  let digits ← groupedDigits? 10 text
  if maxDecimalDigits < digits.length then none else some (ofDigits 10 digits)

/-- What follows a base mark: the digits, after at most one underscore. -/
def markedDigits? (base : Nat) (text : List Char) : Option Nat :=
  let digits := match text with
    | '_' :: rest => rest
    | other => other
  ofDigits base <$> groupedDigits? base digits

/-- A free literal without sign: the base by its mark, decimal without one. -/
def free? (text : List Char) : Option Nat :=
  match text with
  | '0' :: 'x' :: rest | '0' :: 'X' :: rest => markedDigits? 16 rest
  | '0' :: 'o' :: rest | '0' :: 'O' :: rest => markedDigits? 8 rest
  | '0' :: 'b' :: rest | '0' :: 'B' :: rest => markedDigits? 2 rest
  | _ => do
    let value ← decimal? text
    if (text.head?.bind digitValue? == some 0) && value != 0 then none else some value

/-- Reads the sign in front of a literal. -/
def signed? (magnitude? : List Char → Option Nat) : List Char → Option Int
  | '-' :: rest => (fun n => -(n : Int)) <$> magnitude? rest
  | '+' :: rest => (fun n => (n : Int)) <$> magnitude? rest
  | text => (fun n => (n : Int)) <$> magnitude? text

/-- The text without the blanks at its ends, every digit in ASCII. -/
def bareLiteral (text : String) : List Char :=
  ((text.toList.dropWhile isBlank).reverse.dropWhile isBlank).reverse.map plainDigit

/-- Reads a literal whose base is announced in it. -/
def freeInteger? (text : String) : Option Int := signed? free? (bareLiteral text)

/-- Reads a decimal literal. -/
def decimalInteger? (text : String) : Option Int := signed? decimal? (bareLiteral text)

end ObjectModule.Text
