import ObjectModule.Json
import ObjectModule.Text.Digit

/-! Reading JSON.

A step takes characters off the front of the text and gives what they stand for
with the text behind, or nothing if they stand for nothing. Besides the grammar of
JSON, `NaN`, `Infinity` and `-Infinity` are numbers. A text may hold no JSON value,
but it may also ask for more than is read: an integer of too many digits, or too
many arrays and objects in one another. The first such place decides, whatever is
behind it. Every step takes at least one character off, so twice the length of the
text is more steps than a reading can need. -/
namespace ObjectModule.Json

/-- Why a text is not read. -/
inductive ReadError where
  /-- It holds no JSON value. -/
  | malformed
  | integerTooLong (digits : Nat)
  | nestedTooDeeply
deriving DecidableEq, Repr

/-- The most digits an integer may have. -/
def maxDigits : Nat := 4300

/-- How many arrays and objects may stand in one another. -/
def maxLevels : Nat := 985

/-- The wording of a read error. -/
def ReadError.message : ReadError → String
  | malformed => "not a JSON value"
  | integerTooLong digits =>
    s!"Exceeds the limit ({maxDigits} digits) for integer string conversion: " ++
      s!"value has {digits} digits; use sys.set_int_max_str_digits() to increase the limit"
  | nestedTooDeeply => "JSON arrays and objects nested too deeply"

/-- A value with the text behind it, or why there is none. -/
abbrev Reading := Except ReadError (Json × List Char)

/-- The result of a step without which the text is malformed. -/
def required {α : Type} : Option α → Except ReadError α
  | some taken => .ok taken
  | none => .error .malformed

/-- Drops the blanks that may stand between tokens. -/
def skipBlanks : List Char → List Char :=
  List.dropWhile fun c => c = ' ' || c = '\t' || c = '\n' || c = '\r'

/-! ### Strings -/

/-- The value of a hexadecimal digit. -/
def hexDigit? (c : Char) : Option Nat := do
  let d ← Text.digitValue? c
  if d < 16 then some d else none

/-- Four hexadecimal digits, as a UTF-16 unit. -/
def unit? : List Char → Option (Nat × List Char)
  | a :: b :: c :: d :: rest => do
    let high := (← hexDigit? a) * 16 + (← hexDigit? b)
    let low := (← hexDigit? c) * 16 + (← hexDigit? d)
    return (high * 256 + low, rest)
  | _ => none

/-- The code behind a backslash and a `u`: one unit, or two that pair up. -/
def escapedUnit? (text : List Char) : Option (Nat × List Char) := do
  let (first, rest) ← unit? text
  if Text.leadsPair first then
    match rest with
    | '\\' :: 'u' :: more =>
      let (second, behind) ← unit? more
      if Text.endsPair second then return (Text.pairCode first second, behind)
      else return (first, rest)
    | _ => return (first, rest)
  else return (first, rest)

/-- The code behind a backslash. -/
def escaped? : List Char → Option (Nat × List Char)
  | '"' :: rest => some ('"'.toNat, rest)
  | '\\' :: rest => some ('\\'.toNat, rest)
  | '/' :: rest => some ('/'.toNat, rest)
  | 'b' :: rest => some (0x08, rest)
  | 'f' :: rest => some (0x0C, rest)
  | 'n' :: rest => some ('\n'.toNat, rest)
  | 'r' :: rest => some ('\r'.toNat, rest)
  | 't' :: rest => some ('\t'.toNat, rest)
  | 'u' :: rest => escapedUnit? rest
  | _ => none

/-- The rest of a string, up to its closing quote, behind the codes already read
(latest first). Control characters must be escaped. -/
def stringAfter : (limit : Nat) → Text.Codes → List Char → Option (Text.Codes × List Char)
  | 0, _, _ => none
  | limit + 1, done, text =>
    match text with
    | '"' :: rest => some (done.reverse, rest)
    | '\\' :: rest => do
      let (code, rest) ← escaped? rest
      stringAfter limit (code :: done) rest
    | c :: rest => if c.toNat < 0x20 then none else stringAfter limit (c.toNat :: done) rest
    | [] => none

/-- A string behind its opening quote, in at most `limit` steps. -/
def string? (limit : Nat) (text : List Char) : Option (Text.Codes × List Char) :=
  stringAfter limit [] text

/-! ### Numbers -/

/-- The decimal digits in front, and what is behind them. -/
def digits (text : List Char) : List Char × List Char :=
  text.span fun c => '0' ≤ c && c ≤ '9'

/-- The values of decimal digits. -/
def digitValues (text : List Char) : List Nat := text.map fun c => c.toNat - '0'.toNat

/-- The number written by decimal digits. -/
def ofDigits (text : List Char) : Nat := Text.ofDigits 10 (digitValues text)

/-- The digits of the whole part: a lone zero, or digits of which the first is not
zero. -/
def whole? (text : List Char) : Option (List Char × List Char) :=
  match text with
  | '0' :: rest => some (['0'], rest)
  | _ =>
    match digits text with
    | ([], _) => none
    | found => some found

/-- The digits behind the point; none if no digit follows a point. -/
def fraction (text : List Char) : List Char × List Char :=
  match text with
  | '.' :: rest =>
    match digits rest with
    | ([], _) => ([], text)
    | found => found
  | _ => ([], text)

/-- The exponent, if there is a mark with digits behind it. -/
def exponent? (text : List Char) : Option (Int × List Char) :=
  let (mark, rest) := text.splitAt 1
  let (negative, rest) := match rest with
    | '+' :: more => (false, more)
    | '-' :: more => (true, more)
    | other => (false, other)
  match digits rest with
  | ([], _) => none
  | (found, behind) =>
    if mark = ['e'] || mark = ['E'] then
      some (if negative then -(ofDigits found : Int) else ofDigits found, behind)
    else none

/-- A number without its sign. -/
def magnitude (negative : Bool) (text : List Char) : Reading := do
  let (whole, rest) ← required (whole? text)
  let (part, rest) := fraction rest
  let decimalWith := fun power : Int =>
    decimal (.ofDecimal negative (digitValues (whole ++ part)) (power - part.length))
  match exponent? rest with
  | some (power, behind) => return (decimalWith power, behind)
  | none =>
    if ¬ part.isEmpty then return (decimalWith 0, rest)
    if maxDigits < whole.length then throw (.integerTooLong whole.length)
    let n : Int := ofDigits whole
    return (integer (if negative then -n else n), rest)

/-! ### Values -/

/-- The text behind a word it starts with. -/
def word? (word : String) (text : List Char) : Option (List Char) :=
  if word.toList.isPrefixOf text then some (text.drop word.length) else none

/-- The values that are words. -/
def constants : List (String × Json) :=
  [("null", null), ("true", bool true), ("false", bool false), ("NaN", decimal .notANumber),
   ("Infinity", decimal (.infinite false)), ("-Infinity", decimal (.infinite true))]

/-- A value that is a word. -/
def constant? (text : List Char) : Option (Json × List Char) :=
  constants.findSome? fun (word, value) => (word? word text).map fun rest => (value, rest)

/-- A number or a word. -/
def scalar (text : List Char) : Reading :=
  match constant? text, text with
  | some taken, _ => .ok taken
  | none, '-' :: rest => magnitude true rest
  | none, _ => magnitude false text

mutual

/-- A value at the front of the text, with at most `levels` arrays and objects in one
another. -/
def value : (limit levels : Nat) → List Char → Reading
  | 0, _, _ => throw .malformed
  | limit + 1, levels, text =>
    match text with
    | '"' :: rest => (fun (s, rest) => (string s, rest)) <$> required (string? limit rest)
    | '[' :: rest =>
      match levels, skipBlanks rest with
      | 0, _ => throw .nestedTooDeeply
      | _ + 1, ']' :: rest => return (array [], rest)
      | levels + 1, rest => items limit levels [] rest
    | '{' :: rest =>
      match levels, skipBlanks rest with
      | 0, _ => throw .nestedTooDeeply
      | _ + 1, '}' :: rest => return (object [], rest)
      | levels + 1, rest => members limit levels [] rest
    | _ => scalar text

/-- The items of an array from one on, behind those already read (latest first). -/
def items : (limit levels : Nat) → List Json → List Char → Reading
  | 0, _, _, _ => throw .malformed
  | limit + 1, levels, done, text => do
    let (item, rest) ← value limit levels text
    match skipBlanks rest with
    | ',' :: rest => items limit levels (item :: done) (skipBlanks rest)
    | ']' :: rest => return (array (item :: done).reverse, rest)
    | _ => throw .malformed

/-- The members of an object from one on, behind those already read. -/
def members : (limit levels : Nat) → List (Text.Codes × Json) → List Char → Reading
  | 0, _, _, _ => throw .malformed
  | limit + 1, levels, done, text =>
    match text with
    | '"' :: rest => do
      let (key, rest) ← required (string? limit rest)
      let ':' :: rest := skipBlanks rest | throw .malformed
      let (item, rest) ← value limit levels (skipBlanks rest)
      match skipBlanks rest with
      | ',' :: rest => members limit levels (insert key item done) (skipBlanks rest)
      | '}' :: rest => return (object (insert key item done), rest)
      | _ => throw .malformed
    | _ => throw .malformed

end

/-- Reads a text that holds one value and nothing else but blanks. -/
def parse (text : String) : Except ReadError Json := do
  let chars := text.toList
  let (found, rest) ← value (2 * chars.length + 2) maxLevels (skipBlanks chars)
  if (skipBlanks rest).isEmpty then return found else throw .malformed

end ObjectModule.Json
