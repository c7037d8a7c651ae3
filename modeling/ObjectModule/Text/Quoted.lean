import ObjectModule.Text.Codes
import ObjectModule.Text.Hex
import ObjectModule.Text.Printable

/-! Quoted text.

Text is set between single quotes, or between double quotes when it holds a single
quote and no double one. The quote in use and the backslash stand behind a
backslash, tab and line ends have short escapes, and every other character that
cannot be printed is written by its code in the shortest of three widths. -/
namespace ObjectModule.Text

/-- A character code in two, four or eight digits behind the letter for that
width. -/
def codeEscape (code : Nat) : String :=
  if code < 0x100 then s!"\\x{paddedHex 2 code}"
  else if code < 0x10000 then s!"\\u{paddedHex 4 code}"
  else s!"\\U{paddedHex 8 code}"

/-- A character as it stands between quotes of the given kind. -/
def quotedCode (quote : Char) (code : Nat) : String :=
  if code = quote.toNat ∨ code = '\\'.toNat then String.ofList ['\\', Char.ofNat code]
  else if code = '\t'.toNat then "\\t"
  else if code = '\n'.toNat then "\\n"
  else if code = '\r'.toNat then "\\r"
  else if isPrintable code then String.singleton (Char.ofNat code)
  else codeEscape code

/-- The quote that needs least escaping, the single one by default. -/
def chosenQuote (text : Codes) : Char :=
  if text.contains '\''.toNat && !text.contains '"'.toNat then '"' else '\''

/-- Codes between quotes. Halves of pairs cannot be printed and are escaped, so the
result is a text. -/
def quotedCodes (text : Codes) : String :=
  let quote := chosenQuote text
  String.singleton quote ++ String.join (text.map (quotedCode quote)) ++ String.singleton quote

/-- The text between quotes. -/
def quoted (text : String) : String := quotedCodes (codes text)

end ObjectModule.Text
