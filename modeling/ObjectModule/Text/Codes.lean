/-! Text as character codes.

Every text is a list of codes, but not every list of codes is a text: the codes
that UTF-16 sets aside for the halves of a pair belong to no character. Text that
comes in escapes may hold such a half alone, and is kept as codes. -/
namespace ObjectModule.Text

/-- Character codes, with halves of pairs among them. -/
abbrev Codes := List Nat

/-- The codes of a text. -/
def codes (text : String) : Codes := text.toList.map Char.toNat

/-- Whether a code is the first half of a pair. -/
def leadsPair (code : Nat) : Bool := 0xD800 ≤ code && code < 0xDC00

/-- Whether a code is the second half of a pair. -/
def endsPair (code : Nat) : Bool := 0xDC00 ≤ code && code < 0xE000

/-- The code that two halves make up. -/
def pairCode (first second : Nat) : Nat :=
  0x10000 + (first - 0xD800) * 0x400 + (second - 0xDC00)

theorem pairCode_lt {first second : Nat} (h : leadsPair first) (h' : endsPair second) :
    pairCode first second < 0x110000 := by
  simp only [leadsPair, endsPair, Bool.and_eq_true, decide_eq_true_eq] at h h'
  unfold pairCode
  omega

end ObjectModule.Text
