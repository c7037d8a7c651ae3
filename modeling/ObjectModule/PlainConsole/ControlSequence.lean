/-! Control sequences of terminals.

An escape character and an opening bracket start a sequence that moves or colours
what a terminal shows; digits, semicolons and question marks may follow, and a letter
ends it. A complaint about a command line is shown without the sequences in it. What
starts like a sequence but has no letter at its end is none, and stays. -/
namespace ObjectModule.PlainConsole.ControlSequence

/-- The character that sequences start with. -/
def escape : Char := '\x1b'

/-- Whether a character may stand between the start of a sequence and its letter. -/
def isParameter (c : Char) : Bool := c.isDigit || c = ';' || c = '?'

/-- The text behind a sequence, which starts with the escape character in front of the
text given. -/
def behind? : List Char → Option (List Char)
  | '[' :: text =>
    match text.dropWhile isParameter with
    | [] => none
    | c :: rest => if c.isAlpha then some rest else none
  | _ => none

theorem length_lt_of_behind? {text rest : List Char} (h : behind? text = some rest) :
    rest.length < text.length := by
  unfold behind? at h
  split at h
  · next text =>
    split at h
    · cases h
    · next c rest found =>
      split at h
      · cases h
        have := (found ▸ List.dropWhile_suffix isParameter).length_le
        simp only [List.length_cons] at this ⊢
        omega
      · cases h
  · cases h

/-- Text without the sequences in it. What comes together where one was is not looked
at again. -/
def removed : List Char → List Char
  | [] => []
  | c :: text =>
    match h : if c = escape then behind? text else none with
    | none => c :: removed text
    | some rest =>
      have : rest.length < text.length := by
        split at h
        · exact length_lt_of_behind? h
        · cases h
      removed rest
termination_by text => text.length

/-- Text in which nothing can start a sequence stays as it is. -/
theorem removed_eq_self {text : List Char} (h : escape ∉ text) : removed text = text := by
  induction text with
  | nil => rw [removed]
  | cons c rest ih =>
    rw [List.mem_cons, not_or] at h
    rw [removed]
    split
    · rw [ih h.2]
    · next found => simp [Ne.symm h.1] at found

/-- A text as it is shown: without the sequences in it. -/
def shown (text : String) : String := String.ofList (removed text.toList)

end ObjectModule.PlainConsole.ControlSequence
