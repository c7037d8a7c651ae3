import ObjectModule.PlainConsole.Emoji

/-! Marked-up text.

A tag is a word in square brackets: it opens a style, which the same word behind a
slash closes, or a slash alone if it is the style opened last. A backslash in front
keeps a tag from being one, and backslashes in front of a tag are themselves written
twice. Names between colons stand for emoji. `plain?` gives what there is to see, and
`escaped` prepares text so that nothing in it is taken for a tag.

Text that ends in three backslashes or a larger odd number of them is not prepared
well: the last one falls to the tag behind it. -/
namespace ObjectModule.PlainConsole.Markup

/-! ### Tags -/

/-- Whether a tag can start with the character. -/
def startsTag (c : Char) : Bool :=
  ('a' ≤ c && c ≤ 'z') || c = '#' || c = '/' || c = '@'

/-- Whether a character is part of a tag's word. -/
def inTag (c : Char) : Bool := c ≠ ']' && c ≠ '['

/-- The word of a tag behind its opening bracket, and the text behind its closing
one. -/
def tag? (text : List Char) : Option (List Char × List Char) :=
  if text.head?.any startsTag then
    match text.dropWhile inTag with
    | ']' :: rest => some (text.takeWhile inTag, rest)
    | _ => none
  else none

theorem length_lt_of_tag? {text word rest : List Char} (h : tag? text = some (word, rest)) :
    rest.length < text.length := by
  unfold tag? at h
  split at h
  · split at h
    · next found =>
      obtain ⟨-, rfl⟩ := Prod.mk.inj (Option.some.inj h)
      have := (found ▸ List.dropWhile_suffix inTag).length_le
      simp only [List.length_cons] at this
      omega
    · simp at h
  · simp at h

/-! ### Reading -/

/-- A stretch of marked-up text. -/
inductive Piece where
  | text (content : List Char)
  | tag (word : List Char)
deriving DecidableEq, Repr

/-- A number of backslashes. -/
def backslashes (count : Nat) : List Char := List.replicate count '\\'

/-- The pieces of marked-up text, behind text already read (latest first) and a number
of backslashes. A bracket that is no tag takes one backslash in front of it away. -/
def pieces (done : List Char) (slashes : Nat) : List Char → List Piece
  | [] => [.text (done.reverse ++ backslashes slashes)]
  | '\\' :: rest => pieces done (slashes + 1) rest
  | '[' :: rest =>
    match h : tag? rest with
    | none => pieces ('[' :: backslashes (slashes - 1) ++ done) 0 rest
    | some (word, behind) =>
      have := length_lt_of_tag? h
      let tag := if slashes % 2 = 0 then .tag word else .text ('[' :: word ++ [']'])
      .text done.reverse :: .text (backslashes (slashes / 2)) :: tag :: pieces [] 0 behind
  | c :: rest => pieces (c :: backslashes slashes ++ done) 0 rest
termination_by text => text.length

/-- The name of a style, which blanks around it and capitals in it do not change. -/
def styleName (word : List Char) : String :=
  (String.ofList word).trimAscii.toString.toLower

/-- The text of pieces, with the styles that are open (latest first). Nothing if a tag
closes a style that is not open. -/
def join? (styles : List String) : List Piece → Option (List Char)
  | [] => some []
  | .text content :: rest => (Emoji.named content ++ ·) <$> join? styles rest
  | .tag ('/' :: word) :: rest =>
    let name := styleName (word.takeWhile (· ≠ '='))
    if name = "" then if styles.isEmpty then none else join? styles.tail rest
    else if styles.contains name then join? (styles.erase name) rest
    else none
  | .tag word :: rest => join? (styleName (word.takeWhile (· ≠ '=')) :: styles) rest

/-- Whether a character moves on a terminal instead of showing there: the bell, the
backspace, the vertical tab, the form feed and the carriage return. -/
def movesOnly (c : Char) : Bool := [0x07, 0x08, 0x0B, 0x0C, 0x0D].contains c.toNat

/-- What there is to see of marked-up text; nothing if a tag closes a style that is
not open. -/
def plain? (text : String) : Option String :=
  (join? [] (pieces [] 0 text.toList)).map fun shown =>
    String.ofList (shown.filter fun c => !movesOnly c)

/-! ### Writing -/

/-- The text behind a number of backslashes, with what could be a tag escaped. -/
def escapedAfter (slashes : Nat) : List Char → List Char
  | [] => backslashes (if slashes = 1 then 2 else slashes)
  | '\\' :: rest => escapedAfter (slashes + 1) rest
  | '[' :: rest =>
    backslashes (if (tag? rest).isSome then 2 * slashes + 1 else slashes) ++
      '[' :: escapedAfter 0 rest
  | c :: rest => backslashes slashes ++ c :: escapedAfter 0 rest

/-- Text prepared so that nothing in it is taken for a tag. -/
def escaped (text : String) : String := String.ofList (escapedAfter 0 text.toList)

end ObjectModule.PlainConsole.Markup
