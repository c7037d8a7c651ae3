import ObjectModule.PlainConsole.Emoji.Names
import ObjectModule.Text.Case
import ObjectModule.Text.Digit
import Std.Data.HashMap

/-! Emoji by name.

A name between two colons, without a blank between them, stands for an emoji. Behind
the name `-text` or `-emoji` may ask for one of its two looks. Names that are not
known stay as they are, with both of their colons. -/
namespace ObjectModule.PlainConsole.Emoji
open Text (isBlank lowered?)

/-- Pairs neighbours up. -/
def pairUp : List String → List (String × String)
  | name :: emoji :: rest => (name, emoji) :: pairUp rest
  | _ => []

/-- The emoji of every name. -/
def table : Std.HashMap String String :=
  .ofList (pairUp ((names.split Char.isWhitespace).toStringList.filter (· ≠ "")))

/-- The looks that can be asked for, with the characters that select them. -/
def looks : List (String × Char) := [("-text", Char.ofNat 0xFE0E), ("-emoji", Char.ofNat 0xFE0F)]

/-- A character in lower case. -/
def lowerCase (c : Char) : List Char :=
  ((lowered? c.toNat).map (·.map Char.ofNat)).getD [c]

/-- The emoji of a name in any case. -/
def ofName? (name : List Char) : Option (List Char) :=
  table[String.ofList (name.flatMap lowerCase)]?.map String.toList

/-- The emoji that a word between colons stands for. -/
def ofWord? (word : List Char) : Option (List Char) :=
  match looks.find? fun (suffix, _) => suffix.toList.isSuffixOf word with
  | some (suffix, selector) =>
    (ofName? (word.take (word.length - suffix.length))).map (· ++ [selector])
  | none => ofName? word

/-- Whether a character can stand in a word between colons. Four of the controls count
as blanks here. -/
def inWord (c : Char) : Bool :=
  c ≠ ':' && !isBlank c && !(0x1C ≤ c.toNat && c.toNat ≤ 0x1F)

/-- The word behind a colon, and the text behind the colon that ends it. -/
def word? (text : List Char) : Option (List Char × List Char) :=
  match text.dropWhile inWord with
  | ':' :: rest => some (text.takeWhile inWord, rest)
  | _ => none

theorem length_lt_of_word? {text word rest : List Char} (h : word? text = some (word, rest)) :
    rest.length < text.length := by
  unfold word? at h
  split at h
  · next found =>
    obtain ⟨-, rfl⟩ := Prod.mk.inj (Option.some.inj h)
    have := (found ▸ List.dropWhile_suffix inWord).length_le
    simp only [List.length_cons] at this
    omega
  · simp at h

/-- Text with emoji in place of their names. -/
def named : List Char → List Char
  | [] => []
  | ':' :: rest =>
    match h : word? rest with
    | none => ':' :: named rest
    | some (word, behind) =>
      have := length_lt_of_word? h
      (ofWord? word).getD (':' :: word ++ [':']) ++ named behind
  | c :: rest => c :: named rest
termination_by text => text.length

end ObjectModule.PlainConsole.Emoji
