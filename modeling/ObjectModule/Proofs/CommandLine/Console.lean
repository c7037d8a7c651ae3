import ObjectModule.CommandLine.Console

/-! What the commands rely on in a console.

Text in which nothing can be taken for markup is shown, if it is plain as it stands. A style shows
what stands in it between what stands around it, and escaped text is not taken for markup. That is
all that is known of a console (`Console.IsDocumented`); names of emoji, for one, may be replaced
in what it shows, and characters that only move the cursor may be left out. -/
namespace ObjectModule.CommandLine

/-- Whether no character of a text begins a tag or keeps one from being one. -/
def IsBare (text : List Char) : Prop := ∀ c ∈ text, c ≠ '[' ∧ c ≠ '\\'

instance (text : List Char) : Decidable (IsBare text) :=
  List.decidableBAll (fun c => c ≠ '[' ∧ c ≠ '\\') text

/-- Whether a character means nothing but itself: a line feed, or a printable one of ASCII that
begins neither a tag nor the name of an emoji. -/
def IsPlain (c : Char) : Prop :=
  c = '\n' ∨ ' ' ≤ c ∧ c ≤ '~' ∧ c ≠ '[' ∧ c ≠ '\\' ∧ c ≠ ':'

instance (c : Char) : Decidable (IsPlain c) := inferInstanceAs (Decidable (_ ∨ _))

namespace Console
variable [Console]

/-- What is shown of a text, if it is shown. -/
def shown (text : String) : String := (plain? text).getD ""

/-- The styles that the commands use. -/
def styles : List String := ["bold", "dim", "green", "red", "yellow"]

/-- What is known of a console. -/
structure IsDocumented : Prop where
  /-- Text in which nothing can be taken for markup is shown. -/
  bare (text : String) : IsBare text.toList → plain? text = some (shown text)
  /-- Plain text is shown as it stands. -/
  plain (text : String) : (∀ c ∈ text.toList, IsPlain c) → shown text = text
  /-- A style shows what stands in it, behind what stands in front of it, and does nothing to what
  stands behind it. -/
  styled (front style text more : String) : style ∈ styles → IsBare front.toList →
    IsBare text.toList → plain? (front ++ styled style text ++ more) =
      (shown front ++ shown text ++ ·) <$> plain? more
  /-- What is escaped is not taken for markup, so it is shown in a style whatever it is. -/
  escaped (front style text : String) : style ∈ styles → IsBare front.toList →
    ∃ rest, plain? (front ++ CommandLine.styled style (escaped text)) = some (shown front ++ rest)
  /-- There is nothing to escape in text that has no markup. -/
  escaped_bare (text : String) : IsBare text.toList → Console.escaped text = text

end Console

/-! ### What follows for plain text and for styles -/

variable {text style : String}

theorem isBare_append {front back : String} (hfront : IsBare front.toList)
    (hback : IsBare back.toList) : IsBare (front ++ back).toList := by
  rw [String.toList_append]
  exact List.forall_mem_append.mpr ⟨hfront, hback⟩

theorem isBare_of_plain (h : ∀ c ∈ text.toList, IsPlain c) : IsBare text.toList := by
  intro c hc
  rcases h c hc with rfl | ⟨_, _, bracket, slash, _⟩
  · decide
  · exact ⟨bracket, slash⟩

namespace Console.IsDocumented
variable [Console]

theorem shown_empty (console : IsDocumented) : shown "" = "" :=
  console.plain "" fun _ hc => nomatch hc

theorem plain?_plain (console : IsDocumented) (h : ∀ c ∈ text.toList, IsPlain c) :
    plain? text = some text := by
  rw [console.bare text (isBare_of_plain h), console.plain text h]

/-- A style shows what stands in it, and behind it what is plain. -/
theorem plain?_styled_append (console : IsDocumented) (hstyle : style ∈ styles)
    (htext : IsBare text.toList) (more : String) (hmore : ∀ c ∈ more.toList, IsPlain c) :
    plain? (CommandLine.styled style text ++ more) = some (shown text ++ more) := by
  have hstyled := console.styled "" style text more hstyle (by decide) htext
  rw [String.empty_append, console.shown_empty, String.empty_append, console.plain?_plain hmore]
    at hstyled
  exact hstyled

theorem plain?_styled (console : IsDocumented) (hstyle : style ∈ styles)
    (htext : IsBare text.toList) :
    plain? (CommandLine.styled style text) = some (shown text) := by
  have hstyled := console.plain?_styled_append hstyle htext "" fun _ hc => nomatch hc
  rwa [String.append_empty, String.append_empty] at hstyled

end Console.IsDocumented
end ObjectModule.CommandLine
