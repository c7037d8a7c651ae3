import ObjectModule.PlainConsole
import ObjectModule.Proofs.CommandLine.Console

/-! What there is to see of marked-up text.

Text in which nothing can be taken for markup is seen as it stands, in a style or not
(`seen?_styled`). Escaped text is different: if it ends in backslashes it may swallow the tag that
closes its style. But no tag in it closes a style that is not open, so there is always something to
see (`exists_seen?_escaped`). So the console is as documented (`isDocumented`). -/
namespace ObjectModule.PlainConsole
namespace Markup
open CommandLine (IsBare IsPlain styled)

/-- Whether a word names a style. -/
def IsStyle (word : List Char) : Prop :=
  word.head?.any startsTag = true ∧ word.head? ≠ some '/' ∧ word.all inTag = true

instance (word : List Char) : Decidable (IsStyle word) :=
  inferInstanceAs (Decidable (_ ∧ _ ∧ _))

/-- The tag that opens a style. -/
def opening (word : List Char) : List Char := '[' :: (word ++ [']'])

/-- The tag that closes a style. -/
def closing (word : List Char) : List Char := '[' :: '/' :: (word ++ [']'])

/-- What is seen of a text that has no tags. -/
def seen (text : List Char) : List Char := (Emoji.named text).filter fun c => !movesOnly c

/-- What there is to see of marked-up text, character by character. -/
def seen? (text : List Char) : Option (List Char) :=
  (join? [] (pieces [] 0 text)).map fun shown => shown.filter fun c => !movesOnly c

theorem plain?_eq (text : String) : plain? text = (seen? text.toList).map String.ofList := by
  rw [plain?, seen?, Option.map_map]
  rfl

theorem toList_styled (style text : String) :
    (styled style text).toList = opening style.toList ++ text.toList ++ closing style.toList := by
  show ("[" ++ style ++ "]" ++ text ++ "[/" ++ style ++ "]").toList = _
  simp [opening, closing]

variable {text word rest behind more : List Char} {done : List Char} {slashes : Nat}
  {styles : List String}

/-! ### Tags -/

theorem tag?_word (hstart : word.head?.any startsTag = true) (hword : ∀ c ∈ word, inTag c = true)
    (rest : List Char) : tag? (word ++ ']' :: rest) = some (word, rest) := by
  have hhead : (word ++ ']' :: rest).head?.any startsTag = true := by
    cases word with
    | nil => cases hstart
    | cons c word => exact hstart
  have htake : (word ++ ']' :: rest).takeWhile inTag = word := by
    rw [List.takeWhile_append_of_pos hword]
    exact List.append_nil word
  have hdrop : (word ++ ']' :: rest).dropWhile inTag = ']' :: rest := by
    rw [List.dropWhile_append_of_pos hword]
    rfl
  rw [tag?, if_pos hhead, hdrop, htake]
  rfl

theorem inTag_of_startsTag {c : Char} (h : startsTag c = true) : inTag c = true := by
  have bracket : startsTag ']' = false ∧ startsTag '[' = false := by decide
  have hclose : c ≠ ']' := fun same => by simp [same, bracket.1] at h
  have hopen : c ≠ '[' := fun same => by simp [same, bracket.2] at h
  simp [inTag, hclose, hopen]

theorem exists_of_tag? (h : tag? text = some (word, rest)) :
    word.head?.any startsTag = true ∧ (∀ c ∈ word, inTag c = true) ∧
      text = word ++ ']' :: rest := by
  unfold tag? at h
  split at h
  · next hstart =>
    split at h
    · next found =>
      obtain ⟨rfl, rfl⟩ := Prod.mk.inj (Option.some.inj h)
      refine ⟨?_, List.all_eq_true.mp List.all_takeWhile, ?_⟩
      · cases text with
        | nil => cases hstart
        | cons c text =>
          rw [List.takeWhile_cons_of_pos (inTag_of_startsTag hstart)]
          exact hstart
      · rw [← found, List.takeWhile_append_dropWhile]
    · cases h
  · cases h

/-! ### Pieces -/

theorem pieces_bare (h : IsBare text) (done rest : List Char) :
    pieces done 0 (text ++ rest) = pieces (text.reverse ++ done) 0 rest := by
  induction text generalizing done with
  | nil => rfl
  | cons c text ih =>
    obtain ⟨⟨hbracket, hslash⟩, htext⟩ := List.forall_mem_cons.mp h
    rw [List.cons_append, pieces, ih htext, List.reverse_cons, List.append_assoc]
    · rfl
    · exact hslash
    · exact hbracket

theorem pieces_backslashes (done : List Char) (slashes count : Nat) (rest : List Char) :
    pieces done slashes (backslashes count ++ rest) = pieces done (slashes + count) rest := by
  induction count generalizing slashes with
  | zero => rfl
  | succ count ih =>
    rw [backslashes, List.replicate_succ, List.cons_append, pieces]
    show pieces done (slashes + 1) (backslashes count ++ rest) = _
    rw [ih]
    congr 1
    omega

theorem pieces_tag (h : tag? rest = some (word, behind)) (done : List Char) (slashes : Nat) :
    pieces done slashes ('[' :: rest) =
      .text done.reverse :: .text (backslashes (slashes / 2)) ::
        (if slashes % 2 = 0 then .tag word else .text ('[' :: word ++ [']'])) ::
        pieces [] 0 behind := by
  rw [pieces]
  split
  · next none =>
    rw [h] at none
    cases none
  · next found =>
    rw [h] at found
    cases found
    rfl

theorem pieces_bracket (h : tag? rest = none) (done : List Char) (slashes : Nat) :
    pieces done slashes ('[' :: rest) =
      pieces ('[' :: backslashes (slashes - 1) ++ done) 0 rest := by
  rw [pieces]
  split
  · rfl
  · next found =>
    rw [h] at found
    cases found

/-! ### Bare text -/

theorem join?_text (styles : List String) (content : List Char) (after : List Piece) :
    join? styles (.text content :: after) = (Emoji.named content ++ ·) <$> join? styles after := by
  rw [join?]

theorem named_nil : Emoji.named [] = [] := by rw [Emoji.named]

/-- Text without a colon has no names of emoji in it. -/
theorem named_eq_self (h : ':' ∉ text) : Emoji.named text = text := by
  induction text with
  | nil => exact named_nil
  | cons c text ih =>
    rw [List.mem_cons, not_or] at h
    obtain ⟨hc, htext⟩ := h
    rw [Emoji.named, ih htext]
    exact fun same => hc same.symm

theorem join?_bare (h : IsBare text) (styles : List String) :
    join? styles (pieces [] 0 text) = some (Emoji.named text) := by
  have hpieces := pieces_bare h [] []
  rw [List.append_nil, List.append_nil, pieces, List.reverse_reverse] at hpieces
  rw [hpieces, join?_text, join?]
  simp [backslashes]

/-- Bare text in front of a tag. -/
theorem join?_bare_tag (h : IsBare text) (styles : List String) {tagged : List Char}
    (htag : tag? tagged = some (word, behind)) :
    join? styles (pieces [] 0 (text ++ '[' :: tagged)) =
      (Emoji.named text ++ ·) <$> join? styles (.tag word :: pieces [] 0 behind) := by
  rw [pieces_bare h, pieces_tag htag, join?_text, join?_text, List.append_nil,
    List.reverse_reverse, Nat.zero_mod, if_pos rfl]
  simp [backslashes, named_nil]

/-- The style that a tag of a word opens. -/
def styleOf (word : List Char) : String := styleName (word.takeWhile (· ≠ '='))

theorem join?_opening (h : IsStyle word) (styles : List String) (after : List Piece) :
    join? styles (.tag word :: after) = join? (styleOf word :: styles) after := by
  cases word with
  | nil => cases h.1
  | cons c word =>
    have hc : c ≠ '/' := fun same => h.2.1 (congrArg some same)
    rw [join?]
    · rfl
    · intro other same
      exact hc (List.cons.inj same).1

/-- The tag that closes a style closes it, if no other is open. -/
theorem join?_closing (word : List Char) (after : List Piece) :
    join? [styleOf word] (.tag ('/' :: word) :: after) = join? [] after := by
  have hname : styleName (word.takeWhile (· ≠ '=')) = styleOf word := rfl
  rw [join?, hname]
  split
  · rfl
  · simp

theorem tag?_opening (h : IsStyle word) (rest : List Char) :
    tag? (word ++ ']' :: rest) = some (word, rest) :=
  tag?_word h.1 (List.all_eq_true.mp h.2.2) rest

theorem tag?_closing (h : IsStyle word) (rest : List Char) :
    tag? ('/' :: (word ++ ']' :: rest)) = some ('/' :: word, rest) := by
  have hslash : startsTag '/' = true := by decide
  have hstart : ('/' :: word).head?.any startsTag = true := hslash
  apply tag?_word hstart _ rest
  intro c hc
  rcases List.mem_cons.mp hc with rfl | hc
  · decide
  · exact List.all_eq_true.mp h.2.2 c hc

/-- **Bare text is seen as it stands**, in a style. -/
theorem seen?_styled {front : List Char} (hfront : IsBare front) (hstyle : IsStyle word)
    (htext : IsBare text) (more : List Char) :
    seen? (front ++ (opening word ++ text ++ closing word) ++ more) =
      (seen front ++ seen text ++ ·) <$> seen? more := by
  have hlist : front ++ (opening word ++ text ++ closing word) ++ more =
      front ++ '[' :: (word ++ ']' :: (text ++ '[' :: ('/' :: (word ++ ']' :: more)))) := by
    simp [opening, closing]
  rw [seen?, seen?, hlist, join?_bare_tag hfront [] (tag?_opening hstyle _), join?_opening hstyle,
    join?_bare_tag htext _ (tag?_closing hstyle more), join?_closing]
  cases join? [] (pieces [] 0 more) <;> simp [seen]

theorem seen?_bare (h : IsBare text) : seen? text = some (seen text) := by
  rw [seen?, join?_bare h]
  rfl

/-! ### Escaped text -/

/-- Backslashes come in front of what is escaped behind them. -/
theorem head?_escapedAfter (h : 0 < slashes) (text : List Char) :
    (escapedAfter slashes text).head? = some '\\' := by
  have hhead (count : Nat) (hcount : 0 < count) (rest : List Char) :
      (backslashes count ++ rest).head? = some '\\' := by
    obtain ⟨count, rfl⟩ := Nat.exists_eq_add_of_lt hcount
    rw [backslashes, Nat.zero_add, List.replicate_succ]
    rfl
  fun_induction escapedAfter slashes text with
  | case1 slashes =>
    rw [← List.append_nil (backslashes _)]
    apply hhead
    split <;> omega
  | case2 slashes rest ih => exact ih (Nat.succ_pos _)
  | case3 slashes rest ih =>
    apply hhead
    split <;> omega
  | case4 slashes c rest _ _ ih => exact hhead slashes h _

/-- What may begin a tag does in what is escaped, and nothing else. -/
theorem head?_any_escapedAfter (text more : List Char) :
    (escapedAfter 0 text ++ '[' :: more).head?.any startsTag = text.head?.any startsTag := by
  have hslash : startsTag '\\' = false := by decide
  have hbracket : startsTag '[' = false := by decide
  rw [List.head?_append]
  cases text with
  | nil => exact hbracket
  | cons c text =>
    by_cases slash : c = '\\'
    · subst slash
      rw [escapedAfter, head?_escapedAfter Nat.one_pos]
      rfl
    · by_cases bracket : c = '['
      · subst bracket
        rw [escapedAfter]
        split <;> rfl
      · rw [escapedAfter]
        · rfl
        · exact slash
        · exact bracket

/-- A word without brackets stays as it is, and so does the bracket behind it. -/
theorem escapedAfter_word (hword : ∀ c ∈ word, inTag c = true) (slashes : Nat)
    (behind : List Char) :
    escapedAfter slashes (word ++ ']' :: behind) =
      backslashes slashes ++ (word ++ ']' :: escapedAfter 0 behind) := by
  induction word generalizing slashes with
  | nil => rfl
  | cons c word ih =>
    obtain ⟨hc, hrest⟩ := List.forall_mem_cons.mp hword
    rw [List.cons_append]
    by_cases slash : c = '\\'
    · subst slash
      rw [escapedAfter, ih hrest, backslashes, List.replicate_succ', List.append_assoc]
      rfl
    · have bracket : c ≠ '[' := by
        rintro rfl
        cases hc
      rw [escapedAfter, ih hrest]
      · rfl
      · exact slash
      · exact bracket

/-- If no bracket closes what may be a tag, none does in what is escaped. -/
theorem exists_word_of_escapedAfter (slashes : Nat) (text more : List Char)
    (h : ∀ rest, text.dropWhile inTag ≠ ']' :: rest) :
    ∃ word after, (∀ c ∈ word, inTag c = true) ∧
      escapedAfter slashes text ++ '[' :: more = word ++ '[' :: after := by
  have hslash : inTag '\\' = true := by decide
  have hslashes (count : Nat) : ∀ c ∈ backslashes count, inTag c = true := by
    intro c hc
    rw [List.eq_of_mem_replicate hc]
    exact hslash
  fun_induction escapedAfter slashes text with
  | case1 slashes => exact ⟨_, _, hslashes _, rfl⟩
  | case2 slashes rest ih =>
    apply ih
    rwa [List.dropWhile_cons_of_pos hslash] at h
  | case3 slashes rest ih => exact ⟨_, _, hslashes _, List.append_assoc ..⟩
  | case4 slashes c rest slash bracket ih =>
    have hc : inTag c = true := by
      have close : c ≠ ']' := by
        rintro rfl
        exact h rest rfl
      simp [inTag, close]
      exact bracket
    rw [List.dropWhile_cons_of_pos hc] at h
    obtain ⟨word, after, hword, happend⟩ := ih h
    refine ⟨backslashes slashes ++ c :: word, after, fun d hd => ?_, ?_⟩
    · rcases List.mem_append.mp hd with hd | hd
      · exact hslashes slashes d hd
      · rcases List.mem_cons.mp hd with rfl | hd
        · exact hc
        · exact hword d hd
    · rw [List.append_assoc, List.cons_append, happend, List.append_assoc]
      rfl

/-- What is escaped has its tags where the text has them. -/
theorem tag?_escapedAfter (text more : List Char) :
    tag? (escapedAfter 0 text ++ '[' :: more) =
      (tag? text).map fun found => (found.1, escapedAfter 0 found.2 ++ '[' :: more) := by
  cases htag : tag? text with
  | some found =>
    obtain ⟨word, behind⟩ := found
    obtain ⟨hstart, hword, htext⟩ := exists_of_tag? htag
    rw [htext, escapedAfter_word hword]
    show tag? ((word ++ ']' :: escapedAfter 0 behind) ++ '[' :: more) = _
    rw [List.append_assoc, List.cons_append, tag?_word hstart hword]
    rfl
  | none =>
    show _ = none
    by_cases hstart : text.head?.any startsTag = true
    · have unclosed (rest : List Char) : text.dropWhile inTag ≠ ']' :: rest := by
        intro found
        rw [tag?, if_pos hstart, found] at htag
        cases htag
      obtain ⟨word, after, hword, happend⟩ := exists_word_of_escapedAfter 0 text more unclosed
      have hdrop : (word ++ '[' :: after).dropWhile inTag = '[' :: after :=
        List.dropWhile_append_of_pos hword
      rw [tag?, head?_any_escapedAfter, if_pos hstart, happend, hdrop]
      rfl
    · rw [tag?, head?_any_escapedAfter, if_neg hstart]

theorem exists_join?_text {content : List Char} {after : List Piece}
    (h : ∃ shown, join? styles after = some shown) :
    ∃ shown, join? styles (.text content :: after) = some shown := by
  obtain ⟨shown, hshown⟩ := h
  rw [join?_text, hshown]
  exact ⟨_, rfl⟩

theorem exists_join?_closing (hstyle : IsStyle word) (done : List Char) (slashes : Nat) :
    ∃ shown, join? [styleOf word] (pieces done slashes (closing word)) = some shown := by
  have hnone (styles : List String) : ∃ shown, join? styles (pieces [] 0 []) = some shown :=
    ⟨_, join?_bare (by decide) styles⟩
  rw [closing, pieces_tag (tag?_closing hstyle [])]
  apply exists_join?_text
  apply exists_join?_text
  split
  · rw [join?_closing]
    exact hnone []
  · exact exists_join?_text (hnone _)

/-- **Escaped text in a style is always seen**: no tag in it closes another style. -/
theorem exists_join?_escaped (hstyle : IsStyle word) (text done : List Char) (slashes : Nat) :
    ∃ shown, join? [styleOf word] (pieces done 0 (escapedAfter slashes text ++ closing word)) =
      some shown := by
  -- What is taken for a tag is passed as a whole, so the induction is on the length.
  induction hlength : text.length using Nat.strongRecOn generalizing text done slashes with
  | ind length ih =>
    cases text with
    | nil =>
      rw [escapedAfter, pieces_backslashes]
      exact exists_join?_closing hstyle _ _
    | cons c text =>
      rw [List.length_cons] at hlength
      by_cases slash : c = '\\'
      · subst slash
        rw [escapedAfter]
        exact ih text.length (by omega) text done _ rfl
      · by_cases bracket : c = '['
        · subst bracket
          have htag : tag? (escapedAfter 0 text ++ closing word) =
              (tag? text).map fun found => (found.1, escapedAfter 0 found.2 ++ closing word) :=
            tag?_escapedAfter text ('/' :: (word ++ [']']))
          rw [escapedAfter, List.append_assoc, pieces_backslashes]
          show ∃ shown, join? _ (pieces done _ ('[' :: (escapedAfter 0 text ++ closing word))) = _
          cases hfound : tag? text with
          | none =>
            rw [hfound, Option.map_none] at htag
            rw [pieces_bracket htag]
            exact ih text.length (by omega) text _ 0 rfl
          | some found =>
            obtain ⟨inner, behind⟩ := found
            have hshorter := length_lt_of_tag? hfound
            rw [hfound, Option.map_some] at htag
            rw [pieces_tag htag, Option.isSome_some, if_pos rfl, if_neg (by omega)]
            apply exists_join?_text
            apply exists_join?_text
            apply exists_join?_text
            exact ih behind.length (by omega) behind [] 0 rfl
        · rw [escapedAfter]
          · rw [List.append_assoc, pieces_backslashes, List.cons_append, pieces]
            · exact ih text.length (by omega) text _ 0 rfl
            · exact slash
            · exact bracket
          · exact slash
          · exact bracket

/-- What stands in front of escaped text is seen in front of what is seen of it. -/
theorem exists_seen?_escaped {front : List Char} (hstyle : IsStyle word) (hfront : IsBare front)
    (text : List Char) : ∃ rest,
      seen? (front ++ (opening word ++ escapedAfter 0 text ++ closing word)) =
        some (seen front ++ rest) := by
  obtain ⟨shown, hshown⟩ := exists_join?_escaped hstyle text [] 0
  have hlist : front ++ (opening word ++ escapedAfter 0 text ++ closing word) =
      front ++ '[' :: (word ++ ']' :: (escapedAfter 0 text ++ closing word)) := by
    simp [opening]
  rw [seen?, hlist, join?_bare_tag hfront [] (tag?_opening hstyle _), join?_opening hstyle, hshown]
  exact ⟨_, congrArg some (List.filter_append ..)⟩

/-- Bare text is escaped as it stands. -/
theorem escapedAfter_bare (h : IsBare text) : escapedAfter 0 text = text := by
  induction text with
  | nil => rfl
  | cons c text ih =>
    obtain ⟨⟨bracket, slash⟩, htext⟩ := List.forall_mem_cons.mp h
    rw [escapedAfter, ih htext]
    · rfl
    · exact slash
    · exact bracket

theorem seen_of_plain (h : ∀ c ∈ text, IsPlain c) : seen text = text := by
  have colon : ':' ∉ text := by
    intro hc
    rcases h _ hc with same | ⟨_, _, _, _, other⟩
    · exact absurd same (by decide)
    · exact other rfl
  rw [seen, named_eq_self colon, List.filter_eq_self]
  intro c hc
  rw [Bool.not_eq_true']
  rcases h c hc with rfl | ⟨low, _⟩
  · decide
  · have low : 0x20 ≤ c.toNat := low
    simp only [movesOnly, List.contains_eq_mem, decide_eq_false_iff_not, List.mem_cons,
      List.not_mem_nil, or_false]
    omega

/-- What the commands use for styles names styles. -/
theorem isStyle_of_mem {style : String} (h : style ∈ CommandLine.Console.styles) :
    IsStyle style.toList := by
  have all : ∀ style ∈ CommandLine.Console.styles, IsStyle style.toList := by decide
  exact all style h

end Markup

open CommandLine (Console)
open CommandLine.Console (shown)

theorem shown_of_bare {text : String} (h : CommandLine.IsBare text.toList) :
    Console.plain? text = some (String.ofList (Markup.seen text.toList)) := by
  show Markup.plain? text = _
  rw [Markup.plain?_eq, Markup.seen?_bare h]
  rfl

/-- **The console is as documented.** -/
theorem isDocumented : Console.IsDocumented where
  bare text h := by
    rw [shown, shown_of_bare h]
    rfl
  plain text h := by
    rw [shown, shown_of_bare (CommandLine.isBare_of_plain h), Option.getD_some,
      Markup.seen_of_plain h, String.ofList_toList]
  styled front style text more hstyle hfront htext := by
    have hseen := Markup.seen?_styled hfront (Markup.isStyle_of_mem hstyle) htext more.toList
    have hplain (text : String) : Console.plain? text =
        (Markup.seen? text.toList).map String.ofList := Markup.plain?_eq text
    rw [shown, shown, shown_of_bare hfront, shown_of_bare htext, hplain, hplain,
      String.toList_append, String.toList_append, Markup.toList_styled, hseen]
    cases Markup.seen? more.toList <;> simp [String.append_assoc]
  escaped front style text hstyle hfront := by
    obtain ⟨rest, hseen⟩ :=
      Markup.exists_seen?_escaped (Markup.isStyle_of_mem hstyle) hfront text.toList
    refine ⟨String.ofList rest, ?_⟩
    have hescaped : (Console.escaped text).toList = Markup.escapedAfter 0 text.toList :=
      String.toList_ofList
    show Markup.plain? _ = _
    rw [Markup.plain?_eq, String.toList_append, Markup.toList_styled, hescaped, hseen, shown,
      shown_of_bare hfront]
    simp
  escaped_bare text h := by
    show Markup.escaped text = text
    rw [Markup.escaped, Markup.escapedAfter_bare h, String.ofList_toList]

end ObjectModule.PlainConsole
