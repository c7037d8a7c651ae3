import ObjectModule.Proofs.Record.Bodies
import ObjectModule.Proofs.Record.Names

/-! What reads take of an input.

Reads follow one another from any place of an input, also behind one that failed. The place they
go on from never moves back and never leaves the input. Each gives a value exactly if that stands
written ahead, and takes what it is written in (`Step.reader_eq_ok`); a field of a known size is
taken whole or not at all, and of a field in two parts at most the first byte is taken if the
second cannot be read (`consumed_by_reads`). -/
namespace ObjectModule

/-- The place so many bytes into an input. -/
def Cursor.inside (input : Bytes) (place : Nat) : Cursor := ⟨place, input.drop place, 0⟩

theorem Cursor.start_eq_inside {input : Bytes} {offset : Nat} (h : offset ≤ input.length) :
    start input offset = inside input offset := by
  simp [start, inside, h]

namespace Reader

/-- What may be read next. -/
inductive Step where
  | u8
  | u16
  | u32
  | bytes (size : Int)
  | sizedInt (wide : Bool)
  | index
  | countedString
deriving DecidableEq, Repr

/-- What a read may give. -/
inductive Value where
  | number (n : Nat)
  | bytes (bytes : Bytes)
  | sizedInt (field : SizedInt)
  | index (i : Index)
  | text (text : String)
deriving DecidableEq, Repr

namespace Step

/-- The read that is asked for. -/
def reader : Step → Reader Value
  | u8 => do return .number (← Reader.u8)
  | u16 => do return .number (← Reader.u16)
  | u32 => do return .number (← Reader.u32)
  | bytes size => do return .bytes (← Reader.bytes size)
  | sizedInt wide => do return .sizedInt (← Reader.sizedInt wide)
  | index => do return .index (← Reader.index)
  | countedString => do return .text (← Reader.countedString)

/-- How many bytes a read needs, if that does not hang on the first of them. -/
def need? : Step → Option Int
  | u8 => some 1
  | u16 => some 2
  | u32 => some 4
  | bytes size => some size
  | sizedInt wide => some (fieldWidth wide)
  | index | countedString => none

/-- The bytes in which a value is written that some read may give. -/
inductive Writes : Step → Bytes → Value → Prop
  | u8 {n : Nat} (fits : n < 0x100) : Writes u8 (Bytes.ofNat 1 n) (.number n)
  | u16 {n : Nat} (fits : n < 0x10000) : Writes u16 (Bytes.ofNat 2 n) (.number n)
  | u32 {n : Nat} (fits : n < 0x100000000) : Writes u32 (Bytes.ofNat 4 n) (.number n)
  | bytes {front : Bytes} {size : Int} (size_eq : size = front.length) :
      Writes (bytes size) front (.bytes front)
  | sizedInt {wide : Bool} {field : SizedInt} (fits : field.Fits wide) :
      Writes (sizedInt wide) field.toBytes (.sizedInt field)
  | index {i : Index} (fits : i.Fits) : Writes index i.toBytes (.index i)
  | countedString {text : String} (fits : CountedString.Fits text) :
      Writes countedString (CountedString.toBytes text) (.text text)

/-- Where a read goes on, whether it gave a value or failed. -/
def passed (c : Cursor) (step : Step) : Cursor :=
  match step.reader c with
  | .ok _ after => after
  | .error _ after => after

/-- Where reads go on, one after another. -/
def allPassed (c : Cursor) (steps : List Step) : Cursor := steps.foldl passed c

variable {step : Step} {front rest : Bytes} {v : Value} {offset width : Nat} {need : Int}
  {e : FormatError} {after : Cursor}

/-! ### What is given -/

theorem reads_of_writes (h : step.Writes front v) : step.reader.Reads front v := by
  cases h with
  | u8 fits => exact (reads_number_ofNat fits).bind_pure
  | u16 fits => exact (reads_number_ofNat fits).bind_pure
  | u32 fits => exact (reads_number_ofNat fits).bind_pure
  | bytes size_eq =>
    subst size_eq
    exact (reads_bytes front).bind_pure
  | sizedInt fits => exact (reads_sizedInt fits).bind_pure
  | index fits => exact (Index.reads_index fits).bind_pure
  | countedString fits => exact (CountedString.reads_toBytes fits).bind_pure

/-- A read takes what its value is written in if the reader it is made of does. -/
theorem takes_writes_of {α : Type} {reader : Reader α} {P : Bytes → α → Prop} {f : α → Value}
    (h : reader.Takes P) (hP : ∀ front a, P front a → step.Writes front (f a)) :
    (do return f (← reader) : Reader Value).Takes step.Writes := by
  refine h.bind fun a front ha => takes_pure ?_
  rw [List.append_nil]
  exact hP front a ha

theorem takes_writes (step : Step) : step.reader.Takes step.Writes := by
  cases step with
  | u8 =>
    refine takes_writes_of (takes_number 1) fun front n h => ?_
    obtain ⟨rfl, fits⟩ := h
    exact .u8 fits
  | u16 =>
    refine takes_writes_of (takes_number 2) fun front n h => ?_
    obtain ⟨rfl, fits⟩ := h
    exact .u16 fits
  | u32 =>
    refine takes_writes_of (takes_number 4) fun front n h => ?_
    obtain ⟨rfl, fits⟩ := h
    exact .u32 fits
  | bytes size =>
    refine takes_writes_of (takes_bytes size) fun front got h => ?_
    obtain ⟨rfl, hsize⟩ := h
    exact .bytes hsize.symm
  | sizedInt wide =>
    refine takes_writes_of (takes_sizedInt wide) fun front field h => ?_
    obtain ⟨rfl, fits⟩ := h
    exact .sizedInt fits
  | index =>
    refine takes_writes_of Index.takes_index fun front i h => ?_
    obtain ⟨rfl, fits⟩ := h
    exact .index fits
  | countedString =>
    refine takes_writes_of CountedString.takes_toBytes fun front text h => ?_
    obtain ⟨rfl, fits⟩ := h
    exact .countedString fits

/-- **A value is given exactly if it stands written ahead**, and what it is written in is taken. -/
theorem reader_eq_ok :
    step.reader ⟨offset, rest, 0⟩ = .ok v after ↔
      ∃ front back, rest = front ++ back ∧ step.Writes front v ∧
        after = ⟨offset + front.length, back, 0⟩ := by
  constructor
  · intro h
    obtain ⟨front, back, hrest, hafter, hwrites⟩ := takes_writes step _ _ _ _ h
    exact ⟨front, back, hrest, hwrites, hafter⟩
  · rintro ⟨front, back, rfl, hwrites, rfl⟩
    exact reads_of_writes hwrites offset back

/-! ### What is refused -/

/-- A read that only turns another's value into its own fails as that one does. -/
theorem bind_pure_eq_error {α β : Type} {reader : Reader α} {f : α → β} {c : Cursor} :
    (do return f (← reader) : Reader β) c = .error e after ↔ reader c = .error e after := by
  rw [bind_eq_error]
  simp [pure, EStateM.pure]

theorem number_eq_error :
    number width ⟨offset, rest, 0⟩ = .error e after ↔
      rest.length < width ∧ e = .unexpectedEnd width offset rest.length ∧
        after = ⟨offset, rest, 0⟩ := by
  rw [number_eq]
  by_cases short : rest.length < width
  · rw [if_neg (by omega)]
    simp [short, eq_comm]
  · rw [if_pos (by omega)]
    simp [short]

theorem bytes_eq_error {size : Int} :
    Reader.bytes size ⟨offset, rest, 0⟩ = .error e after ↔
      (size < 0 ∨ (rest.length : Int) < size) ∧ e = .unexpectedEnd size offset rest.length ∧
        after = ⟨offset, rest, 0⟩ := by
  rw [bytes_eq]
  by_cases short : size < 0 ∨ (rest.length : Int) < size
  · rw [if_neg (by omega)]
    simp [short, eq_comm]
  · rw [if_pos (by omega)]
    simp [short]

/-- **A field of a known size is refused exactly where fewer bytes are left**, and then none is
taken. -/
theorem reader_eq_error_of_need (h : step.need? = some need) :
    step.reader ⟨offset, rest, 0⟩ = .error e after ↔
      (need < 0 ∨ (rest.length : Int) < need) ∧ e = .unexpectedEnd need offset rest.length ∧
        after = ⟨offset, rest, 0⟩ := by
  have sized (width : Nat) : number width ⟨offset, rest, 0⟩ = .error e after ↔
      ((width : Int) < 0 ∨ (rest.length : Int) < width) ∧
        e = .unexpectedEnd width offset rest.length ∧ after = ⟨offset, rest, 0⟩ := by
    rw [number_eq_error, Int.ofNat_lt, or_iff_right (by omega)]
  cases step with
  | u8 =>
    cases h
    exact bind_pure_eq_error.trans (sized 1)
  | u16 =>
    cases h
    exact bind_pure_eq_error.trans (sized 2)
  | u32 =>
    cases h
    exact bind_pure_eq_error.trans (sized 4)
  | bytes size =>
    cases h
    exact bind_pure_eq_error.trans bytes_eq_error
  | sizedInt wide =>
    cases h
    rw [reader, bind_pure_eq_error, Reader.sizedInt, bind_pure_eq_error, u16or32_eq]
    exact sized _
  | index => cases h
  | countedString => cases h

/-- An index is refused where nothing is left, and where nothing is behind its first byte if that
is marked. -/
theorem index_eq_error :
    Reader.index ⟨offset, rest, 0⟩ = .error e after ↔
      (rest = [] ∧ e = .unexpectedEnd 1 offset 0 ∧ after = ⟨offset, [], 0⟩) ∨
        ∃ first : UInt8, rest = [first] ∧ 0x80 ≤ first.toNat ∧
          e = .unexpectedEnd 1 (offset + 1 : Nat) 0 ∧ after = ⟨offset + 1, [], 0⟩ := by
  cases rest with
  | nil =>
    have hrun : Reader.index ⟨offset, [], 0⟩ =
      .error (.unexpectedEnd 1 offset 0) ⟨offset, [], 0⟩ := rfl
    simp [hrun, eq_comm]
  | cons first more =>
    rw [Reader.index, bind_of_ok (u8_cons first)]
    by_cases short : first.toNat < 0x80
    · have refused : ¬ 0x80 ≤ first.toNat := by omega
      rw [if_pos short]
      simp [refused, pure, EStateM.pure]
    · have marked : 0x80 ≤ first.toNat := by omega
      rw [if_neg short]
      cases more with
      | nil =>
        have hrun : (do return ⟨2, ((first.toNat : Int) - 0x80) * 0x100 + (← Reader.u8)⟩ :
            Reader Index) ⟨offset + 1, [], 0⟩ =
          .error (.unexpectedEnd 1 (offset + 1 : Nat) 0) ⟨offset + 1, [], 0⟩ := rfl
        rw [hrun]
        simp [marked, eq_comm]
      | cons second more =>
        rw [bind_of_ok (u8_cons second)]
        simp [pure, EStateM.pure]

/-- **A field in two parts is refused for a lack of bytes**, and then at most the first of them is
taken. -/
theorem shortage_of_no_need (h : step.need? = none)
    (hrun : step.reader ⟨offset, rest, 0⟩ = .error e after) :
    e.IsShortage offset rest ∧
      (rest = [] ∧ after = ⟨offset, rest, 0⟩ ∨
        ∃ first more, rest = first :: more ∧ after = ⟨offset + 1, more, 0⟩) := by
  cases step with
  | index =>
    rw [reader, bind_pure_eq_error, index_eq_error] at hrun
    rcases hrun with ⟨rfl, rfl, rfl⟩ | ⟨first, rfl, _, rfl, rfl⟩
    · exact ⟨⟨by simp, by simp, by simp, by simp⟩, .inl ⟨rfl, rfl⟩⟩
    · exact ⟨⟨by omega, by simp, by simp, by simp⟩, .inr ⟨first, [], rfl, rfl⟩⟩
  | countedString =>
    rw [reader, bind_pure_eq_error, countedString_eq_error] at hrun
    rcases hrun with ⟨rfl, rfl, rfl⟩ | ⟨count, more, rfl, short, rfl, rfl⟩
    · exact ⟨⟨by simp, by simp, by simp, by simp⟩, .inl ⟨rfl, rfl⟩⟩
    · refine ⟨⟨?_, ?_, ?_, ?_⟩, .inr ⟨count, more, rfl, rfl⟩⟩
      · omega
      · rw [List.length_cons]
        omega
      · omega
      · omega
  | _ => cases h

/-! ### Places of an input -/

variable {input back : Bytes} {place : Nat}

/-- What a read does at a place of an input. -/
structure Lawful (input : Bytes) (place : Nat) (step : Step) : Prop where
  /-- It gives a value exactly if that stands written ahead, and takes what it is written in. -/
  gives : ∀ v after, step.reader (.inside input place) = .ok v after ↔
    ∃ front back, input.drop place = front ++ back ∧ step.Writes front v ∧
      after = .inside input (place + front.length)
  /-- A field of a known size is refused exactly where fewer bytes are left, and none is taken. -/
  refuses : ∀ need, step.need? = some need → ∀ e after,
    step.reader (.inside input place) = .error e after ↔
      (need < 0 ∨ (input.length : Int) < place + need) ∧
        e = .unexpectedEnd need place (input.length - place) ∧ after = .inside input place
  /-- A field in two parts is refused for a lack of bytes; the first is taken if there is one. -/
  stops : step.need? = none → ∀ e after, step.reader (.inside input place) = .error e after →
    e.IsShortage place (input.drop place) ∧
      (place = input.length ∧ after = .inside input place ∨
        place < input.length ∧ after = .inside input (place + 1))

/-- What is behind some bytes at a place lies at the place so many bytes further on. -/
theorem inside_behind (hrest : input.drop place = front ++ back) :
    Cursor.inside input (place + front.length) = ⟨place + front.length, back, 0⟩ := by
  rw [Cursor.inside, ← List.drop_drop, hrest, List.drop_left]

theorem lawful (h : place ≤ input.length) (step : Step) : step.Lawful input place where
  gives v after := by
    refine reader_eq_ok.trans (exists_congr fun front => exists_congr fun back =>
      and_congr_right fun hrest => and_congr_right fun _ => ?_)
    rw [inside_behind hrest]
  refuses need hneed e after := by
    have short : need < 0 ∨ ((input.length : Int) - place) < need ↔
        need < 0 ∨ (input.length : Int) < place + need := by omega
    rw [Cursor.inside, reader_eq_error_of_need hneed, List.length_drop, Int.ofNat_sub h, short]
  stops hneed e after hrun := by
    obtain ⟨hshort, hafter⟩ := shortage_of_no_need hneed hrun
    refine ⟨hshort, hafter.imp ?_ ?_⟩
    · rintro ⟨hrest, rfl⟩
      exact ⟨Nat.le_antisymm h (List.drop_eq_nil_iff.mp hrest), rfl⟩
    · rintro ⟨first, more, hrest, rfl⟩
      have hlength := congrArg List.length hrest
      rw [List.length_drop, List.length_cons] at hlength
      have behind : Cursor.inside input (place + [first].length) = ⟨place + 1, more, 0⟩ :=
        inside_behind hrest
      exact ⟨by omega, behind.symm⟩

/-- One read goes on from a place of the input that is not before its own. -/
theorem passed_inside (h : place ≤ input.length) (step : Step) :
    ∃ later, place ≤ later ∧ later ≤ input.length ∧
      passed (.inside input place) step = .inside input later := by
  have lawful := lawful h step
  unfold passed
  cases hrun : step.reader (.inside input place) with
  | ok v after =>
    obtain ⟨front, back, hrest, _, rfl⟩ := (lawful.gives v after).mp hrun
    have hlength := congrArg List.length hrest
    rw [List.length_drop, List.length_append] at hlength
    exact ⟨place + front.length, by omega, by omega, rfl⟩
  | error e after =>
    cases hneed : step.need? with
    | some need =>
      obtain ⟨_, _, rfl⟩ := (lawful.refuses need hneed e after).mp hrun
      exact ⟨place, Nat.le_refl _, h, rfl⟩
    | none =>
      rcases (lawful.stops hneed e after hrun).2 with ⟨_, rfl⟩ | ⟨hplace, rfl⟩
      · exact ⟨place, Nat.le_refl _, h, rfl⟩
      · exact ⟨place + 1, Nat.le_succ _, hplace, rfl⟩

theorem allPassed_inside (h : place ≤ input.length) (steps : List Step) :
    ∃ later, place ≤ later ∧ later ≤ input.length ∧
      allPassed (.inside input place) steps = .inside input later := by
  induction steps generalizing place with
  | nil => exact ⟨place, Nat.le_refl _, h, rfl⟩
  | cons step rest ih =>
    obtain ⟨middle, hmiddle, hinside, hpassed⟩ := passed_inside h step
    obtain ⟨later, hlater, hinside, hrest⟩ := ih hinside
    refine ⟨later, Nat.le_trans hmiddle hlater, hinside, ?_⟩
    rwa [allPassed, List.foldl_cons, hpassed]

/-- **Reads go forward and stay in the input, and take what they tell.** After any reads, of which
some may have failed, the place is in the input and not before the one they started from, further
reads do not go back, and the next read keeps to its law. -/
theorem consumed_by_reads {offset : Nat} (h : offset ≤ input.length) (steps more : List Step) :
    ∃ place later, offset ≤ place ∧ place ≤ later ∧ later ≤ input.length ∧
      allPassed (.start input offset) steps = .inside input place ∧
      allPassed (.start input offset) (steps ++ more) = .inside input later ∧
      ∀ step : Step, step.Lawful input place := by
  rw [Cursor.start_eq_inside h]
  obtain ⟨place, hplace, hinside, hsteps⟩ := allPassed_inside h steps
  obtain ⟨later, hlater, hinside', hmore⟩ := allPassed_inside hinside more
  refine ⟨place, later, hplace, hlater, hinside', hsteps, ?_, lawful hinside⟩
  rw [allPassed] at hsteps ⊢
  rw [List.foldl_append, hsteps]
  exact hmore

/-- From the second byte on: two bytes are not there in wide records, the first byte of a text is
taken and its text is lacking, then an index is read. -/
theorem consumed_by_reads_short :
    let input : Bytes := [7, 9, 0x81, 2]
    1 ≤ input.length ∧
      allPassed (.start input 1) [u32, countedString] = ⟨2, [0x81, 2], 0⟩ ∧
      allPassed (.start input 1) ([u32, countedString] ++ [index]) = ⟨4, [], 0⟩ ∧
      ∃ place later, 1 ≤ place ∧ place ≤ later ∧ later ≤ input.length ∧
        allPassed (.start input 1) [u32, countedString] = .inside input place ∧
        allPassed (.start input 1) ([u32, countedString] ++ [index]) = .inside input later ∧
        ∀ step : Step, step.Lawful input place :=
  ⟨by decide, by decide +kernel, by decide +kernel,
    consumed_by_reads (by decide) [u32, countedString] [index]⟩

end Step
end Reader
end ObjectModule
