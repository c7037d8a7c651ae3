import ObjectModule.Record
import ObjectModule.Proofs.Outcome
import ObjectModule.Proofs.Record.Taken

/-! Names as they are written.

A text whose characters all have codes below 256 is a string of bytes, one for each character, and
is written behind the count of these. The body of a record of names is such texts, one behind the
other. It is read exactly if it is written so, and as what was written (`names_eq_ok`); it is
refused exactly if behind some texts there is a count that is larger than what is left
(`names_eq_error`). -/
namespace ObjectModule

/-! ### Texts as bytes -/

namespace Bytes

/-- A text as a string of bytes, one for each character. Of codes above 255 only the low eight
bits are kept. -/
def ofLatin1 (text : String) : Bytes := text.toList.map fun c => UInt8.ofNat c.toNat

@[simp] theorem length_ofLatin1 (text : String) : (ofLatin1 text).length = text.length := by
  rw [ofLatin1, List.length_map, String.length_toList]

/-- The code of a byte's character is the byte. -/
theorem toNat_ofNat_toNat (b : UInt8) : (Char.ofNat b.toNat).toNat = b.toNat := by
  have hvalid : b.toNat.isValidChar := .inl (Nat.lt_trans b.toNat_lt (by decide))
  rw [Char.ofNat, dif_pos hvalid]
  rfl

/-- A text is told by its bytes if all its codes fit into one. -/
theorem latin1_ofLatin1 {text : String} (h : ∀ c ∈ text.toList, c.toNat < 0x100) :
    latin1 (ofLatin1 text) = text := by
  have same : ∀ c ∈ text.toList, Char.ofNat (UInt8.ofNat c.toNat).toNat = id c := by
    intro c hc
    rw [UInt8.toNat_ofNat_of_lt' (h c hc), Char.ofNat_toNat]
    rfl
  have hmap := List.map_congr_left same
  rw [latin1, ofLatin1, List.map_map]
  exact (congrArg String.ofList (hmap.trans (List.map_id _))).trans String.ofList_toList

/-- Bytes are told by their text. -/
theorem ofLatin1_latin1 (bytes : Bytes) : ofLatin1 bytes.latin1 = bytes := by
  have same : ∀ b ∈ bytes, UInt8.ofNat (Char.ofNat b.toNat).toNat = id b := by
    intro b _
    rw [toNat_ofNat_toNat, UInt8.ofNat_toNat]
    rfl
  rw [ofLatin1, latin1, String.toList_ofList, List.map_map]
  exact (List.map_congr_left same).trans (List.map_id _)

theorem toNat_lt_of_mem_latin1 {bytes : Bytes} : ∀ c ∈ bytes.latin1.toList, c.toNat < 0x100 := by
  intro c hc
  rw [latin1, String.toList_ofList] at hc
  obtain ⟨b, _, rfl⟩ := List.mem_map.mp hc
  rw [toNat_ofNat_toNat]
  exact b.toNat_lt

end Bytes

/-! ### Readers that fail -/

namespace Reader
variable {α β : Type} {reader item : Reader α} {next : α → Reader β} {write : α → Bytes}
  {Good : α → Prop} {a : α} {all done : List α} {limit offset : Nat} {rest back : Bytes}
  {c middle after : Cursor} {e : FormatError}

/-- Behind a reader that gave a value the next goes on. -/
theorem bind_of_ok (h : reader c = .ok a middle) : (reader >>= next) c = next a middle := by
  show EStateM.bind reader next c = _
  rw [EStateM.bind, h]

theorem parse_eq_error {input : Bytes} :
    reader.parse input = .error e ↔ ∃ after, reader ⟨0, input, 0⟩ = .error e after := by
  rw [Reader.parse, EStateM.run, Cursor.start_zero]
  cases reader ⟨0, input, 0⟩ <;> simp

/-- Items that are written one behind the other are read, and then what is behind them. -/
theorem untilEndAfter_append (h : ∀ a ∈ all, item.Reads (write a) a ∧ write a ≠ []) :
    untilEndAfter item (all.length + limit) done ⟨offset, all.flatMap write ++ back, 0⟩ =
      untilEndAfter item limit (all.reverse ++ done)
        ⟨offset + (all.flatMap write).length, back, 0⟩ := by
  induction all generalizing offset done with
  | nil => simp
  | cons a others ih =>
    obtain ⟨⟨ha, hne⟩, hothers⟩ := List.forall_mem_cons.mp h
    have hbytes : (a :: others).flatMap write ++ back ≠ [] := by simp [hne]
    rw [List.length_cons, Nat.add_right_comm, untilEndAfter_inside hbytes, List.flatMap_cons,
      List.append_assoc, bind_of_ok (ha offset _), ih hothers, List.length_append, Nat.add_assoc,
      List.reverse_cons, List.append_assoc, List.singleton_append]

/-- Where items are not read up to the end, some are, and the next is not. -/
theorem failed_of_untilEndAfter (h : item.Takes fun front a => front = write a ∧ Good a)
    (hrun : untilEndAfter item limit done ⟨offset, rest, 0⟩ = .error e after) :
    ∃ (new : List α) (back : Bytes), rest = new.flatMap write ++ back ∧ (∀ a ∈ new, Good a) ∧
      back ≠ [] ∧
      item ⟨offset + (new.flatMap write).length, back, 0⟩ = .error e after := by
  induction limit generalizing rest offset done with
  | zero => cases hrun
  | succ limit ih =>
    by_cases hrest : rest = []
    · subst hrest
      rw [untilEndAfter_at_end] at hrun
      cases hrun
    · rw [untilEndAfter_inside hrest] at hrun
      rcases bind_eq_error.mp hrun with hfirst | ⟨a, middle, hfirst, hrun⟩
      · exact ⟨[], rest, rfl, by simp, hrest, hfirst⟩
      · obtain ⟨_, more, rfl, rfl, rfl, ha⟩ := h offset rest a middle hfirst
        obtain ⟨new, back, rfl, hnew, hback, hfails⟩ := ih hrun
        refine ⟨a :: new, back, by simp, List.forall_mem_cons.mpr ⟨ha, hnew⟩, hback, ?_⟩
        rwa [List.flatMap_cons, List.length_append, ← Nat.add_assoc]

theorem u8_cons (byte : UInt8) :
    u8 ⟨offset, byte :: rest, 0⟩ = .ok byte.toNat ⟨offset + 1, rest, 0⟩ :=
  reads_u8 byte offset rest

/-- A counted string is refused where nothing is left, and where its count is larger than what is
behind it. -/
theorem countedString_eq_error :
    countedString ⟨offset, rest, 0⟩ = .error e after ↔
      (rest = [] ∧ e = .unexpectedEnd 1 offset 0 ∧ after = ⟨offset, [], 0⟩) ∨
        ∃ (count : UInt8) (more : Bytes), rest = count :: more ∧ more.length < count.toNat ∧
          e = .unexpectedEnd count.toNat (offset + 1 : Nat) more.length ∧
          after = ⟨offset + 1, more, 0⟩ := by
  cases rest with
  | nil =>
    have hrun : countedString ⟨offset, [], 0⟩ =
      .error (.unexpectedEnd 1 offset 0) ⟨offset, [], 0⟩ := rfl
    simp [hrun, eq_comm]
  | cons count more =>
    have hrun : countedString ⟨offset, count :: more, 0⟩ =
        (do return Bytes.latin1 (← bytes count.toNat) : Reader String) ⟨offset + 1, more, 0⟩ :=
      bind_of_ok (u8_cons count)
    rw [hrun, bind_eq_error, bytes_eq]
    by_cases short : more.length < count.toNat
    · have refused : ¬ ((0 : Int) ≤ count.toNat ∧ (count.toNat : Int) ≤ more.length) := by omega
      rw [if_neg refused]
      simp [short, eq_comm, pure, EStateM.pure]
    · have given : (0 : Int) ≤ count.toNat ∧ (count.toNat : Int) ≤ more.length := by omega
      rw [if_pos given]
      simp [short, pure, EStateM.pure]

end Reader

/-! ### Counted strings -/

namespace CountedString

/-- A text behind the count of its characters, each of which takes a byte. -/
def toBytes (text : String) : Bytes := (Bytes.ofLatin1 text).counted

/-- Texts behind their counts, one behind the other. -/
def allToBytes (texts : List String) : Bytes := texts.flatMap toBytes

/-- Whether a text can be written so. -/
structure Fits (text : String) : Prop where
  latin1 : ∀ c ∈ text.toList, c.toNat < 0x100
  short : text.length < 0x100

variable {text : String} {texts : List String}

theorem toBytes_ne_nil (text : String) : toBytes text ≠ [] := List.cons_ne_nil _ _

theorem reads_toBytes (h : Fits text) : Reader.countedString.Reads (toBytes text) text := by
  have hlength : (Bytes.ofLatin1 text).length < 0x100 := by
    rw [Bytes.length_ofLatin1]
    exact h.short
  have hread := Reader.reads_countedString hlength
  rwa [Bytes.latin1_ofLatin1 h.latin1] at hread

theorem takes_toBytes :
    Reader.countedString.Takes fun front text => front = toBytes text ∧ Fits text := by
  refine Reader.takes_countedString.mono fun front text htext => ?_
  obtain ⟨bytes, hlength, rfl, rfl⟩ := htext
  refine ⟨by rw [toBytes, Bytes.ofLatin1_latin1], Bytes.toNat_lt_of_mem_latin1, ?_⟩
  rwa [← Bytes.length_ofLatin1, Bytes.ofLatin1_latin1]

end CountedString

/-! ### Bodies of names -/

namespace Record
variable {r : Record} {texts : List String} {e : FormatError}

/-- **Names are read exactly if they are written so.** -/
theorem names_eq_ok :
    r.names = .ok texts ↔
      r.body = CountedString.allToBytes texts ∧ ∀ text ∈ texts, CountedString.Fits text := by
  constructor
  · intro h
    exact (Reader.takesAll_untilEnd CountedString.takes_toBytes
      CountedString.toBytes_ne_nil).parse h
  · rintro ⟨hbody, hfits⟩
    rw [names, hbody]
    exact (Reader.readsAll_untilEnd fun text htext =>
      ⟨CountedString.reads_toBytes (hfits text htext), CountedString.toBytes_ne_nil text⟩).parse

/-- **Names are refused exactly where one of them runs past the end.** -/
theorem names_eq_error :
    r.names = .error e ↔ ∃ (texts : List String) (count : UInt8) (more : Bytes),
      (∀ text ∈ texts, CountedString.Fits text) ∧
      r.body = CountedString.allToBytes texts ++ count :: more ∧ more.length < count.toNat ∧
      e = .unexpectedEnd count.toNat ((CountedString.allToBytes texts).length + 1 : Nat)
        more.length := by
  rw [names, Reader.parse_eq_error]
  constructor
  · rintro ⟨after, hrun⟩
    obtain ⟨texts, back, hbody, hfits, hback, hfails⟩ :=
      Reader.failed_of_untilEndAfter CountedString.takes_toBytes hrun
    rw [Nat.zero_add] at hfails
    rcases Reader.countedString_eq_error.mp hfails with ⟨hend, _⟩ | ⟨count, more, rfl, short, he, _⟩
    · exact absurd hend hback
    · exact ⟨texts, count, more, hfits, hbody, short, he⟩
  · rintro ⟨texts, count, more, hfits, hbody, short, rfl⟩
    have hitems : ∀ text ∈ texts, Reader.countedString.Reads (CountedString.toBytes text) text ∧
        CountedString.toBytes text ≠ [] := fun text htext =>
      ⟨CountedString.reads_toBytes (hfits text htext), CountedString.toBytes_ne_nil text⟩
    have hlimit : ∃ limit, r.body.length = texts.length + (limit + 1) := by
      have hmany := Bytes.length_le_flatMap fun text htext => (hitems text htext).2
      refine ⟨r.body.length - texts.length - 1, ?_⟩
      rw [hbody, List.length_append, List.length_cons, CountedString.allToBytes]
      omega
    obtain ⟨limit, hlimit⟩ := hlimit
    have hfails (offset : Nat) : Reader.countedString ⟨offset, count :: more, 0⟩ =
        .error (.unexpectedEnd count.toNat (offset + 1 : Nat) more.length)
          ⟨offset + 1, more, 0⟩ :=
      Reader.countedString_eq_error.mpr (.inr ⟨count, more, rfl, short, rfl, rfl⟩)
    refine ⟨⟨(CountedString.allToBytes texts).length + 1, more, 0⟩, ?_⟩
    show Reader.untilEndAfter Reader.countedString r.body.length [] ⟨0, r.body, 0⟩ = _
    rw [hlimit, hbody, CountedString.allToBytes, Reader.untilEndAfter_append hitems, Nat.zero_add,
      Reader.untilEndAfter_inside (List.cons_ne_nil _ _)]
    exact Reader.bind_eq_error.mpr (.inl (hfails _))

end Record
end ObjectModule
