import ObjectModule.CommandLine.Output
import ObjectModule.Proofs.CommandLine.Console
import ObjectModule.Proofs.Text.Hex

/-! Lines of a dump, read back.

A line has an address, two blanks, and a column in which every byte stands in two hexadecimal
digits; what is behind the column is not read. From what there is to see of a line its address and
its bytes are read back (`exists_plain?_dumpLine`), and the lines of a dump have the bytes in rows
of sixteen (`exists_plain?_dumpLines`). -/
namespace ObjectModule.CommandLine
open Text (IsMark hexInteger? hexNatural? paddedHex)

/-! ### Reading a line -/

/-- How many characters the column of bytes has. -/
def columnWidth : Nat := 47

/-- The bytes of a column, two digits each, with blanks between and behind them. -/
def columnBytes? : List Char → Option Bytes
  | [] => some []
  | ' ' :: rest => columnBytes? rest
  | [_] => none
  | c :: d :: rest => do
    let value ← hexNatural? [c, d]
    let bytes ← columnBytes? rest
    return UInt8.ofNat value :: bytes

/-- The address and the bytes of a line that is seen. -/
def readLine? (line : String) : Option (Int × Bytes) := do
  let address ← hexInteger? (line.toList.takeWhile (· ≠ ' '))
  let column := ((line.toList.dropWhile (· ≠ ' ')).drop 2).take columnWidth
  let bytes ← columnBytes? column
  return (address, bytes)

/-! ### Columns -/

/-- Blanks. -/
def blanks (count : Nat) : List Char := List.replicate count ' '

/-- The column of bytes, without the blanks behind it. -/
def columnText (bytes : Bytes) : List Char :=
  [' '].intercalate (bytes.map fun b => (byteText b).toList)

variable {bytes : Bytes} {rest : List Char}

theorem columnText_singleton (b : UInt8) : columnText [b] = (byteText b).toList :=
  List.append_nil _

theorem columnText_cons_cons (b c : UInt8) (bytes : Bytes) :
    columnText (b :: c :: bytes) = (byteText b).toList ++ ' ' :: columnText (c :: bytes) := by
  rw [columnText, List.map_cons, List.map_cons, List.intercalate_cons_cons, List.append_assoc]
  rfl

theorem exists_byteText (b : UInt8) :
    ∃ c d, (byteText b).toList = [c, d] ∧ hexNatural? [c, d] = some b.toNat :=
  Text.exists_digits_of_lt b.toNat_lt

theorem length_columnText (bytes : Bytes) : (columnText bytes).length = 3 * bytes.length - 1 := by
  have htwo (b : UInt8) : (byteText b).toList.length = 2 := by
    obtain ⟨c, d, hbyte, _⟩ := exists_byteText b
    rw [hbyte]
    rfl
  induction bytes with
  | nil => rfl
  | cons b bytes ih =>
    cases bytes with
    | nil => rw [columnText_singleton, htwo, List.length_singleton]
    | cons c bytes =>
      rw [columnText_cons_cons, List.length_append, htwo, List.length_cons, ih]
      simp only [List.length_cons]
      omega

theorem columnBytes?_blanks (count : Nat) : columnBytes? (blanks count) = some [] := by
  induction count with
  | zero => rfl
  | succ count ih =>
    rw [blanks, List.replicate_succ, columnBytes?]
    exact ih

theorem columnBytes?_byteText (b : UInt8) (h : columnBytes? rest = some bytes) :
    columnBytes? ((byteText b).toList ++ rest) = some (b :: bytes) := by
  obtain ⟨c, d, hbyte, hvalue⟩ := exists_byteText b
  have hmark : IsMark c := Text.isMark_paddedHex 2 b.toNat c (hbyte ▸ List.mem_cons_self)
  have visible : c ≠ ' ' := hmark.elim (by decide) (by decide)
  rw [hbyte, List.cons_append, List.cons_append, List.nil_append, columnBytes?, hvalue, h]
  · exact congrArg (some <| · :: bytes) UInt8.ofNat_toNat
  · exact visible

theorem columnBytes?_columnText (bytes : Bytes) (count : Nat) :
    columnBytes? (columnText bytes ++ blanks count) = some bytes := by
  induction bytes with
  | nil => exact columnBytes?_blanks count
  | cons b bytes ih =>
    cases bytes with
    | nil =>
      rw [columnText_singleton]
      exact columnBytes?_byteText b (columnBytes?_blanks count)
    | cons c bytes =>
      rw [columnText_cons_cons, List.append_assoc, List.cons_append]
      apply columnBytes?_byteText
      rw [columnBytes?]
      exact ih

/-- The column of bytes, with blanks behind it up to its width. -/
def column (bytes : Bytes) : List Char :=
  columnText bytes ++ blanks (columnWidth - (columnText bytes).length)

/-- The bytes of a column are read back. -/
theorem columnBytes?_column (bytes : Bytes) : columnBytes? (column bytes) = some bytes :=
  columnBytes?_columnText bytes _

/-- No line has more bytes than its column has room for. -/
theorem length_column (h : bytes.length ≤ lineWidth) : (column bytes).length = columnWidth := by
  have hwidth : lineWidth = 16 := rfl
  rw [column, List.length_append, blanks, List.length_replicate, length_columnText, columnWidth]
  omega

/-! ### What is seen of a line -/

/-- What stands around the numbers of a dump, but is no text. -/
def separators : List Char := [' ', 'x', '@', '\n']

/-- Whether a character is one that the numbers of a dump are written with, or stands around
them. -/
def IsLegible (c : Char) : Prop := IsMark c ∨ c ∈ separators

theorem IsLegible.blank : IsLegible ' ' := .inr (by decide)

/-- What holds of the minus sign, of all hexadecimal digits and of all separators. -/
@[elab_as_elim]
theorem IsLegible.elim {motive : Char → Prop} [DecidablePred motive] {c : Char} (h : IsLegible c)
    (sign : motive '-') (digits : ∀ d : Fin 16, motive d.val.digitChar)
    (others : separators.all (motive ·) = true) : motive c := by
  rcases h with h | h
  · exact h.elim sign digits
  · exact of_decide_eq_true (List.all_eq_true.mp others c h)

theorem isLegible_of_subset {text : List Char} (h : text ⊆ separators) : ∀ c ∈ text, IsLegible c :=
  fun _ hc => .inr (h hc)

theorem isPlain_of_legible {text : List Char} (h : ∀ c ∈ text, IsLegible c) :
    ∀ c ∈ text, IsPlain c :=
  fun c hc => (h c hc).elim (by decide) (by decide) (by decide)

theorem isLegible_columnText (bytes : Bytes) : ∀ c ∈ columnText bytes, IsLegible c := by
  have hbyte (b : UInt8) : ∀ c ∈ (byteText b).toList, IsLegible c :=
    fun c hc => .inl (Text.isMark_paddedHex 2 b.toNat c hc)
  induction bytes with
  | nil => exact fun c hc => nomatch hc
  | cons b bytes ih =>
    cases bytes with
    | nil =>
      rw [columnText_singleton]
      exact hbyte b
    | cons next bytes =>
      rw [columnText_cons_cons, List.forall_mem_append, List.forall_mem_cons]
      exact ⟨hbyte b, .blank, ih⟩

/-- The column of bytes between the blanks around it. -/
def framedColumn (bytes : Bytes) : List Char := blanks 2 ++ column bytes ++ blanks 2

theorem isLegible_framedColumn (bytes : Bytes) : ∀ c ∈ framedColumn bytes, IsLegible c := by
  have hblanks (count : Nat) : ∀ c ∈ blanks count, IsLegible c := by
    intro c hc
    rw [List.eq_of_mem_replicate hc]
    exact .blank
  rw [framedColumn, column, List.forall_mem_append, List.forall_mem_append,
    List.forall_mem_append]
  exact ⟨⟨hblanks 2, isLegible_columnText bytes, hblanks _⟩, hblanks 2⟩

/-- What stands between the address and the characters of a line. -/
def middle (bytes : Bytes) : String := String.ofList (framedColumn bytes)

theorem dumpLine_eq [Console] (address : Int) (bytes : Bytes) :
    dumpLine address bytes = styled "green" (paddedHex 8 address) ++
      (middle bytes ++ styled "dim" (Console.escaped (String.ofList (bytes.map byteChar)))) := by
  have hcolumn : (" ".intercalate (bytes.map byteText)).toList = columnText bytes := by
    rw [String.toList_intercalate, List.map_map]
    rfl
  have hlength : (" ".intercalate (bytes.map byteText)).length = (columnText bytes).length := by
    rw [← String.length_toList, hcolumn]
  have htwo : "  ".toList = blanks 2 := by decide
  show styled "green" (paddedHex 8 address) ++ "  " ++
    " ".intercalate (bytes.map byteText) ++ String.ofList (List.replicate (3 * lineWidth - 1 -
      (" ".intercalate (bytes.map byteText)).length) ' ') ++ "  " ++
    styled "dim" (Console.escaped (String.ofList (bytes.map byteChar))) = _
  apply String.toList_inj.mp
  simp only [String.toList_append, hcolumn, hlength, htwo, middle, String.toList_ofList,
    framedColumn, column, List.append_assoc]
  rfl

/-- The address and the bytes are read from the front of a line. -/
theorem readLine?_front (address : Int) (h : bytes.length ≤ lineWidth) (rest : List Char) :
    readLine? (String.ofList ((paddedHex 8 address).toList ++ (framedColumn bytes ++ rest))) =
      some (address, bytes) := by
  have hmarks : ∀ c ∈ (paddedHex 8 address).toList, decide (c ≠ ' ') = true := fun c hc =>
    (Text.isMark_paddedHex 8 address c hc).elim (by decide) (by decide)
  have hfront :
      framedColumn bytes ++ rest = ' ' :: ' ' :: (column bytes ++ (blanks 2 ++ rest)) := by
    rw [framedColumn, List.append_assoc, List.append_assoc]
    rfl
  have htake : ((paddedHex 8 address).toList ++ (framedColumn bytes ++ rest)).takeWhile (· ≠ ' ') =
      (paddedHex 8 address).toList := by
    rw [hfront, List.takeWhile_append_of_pos hmarks]
    exact List.append_nil _
  have hdrop : ((paddedHex 8 address).toList ++ (framedColumn bytes ++ rest)).dropWhile (· ≠ ' ') =
      framedColumn bytes ++ rest := by
    rw [hfront, List.dropWhile_append_of_pos hmarks]
    rfl
  rw [readLine?, String.toList_ofList, htake, hdrop, Text.hexInteger?_paddedHex, hfront]
  show (columnBytes? ((column bytes ++ (blanks 2 ++ rest)).take columnWidth)).bind _ = _
  rw [List.take_left' (length_column h), columnBytes?_column]
  rfl

/-- **What a line is written for is read from what is seen of it.** -/
theorem exists_plain?_dumpLine [Console] (console : Console.IsDocumented) (address : Int)
    (h : bytes.length ≤ lineWidth) :
    ∃ line, Console.plain? (dumpLine address bytes) = some line ∧
      readLine? line = some (address, bytes) := by
  have haddress : ∀ c ∈ (paddedHex 8 address).toList, IsPlain c :=
    isPlain_of_legible fun c hc => .inl (Text.isMark_paddedHex 8 address c hc)
  have hmiddle : ∀ c ∈ (middle bytes).toList, IsPlain c := by
    rw [middle, String.toList_ofList]
    exact isPlain_of_legible (isLegible_framedColumn bytes)
  obtain ⟨rest, hrest⟩ := console.escaped (middle bytes) "dim"
    (String.ofList (bytes.map byteChar)) (by decide) (isBare_of_plain hmiddle)
  have hline := console.styled "" "green" (paddedHex 8 address)
    (middle bytes ++ styled "dim" (Console.escaped (String.ofList (bytes.map byteChar))))
    (by decide) (by decide) (isBare_of_plain haddress)
  rw [hrest, console.shown_empty, String.empty_append, String.empty_append,
    console.plain _ haddress, console.plain _ hmiddle] at hline
  refine ⟨_, (congrArg Console.plain? (dumpLine_eq address bytes)).trans hline, ?_⟩
  have hread := readLine?_front address h rest.toList
  rwa [String.ofList_append, String.ofList_append, String.ofList_toList, String.ofList_toList]
    at hread

/-! ### Rows of sixteen -/

/-- Whether rows show bytes from an address on, sixteen in each but the last. -/
structure IsDump (base : Int) (data : Bytes) (rows : List (Int × Bytes)) : Prop where
  bytes : rows.flatMap Prod.snd = data
  address : ∀ (n : Nat) row, rows[n]? = some row → row.1 = base + 16 * n
  full : ∀ (n : Nat) row, rows[n]? = some row → n + 1 < rows.length → row.2.length = 16
  short : ∀ row ∈ rows, 0 < row.2.length ∧ row.2.length ≤ 16

/-- The row of a number. -/
def dumpRow (base : Int) (data : Bytes) (n : Nat) : Int × Bytes :=
  (base + (n * lineWidth : Nat), (data.take (n * lineWidth + lineWidth)).drop (n * lineWidth))

/-- The rows of bytes. -/
def dumpRows (base : Int) (data : Bytes) : List (Int × Bytes) :=
  (List.range ((data.length + lineWidth - 1) / lineWidth)).map (dumpRow base data)

/-- The first rows have the first bytes. -/
theorem flatMap_dumpRow (base : Int) (data : Bytes) (count : Nat) :
    (List.range count).flatMap (fun n => (dumpRow base data n).2) =
      data.take (count * lineWidth) := by
  induction count with
  | zero => rw [Nat.zero_mul, List.take_zero, List.range_zero, List.flatMap_nil]
  | succ count ih =>
    have hfront : data.take (count * lineWidth) =
        (data.take (count * lineWidth + lineWidth)).take (count * lineWidth) := by
      rw [List.take_take, Nat.min_eq_left (Nat.le_add_right _ _)]
    rw [List.range_succ, List.flatMap_append, ih, List.flatMap_singleton, hfront, dumpRow,
      List.take_append_drop, Nat.succ_mul]

theorem length_dumpRow (base : Int) (data : Bytes) (n : Nat) :
    (dumpRow base data n).2.length = min lineWidth (data.length - n * lineWidth) := by
  rw [dumpRow, List.length_drop, List.length_take]
  omega

theorem isDump_dumpRows (base : Int) (data : Bytes) : IsDump base data (dumpRows base data) := by
  have hwidth : lineWidth = 16 := rfl
  have hlength : (dumpRows base data).length = (data.length + lineWidth - 1) / lineWidth := by
    rw [dumpRows, List.length_map, List.length_range]
  rw [hwidth] at hlength
  have hrow (n : Nat) (row : Int × Bytes) (h : (dumpRows base data)[n]? = some row) :
      n < (dumpRows base data).length ∧ row = dumpRow base data n := by
    obtain ⟨hn, hrow⟩ := List.getElem?_eq_some_iff.mp h
    refine ⟨hn, ?_⟩
    rw [← hrow]
    simp [dumpRows]
  refine ⟨?_, fun n row h => ?_, fun n row h more => ?_, fun row hmem => ?_⟩
  · rw [dumpRows, List.flatMap_map, flatMap_dumpRow, List.take_of_length_le]
    rw [hwidth]
    omega
  · rw [(hrow n row h).2, dumpRow, hwidth]
    omega
  · rw [(hrow n row h).2, length_dumpRow, hwidth]
    omega
  · obtain ⟨n, h⟩ := List.mem_iff_getElem?.mp hmem
    obtain ⟨hn, hsame⟩ := hrow n row h
    rw [hsame, length_dumpRow, hwidth]
    omega

section
variable [Console]

theorem dumpLines_eq (base : Int) (bytes : Packed) :
    dumpLines base bytes =
      (dumpRows base bytes.toBytes).map fun row => dumpLine row.1 row.2 := by
  rw [dumpLines, dumpRows, List.map_map, Packed.length_toBytes]
  refine List.map_congr_left fun n _ => ?_
  dsimp only
  rw [Packed.toBytes_part]
  rfl

/-- Rows are read from what is seen of their lines. -/
theorem exists_lines (console : Console.IsDocumented) {rows : List (Int × Bytes)}
    (short : ∀ row ∈ rows, row.2.length ≤ lineWidth) :
    ∃ lines, List.Forall₂ (fun marked line => Console.plain? marked = some line)
        (rows.map fun row => dumpLine row.1 row.2) lines ∧
      List.Forall₂ (fun line row => readLine? line = some row) lines rows := by
  induction rows with
  | nil => exact ⟨[], .nil, .nil⟩
  | cons row rows ih =>
    obtain ⟨hrow, hrows⟩ := List.forall_mem_cons.mp short
    obtain ⟨line, hplain, hread⟩ := exists_plain?_dumpLine console row.1 hrow
    obtain ⟨lines, hplains, hreads⟩ := ih hrows
    exact ⟨line :: lines, .cons hplain hplains, .cons hread hreads⟩

/-- **The lines of a dump are seen, and have the bytes in rows of sixteen.** -/
theorem exists_plain?_dumpLines (console : Console.IsDocumented) (base : Int) (bytes : Packed) :
    ∃ lines rows, List.Forall₂ (fun marked line => Console.plain? marked = some line)
        (dumpLines base bytes) lines ∧
      List.Forall₂ (fun line row => readLine? line = some row) lines rows ∧
      IsDump base bytes.toBytes rows := by
  have hdump := isDump_dumpRows base bytes.toBytes
  obtain ⟨lines, hplain, hread⟩ := exists_lines console fun row hrow => (hdump.short row hrow).2
  rw [← dumpLines_eq] at hplain
  exact ⟨lines, _, hplain, hread, hdump⟩

end

end ObjectModule.CommandLine
