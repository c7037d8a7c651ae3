import ObjectModule.CommandLine.Console
import ObjectModule.Module.Query

/-! What the commands print about a module. Everything printed is marked up at first;
`Output.plain?` leaves what there is to see. -/
namespace ObjectModule.CommandLine
variable [Console]

/-- Something printed: plain text, a table, or a text in a frame. -/
inductive Printed where
  | text (content : String)
  | table (title : Option String) (columns : List String) (rows : List (List String))
  | panel (title content : String)
deriving DecidableEq, Repr

/-- What a command prints and the status it ends with. -/
structure Output where
  printed : List Printed
  status : Nat := 0
deriving DecidableEq, Repr

/-- What there is to see of something printed. Titles of frames and of columns are
plain from the start. -/
def Printed.plain? : Printed → Option Printed
  | text content => text <$> Console.plain? content
  | table title columns rows => do
    let title ← title.mapM Console.plain?
    return table title columns (← rows.mapM (·.mapM Console.plain?))
  | panel title content => panel title <$> Console.plain? content

/-- What there is to see of an output; nothing if its markup closes a style that is not
open. -/
def Output.plain? (o : Output) : Option Output := do
  return { o with printed := ← o.printed.mapM Printed.plain? }

/-! ### Module and segments -/

/-- The facts about a module, under the name of its file. -/
def moduleInfo (m : Module) (fileName : String) : Output where
  printed := [
    .panel "Module Info" (styled "bold" fileName),
    .table none ["Property", "Value"] [
      ["Path", m.path],
      ["Module Name", if m.name = "" then "N/A" else m.name],
      ["Records", toString m.recordCount],
      ["Names", toString m.names.size],
      ["Segments", toString m.defined.size],
      ["Injected Segments", toString m.injected.length],
      ["Image End", Text.hex m.nextAddress]]]

/-- One line about a segment. -/
def segmentRow (s : Segment) (number : Nat) : List String :=
  [toString number,
   Console.escaped s.displayName ++
     (if s.isInjected then " " ++ styled "dim" "(injected)" else ""),
   s.className.getD "",
   toString s.attributes.alignment,
   toString s.attributes.combine,
   if s.attributes.uses32Bit then "32" else "16",
   (s.address.map Text.hex).getD "-",
   Text.hex s.length.value,
   s.permissions.letters,
   toString s.fragments.size]

/-- A line about every segment. -/
def segmentTable (m : Module) : Output where
  printed := [.table (some "Segments")
    ["#", "Name", "Class", "Align", "Combine", "Bits", "Address", "Length", "Perm", "Blocks"]
    (m.segments.zipIdx.map fun (s, number) => segmentRow s number)]

/-- The fields of a record, each with the offset it starts at. -/
def layoutRows : Int → List LayoutField → List (List String)
  | _, [] => []
  | offset, f :: rest =>
    [f.name, toString offset, toString f.size] :: layoutRows (offset + f.size) rest

/-- The layout of every definition. -/
def layoutTables (m : Module) : Output where
  printed := m.defined.toList.map fun s =>
    .table (some s.displayName) ["Field", "Offset", "Size"] (layoutRows 0 s.layout)

/-! ### Contents -/

/-- How many bytes a line of a dump shows. -/
def lineWidth : Nat := 16

/-- A byte in two hexadecimal digits. -/
def byteText (b : UInt8) : String := Text.paddedHex 2 b.toNat

/-- A byte as the ASCII character it stands for, or as a point. -/
def byteChar (b : UInt8) : Char :=
  if 0x20 ≤ b.toNat ∧ b.toNat < 0x7F then Char.ofNat b.toNat else '.'

/-- A line of a dump: the address, the bytes, and the characters they stand for. -/
def dumpLine (address : Int) (bytes : Bytes) : String :=
  let shown := " ".intercalate (bytes.map byteText)
  let blank := String.ofList (List.replicate (3 * lineWidth - 1 - shown.length) ' ')
  let place := styled "green" (Text.paddedHex 8 address)
  let characters := styled "dim" (Console.escaped (String.ofList (bytes.map byteChar)))
  s!"{place}  {shown}{blank}  {characters}"

/-- The lines of a dump. -/
def dumpLines (address : Int) (bytes : Packed) : List String :=
  (List.range ((bytes.size + lineWidth - 1) / lineWidth)).map fun n =>
    let first := n * lineWidth
    dumpLine (address + first) (bytes.part first (first + lineWidth)).toBytes

/-- What a dump shows of a segment: the bytes produced, then what was skipped and
what went wrong while they were read. -/
def dumpOutput (s : Segment) (bytes : Packed) (st : ImageStream) : Output where
  printed :=
    let base := s.address.getD 0
    .text (styled "bold" (Console.escaped s.displayName) ++ s!" @ {Text.hex base}\n") ::
      ((dumpLines base bytes).map .text ++
        st.skipped.map (fun f => .text (styled "yellow" f.message)) ++
        st.error.toList.map fun e => .text (styled "red" e.message))
  status := if st.error.isSome then 1 else 0

end ObjectModule.CommandLine
