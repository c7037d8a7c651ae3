import ObjectModule.CommandLine.Run

/-! What a run shows on a terminal. -/
namespace ObjectModule.CommandLine

/-! ### Tables -/

/-- A cell with blanks behind it up to the width of its column. -/
def paddedCell (width : Nat) (cell : String) : String :=
  cell ++ String.ofList (List.replicate (width - cell.length) ' ')

/-- The width each column needs. -/
def columnWidths (rows : List (List String)) : List Nat :=
  rows.foldl (fun widths row =>
    let sizes := row.map String.length
    (widths.zipWith max sizes) ++ sizes.drop widths.length ++ widths.drop sizes.length) []

/-- A row with its cells in columns. -/
def rowLine (widths : List Nat) (row : List String) : String :=
  "  ".intercalate (List.zipWith paddedCell widths row)

/-- Something printed, line by line. -/
def Printed.lines : Printed → List String
  | text content => [content]
  | panel title content => [s!"{title}: {content}"]
  | table title columns rows =>
    let widths := columnWidths (columns :: rows)
    title.toList ++ (columns :: rows).map (rowLine widths)

/-! ### Endings -/

/-- What goes to the two outputs, line by line, and the exit status. -/
structure Shown where
  out : List String
  err : List String
  status : UInt32

/-- The wording of a failure that no command provides for. -/
def Fault.message : Fault → String
  | settings error => s!"the config file: {error.message}"
  | notText => "the config file is not UTF-8 text"
  | directory => "a directory stands in place of a file"
  | unreachable => "the path of the config file is too long"
  | impossiblePath => "embedded null byte"
  | mistypedSetting => "a setting is not of the kind its use requires"
  | unwritableBase kind => s!"Unknown format code 'x' for object of type '{kind}'"
  | strayTag => "a tag closes a style that is not open"
  | failed error => error.message

/-- A run as a terminal shows it: events first, on the error output. -/
def Run.shown (r : Run) : Shown :=
  let log := r.shownLog.map Event.message
  match r.outcome.result with
  | .ok output => ⟨output.printed.flatMap Printed.lines, log, output.status.toUInt32⟩
  | .error (.shown text) => ⟨[text.trimAsciiEnd.copy], log, 0⟩
  | .error (.refused message) => ⟨[message], log, 1⟩
  | .error (.misuse complaint) => ⟨[], log ++ [s!"Error: {complaint.getD usage}"], 2⟩
  | .error (.fault fault) => ⟨[], log ++ [s!"Error: {fault.message}"], 1⟩
where
  usage := "expected info, segments, layout or dump with a module file"

end ObjectModule.CommandLine
