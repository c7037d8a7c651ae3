import ObjectModule.CommandLine.Terminal
import ObjectModule.CommonMachine
import ObjectModule.PlainConsole

/-! The program: the command line with the disk and the terminal around it. -/
namespace ObjectModule.CommandLine

/-- What the disk holds at a path. -/
def look (path : String) : IO (Option Entry) := do
  try
    let content ← IO.FS.readBinFile path
    return some (.file content.toList)
  catch
    | .inappropriateType .. => return some .directory
    | .invalidArgument .. => return some .unreachable
    | _ => return none

/-- The paths a command line may name: its arguments, and what stands behind an
equals sign in them. -/
def mentioned (arguments : List String) : List String :=
  let values := arguments.filterMap fun a => (PlainConsole.splitValue a.toList).2.map String.ofList
  let paths := arguments ++ values
  paths ++ paths.map Path.normal

end ObjectModule.CommandLine

open ObjectModule.CommandLine
open scoped ObjectModule.CommonMachine ObjectModule.PlainConsole

/-- Runs the command line of the process. -/
def main (arguments : List String) : IO UInt32 := do
  let found ← (mentioned arguments).mapM fun path => return (path, ← look path)
  let shown := (run (fun path => (found.lookup path).join) arguments).shown
  for line in shown.err do IO.eprintln line
  for line in shown.out do IO.println line
  return shown.status
