/-! File names, as far as the command line has to understand them. -/
namespace ObjectModule.CommandLine.Path

/-- The parts of a path that say something: neither empty nor a single dot. -/
def parts (path : String) : List String :=
  (path.splitOn "/").filter fun part => part ≠ "" && part ≠ "."

/-- The slashes that mark a path as absolute: none or one, but two if the path starts
with exactly two. -/
def root (path : String) : String :=
  match path.toList with
  | '/' :: '/' :: '/' :: _ => "/"
  | '/' :: '/' :: _ => "//"
  | '/' :: _ => "/"
  | _ => ""

/-- The path without parts that say nothing; a single dot if nothing is left. -/
def normal (path : String) : String :=
  let kept := root path ++ "/".intercalate (parts path)
  if kept = "" then "." else kept

/-- The last part of a path. -/
def name (path : String) : String := (parts path).getLastD ""

/-- Whether a path can be that of a file at all. -/
def isPossible (path : String) : Bool := !path.contains (Char.ofNat 0)

end ObjectModule.CommandLine.Path
