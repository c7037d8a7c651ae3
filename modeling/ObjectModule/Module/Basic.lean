import ObjectModule.Options
import ObjectModule.Segment.Definition

/-! Modules.

A module is a name table and two kinds of segments: those its records define, in
the order of definition, and those injected for data that names a segment never
defined, by ascending index. Injected segments count behind the defined ones. -/
namespace ObjectModule

/-- What the records of a module add up to. -/
structure Contents where
  name : String := ""
  names : Array String := #[]
  defined : Array Segment := #[]
  /-- Injected segments with the indices they stand for, ascending. -/
  injected : List (Nat × Segment) := []
  recordCount : Nat := 0
deriving Repr

/-- All segments, in the order they are placed and numbered. -/
def Contents.segments (c : Contents) : List Segment :=
  c.defined.toList ++ c.injected.map Prod.snd

/-- A loaded module. -/
structure Module extends Contents where
  path : String
  options : Options
  /-- The first address behind the segments placed. -/
  nextAddress : Int
deriving Repr

end ObjectModule
