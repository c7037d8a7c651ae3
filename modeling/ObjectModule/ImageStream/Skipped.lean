import ObjectModule.Text.Hex

/-! A fragment that an image leaves out because it starts behind data already
produced. -/
namespace ObjectModule

/-- Which fragment of which segment was left out. -/
structure SkippedFragment where
  segment : String
  className : String
  index : Nat
  offset : Int
deriving DecidableEq, Repr

/-- The warning about a fragment left out. -/
def SkippedFragment.message (s : SkippedFragment) : String :=
  s!"Segment {s.segment}:{s.className} has bad data offset " ++
    s!"({Text.hex s.offset}) in data block {s.index}...skipping."

end ObjectModule
