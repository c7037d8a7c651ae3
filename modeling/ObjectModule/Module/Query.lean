import ObjectModule.ImageStream.Basic
import ObjectModule.Module.Load

/-! Questions to a loaded module. -/
namespace ObjectModule.Module

/-- The first segment of a name, with its number. -/
def segmentNamed? (m : Module) (name : String) : Option (Nat × Segment) :=
  (m.segments.zipIdx.find? fun (s, _) => s.name == some name).map fun (s, i) => (i, s)

/-- The first segment that covers an address. -/
def segmentAt? (m : Module) (address : Int) : Option Segment :=
  m.segments.find? (·.covers address)

/-- The numbers of the segments that hold code. -/
def codePositions (m : Module) : List Nat :=
  (m.segments.zipIdx.filter fun (s, _) => s.permissions.isCode).map Prod.snd

/-- The image of one of the module's segments. -/
def image [Machine] (m : Module) (s : Segment) : Logged Error Packed := s.image m.options.maxFill

/-- Reads `size` bytes from an address on, out of the one segment found there. The
whole image of the segment is needed for it. -/
def read [Machine] (m : Module) (address size : Int) : Logged Error Packed :=
  match m.segmentAt? address with
  | none => throw (.access (.unmapped address))
  | some s =>
    match s.address with
    | none => throw (.access (.unmapped address))
    | some start => do
      let offset := address - start
      if s.length.value < offset + size then throw (.access .beyondSegment)
      return (← m.image s).slice offset (offset + size)

end ObjectModule.Module
