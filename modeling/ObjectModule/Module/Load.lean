import ObjectModule.Module.Contents

/-! Loading a module: its records are taken up, then its segments are placed, the
defined ones first. -/
namespace ObjectModule.Module

/-- Places the segments of a module from the base address on. -/
def place (c : Contents) (path : String) (options : Options) : Logged Error Module := do
  let (defined, address) ←
    Segment.placeAll options.alignOverride c.defined.toList options.baseAddress
  let (injected, nextAddress) ←
    Segment.placeAll options.alignOverride (c.injected.map Prod.snd) address
  return {
    c with
    defined := defined.toArray
    injected := (c.injected.map Prod.fst).zip injected
    path, options, nextAddress }

/-- The module of given contents, with its segments placed. -/
def ofContents (c : Contents) (path : String) (options : Options) : Logged Error Module := do
  let m ← place c path options
  Logged.note (.loaded m.name m.segments.length m.names.size)
  return m

/-- Loads a module from its bytes. -/
def load (input : Bytes) (path : String) (options : Options) : Logged Error Module := do
  ofContents (← Contents.ofBytes input) path options

end ObjectModule.Module
