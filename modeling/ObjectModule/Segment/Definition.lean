import ObjectModule.Segment.Basic

/-! Where segments come from.

Most are defined by a record. Data may also name a segment that the module never
defines; an `injected` segment is then made for it, empty at first and with the
attributes of a relocatable 32-bit segment aligned at doublewords. -/
namespace ObjectModule.Segment

/-- The length of a big segment in a narrow definition. -/
def bigLength : Nat := 0x10000

/-- The length of a big segment in any other definition. -/
def bigLengthWide : Nat := 0x100000000

/-- The attributes of injected segments. -/
def injectedAttributes : Attributes := .ofInt 0xA9

/-- Reads the frame number and offset that only absolute segments have. -/
def readFrame (attributes : Attributes) : Reader (Option (Nat × Nat)) := do
  if attributes.isAbsolute then
    let number ← Reader.u16
    let offset ← Reader.u8
    return some (number, offset)
  else
    return none

/-- Reads a definition from the body of a record of the given type. An absolute
segment has its frame behind the attributes and is placed there at once. -/
def read (type : RecordType) : Reader Segment := do
  let attributes := Attributes.ofInt (← Reader.u8)
  let frame ← readFrame attributes
  let length ← Reader.sizedInt type.isWide
  let nameIndex ← Reader.index
  let classIndex ← Reader.index
  let overlayIndex ← Reader.index
  return {
    attributes, nameIndex, classIndex, overlayIndex
    length :=
      if attributes.isBig then
        length.withValue (if type = .segdef then bigLength else bigLengthWide)
      else length
    recordType := type
    frameNumber := (frame.map Prod.fst).getD 0
    frameOffset := (frame.map Prod.snd).getD 0
    address := frame.map fun (number, offset) => (number : Int) + offset }

/-- What an injected segment is for. -/
inductive Purpose where
  | text
  | data
  | other
deriving DecidableEq, Repr

/-- A segment injected under a number. -/
def injected (number : Int) (purpose : Purpose) : Segment where
  attributes := injectedAttributes
  length := ⟨2, 0⟩
  nameIndex := ⟨1, 0⟩
  classIndex := ⟨1, 0⟩
  overlayIndex := ⟨1, 0⟩
  name := some <| match purpose with
    | .text => s!"EXTRATEXT_{number}"
    | .data => s!"EXTRADATA_{number}"
    | .other => s!"EXTRA_{number}"
  className := some <| match purpose with
    | .text => "TEXT"
    | .data | .other => "DATA"
  overlayName := some ""
  permissions := match purpose with
    | .text => .code
    | .data | .other => .data
  isInjected := true

end ObjectModule.Segment
