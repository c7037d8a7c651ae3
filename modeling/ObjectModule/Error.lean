import ObjectModule.Capacity
import ObjectModule.Packed
import ObjectModule.Record.Type

/-! What can go wrong, by cause.

A `FormatError` is a fault in the records or the data they declare, a
`RelocationError` a segment that cannot be given an address, a
`ReconstructionError` a segment image with a hole too large to fill, an
`AccessError` a request the caller should not have made, and a `CapacityError` an
amount of bytes that cannot be had. Each cause carries what its message needs, and
the wording is in one function a type. -/
namespace ObjectModule

/-- The three names a segment definition refers to. -/
inductive NameRole where
  | segment
  | className
  | overlay
deriving DecidableEq, Repr

/-- The role as messages write it. -/
def NameRole.title : NameRole → String
  | .segment => "Segment"
  | .className => "Class"
  | .overlay => "Overlay"

/-- The most bytes one record of iterated data may expand to. -/
def expansionLimit : Nat := 0x1000000

/-- A fault in the records of a module. -/
inductive FormatError where
  /-- A read of `size` bytes with only `remaining` left; behind the end, less than
  none are left. -/
  | unexpectedEnd (size offset remaining : Int)
  /-- A number before the start of an input that not all bytes of are found. -/
  | incompleteNumber
  /-- A record whose length leaves no room for its checksum. -/
  | zeroLength (type : RecordType) (offset : Nat)
  /-- Data read from a record that holds none of the expected kind. -/
  | wrongRecord (expected found : RecordType)
  | nestedTooDeeply
  /-- Iterated data that would expand beyond `expansionLimit`. -/
  | oversizeExpansion (offset length : Int)
  /-- Data that belongs to segment zero, which no definition can have. -/
  | noSegment (offset : Int)
  | nameOutOfBounds (role : NameRole) (index : Int) (count : Nat)
  /-- An alignment code, as it is written, that names no boundary. -/
  | unsupportedAlignment (code segment : String)
deriving DecidableEq, Repr

/-- The wording of a format error. -/
def FormatError.message : FormatError → String
  | unexpectedEnd size offset remaining =>
    s!"Unexpected end of data: need {size} bytes at offset {Text.hex offset}, {remaining} available"
  | incompleteNumber => "A number that starts before the data is not all there"
  | zeroLength type offset => s!"Record {type.name} at {Text.hex offset} has zero length"
  | wrongRecord expected found => s!"Expected {expected.name} record, got {found.name}"
  | nestedTooDeeply => "Iterated data blocks nested too deeply"
  | oversizeExpansion offset length =>
    s!"Iterated data at offset {Text.hex offset} expands to {Text.hex length} bytes " ++
      s!"(limit {Text.hex expansionLimit})"
  | noSegment offset => s!"Data record at offset {Text.hex offset} has no segment"
  | nameOutOfBounds role index count =>
    s!"{role.title} name index {index} out of bounds ({count} names)"
  | unsupportedAlignment code segment =>
    s!"Unsupported alignment type {code} in segment {segment}"

/-- A segment that cannot be given an address. -/
inductive RelocationError where
  | absolute (segment : String)
  | alreadyPlaced (segment : String) (address : Int)
deriving DecidableEq, Repr

/-- The wording of a relocation error. -/
def RelocationError.message : RelocationError → String
  | absolute segment => s!"Trying to relocate absolute segment {segment}"
  | alreadyPlaced segment address =>
    s!"Segment {segment} is already placed at {Text.hex address}"

/-- Where the image of a segment has a hole that may not be filled. -/
inductive Hole where
  /-- Before a fragment. -/
  | between
  /-- After the last fragment. -/
  | atEnd
deriving DecidableEq, Repr

/-- An image that could not be completed, with the bytes produced before the
hole. -/
structure ReconstructionError where
  hole : Hole
  segment : String
  data : Packed := .empty
deriving DecidableEq, Repr

/-- The wording of a reconstruction error. -/
def ReconstructionError.message (e : ReconstructionError) : String :=
  match e.hole with
  | .between => s!"Unfilled hole in OMF data blocks for segment: {e.segment}"
  | .atEnd => s!"Large hole at the end of OMF segment: {e.segment}"

/-- A request that the state of a segment or module does not allow. -/
inductive AccessError where
  /-- Data for a segment that is frozen. -/
  | frozen (segment : String)
  | unmapped (address : Int)
  | beyondSegment
  /-- A reference that counts back beyond the first name. -/
  | beforeFirstName (role : NameRole) (index : Int) (count : Nat)
deriving DecidableEq, Repr

/-- The wording of an access error. -/
def AccessError.message : AccessError → String
  | frozen segment => s!"Segment {segment} no longer accepts data"
  | unmapped address => s!"No segment at address {Text.hex address}"
  | beyondSegment => "Read beyond segment bounds"
  | beforeFirstName role index count =>
    s!"{role.title} name index {index} counts back beyond the first of {count} names"

/-- Any of the five. -/
inductive Error where
  | format (cause : FormatError)
  | relocation (cause : RelocationError)
  | reconstruction (cause : ReconstructionError)
  | access (cause : AccessError)
  | capacity (cause : CapacityError)
deriving DecidableEq, Repr

/-- The wording of an error. -/
def Error.message : Error → String
  | format e => e.message
  | relocation e => e.message
  | reconstruction e => e.message
  | access e => e.message
  | capacity e => e.message

/-- Whether the error is about the module itself and not about how it was used. -/
def Error.isModuleFault : Error → Bool
  | access _ | capacity _ => false
  | _ => true

end ObjectModule
