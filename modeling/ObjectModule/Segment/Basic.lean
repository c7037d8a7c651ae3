import ObjectModule.Fragment
import ObjectModule.Segment.Attributes
import ObjectModule.Segment.Permissions

/-! Segments: a definition, what became of it, and the data attached to it.

The fields down to `frameOffset` are what the definition record says. The others
come later: names when the module's name table is known, an address when the
segment is placed, fragments as data records are met. Once frozen a segment takes
no more data. -/
namespace ObjectModule

/-- A segment. -/
structure Segment where
  attributes : Attributes
  /-- How many bytes the segment declares. -/
  length : SizedInt
  nameIndex : Index
  classIndex : Index
  overlayIndex : Index
  recordType : RecordType := .segdef
  frameNumber : Nat := 0
  frameOffset : Nat := 0
  /-- Where the segment is placed, once it is. -/
  address : Option Int := none
  name : Option String := none
  className : Option String := none
  overlayName : Option String := none
  permissions : Permissions := .data
  fragments : Array Fragment := #[]
  /-- Whether the segment was made for data that no definition claims. -/
  isInjected : Bool := false
  /-- Whether the segment takes no more data. -/
  isFrozen : Bool := false
deriving Repr

/-- A field of a definition record and its size in bytes. -/
structure LayoutField where
  name : String
  size : Int
deriving DecidableEq, Repr

namespace Segment

/-- The segment's name, or its index for as long as the name is not known. -/
def displayName (s : Segment) : String :=
  s.name.getD s!"<segment {s.nameIndex.value}>"

/-- The first address behind the segment, once it is placed. -/
def endAddress? (s : Segment) : Option Int := s.address.map (· + s.length.value)

/-- Whether an address lies in the segment. -/
def covers (s : Segment) (address : Int) : Bool :=
  match s.address with
  | none => false
  | some start => start ≤ address && address < start + s.length.value

/-- The alignment code that counts for placing the segment: a code forced on it,
unless that is negative, or else its own. -/
def effectiveAlignment (s : Segment) : Option Int → Int
  | some code => if 0 ≤ code then code else s.attributes.alignment
  | none => s.attributes.alignment

/-- The fields of the record the segment was defined by, in order. -/
def layout (s : Segment) : List LayoutField :=
  [⟨"type", 1⟩, ⟨"length", 2⟩, ⟨"segment_attr", 1⟩] ++
  (if s.attributes.isAbsolute then [⟨"frame_number", 2⟩, ⟨"offset", 1⟩] else []) ++
  [⟨"segment_length", s.length.width⟩, ⟨"segment_name_index", s.nameIndex.width⟩,
   ⟨"class_name_index", s.classIndex.width⟩, ⟨"overlay_name_index", s.overlayIndex.width⟩,
   ⟨"checksum", 1⟩]

/-- Whether some fragment holds a byte other than zero. Fragments are looked at in
order until one does. -/
def hasNonzeroData [Machine] (s : Segment) : Except Error Bool := search s.fragments.toList
where
  search : List Fragment → Except Error Bool
    | [] => .ok false
    | f :: rest => do
      if ← f.isAllZero then search rest else return true

end Segment
end ObjectModule
