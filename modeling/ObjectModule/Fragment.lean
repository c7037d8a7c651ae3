import ObjectModule.Block
import ObjectModule.Record

/-! Data fragments: what a data record contributes to a segment.

A fragment has an offset within its segment and a payload, either the bytes
themselves or blocks that expand to them. Expansion has a limit; a payload beyond
it has a length but no contents. -/
namespace ObjectModule

/-- The data of a fragment. -/
inductive Payload where
  | enumerated (data : Packed)
  | iterated (blocks : List Block)
deriving Repr

namespace Payload

/-- The bytes themselves, which for blocks is what these expand to. -/
def expand : Payload → Packed
  | enumerated data => data
  | iterated blocks => Block.expandAll blocks

/-- Whether all bytes are zero, without expanding them. -/
def isAllZero : Payload → Bool
  | enumerated data => data.allZero
  | iterated blocks => Block.allWriteZeros blocks

theorem isAllZero_eq (p : Payload) : p.isAllZero = Bytes.allZero p.expand.toBytes := by
  cases p with
  | enumerated data => exact data.allZero_eq
  | iterated blocks => rw [isAllZero, expand, Block.allWriteZeros_eq, Block.toBytes_expandAll]

end Payload

/-- Data placed at an offset within a segment. -/
structure Fragment where
  /-- The segment it belongs to, counted from one. What is read is not below zero. -/
  segment : Int
  offset : Int
  payload : Payload
deriving Repr

namespace Fragment

/-- How many bytes the fragment holds, without expanding it. -/
def length (f : Fragment) : Int :=
  match f.payload with
  | .enumerated data => data.size
  | .iterated blocks => Block.totalLength blocks

/-- The offset behind the fragment's last byte. -/
def endOffset (f : Fragment) : Int := f.offset + f.length

/-- The fragment itself, unless it is iterated and expands beyond the limit. -/
def sized (f : Fragment) : Except FormatError Fragment :=
  match f.payload with
  | .enumerated _ => .ok f
  | .iterated blocks =>
    if (expansionLimit : Int) < Block.totalLength blocks then
      .error (.oversizeExpansion f.offset (Block.totalLength blocks))
    else .ok f

/-- Passes fragments whose bytes can be had: the blocks of iterated data must be followed
to the innermost, the data must stay within the limit, and there must be room for all
that its expansion takes. -/
def check [Machine] (f : Fragment) : Except Error Unit :=
  match f.payload with
  | .enumerated _ => return
  | .iterated blocks => do
    (Capacity.depth (Block.depthOfAll blocks)).mapError .capacity
    discard <| f.sized.mapError .format
    discard <| (Block.writtenTogether blocks).mapError .capacity

/-- The bytes of the fragment. -/
def contents [Machine] (f : Fragment) : Except Error Packed := do
  f.check
  return f.payload.expand

/-- Whether all bytes of the fragment are zero. -/
def isAllZero [Machine] (f : Fragment) : Except Error Bool := do
  f.check
  return f.payload.isAllZero

/-- Whether a fragment is all zeros is told by its bytes, if they can be had. -/
theorem isAllZero_eq [Machine] (f : Fragment) :
    f.isAllZero = (fun bytes => Bytes.allZero bytes.toBytes) <$> f.contents := by
  unfold isAllZero contents
  cases f.check with
  | error e => rfl
  | ok _ => exact congrArg Except.ok f.payload.isAllZero_eq

/-! ### From records -/

/-- The segment index and offset that every data record starts with. -/
def readHead (wide : Bool) : Reader (Int × Int) := do
  let segment ← Reader.index
  let offset ← Reader.sizedInt wide
  return (segment.value, offset.value)

/-- The fragment of an enumerated data record: all that follows the head. -/
def ofEnumerated (r : Record) : Except FormatError Fragment := do
  if r.type.kind ≠ .enumerated then throw (.wrongRecord .ledata r.type)
  let read : Reader Fragment := do
    let (segment, offset) ← readHead r.type.isWide
    return ⟨segment, offset, .enumerated (.ofBytes (← Reader.remainder))⟩
  read.parse r.body

/-- The fragment of an iterated data record: blocks up to its end, which together
stay within the limit. -/
def ofIterated (r : Record) : Except FormatError Fragment := do
  if r.type.kind ≠ .iterated then throw (.wrongRecord .lidata r.type)
  let read : Reader Fragment := do
    let (segment, offset) ← readHead r.type.isWide
    let blocks ← Reader.untilEnd (Block.readOutermost r.type.isWide)
    return ⟨segment, offset, .iterated blocks⟩
  (← read.parse r.body).sized

end Fragment
end ObjectModule
