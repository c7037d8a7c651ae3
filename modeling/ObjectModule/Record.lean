import ObjectModule.Field

/-! Records: the framing of a module.

A record is a type byte, a two-byte length, a body and a checksum byte; the length
counts body and checksum. Checksums are kept but not judged. `split` cuts an input
into records up to the one that ends the module, or up to the first place where no
record can be read, and says which fault stopped it there. -/
namespace ObjectModule

/-- One record. -/
structure Record where
  type : RecordType
  /-- Where its type byte stands in the input. -/
  offset : Nat
  body : Bytes
  checksum : UInt8
deriving DecidableEq, Repr

/-- The records of an input, and the fault that ended them early if one did. -/
structure Records where
  records : List Record
  fault : Option FormatError
deriving DecidableEq, Repr

namespace Record

/-- Reads one record. -/
def read : Reader Record := do
  let start := (← get).offset
  let type : RecordType := ⟨← Reader.u8⟩
  let length ← Reader.u16
  if length = 0 then throw (.zeroLength type start)
  let body ← Reader.bytes (length - 1)
  let checksum ← Reader.u8
  return ⟨type, start, body, UInt8.ofNat checksum⟩

/-- Cuts at most `limit` records, after those already cut (latest first). -/
def splitAfter : Nat → List Record → Cursor → Records
  | 0, done, _ => ⟨done.reverse, none⟩
  | limit + 1, done, c =>
    if c.atEnd then ⟨done.reverse, none⟩ else
    match read c with
    | .error e _ => ⟨done.reverse, some e⟩
    | .ok r c' =>
      if r.type.endsModule then ⟨(r :: done).reverse, none⟩ else splitAfter limit (r :: done) c'

/-- Cuts an input into records. There can be no more of them than bytes. -/
def split (input : Bytes) : Records := splitAfter input.length [] (.start input 0)

/-- The names a record lists, each a counted string. -/
def names (r : Record) : Except FormatError (List String) :=
  (Reader.untilEnd Reader.countedString).parse r.body

/-- The module name a header record gives. What follows the name is not read. -/
def moduleName (r : Record) : Except FormatError String := Reader.countedString.parse r.body

end Record
end ObjectModule
