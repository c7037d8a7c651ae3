import ObjectModule.Text.Hex

/-! Record types.

A record is announced by a type code. Thirteen codes have names; the rest are
carried along under a name made from the code. An odd code marks the variant with
four-byte offset and length fields. `kind` groups the codes by what a loader does
with the record. -/
namespace ObjectModule

/-- The code that announces a record. -/
structure RecordType where
  code : Int
deriving DecidableEq, Repr

namespace RecordType

/-- Header of a module. -/
def theadr : RecordType := ⟨0x80⟩
/-- Header of a module in a library. -/
def lheadr : RecordType := ⟨0x82⟩
/-- Comment. -/
def coment : RecordType := ⟨0x88⟩
/-- End of the module. -/
def modend : RecordType := ⟨0x8A⟩
/-- End of the module, with wide fields. -/
def modend32 : RecordType := ⟨0x8B⟩
/-- Names. -/
def lnames : RecordType := ⟨0x96⟩
/-- Segment definition. -/
def segdef : RecordType := ⟨0x98⟩
/-- Segment definition with wide fields. -/
def segdef32 : RecordType := ⟨0x99⟩
/-- Enumerated data. -/
def ledata : RecordType := ⟨0xA0⟩
/-- Enumerated data with wide fields. -/
def ledata32 : RecordType := ⟨0xA1⟩
/-- Iterated data. -/
def lidata : RecordType := ⟨0xA2⟩
/-- Iterated data with wide fields. -/
def lidata32 : RecordType := ⟨0xA3⟩
/-- Names local to the module. -/
def llnames : RecordType := ⟨0xCA⟩

/-- The named types, each with its name. -/
def named : List (RecordType × String) :=
  [(theadr, "THEADR"), (lheadr, "LHEADR"), (coment, "COMENT"), (modend, "MODEND"),
   (modend32, "MODEND32"), (lnames, "LNAMES"), (segdef, "SEGDEF"), (segdef32, "SEGDEF32"),
   (ledata, "LEDATA"), (ledata32, "LEDATA32"), (lidata, "LIDATA"), (lidata32, "LIDATA32"),
   (llnames, "LLNAMES")]

/-- The name of a type, made from at least two upper-case digits when it has none
of its own. -/
def name (type : RecordType) : String :=
  (named.lookup type).getD s!"RECORD_{(Text.paddedHex 2 type.code).toUpper}"

/-- Whether offset and length fields take four bytes. -/
def isWide (type : RecordType) : Bool := type.code % 2 == 1

/-- What a record of a type contributes to the module. -/
inductive Kind where
  | header
  | names
  | definition
  | enumerated
  | iterated
  /-- Nothing: the record is passed over. -/
  | other
deriving DecidableEq, Repr

/-- What a record of this type contributes. -/
def kind (type : RecordType) : Kind :=
  if type = theadr ∨ type = lheadr then .header
  else if type = lnames ∨ type = llnames then .names
  else if type = segdef ∨ type = segdef32 then .definition
  else if type = ledata ∨ type = ledata32 then .enumerated
  else if type = lidata ∨ type = lidata32 then .iterated
  else .other

/-- Whether a record of this type is the last of its module. -/
def endsModule (type : RecordType) : Bool := type = modend ∨ type = modend32

end RecordType
end ObjectModule
