/-! Access rights of a segment, guessed from the class it belongs to. -/
namespace ObjectModule

/-- What may be done with the contents of a segment. -/
structure Permissions where
  readable : Bool
  writable : Bool
  executable : Bool
  isCode : Bool
deriving DecidableEq, Repr

namespace Permissions

/-- Code may be read and run. -/
def code : Permissions := ⟨true, false, true, true⟩

/-- Data may be read and written. -/
def data : Permissions := ⟨true, true, false, false⟩

/-- A class holds code if it is called so, in capitals or in small letters
throughout; any other class holds data. -/
def ofClass (className : String) : Permissions :=
  if className = "CODE" ∨ className = "code" then code else data

/-- Three letters, each replaced by a dash where the right is missing. -/
def letters (p : Permissions) : String :=
  String.ofList
    [if p.readable then 'r' else '-', if p.writable then 'w' else '-',
     if p.executable then 'x' else '-']

end Permissions
end ObjectModule
