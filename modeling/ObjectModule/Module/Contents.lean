import ObjectModule.Module.Basic
import ObjectModule.Segment.Placement

/-! What the records of a module add up to.

Records are taken up one by one, so that the first fault in the input is the one
reported, whether it lies in the framing of a record or in its body. Then the names
of the defined segments are looked up in the whole name table, and the data of
every segment is put in order and closed. -/
namespace ObjectModule.Contents

/-! ### Taking up records -/

/-- A new segment for data that names a segment never defined, with its first fragment. -/
def injectFor (index : Nat) (f : Fragment) : Except Error Segment :=
  (Segment.extend f).applied (.injected index .data)

/-- Hands a fragment to the injected segment of an index, which is made if it is not there
yet. They grow with their fragments. -/
def extendInjected (index : Nat) (f : Fragment) :
    List (Nat × Segment) → Except Error (List (Nat × Segment))
  | [] => do return [(index, ← injectFor index f)]
  | (i, s) :: rest =>
    if i < index then do return (i, s) :: (← extendInjected index f rest)
    else if i = index then do return (i, ← (Segment.extend f).applied s) :: rest
    else do return (index, ← injectFor index f) :: (i, s) :: rest

/-- Hands a fragment to its segment, which must have a number above zero and still be
open. Only an injected segment grows with it. -/
def attach (c : Contents) (f : Fragment) : Logged Error Contents :=
  let number := f.segment.toNat
  if zero : number = 0 then throw (.format (.noSegment f.offset))
  else if defined : number ≤ c.defined.size then do
    have : number - 1 < c.defined.size := by omega
    let s ← ofExcept ((Segment.attach f).applied c.defined[number - 1])
    return { c with defined := c.defined.set (number - 1) s }
  else do
    if (c.injected.lookup number).isNone then
      Logged.note (.injected (Segment.injected number .data).displayName)
    return { c with injected := ← ofExcept (extendInjected number f c.injected) }

/-- Takes up what a record contributes. -/
def process (c : Contents) (r : Record) : Logged Error Contents :=
  match r.type.kind with
  | .header => do return { c with name := ← Logged.ofFormat r.moduleName }
  | .names => do return { c with names := c.names ++ (← Logged.ofFormat r.names) }
  | .definition => do
    let s ← Logged.ofFormat ((Segment.read r.type).parse r.body)
    return { c with defined := c.defined.push s }
  | .enumerated => do c.attach (← Logged.ofFormat (Fragment.ofEnumerated r))
  | .iterated => do c.attach (← Logged.ofFormat (Fragment.ofIterated r))
  | .other => do
    Logged.note (.passedOver r.type r.offset)
    return c

/-- Counts a record and takes it up. -/
def takeUp (c : Contents) (r : Record) : Logged Error Contents := do
  Logged.note (.record r.type r.offset r.body.length)
  process { c with recordCount := c.recordCount + 1 } r

/-- Takes up records in order. -/
def takeUpAll (c : Contents) (records : List Record) : Logged Error Contents :=
  Logged.fold takeUp c records

/-! ### Names and order -/

/-- Puts the data of a segment in order and closes it. -/
def settle : Segment.Action Unit := do
  Segment.sortFragments
  Segment.freeze

/-- Looks up the names of the defined segments, then settles all. -/
def resolve (c : Contents) : Except Error Contents := do
  let defined ← c.defined.mapM (Segment.resolveNames c.names).applied
  let defined ← defined.mapM settle.applied
  let injected ← c.injected.mapM fun (i, s) => return (i, ← settle.applied s)
  return { c with defined, injected }

/-- What the records of an input add up to, before anything is placed. -/
def ofBytes (input : Bytes) : Logged Error Contents := do
  let cut := Record.split input
  let c ← takeUpAll {} cut.records
  if let some fault := cut.fault then throw (.format fault)
  ofExcept c.resolve

end ObjectModule.Contents
