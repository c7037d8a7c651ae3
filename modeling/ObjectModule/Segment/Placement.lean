import ObjectModule.Log
import ObjectModule.Segment.Lifecycle

/-! Placing segments one behind the other.

Relocatable segments are placed in order, each at the first boundary not below the
end of the one before. Absolute segments stay where their definitions put them and
take no room among the others. -/
namespace ObjectModule.Segment

/-- What is told of a segment that has just been placed. -/
def placedEvents (s : Segment) (override : Option Int) : List Event :=
  match s.address, Alignment.boundary? (s.effectiveAlignment override) with
  | some address, some boundary => [.placed s.displayName address boundary s.length.value]
  | _, _ => []

/-- Places a segment, unless it is absolute, and gives it with the first address
behind the segments placed so far. -/
def place (s : Segment) (override : Option Int) (address : Int) : Logged Error (Segment × Int) :=
  if s.attributes.isAbsolute then pure (s, address)
  else
    match (relocate address override).run s with
    | .error e _ => throw e
    | .ok next placed => do
      Logged.notes (placed.placedEvents override)
      return (placed, next)

/-- Places a segment behind others (latest first), which end at an address. -/
def placeNext (override : Option Int) (placed : List Segment × Int) (s : Segment) :
    Logged Error (List Segment × Int) := do
  let (s, next) ← s.place override placed.2
  return (s :: placed.1, next)

/-- Places segments in order from an address on. Gives them with the first address
behind the last one placed. -/
def placeAll (override : Option Int) (segments : List Segment) (address : Int) :
    Logged Error (List Segment × Int) := do
  let (placed, last) ← Logged.fold (placeNext override) ([], address) segments
  return (placed.reverse, last)

/-! ### Equations -/

@[simp] theorem placeAll_nil (override : Option Int) (address : Int) :
    placeAll override [] address = pure ([], address) := rfl

theorem fold_placeNext (override : Option Int) (before : List Segment) (address : Int)
    (segments : List Segment) :
    Logged.fold (placeNext override) (before, address) segments = (do
      let (placed, last) ← Logged.fold (placeNext override) ([], address) segments
      return (placed ++ before, last)) := by
  induction segments generalizing before address with
  | nil => rfl
  | cons s rest ih =>
    simp only [Logged.fold_cons, placeNext, bind_assoc, pure_bind]
    refine congrArg _ (funext fun (s, next) => ?_)
    rw [ih, ih [s]]
    simp

/-- The first segment is placed at the address, the others behind it. -/
theorem placeAll_cons (override : Option Int) (s : Segment) (rest : List Segment)
    (address : Int) :
    placeAll override (s :: rest) address = (do
      let (s, next) ← s.place override address
      let (rest, last) ← placeAll override rest next
      return (s :: rest, last)) := by
  simp only [placeAll, Logged.fold_cons, placeNext, bind_assoc, pure_bind]
  refine congrArg _ (funext fun (s, next) => ?_)
  rw [fold_placeNext]
  simp

end ObjectModule.Segment
