import ObjectModule.Segment.Basic

/-! The life of a segment.

While a segment is open, data is attached to it and the attached fragments are put
in order. Freezing ends that phase for good; placing a segment freezes it. An
action that is refused leaves the segment as it was, except that looking up names
keeps those found before the first bad reference. -/
namespace ObjectModule.Segment

/-- A step in the life of a segment. -/
abbrev Action := EStateM Error Segment

/-- The segment after an action, if the action is not refused. -/
def Action.applied {α : Type} (action : Action α) (s : Segment) : Except Error Segment :=
  match action.run s with
  | .ok _ after => .ok after
  | .error e _ => .error e

/-! ### Names -/

/-- The place of the name a reference stands for. References count from one; those
below zero count back from the end, one name further than their magnitude. -/
def placeOf (names : Array String) (reference : Index) : Int :=
  if 0 < reference.value then reference.value - 1 else names.size + reference.value - 1

/-- The name a reference stands for: none for zero, else the name at its place. -/
def lookUp (names : Array String) (reference : Index) (role : NameRole) :
    Except Error String :=
  let place := placeOf names reference
  if reference.value = 0 then .ok ""
  else if names.size < reference.value then
    .error (.format (.nameOutOfBounds role reference.value names.size))
  else
    match if place < 0 then none else names[place.toNat]? with
    | some name => .ok name
    | none => .error (.access (.beforeFirstName role reference.value names.size))

/-- Looks up the three names and infers the access rights from the class. -/
def resolveNames (names : Array String) : Action Unit := do
  let s ← get
  let name ← ofExcept (lookUp names s.nameIndex .segment)
  modify ({ · with name := some name })
  let className ← ofExcept (lookUp names s.classIndex .className)
  modify ({ · with className := some className })
  let overlayName ← ofExcept (lookUp names s.overlayIndex .overlay)
  modify ({ · with overlayName := some overlayName, permissions := .ofClass className })

/-! ### Placing -/

/-- Takes no more data from here on. -/
def freeze : Action Unit := modify ({ · with isFrozen := true })

/-- Places the segment at the first boundary not below an address and gives the
first address behind it. Absolute segments, and segments that have a place, cannot
be moved. -/
def relocate (first : Int) (override : Option Int) : Action Int := do
  let s ← get
  let code := s.effectiveAlignment override
  if code = 0 then throw (.relocation (.absolute s.displayName))
  let some boundary := Alignment.boundary? code
    | throw (.format (.unsupportedAlignment (toString code) s.displayName))
  if let some address := s.address then
    throw (.relocation (.alreadyPlaced s.displayName address))
  freeze
  let address := Alignment.roundUp boundary first
  modify ({ · with address := some address })
  return address + s.length.value

/-! ### Data -/

/-- The segment with a fragment behind those it has. -/
def withFragment (f : Fragment) (s : Segment) : Segment :=
  { s with fragments := s.fragments.push f }

/-- The segment with a fragment behind those it has, and its declared length extended to
the end of it. -/
def grownBy (f : Fragment) (s : Segment) : Segment :=
  { s with
    length := if s.length.value < f.endOffset then s.length.withValue f.endOffset else s.length
    fragments := s.fragments.push f }

/-- Refuses if the segment is frozen. -/
def requireOpen : Action Unit := do
  let s ← get
  if s.isFrozen then throw (.access (.frozen s.displayName))

/-- Attaches a fragment; the declared length stays. -/
def attach (f : Fragment) : Action Unit := do
  requireOpen
  modify (withFragment f)

/-- Attaches a fragment and extends the declared length to its end. -/
def extend (f : Fragment) : Action Unit := do
  requireOpen
  modify (grownBy f)

/-- Puts the fragments in order of offset; those at one offset stay in the order
of attachment. -/
def sortFragments : Action Unit := do
  requireOpen
  modify fun s =>
    { s with
      fragments := (s.fragments.toList.mergeSort fun f g => f.offset ≤ g.offset).toArray }

end ObjectModule.Segment
