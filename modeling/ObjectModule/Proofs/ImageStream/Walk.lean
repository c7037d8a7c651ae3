import ObjectModule.ImageStream.Basic

/-! The walk along the fragments of a segment.

The walk says in one pass what the image of a segment is made of. It starts at
position zero and goes along the fragments as long as the position is below the
declared length. Before a fragment that starts ahead of the position the gap is
filled with zeros, which is fatal if it is wider than `maxFill`; a fragment that
starts at the position contributes its bytes; one that starts behind it is skipped
and recorded. Behind the last fragment zeros fill up to the declared length, under
the same condition. What is beyond the declared length is cut off.

The walk keeps every stretch of the image as a `Piece` that knows where it starts and
which fragment it comes from. Where bytes cannot be had, for a fill or for the
expansion of a fragment, the walk ends with the reason. -/
namespace ObjectModule

/-- A stretch of an image, and the fragment it comes from unless it fills a gap. -/
structure Piece where
  start : Nat
  bytes : Bytes
  /-- The place of the fragment in the list of fragments. -/
  source : Option Nat
deriving DecidableEq, Repr

/-- The position behind a piece. -/
def Piece.finish (p : Piece) : Nat := p.start + p.bytes.length

/-- How a walk ends. -/
inductive Ending where
  /-- At the declared length. -/
  | complete
  /-- Before a gap that may not be filled. -/
  | hole (hole : Hole)
  /-- Before bytes that cannot be had. -/
  | failed (cause : Error)
deriving DecidableEq, Repr

/-- What an image is made of. -/
structure Walk where
  pieces : List Piece
  skipped : List SkippedFragment
  ending : Ending
deriving DecidableEq, Repr

namespace Walk

/-- The walk that ends at once. -/
def stop (ending : Ending) : Walk := ⟨[], [], ending⟩

/-- A piece and then a walk. -/
def lay (p : Piece) (w : Walk) : Walk := { w with pieces := p :: w.pieces }

/-- A fragment skipped and then a walk. -/
def skip (record : SkippedFragment) (w : Walk) : Walk := { w with skipped := record :: w.skipped }

/-- The bytes of all pieces. -/
def bytes (w : Walk) : Bytes := w.pieces.flatMap Piece.bytes

section
variable [Machine]

/-- Zeros over a gap and then a walk, unless the gap is too wide. -/
def fill (maxFill : Int) (start width : Nat) (hole : Hole) (onward : Walk) : Walk :=
  if maxFill < width then stop (.hole hole)
  else
    match Capacity.string width with
    | .error cause => stop (.failed (.capacity cause))
    | .ok () => onward.lay ⟨start, List.replicate width 0, none⟩

/-- The bytes of the fragment that starts at a position, unless the image is complete
there, and then a walk from behind them. -/
def land (length : Int) (f : Fragment) (index position : Nat) (onward : Nat → Walk) : Walk :=
  if length ≤ position then stop .complete
  else
    match f.contents with
    | .error cause => stop (.failed cause)
    | .ok content =>
      (onward (position + content.size)).lay ⟨position, content.toBytes, some index⟩

/-- The walk from a position along the fragments from a place in the list on. -/
def along (s : Segment) (maxFill length : Int) :
    List Fragment → (index position : Nat) → Walk
  | [], _, position =>
    if length ≤ position then stop .complete
    else fill maxFill position (length - position).toNat .atEnd (stop .complete)
  | f :: rest, index, position =>
    if length ≤ position then stop .complete
    else if f.offset < position then
      (along s maxFill length rest (index + 1) position).skip
        ⟨s.displayName, s.className.getD "", index, f.offset⟩
    else if f.offset = position then
      land length f index position (along s maxFill length rest (index + 1))
    else
      fill maxFill position (f.offset - position).toNat .between
        (land length f index f.offset.toNat (along s maxFill length rest (index + 1)))

end

/-- Whether bytes could not be had. -/
def Fails (w : Walk) : Prop := ∃ cause, w.ending = .failed cause

/-- The error a stream is left with. -/
def error (s : Segment) (w : Walk) : Option ReconstructionError :=
  match w.ending with
  | .hole hole => some { hole, segment := s.displayName }
  | .complete | .failed _ => none

end Walk

/-- The walk along all fragments of a segment. -/
def Segment.walk [Machine] (s : Segment) (maxFill : Int) : Walk :=
  .along s maxFill s.length.value s.fragments.toList 0 0

/-- Of a segment itself only the names count, which go into what is recorded. -/
theorem Walk.along_congr [Machine] {s t : Segment} (hname : s.displayName = t.displayName)
    (hclass : s.className = t.className) (maxFill length : Int) (ahead : List Fragment) :
    along s maxFill length ahead = along t maxFill length ahead := by
  induction ahead with
  | nil => rfl
  | cons f rest ih =>
    funext index position
    rw [along, along, hname, hclass, ih]

/-- Freezing a segment does not change its walk. -/
theorem Segment.walk_frozen [Machine] (s : Segment) (maxFill : Int) :
    ({ s with isFrozen := true } : Segment).walk maxFill = s.walk maxFill :=
  congrFun (congrFun (Walk.along_congr (s := { s with isFrozen := true }) (t := s) rfl rfl maxFill
    s.length.value s.fragments.toList) 0) 0

/-- All that the walk along a segment gives, cut off at the declared length. -/
def Segment.laid [Machine] (s : Segment) (maxFill : Int) : Bytes :=
  (s.walk maxFill).bytes.take s.length.value.toNat

/-- A segment that declares a length and holds some bytes at some offsets. -/
def Segment.holding (length : Int) (data : List (Int × Bytes)) : Segment where
  attributes := ⟨0x20⟩
  length := ⟨2, length⟩
  nameIndex := ⟨1, 4⟩
  classIndex := ⟨1, 5⟩
  overlayIndex := ⟨1, 1⟩
  fragments := (data.map fun (offset, bytes) => ⟨1, offset, .enumerated (.ofBytes bytes)⟩).toArray

/-- What can be seen of a stream behind a read: what the read gave, what was skipped, the
error and the position. -/
structure Report where
  result : Except Error Bytes
  skipped : List SkippedFragment
  error : Option ReconstructionError
  position : Nat

/-- What can be seen behind a read. -/
def ImageStream.report : EStateM.Result Error ImageStream Packed → Report
  | .ok data st => ⟨.ok data.toBytes, st.skipped, st.error, st.position⟩
  | .error cause st => ⟨.error cause, st.skipped, st.error, st.position⟩

/-- What is to be seen behind a read of all that a walk gives, cut off at a length. -/
def Walk.report (s : Segment) (w : Walk) (length : Nat) : Report where
  result :=
    match w.ending with
    | .failed cause => .error cause
    | .complete | .hole _ => .ok (w.bytes.take length)
  skipped := w.skipped
  error := w.error s
  position := (w.bytes.take length).length

end ObjectModule
