import ObjectModule.ImageStream.Run
import ObjectModule.Log
import ObjectModule.Segment.Lifecycle

/-! The image of a segment, as a stream.

The image of a segment has the declared length. Its fragments are laid down in
order, gaps between and after them are filled with zeros as long as no gap is wider
than `maxFill`, and a fragment that starts behind what is already there is skipped.
A stream produces the image from front to back, as much at a time as is asked for.
It keeps the run it is delivering and the fragments still ahead, which cannot become
more, since the segment is frozen by then; the names of the segment may still change.

A gap too wide ends the stream with an `error` that stays. A fragment that cannot
be expanded fails the read that met it and is passed; later reads go on behind
it. A gap that may be filled but is beyond what can be dealt with fails every read
that meets it. -/
namespace ObjectModule

/-- A stream over the image of a segment. -/
structure ImageStream where
  /-- The widest gap that may be filled. -/
  maxFill : Int
  /-- The declared length of the segment when the stream was opened. -/
  length : Int
  /-- How many bytes have been produced. -/
  position : Nat := 0
  /-- What is left of the run being delivered. -/
  pending : Run := .zeros 0
  /-- The fragments that have not been passed. -/
  ahead : List Fragment
  /-- How many of the segment's fragments have been passed. -/
  passed : Nat := 0
  /-- The fragments skipped, latest first. -/
  skippedBefore : List SkippedFragment := []
  error : Option ReconstructionError := none
deriving Repr

/-- What a stream finds when it needs bytes. -/
inductive Supply where
  | run (run : Run) (nonempty : run.isEmpty = false)
  /-- A gap that may not be filled. -/
  | hole (hole : Hole)
  /-- Bytes that cannot be had: a fragment that may not be expanded, or too wide a
  fill. -/
  | failed (cause : Error)

namespace ImageStream

/-- A stream at the start of a segment. -/
def ofSegment (s : Segment) (maxFill : Int) : ImageStream :=
  { maxFill, length := s.length.value, ahead := s.fragments.toList }

/-- The fragments skipped, in order. -/
def skipped (st : ImageStream) : List SkippedFragment := st.skippedBefore.reverse

/-- How many bytes are still to come. -/
def left (st : ImageStream) : Nat := (st.length - st.position).toNat

/-- Whether nothing more will come. -/
def isExhausted (st : ImageStream) : Bool := st.error.isSome || st.left == 0

/-- What is recorded of a fragment about to be skipped. -/
def skippedRecord (s : Segment) (st : ImageStream) (f : Fragment) : SkippedFragment where
  segment := s.displayName
  className := s.className.getD ""
  index := st.passed
  offset := f.offset

/-- The stream after the first `count` bytes of a run. -/
def deliver (st : ImageStream) (run : Run) (count : Nat) : ImageStream :=
  { st with pending := run.drop count, position := st.position + count }

theorem isExhausted_eq_false {st : ImageStream} :
    st.isExhausted = false ↔ st.error = none ∧ 0 < st.left := by
  simp [isExhausted, Nat.pos_iff_ne_zero]

theorem isExhausted_of_not {st : ImageStream} (h : ¬ (st.error = none ∧ 0 < st.left)) :
    st.isExhausted = true := by
  cases he : st.isExhausted
  · exact absurd (isExhausted_eq_false.mp he) h
  · rfl

theorem left_deliver (st : ImageStream) (run : Run) (count : Nat) :
    (st.deliver run count).left = st.left - count := by
  simp only [left, deliver]
  omega

section
variable [Machine]

/-- Zeros over a gap of the given width, unless it is too wide. -/
def fill (st : ImageStream) (width : Nat) (h : 0 < width) (hole : Hole) : Supply :=
  if st.maxFill < width then .hole hole
  else
    match Capacity.string width with
    | .error cause => .failed (.capacity cause)
    | .ok () => .run (.zeros width) (by simpa [Run.isEmpty] using Nat.ne_of_gt h)

/-- The next run: zeros up to a fragment ahead, the bytes of a fragment that starts
here, or zeros behind the last one. Fragments that start behind, and empty ones,
are passed on the way. -/
def advance (s : Segment) : (ahead : List Fragment) → (st : ImageStream) → 0 < st.left →
    ImageStream × Supply
  | [], st, h => ({ st with ahead := [] }, st.fill st.left h .atEnd)
  | f :: ahead, st, h =>
    if gap : (st.position : Int) < f.offset then
      ({ st with ahead := f :: ahead },
        st.fill (f.offset - st.position).toNat (by omega) .between)
    else if f.offset = st.position then
      match f.contents with
      | .ok content =>
        match he : (Run.ofPacked content).isEmpty with
        | true => advance s ahead { st with passed := st.passed + 1 } h
        | false => ({ st with ahead, passed := st.passed + 1 }, .run (.ofPacked content) he)
      | .error cause => ({ st with ahead, passed := st.passed + 1 }, .failed cause)
    else
      advance s ahead
        { st with
          passed := st.passed + 1
          skippedBefore := skippedRecord s st f :: st.skippedBefore } h

/-- The run being delivered or, if none is left of it, the next. -/
def supply (s : Segment) (st : ImageStream) (h : 0 < st.left) : ImageStream × Supply :=
  match hp : st.pending.isEmpty with
  | false => (st, .run st.pending hp)
  | true => advance s st.ahead st h

/-- Produces the next `want` bytes, or fewer if the image ends or fails before, behind
those already produced. -/
def readOnto (s : Segment) (done : Packed) (want : Nat) (st : ImageStream) :
    EStateM.Result Error ImageStream Packed :=
  if h : 0 < want ∧ st.error = none ∧ 0 < st.left then
    match st.supply s h.2.2 with
    | (st', .run run nonempty) =>
      have : 0 < (run.take (min want st.left)).size := Run.size_take_pos nonempty (by omega)
      let chunk := run.take (min want st.left)
      readOnto s (done ++ chunk) (want - chunk.size) (st'.deliver run chunk.size)
    | (st', .hole hole) => .ok done { st' with error := some { hole, segment := s.displayName } }
    | (st', .failed cause) => .error cause st'
  else .ok done st
termination_by want

/-- Produces the next `want` bytes, or fewer if the image ends or fails before. A
fragment that cannot be expanded makes the read fail; the bytes it had gathered are
lost, but not the stream's progress. -/
def read (s : Segment) (want : Nat) (st : ImageStream) :
    EStateM.Result Error ImageStream Packed :=
  st.readOnto s .empty want

/-! ### Progress -/

theorem advance_keeps (s : Segment) (ahead : List Fragment) (st : ImageStream)
    (h : 0 < st.left) :
    (advance s ahead st h).1.position = st.position ∧
      (advance s ahead st h).1.length = st.length ∧
      (advance s ahead st h).1.error = st.error := by
  fun_induction advance s ahead st h with
  | case1 st h => exact ⟨rfl, rfl, rfl⟩
  | case2 f ahead st h gap => exact ⟨rfl, rfl, rfl⟩
  | case3 f ahead st h _ _ content _ _ ih => exact ih
  | case4 f ahead st h => exact ⟨rfl, rfl, rfl⟩
  | case5 f ahead st h => exact ⟨rfl, rfl, rfl⟩
  | case6 f ahead st h _ _ ih => exact ih

/-- Finding the next run does not move the stream. -/
theorem supply_keeps {s : Segment} {st st' : ImageStream} {h : 0 < st.left} {found : Supply}
    (hs : st.supply s h = (st', found)) :
    st'.position = st.position ∧ st'.length = st.length ∧ st'.error = st.error := by
  unfold supply at hs
  split at hs
  · cases hs
    exact ⟨rfl, rfl, rfl⟩
  · have := advance_keeps s st.ahead st h
    rwa [hs] at this

theorem left_supply {s : Segment} {st st' : ImageStream} {h : 0 < st.left} {found : Supply}
    (hs : st.supply s h = (st', found)) : st'.left = st.left := by
  obtain ⟨hp, hl, _⟩ := supply_keeps hs
  simp only [left, hp, hl]

/-- What is read comes off what is left. -/
theorem left_readOnto {s : Segment} {done bytes : Packed} {want : Nat} {st final : ImageStream}
    (h : st.readOnto s done want = .ok bytes final) :
    bytes.size + final.left = done.size + st.left := by
  fun_induction readOnto s done want st with
  | case1 done want st h' st' run nonempty hs pos chunk ih =>
    have hle : chunk.size ≤ min want st.left := Run.size_take_le ..
    rw [ih h, Packed.size_append, left_deliver, left_supply hs]
    omega
  | case2 done want st h' st' hole hs =>
    cases h
    show bytes.size + st'.left = bytes.size + st.left
    rw [left_supply hs]
  | case3 done want st h' st' cause hs => cases h
  | case4 done want st h' =>
    cases h
    rfl

theorem left_read {s : Segment} {bytes : Packed} {want : Nat} {st final : ImageStream}
    (h : st.read s want = .ok bytes final) : bytes.size + final.left = st.left := by
  rw [left_readOnto h]
  exact Nat.zero_add _

/-! ### Reads of many bytes -/

/-- How many bytes are asked for at a time when all are. -/
def readSize : Nat := 0x2000

/-- Produces all bytes still to come behind those already produced: one read after
another, until one gives nothing. -/
def readAllOnto (s : Segment) (done : Packed) (st : ImageStream) :
    EStateM.Result Error ImageStream Packed :=
  match h : st.read s readSize with
  | .error cause final => .error cause final
  | .ok bytes final =>
    if more : 0 < bytes.size then
      have : final.left < st.left := by
        rw [← left_read h]
        omega
      readAllOnto s (done ++ bytes) final
    else .ok done final
termination_by st.left

/-- Produces all bytes still to come. -/
def readAll (s : Segment) (st : ImageStream) : EStateM.Result Error ImageStream Packed :=
  st.readAllOnto s .empty

/-- Produces as many of the bytes still to come as a signed size asks for, which is
all of them below zero. What is asked for must be had even if less is to come. -/
def readAtMost (s : Segment) (size : Int) (st : ImageStream) :
    EStateM.Result Error ImageStream Packed :=
  match Capacity.room size with
  | .error cause => .error (.capacity cause) st
  | .ok () => if size < 0 then st.readAll s else st.read s size.toNat

/-- Overwrites a buffer from the front. Gives how many bytes were written and the
buffer. -/
def readInto (s : Segment) (buffer : Packed) (st : ImageStream) :
    EStateM.Result Error ImageStream (Nat × Packed) :=
  match st.read s buffer.size with
  | .ok bytes final => .ok (bytes.size, bytes ++ buffer.part bytes.size buffer.size) final
  | .error cause final => .error cause final

end

/-- Drops what is left of the run being delivered. -/
def close (st : ImageStream) : ImageStream := { st with pending := .zeros 0 }

/-- What happened between an earlier state of a stream and this one. Skipping comes
before failing, which ends the stream. -/
def eventsSince (st earlier : ImageStream) : List Event :=
  (st.skipped.drop earlier.skippedBefore.length).map .skipped ++
    if earlier.error.isSome then [] else st.error.toList.map .imageFailed

end ImageStream

namespace Segment

/-- Opens a stream over the segment, which takes no more data from then on. -/
def openStream (maxFill : Int) : Action ImageStream := do
  freeze
  return .ofSegment (← get) maxFill

/-- The whole image of a segment. An image that fails gives what it produced before
in the error. -/
def image [Machine] (s : Segment) (maxFill : Int) : Logged Error Packed :=
  let st := ImageStream.ofSegment s maxFill
  match st.readAll s with
  | .error cause final => ⟨.error cause, final.eventsSince st⟩
  | .ok data final =>
    match final.error with
    | none => ⟨.ok data, final.eventsSince st⟩
    | some e => ⟨.error (.reconstruction { e with data }), final.eventsSince st⟩

/-- Reads the whole image, which freezes the segment. -/
def readImage [Machine] (maxFill : Int) : Action Packed := do
  freeze
  ofExcept ((← get).image maxFill).result

end Segment
end ObjectModule
