import ObjectModule.Proofs.ImageStream.Requests

/-! The course of a read, and of calls one after another.

A read takes its bytes run by run. Its `Course` keeps the runs apart, as pieces each of
which knows where it starts and which fragment it is taken from, unless it fills a gap.
A read gives what its course says (`read_eq_result`), so anything that is to be shown of
reads is shown by one induction over the course.

A stream may also be told to drop the run it is delivering. `serve` makes calls of all
kinds one after another, whatever became of those before, and `delivered` is the pieces
that came of them: what a call produced before it failed is lost. -/
namespace ObjectModule

/-- How a read goes: the pieces it produces, the stream behind it, and why it fails if it
does. -/
structure Course where
  pieces : List Piece
  final : ImageStream
  failure : Option Error

namespace Course

/-- A course behind one more piece. -/
def behind (p : Piece) (x : Course) : Course := { x with pieces := p :: x.pieces }

/-- The bytes of all pieces. -/
def bytes (x : Course) : Bytes := x.pieces.flatMap Piece.bytes

/-- What came of the course. -/
def answer (x : Course) : Except Error Packed :=
  match x.failure with
  | none => .ok (.ofBytes x.bytes)
  | some cause => .error cause

/-- The pieces that came of the course. -/
def delivered (x : Course) : List Piece :=
  match x.failure with
  | none => x.pieces
  | some _ => []

/-- What came of the course, and the stream behind it. -/
def result (x : Course) : EStateM.Result Error ImageStream Packed :=
  match x.answer with
  | .ok data => .ok data x.final
  | .error cause => .error cause x.final

end Course

/-- What may be done with a stream: make a request, or drop the run being delivered. -/
inductive Call where
  | request (request : Request)
  | close

namespace ImageStream

/-- The first bytes of a run, as a piece that starts where the stream is. A run of bytes is
what is left of the fragment passed last. -/
def piece (st : ImageStream) (run : Run) (limit : Nat) : Piece where
  start := st.position
  bytes := (run.take limit).toBytes
  source :=
    match run with
    | .zeros _ => none
    | .bytes _ _ => some (st.passed - 1)

variable [Machine]

/-- The course of a read of `want` bytes. -/
def course (s : Segment) (want : Nat) (st : ImageStream) : Course :=
  if h : 0 < want ∧ st.error = none ∧ 0 < st.left then
    match st.supply s h.2.2 with
    | (st', .run run nonempty) =>
      have : 0 < (run.take (min want st.left)).size := Run.size_take_pos nonempty (by omega)
      let count := (run.take (min want st.left)).size
      (course s (want - count) (st'.deliver run count)).behind (st'.piece run (min want st.left))
    | (st', .hole hole) =>
      ⟨[], { st' with error := some { hole, segment := s.displayName } }, none⟩
    | (st', .failed cause) => ⟨[], st', some cause⟩
  else ⟨[], st, none⟩
termination_by want

/-- What comes of a call. -/
def answer (s : Segment) (st : ImageStream) : Call → EStateM.Result Error ImageStream Packed
  | .request request => st.perform s request
  | .close => .ok .empty st.close

/-- The course of a call. -/
def call (s : Segment) (st : ImageStream) : Call → Course
  | .request request =>
    match request.room with
    | .ok () => st.course s (request.want st)
    | .error cause => ⟨[], st, some (.capacity cause)⟩
  | .close => ⟨[], st.close, none⟩

/-- Makes calls one after another, whatever became of those before. -/
def serve (s : Segment) : ImageStream → List Call → Session
  | st, [] => ⟨[], st⟩
  | st, c :: rest =>
    match st.answer s c with
    | .ok data next => (serve s next rest).behind (.ok data)
    | .error cause next => (serve s next rest).behind (.error cause)

/-- The pieces that came of calls one after another. -/
def delivered (s : Segment) : ImageStream → List Call → List Piece
  | _, [] => []
  | st, c :: rest =>
    match st.answer s c with
    | .ok _ next => (st.call s c).pieces ++ delivered s next rest
    | .error _ next => delivered s next rest

/-- Calls of a stream at the start of a segment. -/
def serveOf (s : Segment) (maxFill : Int) (calls : List Call) : Session :=
  (ofSegment s maxFill).serve s calls

/-- The pieces that came of calls of a stream at the start of a segment. -/
def deliveredOf (s : Segment) (maxFill : Int) (calls : List Call) : List Piece :=
  (ofSegment s maxFill).delivered s calls

variable {s : Segment} {st st' : ImageStream} {want : Nat} {calls : List Call}

/-! ### One step of a course -/

theorem course_of_not (h : ¬ (0 < want ∧ st.error = none ∧ 0 < st.left)) :
    st.course s want = ⟨[], st, none⟩ := by
  rw [course, dif_neg h]

theorem course_run {run : Run} {nonempty : run.isEmpty = false}
    (h : 0 < want ∧ st.error = none ∧ 0 < st.left)
    (hs : st.supply s h.2.2 = (st', .run run nonempty)) :
    st.course s want =
      ((st'.deliver run (run.take (min want st.left)).size).course s
        (want - (run.take (min want st.left)).size)).behind
          (st'.piece run (min want st.left)) := by
  rw [course, dif_pos h, hs]

theorem course_hole {hole : Hole} (h : 0 < want ∧ st.error = none ∧ 0 < st.left)
    (hs : st.supply s h.2.2 = (st', .hole hole)) :
    st.course s want =
      ⟨[], { st' with error := some { hole, segment := s.displayName } }, none⟩ := by
  rw [course, dif_pos h, hs]

theorem course_failed {cause : Error} (h : 0 < want ∧ st.error = none ∧ 0 < st.left)
    (hs : st.supply s h.2.2 = (st', .failed cause)) :
    st.course s want = ⟨[], st', some cause⟩ := by
  rw [course, dif_pos h, hs]

/-! ### Reads and calls give what their courses say -/

theorem read_eq_result (s : Segment) (want : Nat) (st : ImageStream) :
    st.read s want = (st.course s want).result := by
  fun_induction course s want st with
  | case1 want st h st' run nonempty hs pos count ih =>
    rw [read, readOnto_run h hs, readOnto_eq, ih]
    cases hf : ((st'.deliver run count).course s (want - count)).failure with
    | some cause => simp [Course.result, Course.answer, Course.behind, count, hf]
    | none =>
      simp only [Course.result, Course.answer, Course.behind, count, hf]
      refine congrArg (EStateM.Result.ok · _) (Packed.eq_of_toBytes_eq ?_)
      simp [Course.bytes, piece]
  | case2 want st h st' hole hs => exact readOnto_hole h hs
  | case3 want st h st' cause hs => exact readOnto_failed h hs
  | case4 want st h => exact (readOnto.eq_def ..).trans (dif_neg h)

/-- A call gives what its course says. -/
theorem answer_eq_result (s : Segment) (st : ImageStream) (c : Call) :
    st.answer s c = (st.call s c).result := by
  cases c with
  | close => rfl
  | request request =>
    rw [answer, call]
    cases hroom : request.room with
    | ok _ => rw [perform_eq_read ((hasRoom_iff request).mpr hroom), read_eq_result]
    | error cause =>
      rw [perform_of_error hroom]
      rfl

theorem perform_eq_result (s : Segment) (st : ImageStream) (request : Request) :
    st.perform s request = (st.call s (.request request)).result :=
  answer_eq_result s st (.request request)

theorem serve_cons (s : Segment) (st : ImageStream) (c : Call) (rest : List Call) :
    st.serve s (c :: rest) =
      ((st.call s c).final.serve s rest).behind (st.call s c).answer := by
  rw [serve, answer_eq_result, Course.result]
  cases (st.call s c).answer <;> rfl

theorem delivered_cons (s : Segment) (st : ImageStream) (c : Call) (rest : List Call) :
    st.delivered s (c :: rest) =
      (st.call s c).delivered ++ (st.call s c).final.delivered s rest := by
  rw [delivered, answer_eq_result, Course.result, Course.answer, Course.delivered]
  cases (st.call s c).failure <;> rfl

/-! ### How wide a gap may be filled never changes -/

/-- The pieces that came of calls are made of the bytes these gave. -/
theorem bytes_delivered (s : Segment) (st : ImageStream) (calls : List Call) :
    (st.delivered s calls).flatMap Piece.bytes = (st.serve s calls).bytes := by
  induction calls generalizing st with
  | nil => rfl
  | cons c rest ih =>
    rw [delivered_cons, serve_cons, List.flatMap_append, ih]
    cases hf : (st.call s c).failure <;>
      simp [Course.delivered, Course.answer, Course.bytes, Session.bytes, Session.behind, hf]

end ImageStream
end ObjectModule
