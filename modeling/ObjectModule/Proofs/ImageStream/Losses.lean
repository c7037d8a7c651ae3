import ObjectModule.CommonMachine
import ObjectModule.Proofs.ImageStream.Course

/-! What the position of a stream counts.

A stream moves as it gathers bytes, run by run. A call that ends well gives what it gathered; one
that fails gives nothing, but the stream stays where it came to. So the position counts the bytes
given and, besides, those that failing calls had gathered (`position_eq_given_add_lost`). It counts
the bytes given alone exactly if every call that fails does so at once, before it has gathered
any (`position_eq_given_iff`): it asks for more than can be had, or it is made where the stream
has come to what cannot be had, with nothing left of the run before. -/
namespace ObjectModule

/-- How many of the bytes gathered are lost: all of them if the call fails. -/
def Course.lost (x : Course) : Nat :=
  match x.failure with
  | none => 0
  | some _ => x.bytes.length

namespace ImageStream

section
variable [Machine]

/-- How many bytes are lost in requests made one after another. -/
def lost (s : Segment) : ImageStream → List Request → Nat
  | _, [] => 0
  | st, request :: rest =>
    (st.call s (.request request)).lost + lost s (st.call s (.request request)).final rest

/-- Whether a request fails before it has gathered anything: what it asks for cannot be set aside,
or the stream needs bytes and the first it finds it cannot have. -/
def FailsAtOnce (s : Segment) (st : ImageStream) (request : Request) : Prop :=
  (∃ cause, request.room = .error cause) ∨
    0 < request.want st ∧ st.error = none ∧ ∃ (more : 0 < st.left) (next : ImageStream)
      (cause : Error), st.supply s more = (next, .failed cause)

/-- Whether each of the requests made one after another that fails does so at once. -/
def FailEarly (s : Segment) : ImageStream → List Request → Prop
  | _, [] => True
  | st, request :: rest =>
    match st.perform s request with
    | .ok _ next => FailEarly s next rest
    | .error _ next => FailsAtOnce s st request ∧ FailEarly s next rest

variable {s : Segment} {st st' next : ImageStream} {want : Nat} {request : Request}
  {calls : List Request}

/-! ### One call -/

/-- A stream moves by what it gathers, whether or not it is given. -/
theorem position_course (s : Segment) (want : Nat) (st : ImageStream) :
    (st.course s want).final.position = st.position + (st.course s want).bytes.length := by
  fun_induction course s want st with
  | case1 want st h st' run nonempty hs pos count ih =>
    have hposition := (supply_keeps hs).1
    have hdeliver : (st'.deliver run count).position = st'.position + count := rfl
    have hpiece : (st'.piece run (min want st.left)).bytes.length = count := rfl
    simp only [Course.behind, Course.bytes, List.flatMap_cons, List.length_append, hpiece] at ih ⊢
    omega
  | case2 want st h st' hole hs => exact (supply_keeps hs).1
  | case3 want st h st' cause hs => exact (supply_keeps hs).1
  | case4 want st h => rfl

theorem position_call (s : Segment) (st : ImageStream) (request : Request) :
    (st.call s (.request request)).final.position =
      st.position + (st.call s (.request request)).bytes.length := by
  rw [call]
  cases request.room with
  | ok _ => exact position_course s _ st
  | error cause => rfl

/-- Of a call that fails nothing is lost exactly if it fails at once. -/
theorem lost_call_eq_zero_iff {cause : Error}
    (hfails : (st.call s (.request request)).failure = some cause) :
    (st.call s (.request request)).lost = 0 ↔ st.FailsAtOnce s request := by
  rw [Course.lost, hfails]
  simp only [call, FailsAtOnce] at hfails ⊢
  cases hroom : request.room with
  | error cause => simp [Course.bytes]
  | ok _ =>
    simp only [hroom] at hfails ⊢
    by_cases ready : 0 < request.want st ∧ st.error = none ∧ 0 < st.left
    case neg =>
      rw [course_of_not ready] at hfails
      cases hfails
    rcases hs : st.supply s ready.2.2 with ⟨next, run | hole | cause⟩
    · next run nonempty =>
      have hsize : 0 < (run.take (min (request.want st) st.left)).size :=
        Run.size_take_pos nonempty (by omega)
      have hlost : (st.course s (request.want st)).bytes.length ≠ 0 := by
        have hpiece : (next.piece run (min (request.want st) st.left)).bytes.length =
            (run.take (min (request.want st) st.left)).size := rfl
        rw [course_run ready hs]
        simp only [Course.behind, Course.bytes, List.flatMap_cons, List.length_append, hpiece]
        omega
      simp [hlost, hs]
    · rw [course_hole ready hs] at hfails
      cases hfails
    · rw [course_failed ready hs]
      simp [Course.bytes, ready, hs]

/-! ### Calls one after another -/

theorem session_cons (s : Segment) (st : ImageStream) (request : Request) (rest : List Request) :
    st.session s (request :: rest) =
      ((st.call s (.request request)).final.session s rest).behind
        (st.call s (.request request)).answer := by
  rw [session, perform_eq_result, Course.result]
  cases (st.call s (.request request)).answer <;> rfl

/-- Requests are calls. -/
theorem serve_map_request (s : Segment) (st : ImageStream) (requests : List Request) :
    st.serve s (requests.map .request) = st.session s requests := by
  induction requests generalizing st with
  | nil => rfl
  | cons request rest ih => rw [List.map_cons, serve_cons, session_cons, ih]

theorem failEarly_cons (s : Segment) (st : ImageStream) (request : Request) (rest : List Request) :
    st.FailEarly s (request :: rest) ↔
      (st.call s (.request request)).lost = 0 ∧
        (st.call s (.request request)).final.FailEarly s rest := by
  rw [FailEarly, perform_eq_result, Course.result, Course.answer]
  cases hfails : (st.call s (.request request)).failure with
  | none => simp [Course.lost, hfails]
  | some cause => rw [lost_call_eq_zero_iff hfails]

theorem failEarly_iff : st.FailEarly s calls ↔ st.lost s calls = 0 := by
  induction calls generalizing st with
  | nil => exact iff_of_true trivial rfl
  | cons request rest ih => rw [failEarly_cons, ih, lost, Nat.add_eq_zero_iff]

/-- What was lost stays lost. -/
theorem lost_eq_zero_of_prefix {before : List Request} (h : before <+: calls)
    (hlost : st.lost s calls = 0) : st.lost s before = 0 := by
  obtain ⟨behind, rfl⟩ := h
  induction before generalizing st with
  | nil => rfl
  | cons request rest ih =>
    rw [List.cons_append, lost, Nat.add_eq_zero_iff] at hlost
    rw [lost, hlost.1, ih hlost.2]

end

variable {s : Segment} {st st' next : ImageStream} {want : Nat} {request : Request}
  {calls : List Request}

/-- The bytes a call gives are those it gathered, unless they are lost. -/
theorem length_bytes_behind (x : Course) (rest : Session) :
    (rest.behind x.answer).bytes.length + x.lost = x.bytes.length + rest.bytes.length := by
  cases hfails : x.failure <;>
    simp [Course.answer, Course.lost, Session.bytes, Session.behind, hfails, Nat.add_comm]

section
variable [Machine]

/-- **The position counts the bytes given and the bytes lost.** -/
theorem position_session (s : Segment) (st : ImageStream) (calls : List Request) :
    (st.session s calls).final.position =
      st.position + (st.session s calls).bytes.length + st.lost s calls := by
  induction calls generalizing st with
  | nil => rfl
  | cons request rest ih =>
    have hgiven := length_bytes_behind (st.call s (.request request))
      ((st.call s (.request request)).final.session s rest)
    have hrest := ih (st.call s (.request request)).final
    rw [position_call] at hrest
    rw [session_cons, lost]
    show ((st.call s (.request request)).final.session s rest).final.position = _
    omega

/-- **What the position of a stream counts.** Behind any requests it is the number of bytes given
and, besides, of those lost in calls that failed. It has been the number of bytes given behind
each of the requests exactly if those that failed did so at once. -/
theorem position_counts (s : Segment) (maxFill : Int) (calls : List Request) :
    (sessionOf s maxFill calls).final.position =
        (sessionOf s maxFill calls).bytes.length + (ofSegment s maxFill).lost s calls ∧
      ((∀ before, before <+: calls →
          (sessionOf s maxFill before).final.position =
            (sessionOf s maxFill before).bytes.length) ↔
        (ofSegment s maxFill).FailEarly s calls) := by
  have hposition (calls : List Request) : (sessionOf s maxFill calls).final.position =
      (sessionOf s maxFill calls).bytes.length + (ofSegment s maxFill).lost s calls := by
    have hstart : (ofSegment s maxFill).position = 0 := rfl
    rw [sessionOf, position_session, hstart, Nat.zero_add]
  refine ⟨hposition calls, ?_⟩
  rw [failEarly_iff]
  constructor
  · intro hgiven
    have := hgiven calls (List.prefix_refl calls)
    have := hposition calls
    omega
  · intro hlost before hbefore
    rw [hposition, lost_eq_zero_of_prefix hbefore hlost, Nat.add_zero]

/-- Two bytes, and behind them more than a fragment may expand to. -/
def oversizeBehindTwo : Segment :=
  { Segment.holding 4 [] with
    fragments := #[⟨1, 0, .enumerated (.ofBytes [0x61, 0x62])⟩,
      ⟨1, 2, .iterated [.mk 0x1000001 (.ofBytes [0x78]) []]⟩] }

end

open scoped CommonMachine

/-- A call that comes to the fragment behind bytes it has gathered moves the stream past them and
gives none of them. -/
theorem position_counts_lost :
    (sessionOf oversizeBehindTwo 0 [.read 4]).answers =
      [.error (.format (.oversizeExpansion 2 0x1000001))] ∧
    (sessionOf oversizeBehindTwo 0 [.read 4]).bytes = [] ∧
    (sessionOf oversizeBehindTwo 0 [.read 4]).final.position = 2 := by
  decide +kernel

/-- A call that is made where the fragment stands fails at once. -/
theorem position_counts_given :
    (ofSegment oversizeBehindTwo 0).FailEarly oversizeBehindTwo [.read 2, .read 2] ∧
    (sessionOf oversizeBehindTwo 0 [.read 2, .read 2]).final.position =
      (sessionOf oversizeBehindTwo 0 [.read 2, .read 2]).bytes.length := by
  have hlost : (ofSegment oversizeBehindTwo 0).lost oversizeBehindTwo [.read 2, .read 2] = 0 := by
    decide +kernel
  have hearly := failEarly_iff.mpr hlost
  exact ⟨hearly, (position_counts oversizeBehindTwo 0 [.read 2, .read 2]).2.mpr hearly
    [.read 2, .read 2] (List.prefix_refl _)⟩

end ImageStream
end ObjectModule
