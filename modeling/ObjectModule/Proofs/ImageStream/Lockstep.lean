import ObjectModule.Proofs.ImageStream.Course

/-! Two streams in lockstep.

Two streams of which the same calls are made can often be compared step by step: as long
as they are related, what one finds when it needs bytes the other finds too, and they are
related again behind it; or else they part, and then something stays true of the two
whatever is asked of them later. `Lockstep` says so of one step, and `Lockstep.serve` of
any calls: the two give the same answers, piece by piece, or they have parted. -/
namespace ObjectModule

/-- Two courses that cannot be told apart, with related streams behind them. -/
structure Course.Alike (R : ImageStream → ImageStream → Prop) (x y : Course) : Prop where
  pieces : x.pieces = y.pieces
  failure : x.failure = y.failure
  final : R x.final y.final

theorem Course.Alike.answer {R : ImageStream → ImageStream → Prop} {x y : Course}
    (h : x.Alike R y) : x.answer = y.answer := by
  simp only [Course.answer, Course.bytes, h.failure, h.pieces]

namespace ImageStream
variable {s t : Segment} {R Parted : ImageStream → ImageStream → Prop} {st st' : ImageStream}
  {want : Nat}

/-- Two streams that find the same, and are related again behind it. -/
inductive Meets (s t : Segment) (R : ImageStream → ImageStream → Prop) :
    ImageStream × Supply → ImageStream × Supply → Prop
  | run {st st' : ImageStream} {run run' : Run} {nonempty : run.isEmpty = false}
      {nonempty' : run'.isEmpty = false}
      (same : ∀ limit ≤ st.left, st.piece run limit = st'.piece run' limit)
      (onward : ∀ count ≤ st.left, R (st.deliver run count) (st'.deliver run' count)) :
      Meets s t R (st, .run run nonempty) (st', .run run' nonempty')
  | hole {st st' : ImageStream} {hole hole' : Hole}
      (onward : R { st with error := some { hole, segment := s.displayName } }
        { st' with error := some { hole := hole', segment := t.displayName } }) :
      Meets s t R (st, .hole hole) (st', .hole hole')
  | failed {st st' : ImageStream} {cause : Error} (onward : R st st') :
      Meets s t R (st, .failed cause) (st', .failed cause)

variable [Machine]

/-- What relates two streams step by step, until they part. -/
structure Lockstep (s t : Segment) (R Parted : ImageStream → ImageStream → Prop) : Prop where
  left : ∀ {st st'}, R st st' → st.left = st'.left
  error : ∀ {st st'}, R st st' → (st.error = none ↔ st'.error = none)
  close : ∀ {st st'}, R st st' → R st.close st'.close
  supply : ∀ {st st'} (h : 0 < st.left) (h' : 0 < st'.left), R st st' → st.error = none →
    Meets s t R (st.supply s h) (st'.supply t h') ∨
      ∀ want, 0 < want → Parted (st.course s want).final (st'.course t want).final
  parted : ∀ {st st'}, Parted st st' → ∀ c, Parted (st.call s c).final (st'.call t c).final

namespace Lockstep

theorem course_of_not (lockstep : Lockstep s t R Parted) (h : R st st')
    (stopped : ¬ (0 < want ∧ st.error = none ∧ 0 < st.left)) :
    (st.course s want).Alike R (st'.course t want) := by
  have stopped' : ¬ (0 < want ∧ st'.error = none ∧ 0 < st'.left) := by
    rwa [← lockstep.left h, ← lockstep.error h]
  rw [ImageStream.course_of_not stopped, ImageStream.course_of_not stopped']
  exact ⟨rfl, rfl, h⟩

theorem course (lockstep : Lockstep s t R Parted) (h : R st st') :
    (st.course s want).Alike R (st'.course t want) ∨
      Parted (st.course s want).final (st'.course t want).final := by
  induction want using Nat.strongRecOn generalizing st st' with
  | ind want ih =>
    by_cases ready : 0 < want ∧ st.error = none ∧ 0 < st.left
    case neg => exact .inl (lockstep.course_of_not h ready)
    have hleft := lockstep.left h
    have ready' : 0 < want ∧ st'.error = none ∧ 0 < st'.left := by
      rwa [← hleft, ← lockstep.error h]
    rcases lockstep.supply ready.2.2 ready'.2.2 h ready.2.1 with meets | parted
    case inr => exact .inr (parted want ready.1)
    generalize hs : st.supply s ready.2.2 = found at meets
    generalize hs' : st'.supply t ready'.2.2 = found' at meets
    cases meets with
    | @run next next' run run' nonempty nonempty' same onward =>
      have hnext := left_supply hs
      have hlimit : min want st.left ≤ next.left := by omega
      have hpiece := same _ hlimit
      have hsize : (run.take (min want st.left)).size = (run'.take (min want st.left)).size :=
        congrArg (fun p => p.bytes.length) hpiece
      have hpos : 0 < (run.take (min want st.left)).size := Run.size_take_pos nonempty (by omega)
      have hle : (run.take (min want st.left)).size ≤ min want st.left := Run.size_take_le ..
      have honward := onward _ (Nat.le_trans hle hlimit)
      rw [course_run ready hs, course_run ready' hs', ← hleft, ← hsize, ← hpiece]
      rcases ih (want - (run.take (min want st.left)).size) (by omega) honward with alike | parted
      · exact .inl ⟨congrArg (List.cons _) alike.pieces, alike.failure, alike.final⟩
      · exact .inr parted
    | hole onward =>
      rw [course_hole ready hs, course_hole ready' hs']
      exact .inl ⟨rfl, rfl, onward⟩
    | failed onward =>
      rw [course_failed ready hs, course_failed ready' hs']
      exact .inl ⟨rfl, rfl, onward⟩

theorem call (lockstep : Lockstep s t R Parted) (h : R st st') (c : Call) :
    (st.call s c).Alike R (st'.call t c) ∨ Parted (st.call s c).final (st'.call t c).final := by
  cases c with
  | close => exact .inl ⟨rfl, rfl, lockstep.close h⟩
  | request request =>
    have hwant : request.want st = request.want st' := by
      cases request <;> simp only [Request.want, lockstep.left h]
    simp only [ImageStream.call, hwant]
    cases request.room with
    | ok _ => exact lockstep.course h
    | error cause => exact .inl ⟨rfl, rfl, h⟩

theorem parted_serve (lockstep : Lockstep s t R Parted) (h : Parted st st') (calls : List Call) :
    Parted (st.serve s calls).final (st'.serve t calls).final := by
  induction calls generalizing st st' with
  | nil => exact h
  | cons c rest ih =>
    rw [serve_cons, serve_cons]
    exact ih (lockstep.parted h c)

/-- **Streams in lockstep give the same answers**, and these are made of the same pieces,
unless the streams part. -/
theorem serve (lockstep : Lockstep s t R Parted) (h : R st st') (calls : List Call) :
    ((st.serve s calls).answers = (st'.serve t calls).answers ∧
        st.delivered s calls = st'.delivered t calls ∧
        R (st.serve s calls).final (st'.serve t calls).final) ∨
      Parted (st.serve s calls).final (st'.serve t calls).final := by
  induction calls generalizing st st' with
  | nil => exact .inl ⟨rfl, rfl, h⟩
  | cons c rest ih =>
    simp only [serve_cons, delivered_cons]
    rcases lockstep.call h c with alike | parted
    case inr => exact .inr (lockstep.parted_serve parted rest)
    have hdelivered : (st.call s c).delivered = (st'.call t c).delivered := by
      simp only [Course.delivered, alike.failure, alike.pieces]
    rcases ih alike.final with ⟨hanswers, hpieces, hfinal⟩ | parted
    · refine .inl ⟨?_, ?_, hfinal⟩
      · simp only [Session.behind, alike.answer, hanswers]
      · rw [hdelivered, hpieces]
    · exact .inr parted

end Lockstep
end ImageStream
end ObjectModule
