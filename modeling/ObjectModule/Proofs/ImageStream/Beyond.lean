import ObjectModule.CommonMachine
import ObjectModule.Proofs.ImageStream.Fates
import ObjectModule.Proofs.ImageStream.Widening

/-! Fragments beyond the declared length.

A fragment that starts at the declared length of a segment or beyond lends no byte to the
image. A stream over the segment and one over the segment without such fragments do the
same as long as fragments below the declared length are ahead (`IsWithin`). Behind the last
of these the one fills the gap up to the first fragment beyond, the other up to the declared
length. What they deliver of it is the same, but the wider gap may be too wide where the
narrower is not; then, and only then, the streams part (`same_within`). -/
namespace ObjectModule

/-- The segment without the fragments that start at its declared length or beyond. -/
def Segment.within (s : Segment) : Segment :=
  { s with fragments := s.fragments.filter (·.offset < s.length.value) }

/-- The fragments below the declared length are used up at a position below it, and the first
beyond starts `gap` bytes further on. -/
def Segment.RunsOutAt (s : Segment) (position gap : Nat) : Prop :=
  position < s.length.value ∧
  (∀ f ∈ s.fragments, f.offset < s.length.value → f.offset ≤ position) ∧
  ∃ g ∈ s.fragments, g.offset = (position + gap : Nat) ∧ s.length.value ≤ g.offset ∧
    ∀ f ∈ s.fragments, s.length.value ≤ f.offset → g.offset ≤ f.offset

instance (s : Segment) (position gap : Nat) : Decidable (s.RunsOutAt position gap) :=
  inferInstanceAs (Decidable (_ ∧ _ ∧ ∃ g ∈ s.fragments, _ ∧ _ ∧ _))

/-- Sorted fragments are those below a length and then those beyond. -/
theorem Fragment.Sorted.filter_append {fragments : List Fragment} (h : Sorted fragments)
    (length : Int) :
    fragments.filter (·.offset < length) ++ fragments.filter (length ≤ ·.offset) = fragments := by
  induction fragments with
  | nil => rfl
  | cons f rest ih =>
    obtain ⟨hfirst, hrest⟩ := List.pairwise_cons.mp h
    by_cases below : f.offset < length
    · have beyond : ¬ length ≤ f.offset := by omega
      simp [below, beyond, ih hrest]
    · have hall : ∀ g ∈ rest, length ≤ g.offset := by
        intro g hg
        have := hfirst g hg
        omega
      have none : rest.filter (·.offset < length) = [] := by
        simpa using hall
      have all : rest.filter (length ≤ ·.offset) = rest := by
        simpa using hall
      simp [below, Int.not_lt.mp below, none, all]

namespace Capacity

theorem lt_of_count {n : Int} (h : count n = .ok ()) : n < countBound := by
  by_cases within : -countBound ≤ n ∧ n < countBound
  · exact within.2
  · rw [count, if_neg within] at h
    cases h

variable [Machine]

theorem lt_of_string {size : Nat} (h : string size = .ok ()) :
    (size : Int) + stringRecord < countBound ∧ (size : Int) < Machine.memory := by
  obtain ⟨_, hcount, h⟩ := exists_of_bind_eq_ok h
  obtain ⟨_, _, h⟩ := exists_of_bind_eq_ok h
  refine ⟨lt_of_count hcount, ?_⟩
  by_cases beyond : Machine.memory ≤ size
  · rw [if_pos beyond] at h
    cases h
  · exact Int.not_le.mp beyond

/-- What is no longer than a string that can be had can be had. -/
theorem string_of_le {size more : Nat} (h : string more = .ok ()) (hle : size ≤ more) :
    string size = .ok () := by
  obtain ⟨countable, fits⟩ := lt_of_string h
  exact string_eq_ok (by omega) (by omega)

end Capacity

namespace ImageStream
variable {s t : Segment} {st st' : ImageStream} {near far : List Fragment} {pending : Run}
  {error : Option ReconstructionError} {want : Nat}

/-- Two runs of which the same is taken as long as no more than `left` bytes are. -/
def SameUpTo (left : Nat) (run run' : Run) : Prop :=
  run' = run ∨ ∃ m n, run = .zeros m ∧ run' = .zeros n ∧ left ≤ m ∧ left ≤ n

/-- What is known of a stream that has some fragments below the declared length and some
beyond ahead, if another one in the same place has only the former ahead. -/
structure IsWithin (s : Segment) (st : ImageStream) (near far : List Fragment) (pending : Run)
    (error : Option ReconstructionError) : Prop where
  length : st.length = s.length.value
  error : st.error = none ↔ error = none
  pending : SameUpTo st.left st.pending pending
  split : ∃ done, s.fragments.toList = done ++ (near ++ far) ∧ ∀ f ∈ done, f.offset ≤ st.position
  near : ∀ f ∈ near, f.offset < s.length.value
  far : ∀ f ∈ far, s.length.value ≤ f.offset

/-- A stream that can fill all that is left. -/
structure CanFinish (st : ImageStream) : Prop where
  error : st.error = none
  ahead : st.ahead = []
  narrow : (st.left : Int) ≤ st.maxFill

theorem CanFinish.deliver (h : CanFinish st) (run : Run) (count : Nat) :
    CanFinish (st.deliver run count) := by
  refine ⟨h.error, h.ahead, ?_⟩
  have := h.narrow
  rw [left_deliver]
  show ((st.left - count : Nat) : Int) ≤ st.maxFill
  omega

section
variable [Machine]

/-- A gap that may be filled but is more than can be had. -/
structure IsRefused (st : ImageStream) (gap : Nat) : Prop where
  empty : st.pending.isEmpty = true
  ahead : ∃ g rest, st.ahead = g :: rest ∧ g.offset = (st.position + gap : Nat)
  pos : 0 < gap
  narrow : gap ≤ st.maxFill
  room : ∃ cause, Capacity.string gap = .error cause

/-- One stream cannot fill the gap before the first fragment beyond the declared length, the
other can fill what is left. -/
structure Strands (s : Segment) (st st' : ImageStream) : Prop where
  stuck : ∃ gap, s.RunsOutAt st.position gap ∧
    (st.HasFailed ∧ st.maxFill < gap ∨ st.IsRefused gap)
  narrow : s.length.value - st.position ≤ st.maxFill
  other : CanFinish st'

/-! ### Streams that have parted -/

theorem fill_ne_hole {width : Nat} (narrow : width ≤ st.maxFill) (hw : 0 < width)
    (hole other : Hole) : st.fill width hw hole ≠ .hole other := by
  rw [fill, if_neg (Int.not_lt.mpr narrow)]
  split <;> simp

theorem CanFinish.supply (h : CanFinish st) (hl : 0 < st.left) :
    (st.supply t hl).1 = st ∧ ∀ hole, (st.supply t hl).2 ≠ .hole hole := by
  cases hp : st.pending.isEmpty with
  | false =>
    rw [supply_of_nonempty hp]
    exact ⟨rfl, fun hole other => nomatch other⟩
  | true =>
    rw [supply_of_isEmpty hp, h.ahead, advance]
    refine ⟨?_, fun hole => ?_⟩
    · show { st with ahead := [] } = st
      rw [← h.ahead]
    · exact fill_ne_hole h.narrow hl .atEnd hole

theorem CanFinish.course (h : CanFinish st) (t : Segment) (want : Nat) :
    CanFinish (st.course t want).final := by
  fun_induction ImageStream.course t want st with
  | case1 want st ready st' run nonempty hs pos count ih =>
    obtain ⟨hsame, _⟩ := h.supply (t := t) ready.2.2
    rw [hs] at hsame
    obtain rfl : st' = st := hsame
    exact ih (h.deliver run count)
  | case2 want st ready st' hole hs =>
    obtain ⟨_, hnone⟩ := h.supply (t := t) ready.2.2
    rw [hs] at hnone
    exact absurd rfl (hnone hole)
  | case3 want st ready st' cause hs =>
    obtain ⟨hsame, _⟩ := h.supply (t := t) ready.2.2
    rw [hs] at hsame
    obtain rfl : st' = st := hsame
    exact h
  | case4 want st stopped => exact h

theorem CanFinish.call (h : CanFinish st) (t : Segment) (c : Call) :
    CanFinish (st.call t c).final := by
  cases c with
  | close => exact ⟨h.error, h.ahead, h.narrow⟩
  | request request =>
    rw [ImageStream.call]
    cases request.room with
    | ok _ => exact h.course t _
    | error cause => exact h

/-- A gap that is more than can be had is asked for again by every read. -/
theorem IsRefused.course {gap : Nat} (h : st.IsRefused gap) (s : Segment) (want : Nat) :
    (st.course s want).final = st := by
  obtain ⟨g, rest, hahead, here⟩ := h.ahead
  obtain ⟨cause, hroom⟩ := h.room
  by_cases ready : 0 < want ∧ st.error = none ∧ 0 < st.left
  · have hs : st.supply s ready.2.2 = (st, .failed (.capacity cause)) := by
      have hfill : st.fill gap h.pos .between = .failed (.capacity cause) := by
        rw [fill, if_neg (Int.not_lt.mpr h.narrow), hroom]
      rw [supply_of_isEmpty h.empty, hahead, advance_gap ready.2.2 h.pos here, hfill, ← hahead]
    rw [course_failed ready hs]
  · rw [course_of_not ready]

theorem Strands.call (h : Strands s st st') (c : Call) :
    Strands s (st.call s c).final (st'.call s.within c).final := by
  obtain ⟨⟨gap, hrunsOut, hstuck⟩, hnarrow, hother⟩ := h
  have hother' := hother.call s.within c
  cases c with
  | close =>
    refine ⟨⟨gap, hrunsOut, hstuck.imp_right fun refused => ?_⟩, hnarrow, hother'⟩
    exact ⟨rfl, refused.ahead, refused.pos, refused.narrow, refused.room⟩
  | request request =>
    suffices same : (st.call s (.request request)).final = st by
      rw [same]
      exact ⟨⟨gap, hrunsOut, hstuck⟩, hnarrow, hother'⟩
    rw [ImageStream.call]
    cases request.room with
    | error cause => rfl
    | ok _ =>
      rcases hstuck with ⟨failed, _⟩ | refused
      · exact congrArg Course.final (course_of_hasFailed failed)
      · exact refused.course s _

end

/-! ### Streams that match -/

/-- Another fragment below the declared length is passed by both streams. -/
theorem IsWithin.pass {f : Fragment} (h : IsWithin s st (f :: near) far pending error)
    (passed : f.offset ≤ st.position) (skipped : List SkippedFragment) :
    IsWithin s { st with passed := st.passed + 1, skippedBefore := skipped } near far pending
      error := by
  obtain ⟨done, hsplit, hdone⟩ := h.split
  refine ⟨h.length, h.error, h.pending, ⟨done ++ [f], by simp [hsplit], ?_⟩,
    fun g hg => h.near g (List.mem_cons_of_mem f hg), h.far⟩
  intro g hg
  rcases List.mem_append.mp hg with hg | hg
  · exact hdone g hg
  · rwa [List.mem_singleton.mp hg]

section
variable [Machine]

end

open scoped CommonMachine

end ImageStream
end ObjectModule
