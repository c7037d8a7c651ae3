import ObjectModule.Proofs.ImageStream.Following
import ObjectModule.Proofs.ImageStream.Lockstep

/-! Streams that may fill wider gaps.

Of two streams over one segment that differ in `maxFill` alone, the one that may fill less
does what the other does until it meets a gap too wide for it; there it ends with an error
(`lockstep_widened`). -/
namespace ObjectModule.ImageStream

/-- The stream with another width of gaps that may be filled. -/
def widened (st : ImageStream) (more : Int) : ImageStream := { st with maxFill := more }

/-- The other stream may fill at least as much, and is the same otherwise. -/
def IsNarrower (st st' : ImageStream) : Prop := ∃ more, st.maxFill ≤ more ∧ st' = st.widened more

/-- Whether a stream has ended with an error. -/
def HasFailed (st : ImageStream) : Prop := st.error.isSome = true

instance (st : ImageStream) : Decidable st.HasFailed :=
  inferInstanceAs (Decidable (st.error.isSome = true))

variable {s : Segment} {st st' : ImageStream} {want : Nat}

variable [Machine]

theorem supply_of_nonempty (more : st.pending.isEmpty = false) (h : 0 < st.left) :
    st.supply s h = (st, .run st.pending more) := by
  unfold supply
  split
  · rfl
  · next none =>
    rw [more] at none
    cases none

/-! ### Failed streams -/

theorem course_of_hasFailed (h : st.HasFailed) : st.course s want = ⟨[], st, none⟩ := by
  refine course_of_not fun ready => ?_
  rw [HasFailed, ready.2.1] at h
  cases h

/-- An error stays. -/
theorem HasFailed.call (h : st.HasFailed) (c : Call) : (st.call s c).final.HasFailed := by
  cases c with
  | close => exact h
  | request request =>
    rw [ImageStream.call]
    cases request.room with
    | ok _ => rwa [course_of_hasFailed h]
    | error cause => exact h

theorem hasFailed_course {hole : Hole} (h : 0 < want ∧ st.error = none ∧ 0 < st.left)
    (hs : st.supply s h.2.2 = (st', .hole hole)) : (st.course s want).final.HasFailed := by
  rw [course_hole h hs]
  rfl

/-! ### The wider stream goes along -/

/-- What is found with a wider fill allowed, unless a gap is too wide without. -/
def Widens (more : Int) (x y : ImageStream × Supply) : Prop :=
  (∃ hole, x.2 = .hole hole) ∨
    ((∀ hole, x.2 ≠ .hole hole) ∧ x.1.maxFill ≤ more ∧ y = (x.1.widened more, x.2))

theorem widens_fill {more : Int} (hmore : st.maxFill ≤ more) {width : Nat} (hw : 0 < width)
    (hole : Hole) (st' : ImageStream) (hmore' : st'.maxFill ≤ more) :
    Widens more (st', st.fill width hw hole)
      (st'.widened more, (st.widened more).fill width hw hole) := by
  by_cases wide : st.maxFill < width
  · left
    refine ⟨hole, ?_⟩
    show st.fill width hw hole = .hole hole
    rw [fill, if_pos wide]
  · right
    have wide' : ¬ (st.widened more).maxFill < width := by
      show ¬ more < width
      omega
    have same : (st.widened more).fill width hw hole = st.fill width hw hole := by
      rw [fill, fill, if_neg wide, if_neg wide']
    refine ⟨fun other => ?_, hmore', by rw [same]⟩
    show st.fill width hw hole ≠ .hole other
    rw [fill, if_neg wide]
    split <;> simp

theorem widens_advance {more : Int} {ahead : List Fragment} (h : 0 < st.left)
    (h' : 0 < (st.widened more).left) (hmore : st.maxFill ≤ more) :
    Widens more (advance s ahead st h) (advance s ahead (st.widened more) h') := by
  fun_induction advance s ahead st h with
  | case1 st h => exact widens_fill hmore h .atEnd { st with ahead := [] } hmore
  | case2 f ahead st h gap =>
    have hw : 0 < (f.offset - st.position).toNat := by omega
    have there : f.offset = (st.position + (f.offset - st.position).toNat : Nat) := by omega
    rw [advance_gap h' hw there]
    exact widens_fill hmore hw .between { st with ahead := f :: ahead } hmore
  | case3 f ahead st h gap here content hc none ih =>
    rw [advance_empty h' here hc none]
    exact ih h' hmore
  | case4 f ahead st h gap here content hc nonempty =>
    rw [advance_data h' here hc nonempty]
    exact .inr ⟨(fun hole other => by cases other), hmore, rfl⟩
  | case5 f ahead st h gap here cause hc =>
    rw [advance_failed h' here hc]
    exact .inr ⟨(fun hole other => by cases other), hmore, rfl⟩
  | case6 f ahead st h gap other ih =>
    have behind : f.offset < (st.widened more).position := by
      show f.offset < st.position
      omega
    rw [advance_skip h' behind]
    exact ih h' hmore

theorem widens_supply {more : Int} (h : 0 < st.left) (h' : 0 < (st.widened more).left)
    (hmore : st.maxFill ≤ more) :
    Widens more (st.supply s h) ((st.widened more).supply s h') := by
  cases hp : st.pending.isEmpty with
  | true =>
    have hp' : (st.widened more).pending.isEmpty = true := hp
    rw [supply_of_isEmpty hp, supply_of_isEmpty hp']
    exact widens_advance h h' hmore
  | false =>
    have hp' : (st.widened more).pending.isEmpty = false := hp
    rw [supply_of_nonempty hp, supply_of_nonempty hp']
    exact .inr ⟨(fun hole other => by cases other), hmore, rfl⟩

/-- **A stream that may fill less does the same or ends with an error.** -/
theorem lockstep_widened (s : Segment) :
    Lockstep s s IsNarrower fun st _ => st.HasFailed where
  left := by
    rintro st _ ⟨more, _, rfl⟩
    rfl
  error := by
    rintro st _ ⟨more, _, rfl⟩
    exact Iff.rfl
  close := by
    rintro st _ ⟨more, hmore, rfl⟩
    exact ⟨more, hmore, rfl⟩
  supply := by
    rintro st _ h h' ⟨more, hmore, rfl⟩ herror
    rcases widens_supply (s := s) h h' hmore with ⟨hole, hhole⟩ | ⟨none, hmaxFill, hfound⟩
    · exact .inr fun want hwant => hasFailed_course ⟨hwant, herror, h⟩ (Prod.ext rfl hhole)
    · left
      rw [hfound]
      generalize st.supply s h = found at none hmaxFill
      obtain ⟨next, run | hole | cause⟩ := found
      · exact .run (fun _ _ => rfl) fun _ _ => ⟨more, hmaxFill, rfl⟩
      · exact absurd rfl (none hole)
      · exact .failed ⟨more, hmaxFill, rfl⟩
  parted h c := h.call c

end ObjectModule.ImageStream
