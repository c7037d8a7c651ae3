import Mathlib.Logic.Relation
import ObjectModule.CommonMachine
import ObjectModule.Proofs.ImageStream.Delivery
import ObjectModule.Proofs.ImageStream.Losses
import ObjectModule.Proofs.Segment.Extent

/-! How a stream makes progress.

Each look without a run passes a fragment, and each run that is found has a byte to take, so looking
and taking come to an end in as many turns as there are fragments left and bytes wanted, and what
they give is what a read gives (`reading_gives`). What one look and one taking keep holds in every
state that calls can reach (`progress`). -/
namespace ObjectModule

namespace ImageStream
variable {s : Segment} {st : ImageStream} {done : Packed}

variable [Machine]

theorem readAllOnto_of_error {cause : Error} {final : ImageStream}
    (h : st.read s readSize = .error cause final) :
    st.readAllOnto s done = .error cause final := by
  rw [readAllOnto]
  split
  · next given =>
    rw [h] at given
    cases given
    rfl
  · next given =>
    rw [h] at given
    cases given

theorem readAllOnto_of_ok {bytes : Packed} {final : ImageStream}
    (h : st.read s readSize = .ok bytes final) :
    st.readAllOnto s done =
      if 0 < bytes.size then final.readAllOnto s (done ++ bytes) else .ok done final := by
  rw [readAllOnto]
  split
  · next given =>
    rw [h] at given
    cases given
  · next given =>
    rw [h] at given
    cases given
    split <;> rfl

end ImageStream

namespace Delivery
open ImageStream
section Definitions
variable (s : Segment) (maxFill : Int)

variable [Machine]

/-- One thing that is done to a delivery: a look, where no byte is left to take, or taking some. -/
inductive Moves : Delivery → Delivery → Prop
  | looks {x : Delivery} (ready : x.IsReady s maxFill) (read : x.unread = 0) :
      Moves x (x.look s maxFill).next
  | takes {x : Delivery} {want : Nat} (ready : x.IsReady s maxFill) (more : 0 < x.unread)
      (wanted : 0 < want) : Moves x (x.advanced (x.share s maxFill want))

/-- What can become of a delivery. -/
def Reaches : Delivery → Delivery → Prop := Relation.ReflTransGen (Moves s maxFill)

/-- What is known of a delivery that is reached. -/
structure IsSound (x : Delivery) : Prop where
  position : (x.position : Int) ≤ s.length.value
  taken : x.taken ≤ x.buffer.toBytes.length
  passed : x.passed ≤ s.fragments.size
  /-- The fragments skipped, in order, have ascending places. -/
  ascending : ((x.stream s maxFill).skipped.map (·.index)).Pairwise (· < ·)
  skipped : ∀ f ∈ (x.stream s maxFill).skipped, f.index < x.passed

end Definitions

variable {s : Segment} {maxFill : Int} {x y next : Delivery} {want : Nat} {done : Packed}

/-! ### Looking for a run -/

section
variable [Machine]

/-- A delivery that another comes to by passing fragments alone. -/
structure Passes (s : Segment) (maxFill : Int) (x y : Delivery) : Prop where
  ready : y.IsReady s maxFill
  read : y.unread = 0
  position : y.position = x.position
  reached : Reaches s maxFill x y
  same : ∀ (done : Packed) (want : Nat), 0 < want →
    (x.stream s maxFill).readOnto s done want = (y.stream s maxFill).readOnto s done want

theorem Passes.refl (ready : x.IsReady s maxFill) (read : x.unread = 0) :
    Passes s maxFill x x := ⟨ready, read, rfl, .refl, fun _ _ _ => rfl⟩

/-- A look that passes a fragment leaves the rest of the delivery. -/
theorem kept_of_passed (ready : x.IsReady s maxFill) (look : x.look s maxFill = .passed next) :
    next.IsReady s maxFill ∧ next.unread = x.unread ∧ next.position = x.position ∧
      next.passed = x.passed + 1 ∧ x.passed < s.fragments.size := by
  have looked := looks ready
  rw [look] at looked
  cases looked with
  | nothing here | behind here => exact ⟨ready, rfl, rfl, rfl, passed_lt here⟩

theorem Passes.head (ready : x.IsReady s maxFill) (read : x.unread = 0)
    (look : x.look s maxFill = .passed next) (h : Passes s maxFill next y) :
    Passes s maxFill x y where
  ready := h.ready
  read := h.read
  position := h.position.trans (kept_of_passed ready look).2.2.1
  reached := by
    have first : Moves s maxFill x (x.look s maxFill).next := .looks ready read
    rw [look] at first
    exact h.reached.head first
  same done want wanted := by
    rw [readOnto_eq_onward ready read wanted, look]
    exact h.same done want wanted

/-- **Looking for a run comes to an end**, in one look more than there are fragments left. -/
theorem establish_eq_look (ready : x.IsReady s maxFill) (read : x.unread = 0) {n : Nat}
    (enough : s.fragments.size - x.passed < n) :
    ∃ y, Passes s maxFill x y ∧ x.establish s maxFill n = some (y.look s maxFill) ∧
      ∀ next, y.look s maxFill ≠ .passed next := by
  induction n generalizing x with
  | zero => exact absurd enough (Nat.not_lt_zero _)
  | succ n ih =>
    rw [establish]
    cases look : x.look s maxFill with
    | passed next =>
      obtain ⟨ready', read', -, passed, behind⟩ := kept_of_passed ready look
      obtain ⟨y, passes, found, last⟩ := ih ready' (read'.trans read) (by omega)
      exact ⟨y, passes.head ready read look, found, last⟩
    | _ => exact ⟨x, .refl ready read, by rw [look], by simp [look]⟩

/-- What establishing a run comes to. -/
inductive Establishes (s : Segment) (maxFill : Int) (x : Delivery) : Look → Prop
  | loaded {next : Delivery} (ready : next.IsReady s maxFill) (same : next.position = x.position)
      (more : 0 < next.unread) : Establishes s maxFill x (.loaded next)
  | hole {next : Delivery} {width : Nat} {hole : Hole} (gap : Gap s maxFill next width hole)
      (wide : maxFill < width) (error : next.error = some { hole, segment := s.displayName }) :
      Establishes s maxFill x (.hole next)
  /-- Zeros over a gap that may be filled, and cannot be had. -/
  | noRoom {next : Delivery} {width : Nat} {hole : Hole} {cause : CapacityError}
      (gap : Gap s maxFill next width hole) (allowed : width ≤ maxFill)
      (room : Capacity.string width = .error cause) :
      Establishes s maxFill x (.failed (.capacity cause) next)
  /-- A fragment at the position of which the bytes cannot be had: if it can be followed and hides
  nothing, and there is room for as much as the limit, a factor is below zero or too large to be
  counted. -/
  | refused {next : Delivery} {f : Fragment} {cause : CapacityError}
      (here : s.fragments[next.passed - 1]? = some f) (offset : f.offset = next.position)
      (contents : f.contents = .error (.capacity cause))
      (uncounted : f.IsShallow → f.HidesNothing → (expansionLimit : Int) < Machine.memory →
        ¬ (Block.AllCounted f.blocks ∧ f.IsCountable)) :
      Establishes s maxFill x (.failed (.capacity cause) next)

theorem establishes_of_looks (within : ∀ f ∈ s.fragments, f.IsWithinLimit)
    (passes : Passes s maxFill x y) (last : ∀ next, y.look s maxFill ≠ .passed next) :
    Establishes s maxFill x (y.look s maxFill) := by
  have looked := looks passes.ready
  generalize y.look s maxFill = found at last looked ⊢
  cases found with
  | loaded next =>
    obtain ⟨ready, position, more⟩ := loaded_of_looks passes.ready looked
    exact .loaded ready (position.trans passes.position) more
  | passed next => exact absurd rfl (last next)
  | hole next =>
    cases looked with
    | tooWide gap wide => exact .hole (gap.congr rfl rfl) wide rfl
  | failed cause next =>
    cases looked with
    | noRoom gap allowed room => exact .noRoom gap allowed room
    | refused here offset contents =>
      obtain ⟨⟨size, rfl⟩, uncounted⟩ :=
        Fragment.refused_of_contents (within _ (Array.mem_of_getElem? here)) contents
      exact .refused here offset contents uncounted

/-! ### What every move keeps -/

theorem IsSound.look (h : x.IsSound s maxFill) (ready : x.IsReady s maxFill) :
    (x.look s maxFill).next.IsSound s maxFill := by
  have looked := looks ready
  generalize x.look s maxFill = look at looked ⊢
  cases looked with
  | filled => exact { h with taken := Nat.zero_le _ }
  | tooWide | noRoom => exact { h with }
  | data here =>
    exact { h with
      taken := Nat.zero_le _
      passed := passed_lt here
      skipped := fun f hf => Nat.lt_succ_of_lt (h.skipped f hf) }
  | nothing here | refused here =>
    exact { h with
      passed := passed_lt here
      skipped := fun f hf => Nat.lt_succ_of_lt (h.skipped f hf) }
  | @behind f here =>
    -- What is recorded last has the place of the fragment passed last.
    have recorded : (({ x with
        passed := x.passed + 1
        skippedBefore := (x.stream s maxFill).skippedRecord s f :: x.skippedBefore } :
        Delivery).stream s maxFill).skipped =
          (x.stream s maxFill).skipped ++ [(x.stream s maxFill).skippedRecord s f] :=
      List.reverse_cons
    refine { h with passed := passed_lt here, ascending := ?_, skipped := ?_ }
    · rw [Look.next, recorded, List.map_append, List.pairwise_append]
      refine ⟨h.ascending, List.pairwise_singleton _ _, fun before hbefore last hlast => ?_⟩
      obtain ⟨g, hg, rfl⟩ := List.mem_map.mp hbefore
      obtain rfl := List.mem_singleton.mp hlast
      exact h.skipped g hg
    · rw [Look.next, recorded]
      intro g hg
      rcases List.mem_append.mp hg with hg | hg
      · exact Nat.lt_succ_of_lt (h.skipped g hg)
      · obtain rfl := List.mem_singleton.mp hg
        exact Nat.lt_succ_self x.passed

end

theorem IsSound.advanced (h : x.IsSound s maxFill) (ready : x.IsReady s maxFill) :
    (x.advanced (x.share s maxFill want)).IsSound s maxFill := by
  have left := (isReady_iff.mp ready).2
  rw [left_stream] at left
  have fits : x.share s maxFill want ≤ x.unread ∧
      x.share s maxFill want ≤ (s.length.value - x.position).toNat := by
    rw [share, left_stream]
    omega
  have taken := h.taken
  rw [unread] at fits
  refine { h with position := ?_, taken := ?_ }
  · show ((x.position + x.share s maxFill want : Nat) : Int) ≤ s.length.value
    omega
  · show x.taken + x.share s maxFill want ≤ x.buffer.toBytes.length
    omega

theorem IsSound.of_moves [Machine] (h : x.IsSound s maxFill) (moves : Moves s maxFill x y) :
    y.IsSound s maxFill := by
  cases moves with
  | looks ready => exact h.look ready
  | takes ready => exact h.advanced ready

theorem IsSound.of_reaches [Machine] (h : x.IsSound s maxFill) (reaches : Reaches s maxFill x y) :
    y.IsSound s maxFill := by
  induction reaches with
  | refl => exact h
  | tail _ moves ih => exact ih.of_moves moves

/-- Nothing is wrong with a fresh stream. -/
theorem isSound_fresh (length : 0 ≤ s.length.value) :
    ({} : Delivery).IsSound s maxFill where
  position := length
  taken := Nat.zero_le _
  passed := Nat.zero_le _
  ascending := List.Pairwise.nil
  skipped := fun _ hf => nomatch hf

section
variable [Machine]

theorem passed_le_of_moves (moves : Moves s maxFill x y) : x.passed ≤ y.passed := by
  cases moves with
  | takes => exact Nat.le_refl _
  | looks ready =>
    have looked := Delivery.looks ready
    generalize x.look s maxFill = look at looked ⊢
    cases looked <;> first | exact Nat.le_refl _ | exact Nat.le_succ _

/-- A fragment that is passed stays passed. -/
theorem passed_le_of_reaches (reaches : Reaches s maxFill x y) : x.passed ≤ y.passed := by
  induction reaches with
  | refl => exact Nat.le_refl _
  | tail _ moves ih => exact Nat.le_trans ih (passed_le_of_moves moves)

/-! ### Reads come to an end -/

/-- A read that comes to an end, and what the stream gives. -/
inductive Gives (s : Segment) (maxFill : Int) (x : Delivery) :
    Option (EStateM.Result Error Delivery Packed) → EStateM.Result Error ImageStream Packed → Prop
  | ok {y : Delivery} {bytes : Packed} (reached : Reaches s maxFill x y) :
      Gives s maxFill x (some (.ok bytes y)) (.ok bytes (y.stream s maxFill))
  | error {y : Delivery} {cause : Error} (reached : Reaches s maxFill x y) :
      Gives s maxFill x (some (.error cause y)) (.error cause (y.stream s maxFill))

theorem Gives.behind {result : Option (EStateM.Result Error Delivery Packed)}
    {read : EStateM.Result Error ImageStream Packed} (h : Gives s maxFill y result read)
    (reached : Reaches s maxFill x y) : Gives s maxFill x result read := by
  cases h with
  | ok further => exact .ok (reached.trans further)
  | error further => exact .error (reached.trans further)

/-- What a turn begins with. -/
structure Supplies (s : Segment) (maxFill : Int) (x : Delivery) (found : Look) : Prop where
  reached : Reaches s maxFill x found.next
  same : ∀ (done : Packed) (want : Nat), 0 < want →
    (x.stream s maxFill).readOnto s done want = onward s maxFill done want found
  loaded : ∀ y, found = .loaded y → y.IsReady s maxFill ∧ 0 < y.unread
  last : ∀ y, found ≠ .passed y

theorem supplies (ready : x.IsReady s maxFill) :
    ∃ found, x.supplied s maxFill = some found ∧ Supplies s maxFill x found := by
  rw [supplied]
  by_cases more : 0 < x.unread
  · refine ⟨_, if_pos more, .refl, fun _ _ _ => rfl, fun y same => ?_, nofun⟩
    cases same
    exact ⟨ready, more⟩
  · have read : x.unread = 0 := Nat.eq_zero_of_not_pos more
    obtain ⟨y, passes, found, last⟩ := establish_eq_look ready read (Nat.lt_succ_self _)
    refine ⟨_, (if_neg more).trans found, ?_, fun done want wanted => ?_, fun next look => ?_, last⟩
    · exact passes.reached.tail (.looks passes.ready passes.read)
    · exact (passes.same done want wanted).trans
        (readOnto_eq_onward passes.ready passes.read wanted)
    · obtain ⟨ready, -, more⟩ := loaded_of_looks passes.ready (look ▸ looks passes.ready)
      exact ⟨ready, more⟩

/-- **A read comes to an end**, in no more turns than bytes are wanted, and gives what the stream
gives. -/
theorem reading_gives {turns : Nat} (enough : want ≤ turns) (x : Delivery) (done : Packed) :
    Gives s maxFill x (x.reading s maxFill turns want done)
      ((x.stream s maxFill).readOnto s done want) := by
  induction turns generalizing x want done with
  | zero =>
    obtain rfl := Nat.le_zero.mp enough
    rw [reading.eq_def, if_pos (.inl rfl), readOnto_zero]
    exact .ok .refl
  | succ turns ih =>
    rw [reading.eq_def]
    by_cases stopped : want = 0 ∨ ¬ x.IsReady s maxFill
    · rw [if_pos stopped]
      have given : (x.stream s maxFill).readOnto s done want = .ok done (x.stream s maxFill) := by
        rcases stopped with rfl | exhausted
        · exact readOnto_zero
        · exact readOnto_of_exhausted (Bool.not_eq_false _ |>.mp exhausted)
      rw [given]
      exact .ok .refl
    · rw [if_neg stopped]
      obtain ⟨unwanted, ready⟩ := not_or.mp stopped
      have wanted := Nat.pos_of_ne_zero unwanted
      obtain ⟨found, supplied, supplies⟩ := supplies (not_not.mp ready)
      dsimp only
      rw [supplied, supplies.same done want wanted]
      cases found with
      | loaded y =>
        obtain ⟨ready, more⟩ := supplies.loaded y rfl
        have positive := share_pos ready more wanted
        rw [onward, readOnto_eq_advanced ready more wanted]
        exact (ih (by omega) _ _).behind (supplies.reached.tail (.takes ready more wanted))
      | passed y => exact absurd rfl (supplies.last y)
      | hole y => exact .ok supplies.reached
      | failed cause y => exact .error supplies.reached

/-- **Reading all comes to an end**, in one read more than there are bytes left, and gives what the
stream gives. -/
theorem readingAll_gives {reads : Nat} (x : Delivery)
    (enough : (x.stream s maxFill).left < reads) (done : Packed) :
    Gives s maxFill x (x.readingAll s maxFill reads done)
      ((x.stream s maxFill).readAllOnto s done) := by
  induction reads generalizing x done with
  | zero => exact absurd enough (Nat.not_lt_zero _)
  | succ reads ih =>
    have first : Gives s maxFill x (x.reading s maxFill readSize readSize .empty)
      ((x.stream s maxFill).read s readSize) := reading_gives (Nat.le_refl _) x .empty
    rw [readingAll]
    generalize x.reading s maxFill readSize readSize .empty = result at first ⊢
    cases given : (x.stream s maxFill).read s readSize with
    | error cause final =>
      rw [given] at first
      rw [readAllOnto_of_error given]
      cases first with
      | error reached => exact .error reached
    | ok bytes final =>
      have left := left_read given
      rw [given] at first
      rw [readAllOnto_of_ok given]
      cases first with
      | ok reached =>
        dsimp only
        split
        · exact (ih _ (by omega) _).behind reached
        · exact .ok reached

/-! ### Calls -/

theorem Gives.exists_reached {result : Option (EStateM.Result Error Delivery Packed)}
    {course : Course} (h : Gives s maxFill x result course.result) :
    ∃ y, Reaches s maxFill x y ∧ y.stream s maxFill = course.final := by
  rw [Course.result] at h
  generalize course.answer = answer, course.final = final at h ⊢
  cases answer with
  | ok bytes =>
    cases h with
    | ok reached => exact ⟨_, reached, rfl⟩
  | error cause =>
    cases h with
    | error reached => exact ⟨_, reached, rfl⟩

/-- A request that asks for too much leaves the stream as it is, and any other is a read. -/
theorem exists_of_call (s : Segment) (maxFill : Int) (x : Delivery) (request : Request) :
    ∃ y, Reaches s maxFill x y ∧
      y.stream s maxFill = ((x.stream s maxFill).call s (.request request)).final := by
  rw [call]
  cases request.room with
  | error cause => exact ⟨x, .refl, rfl⟩
  | ok _ =>
    have gives : Gives s maxFill x _ ((x.stream s maxFill).read s _) :=
      reading_gives (Nat.le_refl (request.want (x.stream s maxFill))) x .empty
    rw [read_eq_result] at gives
    exact gives.exists_reached

/-- Calls lead from state to state. -/
theorem exists_of_session (s : Segment) (maxFill : Int) (x : Delivery) (calls : List Request) :
    ∃ y, Reaches s maxFill x y ∧
      y.stream s maxFill = ((x.stream s maxFill).session s calls).final := by
  induction calls generalizing x with
  | nil => exact ⟨x, .refl, rfl⟩
  | cons request rest ih =>
    obtain ⟨y, reached, same⟩ := exists_of_call s maxFill x request
    obtain ⟨z, further, last⟩ := ih y
    refine ⟨z, reached.trans further, ?_⟩
    rw [last, session_cons, same]
    rfl

/-- More calls go on where those before them left the stream. -/
theorem final_session_append (s : Segment) (st : ImageStream) (calls more : List Request) :
    (st.session s (calls ++ more)).final = ((st.session s calls).final.session s more).final := by
  induction calls generalizing st with
  | nil => rfl
  | cons request rest ih =>
    rw [List.cons_append, session_cons, session_cons]
    exact ih _

/-- What is known of a delivery of which any calls may still be made. -/
structure Progresses (s : Segment) (maxFill : Int) (x : Delivery) : Prop where
  sound : x.IsSound s maxFill
  passed : ∀ y, Reaches s maxFill x y → x.passed ≤ y.passed
  /-- To establish a run takes at most one look more than there are fragments left. -/
  establishes : x.IsReady s maxFill → x.unread = 0 →
    ∃ found, x.establish s maxFill (s.fragments.size - x.passed + 1) = some found ∧
      Reaches s maxFill x found.next ∧ Establishes s maxFill x found
  /-- Something is taken in each turn. -/
  takes : x.IsReady s maxFill → 0 < x.unread → ∀ want, 0 < want → 0 < x.share s maxFill want
  /-- A read takes at most as many turns as bytes are wanted. -/
  reads : ∀ (want : Nat) (done : Packed),
    Gives s maxFill x (x.reading s maxFill want want done)
      ((x.stream s maxFill).readOnto s done want)
  /-- To read all takes at most one read more than there are bytes left. -/
  readsAll : ∀ done : Packed,
    Gives s maxFill x (x.readingAll s maxFill ((x.stream s maxFill).left + 1) done)
      ((x.stream s maxFill).readAllOnto s done)

/-- **Streams make progress.** Calls lead a fresh stream from one state to another, each of which
is sound. In each of them the search for a run comes to an end: with a run of which something is
left to take, with an error that ends the stream, or with bytes that cannot be had. Something is
taken in each turn, so every read comes to an end, and so does reading all. -/
theorem progress (maxFill : Int) (length : 0 ≤ s.length.value)
    (within : ∀ f ∈ s.fragments, f.IsWithinLimit) :
    (∀ calls more : List Request, ∃ x y : Delivery, Reaches s maxFill {} x ∧
      Reaches s maxFill x y ∧ x.stream s maxFill = (sessionOf s maxFill calls).final ∧
      y.stream s maxFill = (sessionOf s maxFill (calls ++ more)).final) ∧
    ∀ x : Delivery, Reaches s maxFill {} x → x.Progresses s maxFill := by
  refine ⟨fun calls more => ?_, fun x reached => ?_⟩
  · obtain ⟨x, first, hx⟩ := exists_of_session s maxFill {} calls
    obtain ⟨y, further, hy⟩ := exists_of_session s maxFill x more
    refine ⟨x, y, first, further, hx, ?_⟩
    rw [hy, hx, ← final_session_append]
    rfl
  · refine {
      sound := (isSound_fresh length).of_reaches reached
      passed := fun y => passed_le_of_reaches
      establishes := fun ready read => ?_
      takes := fun ready more want => share_pos ready more
      reads := fun want done => reading_gives (Nat.le_refl want) x done
      readsAll := fun done => readingAll_gives x (Nat.lt_succ_self _) done }
    obtain ⟨y, passes, found, last⟩ := establish_eq_look ready read (Nat.lt_succ_self _)
    exact ⟨_, found, passes.reached.tail (.looks passes.ready passes.read),
      establishes_of_looks within passes last⟩

/-- Two bytes, none, one that stands behind, and one behind a gap. -/
def brokenRow : Segment :=
  .holding 6 [(0, [0x61, 0x62]), (2, []), (1, [0x63]), (4, [0x64])]

end

open scoped CommonMachine

/-- Three bytes take the stream past the three fragments before the gap. -/
theorem progress_brokenRow :
    0 ≤ brokenRow.length.value ∧ (∀ f ∈ brokenRow.fragments, f.IsWithinLimit) ∧
    ∃ x : Delivery, x.stream brokenRow 2 = (sessionOf brokenRow 2 [.read 3]).final ∧
      (x.position, x.passed) = (3, 3) ∧
      (x.stream brokenRow 2).skipped.map (·.index) = [2] ∧ x.Progresses brokenRow 2 := by
  have length : 0 ≤ brokenRow.length.value := by decide
  have within : ∀ f ∈ brokenRow.fragments, f.IsWithinLimit := by decide
  obtain ⟨calls, states⟩ := progress 2 length within
  obtain ⟨x, _, reached, _, same, _⟩ := calls [.read 3] []
  refine ⟨length, within, x, same, ?_, ?_, states x reached⟩
  · have final : ((sessionOf brokenRow 2 [.read 3]).final.position,
        (sessionOf brokenRow 2 [.read 3]).final.passed) = (3, 3) := by decide +kernel
    rwa [← same] at final
  · rw [same]
    decide +kernel

/-- A byte behind a gap wider than can be counted. -/
def beyondCounting : Segment := .holding 4 [(0x8000000000000000, [0x61])]

/-- If such a gap may be filled, a fresh stream establishes neither a run nor an error of its own,
and the first read of it fails. -/
theorem progress_beyondCounting :
    0 ≤ beyondCounting.length.value ∧ (∀ f ∈ beyondCounting.fragments, f.IsWithinLimit) ∧
    ({} : Delivery).IsReady beyondCounting 0x8000000000000000 ∧ ({} : Delivery).unread = 0 ∧
    (∀ next : Delivery,
      ({} : Delivery).establish beyondCounting 0x8000000000000000 2 ≠ some (.hole next) ∧
      ({} : Delivery).establish beyondCounting 0x8000000000000000 2 ≠ some (.loaded next)) ∧
    (ofSegment beyondCounting 0x8000000000000000).read beyondCounting 4 =
      .error (.capacity .uncountable) (ofSegment beyondCounting 0x8000000000000000) := by
  have look : ({} : Delivery).look beyondCounting 0x8000000000000000 =
      .failed (.capacity .uncountable) {} := by rfl
  have ready : ({} : Delivery).IsReady beyondCounting 0x8000000000000000 := by decide
  refine ⟨by decide, by decide, ready, rfl, fun next => ⟨?_, ?_⟩, ?_⟩
  · rw [establish, look]
    nofun
  · rw [establish, look]
    nofun
  · show (({} : Delivery).stream beyondCounting 0x8000000000000000).readOnto _ _ _ = _
    rw [readOnto_eq_onward ready rfl (by decide), look]
    rfl

end Delivery
end ObjectModule
