import ObjectModule.Proofs.ImageStream.Widening

/-! Streams that keep the whole of the run they deliver.

A stream keeps only what is left of its run. A `Delivery` keeps all of it, with how much of it has
been taken. It looks at one fragment at a time until a run is found, an image ends in a hole, or
bytes cannot be had (`Looks`); then it takes as much of the run as is wanted, is left, and is still
to come. To read from the stream is to look and to go on behind that (`readOnto_eq_onward`), or to
take and to go on behind that (`readOnto_eq_advanced`). -/
namespace ObjectModule

/-- A stream with the run that was found last. -/
structure Delivery where
  /-- How many bytes have been produced. -/
  position : Nat := 0
  /-- The run that was found last, whole. -/
  buffer : Run := .zeros 0
  /-- How many bytes of it have been produced. -/
  taken : Nat := 0
  /-- How many of the fragments have been passed. -/
  passed : Nat := 0
  skippedBefore : List SkippedFragment := []
  error : Option ReconstructionError := none

/-- What comes of looking for bytes. -/
inductive Look where
  /-- A run to deliver. -/
  | loaded (next : Delivery)
  /-- A fragment that gives none. -/
  | passed (next : Delivery)
  /-- A gap that may not be filled. -/
  | hole (next : Delivery)
  /-- Bytes that cannot be had. -/
  | failed (cause : Error) (next : Delivery)

/-- The state that is left by a look. -/
def Look.next : Look → Delivery
  | loaded next | passed next | hole next | failed _ next => next

namespace Delivery
section Definitions
variable (s : Segment) (maxFill : Int)

/-- The stream itself, which keeps only what is left of the run. -/
def stream (x : Delivery) : ImageStream where
  maxFill
  length := s.length.value
  position := x.position
  pending := x.buffer.drop x.taken
  ahead := s.fragments.toList.drop x.passed
  passed := x.passed
  skippedBefore := x.skippedBefore
  error := x.error

/-- How many bytes of the run have not been produced. -/
def unread (x : Delivery) : Nat := x.buffer.toBytes.length - x.taken

/-- Whether more bytes may come. -/
def IsReady (x : Delivery) : Prop := (x.stream s maxFill).isExhausted = false

instance (x : Delivery) : Decidable (x.IsReady s maxFill) := inferInstanceAs (Decidable (_ = _))

variable [Machine]

/-- A gap, which is filled if that is allowed. -/
def fill (x : Delivery) (width : Nat) (hole : Hole) : Look :=
  if maxFill < width then .hole { x with error := some { hole, segment := s.displayName } }
  else
    match Capacity.string width with
    | .ok () => .loaded { x with buffer := .zeros width, taken := 0 }
    | .error cause => .failed (.capacity cause) x

/-- A look at the first fragment that is not passed, or at the end. -/
def look (x : Delivery) : Look :=
  match s.fragments[x.passed]? with
  | none => x.fill s maxFill (x.stream s maxFill).left .atEnd
  | some f =>
    if x.position < f.offset then x.fill s maxFill (f.offset - x.position).toNat .between
    else if f.offset = x.position then
      match f.contents with
      | .error cause => .failed cause { x with passed := x.passed + 1 }
      | .ok content =>
        if (Run.ofPacked content).isEmpty then .passed { x with passed := x.passed + 1 }
        else .loaded { x with passed := x.passed + 1, buffer := .ofPacked content, taken := 0 }
    else
      .passed { x with
        passed := x.passed + 1
        skippedBefore := (x.stream s maxFill).skippedRecord s f :: x.skippedBefore }

/-- Looks for a run, at most so often. -/
def establish : (looks : Nat) → Delivery → Option Look
  | 0, _ => none
  | looks + 1, x =>
    match x.look s maxFill with
    | .passed next => establish looks next
    | found => some found

/-- The run to take from: what is left of the last one, or the next. -/
def supplied (x : Delivery) : Option Look :=
  if 0 < x.unread then some (.loaded x)
  else x.establish s maxFill (s.fragments.size - x.passed + 1)

/-- How many bytes are taken where so many are wanted. -/
def share (x : Delivery) (want : Nat) : Nat := min x.unread (min want (x.stream s maxFill).left)

/-- The state behind so many more bytes of the run. -/
def advanced (x : Delivery) (count : Nat) : Delivery :=
  { x with taken := x.taken + count, position := x.position + count }

/-- Produces as many bytes as are wanted, behind those already produced, in at most so many
turns. -/
def reading (turns want : Nat) (done : Packed) (x : Delivery) :
    Option (EStateM.Result Error Delivery Packed) :=
  if want = 0 ∨ ¬ x.IsReady s maxFill then some (.ok done x)
  else
    match turns with
    | 0 => none
    | turns + 1 =>
      match x.supplied s maxFill with
      | some (.loaded next) =>
        reading turns (want - next.share s maxFill want)
          (done ++ (next.buffer.drop next.taken).take (next.share s maxFill want))
          (next.advanced (next.share s maxFill want))
      | some (.hole next) => some (.ok done next)
      | some (.failed cause next) => some (.error cause next)
      | some (.passed _) | none => none

/-- Produces all bytes still to come, behind those already produced, in at most so many reads. -/
def readingAll : (reads : Nat) → Packed → Delivery → Option (EStateM.Result Error Delivery Packed)
  | 0, _, _ => none
  | reads + 1, done, x =>
    match x.reading s maxFill ImageStream.readSize ImageStream.readSize .empty with
    | some (.ok bytes next) =>
      if 0 < bytes.size then readingAll reads (done ++ bytes) next else some (.ok done next)
    | failed => failed

end Definitions

variable {s : Segment} {maxFill : Int} {x y next : Delivery} {want : Nat} {done : Packed}

theorem isReady_iff : x.IsReady s maxFill ↔ x.error = none ∧ 0 < (x.stream s maxFill).left :=
  ImageStream.isExhausted_eq_false

/-! ### One look -/

/-- A gap of some width, before the next fragment or behind the last one. -/
inductive Gap (s : Segment) (maxFill : Int) (x : Delivery) : Nat → Hole → Prop
  | between {f : Fragment} {width : Nat} (here : s.fragments[x.passed]? = some f)
      (positive : 0 < width) (offset : f.offset = (x.position + width : Nat)) :
      Gap s maxFill x width .between
  | atEnd (none : s.fragments[x.passed]? = none) (positive : 0 < (x.stream s maxFill).left) :
      Gap s maxFill x (x.stream s maxFill).left .atEnd

theorem Gap.width_pos {width : Nat} {hole : Hole} (gap : Gap s maxFill x width hole) :
    0 < width := by
  cases gap <;> assumption

/-- A gap is there because of the position and of the fragments passed. -/
theorem Gap.congr {width : Nat} {hole : Hole} (gap : Gap s maxFill x width hole)
    (position : y.position = x.position) (passed : y.passed = x.passed) :
    Gap s maxFill y width hole := by
  have left : (y.stream s maxFill).left = (x.stream s maxFill).left := by
    simp only [stream, ImageStream.left, position]
  cases gap with
  | between here positive offset => exact .between (passed ▸ here) positive (position ▸ offset)
  | atEnd none positive => exact left ▸ .atEnd (passed ▸ none) (left ▸ positive)

/-- All that a look can come to. -/
inductive Looks [Machine] (s : Segment) (maxFill : Int) (x : Delivery) : Look → Prop
  | filled {width : Nat} {hole : Hole} (gap : Gap s maxFill x width hole)
      (allowed : width ≤ maxFill) (room : Capacity.string width = .ok ()) :
      Looks s maxFill x (.loaded { x with buffer := .zeros width, taken := 0 })
  | tooWide {width : Nat} {hole : Hole} (gap : Gap s maxFill x width hole)
      (wide : maxFill < width) :
      Looks s maxFill x (.hole { x with error := some { hole, segment := s.displayName } })
  | noRoom {width : Nat} {hole : Hole} {cause : CapacityError} (gap : Gap s maxFill x width hole)
      (allowed : width ≤ maxFill) (room : Capacity.string width = .error cause) :
      Looks s maxFill x (.failed (.capacity cause) x)
  | data {f : Fragment} {content : Packed} (here : s.fragments[x.passed]? = some f)
      (offset : f.offset = x.position) (contents : f.contents = .ok content)
      (some : (Run.ofPacked content).isEmpty = false) :
      Looks s maxFill x
        (.loaded { x with passed := x.passed + 1, buffer := .ofPacked content, taken := 0 })
  | nothing {f : Fragment} {content : Packed} (here : s.fragments[x.passed]? = some f)
      (offset : f.offset = x.position) (contents : f.contents = .ok content)
      (none : (Run.ofPacked content).isEmpty = true) :
      Looks s maxFill x (.passed { x with passed := x.passed + 1 })
  | refused {f : Fragment} {cause : Error} (here : s.fragments[x.passed]? = some f)
      (offset : f.offset = x.position) (contents : f.contents = .error cause) :
      Looks s maxFill x (.failed cause { x with passed := x.passed + 1 })
  | behind {f : Fragment} (here : s.fragments[x.passed]? = some f)
      (offset : f.offset < x.position) :
      Looks s maxFill x (.passed { x with
        passed := x.passed + 1
        skippedBefore := (x.stream s maxFill).skippedRecord s f :: x.skippedBefore })

theorem looks_fill [Machine] {width : Nat} {hole : Hole} (gap : Gap s maxFill x width hole) :
    Looks s maxFill x (x.fill s maxFill width hole) := by
  unfold fill
  by_cases wide : maxFill < width
  · rw [if_pos wide]
    exact .tooWide gap wide
  · rw [if_neg wide]
    cases room : Capacity.string width with
    | ok _ => exact .filled gap (Int.not_lt.mp wide) room
    | error cause => exact .noRoom gap (Int.not_lt.mp wide) room

theorem looks [Machine] (ready : x.IsReady s maxFill) : Looks s maxFill x (x.look s maxFill) := by
  unfold look
  cases here : s.fragments[x.passed]? with
  | none => exact looks_fill (.atEnd here (isReady_iff.mp ready).2)
  | some f =>
    dsimp only
    split
    · exact looks_fill (.between here (by omega) (by omega))
    · split
      · next offset =>
        cases contents : f.contents with
        | error cause => exact .refused here offset contents
        | ok content =>
          dsimp only
          split
          · next none => exact .nothing here offset contents none
          · next some => exact .data here offset contents (Bool.eq_false_iff.mpr some)
      · exact .behind here (by omega)

theorem passed_lt {f : Fragment} (here : s.fragments[x.passed]? = some f) :
    x.passed < s.fragments.size := (Array.getElem?_eq_some_iff.mp here).1

theorem drop_passed {f : Fragment} (here : s.fragments[x.passed]? = some f) :
    s.fragments.toList.drop x.passed = f :: s.fragments.toList.drop (x.passed + 1) := by
  obtain ⟨h, rfl⟩ := Array.getElem?_eq_some_iff.mp here
  exact List.drop_eq_getElem_cons h

theorem unread_pos {run : Run} (h : x.buffer = run) (taken : x.taken = 0)
    (nonempty : run.isEmpty = false) : 0 < x.unread := by
  rw [Run.isEmpty_eq, List.isEmpty_eq_false_iff, ← List.length_pos_iff] at nonempty
  rw [unread, h, taken]
  exact nonempty

variable [Machine]

/-- A run that a look finds has a byte to take. -/
theorem loaded_of_looks (ready : x.IsReady s maxFill) (looked : Looks s maxFill x (.loaded next)) :
    next.IsReady s maxFill ∧ next.position = x.position ∧ 0 < next.unread := by
  cases looked with
  | filled gap =>
    refine ⟨ready, rfl, unread_pos rfl rfl ?_⟩
    simpa [Run.isEmpty] using Nat.ne_of_gt gap.width_pos
  | data here offset contents some => exact ⟨ready, rfl, unread_pos rfl rfl some⟩

/-! ### What a look tells of the stream -/

end Delivery

namespace ImageStream
variable {s : Segment} {st st' : ImageStream} {done : Packed} {want : Nat}

/-- The stream with other fragments ahead. -/
def facing (st : ImageStream) (ahead : List Fragment) : ImageStream := { st with ahead }

variable [Machine]

theorem fill_facing (st : ImageStream) (other : List Fragment) {width : Nat} (hw : 0 < width)
    (hole : Hole) : (st.facing other).fill width hw hole = st.fill width hw hole := by
  unfold fill
  rfl

/-- The fragments ahead are looked at, wherever the stream has them. -/
theorem advance_facing {ahead other : List Fragment} (same : st' = st.facing other)
    (h : 0 < st.left) (h' : 0 < st'.left) : advance s ahead st' h' = advance s ahead st h := by
  subst same
  fun_induction advance s ahead st h with
  | case1 st h =>
    rw [advance, fill_facing]
    rfl
  | case2 f ahead st h gap =>
    have hw : 0 < (f.offset - st.position).toNat := by omega
    have there : f.offset = (st.position + (f.offset - st.position).toNat : Nat) := by omega
    rw [advance_gap h' hw there, fill_facing]
    rfl
  | case3 f ahead st h gap here content hc none ih =>
    rw [advance_empty h' here hc none]
    exact ih h'
  | case4 f ahead st h gap here content hc nonempty => exact advance_data h' here hc nonempty
  | case5 f ahead st h gap here cause hc => exact advance_failed h' here hc
  | case6 f ahead st h gap elsewhere ih =>
    have behind : f.offset < (st.facing other).position := by
      show f.offset < st.position
      omega
    rw [advance_skip h' behind]
    exact ih h'

/-- To go on with a run that was found is to read from a stream that has it. -/
theorem resume_run {run : Run} {nonempty : run.isEmpty = false}
    (h : 0 < want ∧ st.error = none ∧ 0 < st.left) :
    resume s done want (st, .run run nonempty) =
      ({ st with pending := run } : ImageStream).readOnto s done want := by
  have h' : 0 < want ∧ ({ st with pending := run } : ImageStream).error = none ∧
    0 < ({ st with pending := run } : ImageStream).left := h
  rw [readOnto_eq_resume h', supply_of_nonempty nonempty h'.2.2]
  rfl

end ImageStream

namespace Delivery
open ImageStream
variable {s : Segment} {maxFill : Int} {x y next : Delivery} {want : Nat} {done : Packed}

/-- What a read gives that goes on behind a look. -/
def onward [Machine] (s : Segment) (maxFill : Int) (done : Packed) (want : Nat) :
    Look → EStateM.Result Error ImageStream Packed
  | .loaded next | .passed next => (next.stream s maxFill).readOnto s done want
  | .hole next => .ok done (next.stream s maxFill)
  | .failed cause next => .error cause (next.stream s maxFill)

theorem isEmpty_pending (read : x.unread = 0) : (x.stream s maxFill).pending.isEmpty = true :=
  Run.isEmpty_drop_of_le (Nat.le_of_sub_eq_zero read)

section
variable [Machine]

/-- With nothing left of the run, a read looks ahead. -/
theorem readOnto_eq_resume_advance (ready : x.IsReady s maxFill) (read : x.unread = 0)
    (wanted : 0 < want) :
    (x.stream s maxFill).readOnto s done want =
      resume s done want (advance s (s.fragments.toList.drop x.passed) (x.stream s maxFill)
        (isReady_iff.mp ready).2) := by
  rw [readOnto_eq_resume ⟨wanted, isReady_iff.mp ready⟩, supply_of_isEmpty (isEmpty_pending read)]
  rfl

theorem advance_of_gap {width : Nat} {hole : Hole} (gap : Gap s maxFill x width hole)
    (h : 0 < (x.stream s maxFill).left) :
    ∃ positive, advance s (s.fragments.toList.drop x.passed) (x.stream s maxFill) h =
      (x.stream s maxFill, (x.stream s maxFill).fill width positive hole) := by
  cases gap with
  | between here positive offset =>
    refine ⟨positive, ?_⟩
    rw [drop_passed here, advance_gap h positive offset, ← drop_passed here]
    rfl
  | atEnd none positive =>
    have hdrop : s.fragments.toList.drop x.passed = [] := by
      rw [List.drop_eq_nil_iff]
      exact Array.getElem?_eq_none_iff.mp none
    refine ⟨positive, ?_⟩
    rw [hdrop, advance, ← hdrop]
    rfl

/-- To look further ahead is to read behind what was passed. -/
theorem resume_advance_passed {st : ImageStream} {h : 0 < st.left} (ready : x.IsReady s maxFill)
    (read : x.unread = 0) (wanted : 0 < want)
    (same : x.stream s maxFill = st.facing (s.fragments.toList.drop x.passed)) :
    resume s done want (advance s (s.fragments.toList.drop x.passed) st h) =
      (x.stream s maxFill).readOnto s done want := by
  rw [readOnto_eq_resume_advance ready read wanted]
  exact congrArg (resume s done want) (advance_facing same h (isReady_iff.mp ready).2).symm

/-- To read is to look and to go on behind that. -/
theorem readOnto_eq_onward (ready : x.IsReady s maxFill) (read : x.unread = 0)
    (wanted : 0 < want) :
    (x.stream s maxFill).readOnto s done want = onward s maxFill done want (x.look s maxFill) := by
  have h : 0 < want ∧ (x.stream s maxFill).error = none ∧ 0 < (x.stream s maxFill).left :=
    ⟨wanted, isReady_iff.mp ready⟩
  rw [readOnto_eq_resume_advance ready read wanted]
  have looked := looks ready
  generalize x.look s maxFill = look at looked ⊢
  cases looked with
  | @filled width hole gap allowed room =>
    have narrow : ¬ (x.stream s maxFill).maxFill < width := Int.not_lt.mpr allowed
    obtain ⟨positive, found⟩ := advance_of_gap gap h.2.2
    rw [found, ImageStream.fill, if_neg narrow, room]
    exact resume_run h
  | @tooWide width hole gap wide =>
    have wide : (x.stream s maxFill).maxFill < width := wide
    obtain ⟨positive, found⟩ := advance_of_gap gap h.2.2
    rw [found, ImageStream.fill, if_pos wide]
    rfl
  | @noRoom width hole cause gap allowed room =>
    have narrow : ¬ (x.stream s maxFill).maxFill < width := Int.not_lt.mpr allowed
    obtain ⟨positive, found⟩ := advance_of_gap gap h.2.2
    rw [found, ImageStream.fill, if_neg narrow, room]
    rfl
  | data here offset contents some =>
    rw [drop_passed here, advance_data h.2.2 offset contents some]
    exact resume_run h
  | nothing here offset contents none =>
    rw [drop_passed here, advance_empty h.2.2 offset contents none]
    exact resume_advance_passed (x := { x with passed := x.passed + 1 }) ready read wanted rfl
  | refused here offset contents =>
    rw [drop_passed here, advance_failed h.2.2 offset contents]
    rfl
  | behind here offset =>
    rw [drop_passed here, advance_skip h.2.2 offset]
    exact resume_advance_passed (x := { x with
      passed := x.passed + 1
      skippedBefore := (x.stream s maxFill).skippedRecord s _ :: x.skippedBefore })
      ready read wanted rfl

end

/-! ### Taking bytes -/

theorem left_stream (s : Segment) (maxFill : Int) (x : Delivery) :
    (x.stream s maxFill).left = (s.length.value - x.position).toNat := rfl

/-- **A turn takes at least one byte**: none of the three that limit it is zero. -/
theorem share_pos (ready : x.IsReady s maxFill) (more : 0 < x.unread) (wanted : 0 < want) :
    0 < x.share s maxFill want := by
  have left := (isReady_iff.mp ready).2
  rw [share]
  omega

theorem size_take_run (x : Delivery) (count : Nat) :
    ((x.buffer.drop x.taken).take count).size = min count x.unread := by
  rw [Run.size_take, Run.toBytes_drop, List.length_drop, unread]

theorem take_share : (x.buffer.drop x.taken).take (x.share s maxFill want) =
    (x.buffer.drop x.taken).take (min want (x.stream s maxFill).left) := by
  have length : (x.buffer.drop x.taken).toBytes.length = x.unread := by
    rw [Run.toBytes_drop, List.length_drop, unread]
  by_cases all : x.unread ≤ min want (x.stream s maxFill).left
  · exact Run.take_eq_take (by rw [length, share]; omega) (by omega)
  · rw [share, Nat.min_eq_right (by omega)]

/-- The stream behind bytes taken from the run. -/
theorem stream_advanced (x : Delivery) (count : Nat) :
    (x.advanced count).stream s maxFill =
      (x.stream s maxFill).deliver (x.buffer.drop x.taken) count := by
  rw [deliver, Run.drop_drop]
  rfl

variable [Machine]

/-- To read from a run is to take from it what is wanted and to read on. -/
theorem readOnto_eq_advanced (ready : x.IsReady s maxFill) (more : 0 < x.unread)
    (wanted : 0 < want) :
    (x.stream s maxFill).readOnto s done want =
      ((x.advanced (x.share s maxFill want)).stream s maxFill).readOnto s
        (done ++ (x.buffer.drop x.taken).take (x.share s maxFill want))
        (want - x.share s maxFill want) := by
  have nonempty : (x.stream s maxFill).pending.isEmpty = false :=
    Run.isEmpty_drop (Nat.lt_of_sub_pos more)
  have hsize : ((x.buffer.drop x.taken).take (min want (x.stream s maxFill).left)).size =
      x.share s maxFill want := by
    rw [size_take_run, share, Nat.min_comm]
  rw [readOnto_eq_resume ⟨wanted, isReady_iff.mp ready⟩, supply_of_nonempty nonempty,
    stream_advanced, take_share]
  show ((x.stream s maxFill).deliver (x.buffer.drop x.taken) _).readOnto s _ _ = _
  rw [← hsize]
  rfl

end Delivery
end ObjectModule
