import ObjectModule.CommonMachine
import ObjectModule.Proofs.ImageStream.Widening
import ObjectModule.Proofs.Segment.Life

/-! Streams that share a segment.

Any number of streams may be open over one segment, each with its own width of gaps that may be
filled, and between their reads the segment may be asked for other things. A stream keeps the
length the segment had when it was opened, but finds the fragments in the segment as it is when
it reads (`ImageStream.lookingAt`). Opening freezes the segment, so these are the same ever after,
and what a stream shows is what it would show alone (`sights_eq_alone`). Only the names that a
stream gives to what it skips, and to a hole it ends at, are those the segment has at the time:
streams that differ in nothing else show the same (`lockstep_resembles`). -/
namespace ObjectModule

/-- What a stream shows when bytes are asked for: the answer, where it stands then, the places of
the fragments skipped so far and whether it has ended with an error. -/
structure Sight where
  answer : Except Error Packed
  position : Nat
  skipped : List (Nat × Int)
  hasFailed : Bool

namespace ImageStream

/-- Which fragment was skipped: its number and its offset. -/
def skippedPlaces (records : List SkippedFragment) : List (Nat × Int) :=
  records.map fun record => (record.index, record.offset)

/-- What is seen of a stream behind an answer. -/
def sight (st : ImageStream) (answer : Except Error Packed) : Sight :=
  ⟨answer, st.position, skippedPlaces st.skipped, st.error.isSome⟩

/-- What a request shows, and the stream behind it. -/
def ask [Machine] (s : Segment) (st : ImageStream) (request : Request) : Sight × ImageStream :=
  match st.perform s request with
  | .ok data next => (next.sight (.ok data), next)
  | .error cause next => (next.sight (.error cause), next)

/-- What requests show that are made one after another, whatever became of those before. -/
def sights [Machine] (s : Segment) : ImageStream → List Request → List Sight
  | _, [] => []
  | st, request :: rest => (st.ask s request).1 :: sights s (st.ask s request).2 rest

/-- The stream with the fragments ahead of it as they are in a segment now. -/
def lookingAt (st : ImageStream) (s : Segment) : ImageStream :=
  { st with ahead := s.fragments.toList.drop st.passed }

/-! ### Streams that tell the same under other names -/

/-- The stream with other records of what was skipped and of how it ended. -/
def retold (st : ImageStream) (skippedBefore : List SkippedFragment)
    (error : Option ReconstructionError) : ImageStream :=
  { st with skippedBefore, error }

/-- The other stream has skipped the same fragments, has ended with an error if this one has, and
is the same otherwise; what is ahead of both is what they have not passed. -/
def Resembles (fragments : List Fragment) (st st' : ImageStream) : Prop :=
  st.ahead = fragments.drop st.passed ∧
    ∃ skippedBefore error, st' = st.retold skippedBefore error ∧
      skippedPlaces skippedBefore = skippedPlaces st.skippedBefore ∧
      error.isSome = st.error.isSome

variable {s t : Segment} {fragments : List Fragment} {st st' : ImageStream}
  {skippedBefore : List SkippedFragment} {error : Option ReconstructionError}

theorem Resembles.sight (h : Resembles fragments st st') (answer : Except Error Packed) :
    st.sight answer = st'.sight answer := by
  obtain ⟨_, skippedBefore, error, rfl, hskipped, herror⟩ := h
  simp only [skippedPlaces] at hskipped
  simp only [ImageStream.sight, skipped, skippedPlaces, retold, List.map_reverse, hskipped, herror]

theorem fill_retold [Machine] (st : ImageStream) (skippedBefore : List SkippedFragment)
    (error : Option ReconstructionError) {width : Nat} (hw : 0 < width) (hole : Hole) :
    (st.retold skippedBefore error).fill width hw hole = st.fill width hw hole := by
  unfold fill
  rfl

/-- What is found ahead is the same whatever was recorded before, and under any names. -/
theorem advance_retold [Machine] (s t : Segment) (ahead : List Fragment) (st : ImageStream)
    (h : 0 < st.left) (h' : 0 < (st.retold skippedBefore error).left)
    (hskipped : skippedPlaces skippedBefore = skippedPlaces st.skippedBefore) :
    ∃ skippedBefore', advance t ahead (st.retold skippedBefore error) h' =
        ((advance s ahead st h).1.retold skippedBefore' error, (advance s ahead st h).2) ∧
      skippedPlaces skippedBefore' = skippedPlaces (advance s ahead st h).1.skippedBefore := by
  fun_induction advance s ahead st h generalizing skippedBefore with
  | case1 st h =>
    refine ⟨skippedBefore, ?_, hskipped⟩
    dsimp only
    rw [advance, fill_retold]
    rfl
  | case2 f ahead st h gap =>
    have hw : 0 < (f.offset - st.position).toNat := by omega
    have there : f.offset = (st.position + (f.offset - st.position).toNat : Nat) := by omega
    refine ⟨skippedBefore, ?_, hskipped⟩
    dsimp only
    rw [advance_gap h' hw there, fill_retold]
    rfl
  | case3 f ahead st h gap here content hc none ih =>
    rw [advance_empty h' here hc none]
    exact ih h' hskipped
  | case4 f ahead st h gap here content hc nonempty =>
    rw [advance_data h' here hc nonempty]
    exact ⟨skippedBefore, rfl, hskipped⟩
  | case5 f ahead st h gap here cause hc =>
    rw [advance_failed h' here hc]
    exact ⟨skippedBefore, rfl, hskipped⟩
  | case6 f ahead st h gap other ih =>
    have behind : f.offset < (st.retold skippedBefore error).position := by
      show f.offset < st.position
      omega
    rw [advance_skip h' behind]
    exact ih h' (congrArg ((st.passed, f.offset) :: ·) hskipped)

/-- What is ahead of a stream stays what it has not passed. -/
theorem ahead_advance [Machine] (s : Segment) {ahead : List Fragment} (h : 0 < st.left)
    (hahead : ahead = fragments.drop st.passed) :
    (advance s ahead st h).1.ahead = fragments.drop (advance s ahead st h).1.passed := by
  have behind {f : Fragment} {ahead : List Fragment} {passed : Nat}
      (h : f :: ahead = fragments.drop passed) : ahead = fragments.drop (passed + 1) := by
    rw [← List.tail_drop, ← h, List.tail_cons]
  fun_induction advance s ahead st h with
  | case1 st h => exact hahead
  | case2 f ahead st h gap => exact hahead
  | case3 f ahead st h gap here content hc none ih => exact ih (behind hahead)
  | case4 f ahead st h gap here content hc nonempty => exact behind hahead
  | case5 f ahead st h gap here cause hc => exact behind hahead
  | case6 f ahead st h gap other ih => exact ih (behind hahead)

/-- Streams that resemble each other and find the same still do behind it. -/
theorem Resembles.meets (h : Resembles fragments st st') (found : Supply) :
    Meets s t (Resembles fragments) (st, found) (st', found) := by
  obtain ⟨hahead, skippedBefore, error, rfl, hskipped, herror⟩ := h
  cases found with
  | run run nonempty =>
    exact .run (fun _ _ => rfl) fun _ _ => ⟨hahead, skippedBefore, error, rfl, hskipped, herror⟩
  | hole hole => exact .hole ⟨hahead, skippedBefore, _, rfl, hskipped, rfl⟩
  | failed cause => exact .failed ⟨hahead, skippedBefore, error, rfl, hskipped, herror⟩

/-- **Streams that resemble each other give the same answers**, whatever segments lend them
names, and go on to resemble each other. -/
theorem lockstep_resembles [Machine] (s t : Segment) (fragments : List Fragment) :
    Lockstep s t (Resembles fragments) fun _ _ => False where
  left := by
    rintro st _ ⟨_, _, _, rfl, _⟩
    rfl
  error := by
    rintro st _ ⟨_, _, error, rfl, _, herror⟩
    show st.error = none ↔ error = none
    rw [← Option.not_isSome_iff_eq_none, ← Option.not_isSome_iff_eq_none, herror]
  close := by
    rintro st _ ⟨hahead, skippedBefore, error, rfl, hskipped, herror⟩
    exact ⟨hahead, skippedBefore, error, rfl, hskipped, herror⟩
  supply := by
    rintro st _ h h' ⟨hahead, skippedBefore, error, rfl, hskipped, herror⟩ _
    left
    cases hp : st.pending.isEmpty with
    | false =>
      have hp' : (st.retold skippedBefore error).pending.isEmpty = false := hp
      rw [supply_of_nonempty hp, supply_of_nonempty hp']
      exact Resembles.meets ⟨hahead, skippedBefore, error, rfl, hskipped, herror⟩ _
    | true =>
      have hp' : (st.retold skippedBefore error).pending.isEmpty = true := hp
      have hkeeps := (advance_keeps s st.ahead st h).2.2
      obtain ⟨skippedBefore', hfound, hskipped'⟩ := advance_retold s t st.ahead st h h' hskipped
      rw [supply_of_isEmpty hp, supply_of_isEmpty hp']
      show Meets s t _ _ (advance t st.ahead (st.retold skippedBefore error) h')
      rw [hfound]
      exact Resembles.meets
        ⟨ahead_advance s h hahead, skippedBefore', error, rfl, hskipped', hkeeps ▸ herror⟩ _
  parted := fun never _ => never

/-! ### Requests -/

theorem ask_eq [Machine] (s : Segment) (st : ImageStream) (request : Request) :
    st.ask s request = ((st.call s (.request request)).final.sight
      (st.call s (.request request)).answer, (st.call s (.request request)).final) := by
  rw [ask, perform_eq_result, Course.result]
  cases (st.call s (.request request)).answer <;> rfl

/-- Streams that resemble each other show the same when they are asked, and go on to resemble
each other. -/
theorem Resembles.ask [Machine] (h : Resembles fragments st st') (s t : Segment)
    (request : Request) :
    (st.ask s request).1 = (st'.ask t request).1 ∧
      Resembles fragments (st.ask s request).2 (st'.ask t request).2 := by
  have alike := ((lockstep_resembles s t fragments).call h (.request request)).resolve_right id
  rw [ask_eq, ask_eq, alike.answer]
  exact ⟨alike.final.sight _, alike.final⟩

/-- A stream whose segment has kept its fragments finds them as it expects. -/
theorem Resembles.lookingAt_eq (h : Resembles s.fragments.toList st st') : st.lookingAt s = st := by
  rw [ImageStream.lookingAt, ← h.1]

end ImageStream

/-- A segment and the streams open over it, in the order in which they were opened. -/
structure Sharing where
  segment : Segment
  streams : List ImageStream

namespace Sharing

/-- What may be done with a segment and its streams. -/
inductive Step where
  | operate (op : Segment.Operation)
  | openStream (maxFill : Int)
  /-- A request made of the stream of a number, counted from zero, if it is open. -/
  | ask (number : Nat) (request : Request)

/-- The widths of gaps that may be filled, for each stream that is opened. -/
def openings : List Step → List Int
  | [] => []
  | .openStream maxFill :: rest => maxFill :: openings rest
  | _ :: rest => openings rest

/-- The requests made of the stream of a number once it is open, with so many open before. -/
def requestsOf (number : Nat) : (opened : Nat) → List Step → List Request
  | _, [] => []
  | opened, .operate _ :: rest => requestsOf number opened rest
  | opened, .openStream _ :: rest => requestsOf number (opened + 1) rest
  | opened, .ask asked request :: rest =>
    if asked = number ∧ number < opened then request :: requestsOf number opened rest
    else requestsOf number opened rest

open ImageStream

/-- The segment takes no more data, and has the fragments and the length of another. -/
structure IsClosedWith (x : Sharing) (t : Segment) : Prop where
  frozen : x.segment.isFrozen = true
  fragments : x.segment.fragments = t.fragments
  length : x.segment.length.value = t.length.value

variable {x : Sharing} {t : Segment} {number : Nat} {st st' : ImageStream}

theorem IsClosedWith.ofSegment (h : x.IsClosedWith t) (maxFill : Int) :
    ImageStream.ofSegment x.segment maxFill = ImageStream.ofSegment t maxFill := by
  simp only [ImageStream.ofSegment, h.fragments, h.length]

theorem resembles_ofSegment (t : Segment) (maxFill : Int) :
    Resembles t.fragments.toList (ofSegment t maxFill) (ofSegment t maxFill) :=
  ⟨rfl, [], none, rfl, rfl, rfl⟩

section
variable [Machine]

/-- The segment and its streams behind a step. A stream looks at the segment as it is now. -/
def after (x : Sharing) : Step → Sharing
  | .operate op => { x with segment := x.segment.after op }
  | .openStream maxFill =>
    match (Segment.openStream maxFill).run x.segment with
    | .ok st s => ⟨s, x.streams ++ [st]⟩
    | .error _ s => { x with segment := s }
  | .ask number request =>
    { x with streams := x.streams.modify number fun st =>
        ((st.lookingAt x.segment).ask x.segment request).2 }

/-- What the stream of a number shows in a step, if it is the one that is asked. -/
def shown (x : Sharing) (number : Nat) : Step → Option Sight
  | .ask asked request =>
    if asked = number then
      x.streams[number]?.map fun st => ((st.lookingAt x.segment).ask x.segment request).1
    else none
  | _ => none

/-- What the stream of a number shows in steps one after another. -/
def sights (number : Nat) : Sharing → List Step → List Sight
  | _, [] => []
  | x, step :: rest => (x.shown number step).toList ++ sights number (x.after step) rest

theorem IsClosedWith.operate (h : x.IsClosedWith t) (op : Segment.Operation) :
    (x.after (.operate op)).IsClosedWith t := by
  obtain ⟨frozen, hlength, hfragments⟩ := (x.segment.continues_after op).frozen h.frozen
  exact ⟨frozen, hfragments.trans h.fragments, (congrArg SizedInt.value hlength).trans h.length⟩

theorem after_openStream (x : Sharing) (maxFill : Int) :
    x.after (.openStream maxFill) =
      ⟨{ x.segment with isFrozen := true }, x.streams ++ [ofSegment x.segment maxFill]⟩ := rfl

theorem IsClosedWith.openStream (h : x.IsClosedWith t) (maxFill : Int) :
    (x.after (.openStream maxFill)).IsClosedWith t := ⟨rfl, h.fragments, h.length⟩

theorem IsClosedWith.ask (h : x.IsClosedWith t) (asked : Nat) (request : Request) :
    (x.after (.ask asked request)).IsClosedWith t := ⟨h.frozen, h.fragments, h.length⟩

/-- A request made of an open stream is shown by it and leaves it behind the request. -/
theorem ask_mine (hst : x.streams[number]? = some st) (hlooks : st.lookingAt x.segment = st)
    (request : Request) :
    x.shown number (.ask number request) = some (st.ask x.segment request).1 ∧
      (x.after (.ask number request)).streams[number]? = some (st.ask x.segment request).2 := by
  constructor
  · simp only [shown, if_true, hst, Option.map_some, hlooks]
  · simp only [after, List.getElem?_modify_eq, hst, Option.map_eq_map, Option.map_some, hlooks]

/-- A request made of another stream, or of one that is not open yet, does nothing to a stream. -/
theorem ask_other {asked : Nat} (other : ¬ (asked = number ∧ number < x.streams.length))
    (request : Request) (unopened : List ImageStream) :
    x.shown number (.ask asked request) = none ∧
      ((x.after (.ask asked request)).streams ++ unopened)[number]? =
        (x.streams ++ unopened)[number]? := by
  by_cases same : asked = number
  · subst same
    have hlength : x.streams.length ≤ asked := Nat.not_lt.mp fun isOpen => other ⟨rfl, isOpen⟩
    constructor
    · rw [shown, if_pos rfl, List.getElem?_eq_none hlength, Option.map_none]
    · simp only [after]
      rw [List.modify_eq_self hlength]
  · constructor
    · rw [shown, if_neg same]
    · simp only [after, List.getElem?_append, List.length_modify,
        List.getElem?_modify_ne _ _ same]

/-- **A stream that is open or is to be opened shows what it shows alone.** -/
theorem sights_eq (h : x.IsClosedWith t) (steps : List Step)
    (hst : (x.streams ++ (openings steps).map (ofSegment t))[number]? = some st)
    (halike : Resembles t.fragments.toList st st') :
    x.sights number steps = st'.sights t (requestsOf number x.streams.length steps) := by
  -- The streams still to be opened stand behind those that are open, so opening one leaves the
  -- whole list as it is.
  induction steps generalizing x st st' with
  | nil => rfl
  | cons step rest ih =>
    cases step with
    | operate op => exact ih (h.operate op) hst halike
    | openStream maxFill =>
      have hstreams : (x.after (.openStream maxFill)).streams =
          x.streams ++ [ImageStream.ofSegment t maxFill] := by
        rw [after_openStream, h.ofSegment]
      rw [openings, List.map_cons, List.append_cons, ← hstreams] at hst
      have honward := ih (h.openStream maxFill) hst halike
      rw [hstreams, List.length_append, List.length_singleton] at honward
      exact honward
    | ask asked request =>
      have hclosed := h.ask asked request
      have hlength : (x.after (.ask asked request)).streams.length = x.streams.length :=
        List.length_modify ..
      rw [sights, requestsOf, ← hlength]
      by_cases mine : asked = number ∧ number < x.streams.length
      · obtain ⟨rfl, isOpen⟩ := mine
        rw [List.getElem?_append_left isOpen] at hst
        have hlooks : st.lookingAt x.segment = st := by
          rw [← h.fragments] at halike
          exact halike.lookingAt_eq
        obtain ⟨hshown, hafter⟩ := ask_mine hst hlooks request
        obtain ⟨hsight, hnext⟩ := halike.ask x.segment t request
        rw [← hlength] at isOpen
        rw [if_pos ⟨rfl, isOpen⟩, hshown, hsight,
          ih hclosed (by rwa [List.getElem?_append_left isOpen]) hnext]
        rfl
      · obtain ⟨hshown, hafter⟩ := ask_other mine request ((openings rest).map (ofSegment t))
        rw [← hlength] at mine
        rw [if_neg mine, hshown]
        exact ih hclosed (hafter.trans hst) halike

/-- **Streams over one segment do not disturb each other**, and neither does anything the segment
is asked for: each of them shows what the same requests show on a stream of its own, over any
segment with the fragments and the length this one had when its first stream was opened. -/
theorem sights_eq_alone (s t : Segment) (before : List Segment.Operation) (first : Int)
    (behind steps : List Step)
    (hsteps : steps = before.map .operate ++ .openStream first :: behind)
    (hfragments : (s.afterAll before).fragments = t.fragments)
    (hlength : (s.afterAll before).length.value = t.length.value) (number : Nat) (width : Int)
    (hwidth : (openings steps)[number]? = some width) :
    sights number ⟨s, []⟩ steps = (ofSegment t width).sights t (requestsOf number 0 steps) := by
  subst hsteps
  induction before generalizing s with
  | nil =>
    have hclosed : IsClosedWith (after ⟨s, []⟩ (.openStream first)) t := ⟨rfl, hfragments, hlength⟩
    have hfirst : ofSegment s first = ofSegment t first := by
      rw [Segment.afterAll_nil] at hfragments hlength
      simp only [ImageStream.ofSegment, hfragments, hlength]
    refine sights_eq hclosed behind ?_ (resembles_ofSegment t width)
    rw [after_openStream, hfirst]
    show ((openings (.openStream first :: behind)).map (ofSegment t))[number]? = _
    rw [List.getElem?_map]
    exact congrArg (Option.map (ofSegment t)) hwidth
  | cons op rest ih => exact ih (s.after op) hfragments hlength hwidth

/-- Two streams over a segment that is asked for other things meanwhile: the data comes too late,
and the names change nothing but names. -/
def interleaved : List Step :=
  [.openStream 9, .ask 0 (.read 1), .operate (.attach ⟨1, 3, .enumerated (.ofBytes [0x63])⟩),
    .openStream 0, .ask 1 (.read 9), .operate (.resolveNames #["A"]), .ask 0 .readAll]

end

open scoped CommonMachine

theorem sights_interleaved :
    (openings interleaved)[0]? = some 9 ∧
    sights 0 ⟨.holding 4 [(1, [0x61]), (0, [0x62])], []⟩ interleaved =
      (ofSegment (.holding 4 [(1, [0x61]), (0, [0x62])]) 9).sights
        (.holding 4 [(1, [0x61]), (0, [0x62])]) [.read 1, .readAll] ∧
    (sights 0 ⟨.holding 4 [(1, [0x61]), (0, [0x62])], []⟩ interleaved).map
      (fun x => (x.answer.toOption, x.position, x.skipped, x.hasFailed)) =
        [(some (.ofBytes [0]), 1, [], false),
          (some (.ofBytes [0x61, 0, 0]), 4, [(1, 0)], false)] :=
  ⟨rfl, sights_eq_alone (.holding 4 [(1, [0x61]), (0, [0x62])])
    (.holding 4 [(1, [0x61]), (0, [0x62])]) [] 9 _ interleaved rfl rfl rfl 0 9 rfl,
    by decide +kernel⟩

end Sharing
end ObjectModule
