import ObjectModule.CommonMachine
import ObjectModule.Proofs.ImageStream.Beyond
import ObjectModule.Proofs.ImageStream.Gaps
import ObjectModule.Proofs.ImageStream.Losses
import ObjectModule.Proofs.ImageStream.Prefixes

/-! Streams that are told to drop what they are delivering.

A stream told to drop the run it is delivering looks for bytes again when it next needs some. If
the run was zeros it finds the same zeros, since the gap it stands in ends where it did
(`IsGap`). If it was the bytes of a fragment, that fragment has been passed, and what was left of
it does not come back. So streams that drop nothing but zeros, and what lies beyond the declared
length, give the same as if they dropped nothing (`Refills`, `dropped_between`), and only those
do. -/
namespace ObjectModule

/-- Whether a run is bytes of a fragment, and some are left. -/
def Run.isData : Run → Bool
  | zeros _ => false
  | bytes content passed => passed < content.size

/-- What a call asks for, if it asks for bytes. -/
def Call.request? : Call → Option Request
  | .request asked => some asked
  | .close => none

/-- The requests among calls. -/
def requestsAmong (calls : List Call) : List Request := calls.filterMap Call.request?

/-- The answers to the requests among the calls that a session consists of. -/
def Session.answersTo (calls : List Call) (x : Session) : List (Except Error Packed) :=
  ((calls.zip x.answers).filter (·.1.request?.isSome)).map Prod.snd

/-- Pieces end to end, and others behind them. -/
theorem Tiles.append {position : Nat} {pieces more : List Piece} (h : Tiles position pieces)
    (hmore : Tiles (position + (pieces.flatMap Piece.bytes).length) more) :
    Tiles position (pieces ++ more) := by
  induction pieces generalizing position with
  | nil => exact hmore
  | cons p rest ih =>
    obtain ⟨hstart, hrest⟩ := h
    refine ⟨hstart, ih hrest ?_⟩
    rwa [Piece.finish, hstart, Nat.add_assoc, ← List.length_append, ← List.flatMap_cons]

namespace ImageStream

/-- Whether more of the fragment passed last is to come. -/
def IsAmidFragment (st : ImageStream) : Prop :=
  st.isExhausted = false ∧ st.pending.isData = true

instance (st : ImageStream) : Decidable st.IsAmidFragment :=
  inferInstanceAs (Decidable (_ ∧ _))

theorem isData_of_isEmpty {run : Run} (empty : run.isEmpty = true) : run.isData = false := by
  cases run with
  | zeros count => rfl
  | bytes content passed =>
    simpa [Run.isEmpty, Run.isData] using empty

theorem head?_delivered_behind {p : Piece} {x : Course} {i : Nat}
    (h : (x.behind p).delivered.head?.bind Piece.source = some i) : p.source = some i := by
  rw [Course.delivered] at h
  split at h
  · exact h
  · cases h

section
variable [Machine]

/-- Whether calls made one after another drop nothing of which more is to come. -/
def DropsBetween (s : Segment) : ImageStream → List Call → Prop
  | _, [] => True
  | st, .close :: rest => ¬ st.IsAmidFragment ∧ DropsBetween s st.close rest
  | st, .request request :: rest => DropsBetween s (st.call s (.request request)).final rest

/-- The stream with another run to deliver. -/
def delivering (st : ImageStream) (pending : Run) : ImageStream := { st with pending }

/-- Whether so many zeros are what a gap is filled with that the stream stands in. -/
structure IsGap (st : ImageStream) (n : Nat) : Prop where
  ends : (st.position : Int) + n = st.gapEnd
  narrow : n ≤ st.maxFill
  room : Capacity.string n = .ok ()

/-- What is known of the run a stream is delivering: zeros fill the gap it stands in, and bytes
are those of a fragment that has been passed. -/
structure Oriented (st : ImageStream) : Prop where
  gap : ∀ n, 0 < n → st.pending = .zeros n → st.IsGap n
  passed : st.pending.isData = true → 0 < st.passed

/-- The first stream is the second, or has dropped a run of zeros, or there is nothing to come. -/
structure Refills (st st' : ImageStream) : Prop where
  same : st = st'.delivering st.pending
  pending : st.pending = st'.pending ∨
    (st.pending.isEmpty = true ∧ st'.pending.isData = false) ∨ st'.isExhausted = true
  oriented : st'.Oriented

variable {s : Segment} {maxFill : Int} {st st' : ImageStream} {calls : List Call} {n : Nat}

/-! ### What a stream finds -/

theorem IsGap.deliver (h : st.IsGap n) {count : Nat} (hcount : count ≤ n) :
    (st.deliver (.zeros n) count).IsGap (n - count) where
  ends := by
    have hends := h.ends
    show ((st.position + count : Nat) : Int) + (n - count : Nat) = st.gapEnd
    omega
  narrow := by
    have hnarrow := h.narrow
    show ((n - count : Nat) : Int) ≤ st.maxFill
    omega
  room := Capacity.string_of_le h.room (Nat.sub_le _ _)

theorem oriented_of_isEmpty (empty : st.pending.isEmpty = true) : st.Oriented where
  gap n hn hpending := by
    rw [hpending, Run.isEmpty, beq_iff_eq] at empty
    omega
  passed data := by
    rw [isData_of_isEmpty empty] at data
    cases data

theorem oriented_deliver {run : Run} (gap : ∀ n, run = .zeros n → st.IsGap n)
    (passed : run.isData = true → 0 < st.passed) (count : Nat) :
    (st.deliver run count).Oriented := by
  cases run with
  | zeros n =>
    refine ⟨fun m hm hpending => ?_, fun data => by cases data⟩
    cases hpending
    exact (gap n rfl).deliver (by omega)
  | bytes content first =>
    refine ⟨(fun m hm hpending => by cases hpending), fun data => passed ?_⟩
    have hmore : first + count < content.size := of_decide_eq_true data
    exact decide_eq_true (by omega)

/-- What a stream that is delivering nothing may find when it needs bytes, with so many fragments
passed before. -/
inductive Turns (before : Nat) : ImageStream × Supply → Prop
  | run {st : ImageStream} {run : Run} {nonempty : run.isEmpty = false}
      (oriented : ∀ count, (st.deliver run count).Oriented)
      (fresh : run.isData = true → before < st.passed) : Turns before (st, .run run nonempty)
  | hole {st : ImageStream} {hole : Hole} (empty : st.pending.isEmpty = true) :
      Turns before (st, .hole hole)
  | failed {st : ImageStream} {cause : Error} (empty : st.pending.isEmpty = true) :
      Turns before (st, .failed cause)

theorem turns_fill {before width : Nat} (empty : st'.pending.isEmpty = true)
    (hlimit : st.maxFill = st'.maxFill) (hw : 0 < width)
    (hend : (st'.position : Int) + width = st'.gapEnd) (hole : Hole) :
    Turns before (st', st.fill width hw hole) := by
  unfold fill
  split
  · exact .hole empty
  · next narrow =>
    split
    · exact .failed empty
    · next room =>
      refine .run (oriented_deliver (fun n hn => ?_) fun data => by cases data)
        fun data => by cases data
      cases hn
      exact ⟨hend, by omega, room⟩

theorem turns_advance {before : Nat} {ahead : List Fragment} (h : 0 < st.left)
    (empty : st.pending.isEmpty = true) (hbefore : before ≤ st.passed) :
    Turns before (advance s ahead st h) := by
  fun_induction advance s ahead st h with
  | case1 st h =>
    refine turns_fill ?_ rfl h ?_ .atEnd
    · exact empty
    · show (st.position : Int) + st.left = st.length
      unfold left at h ⊢
      omega
  | case2 f ahead st h gap =>
    have hw : 0 < (f.offset - st.position).toNat := by omega
    refine turns_fill ?_ ?_ hw ?_ .between
    · exact empty
    · rfl
    · show (st.position : Int) + (f.offset - st.position).toNat = f.offset
      omega
  | case3 f ahead st h gap here content hc none ih => exact ih empty (Nat.le_succ_of_le hbefore)
  | case4 f ahead st h gap here content hc nonempty =>
    refine .run (oriented_deliver (fun n hn => by cases hn) fun _ => Nat.succ_pos _) fun _ => ?_
    exact Nat.lt_succ_of_le hbefore
  | case5 f ahead st h gap here cause hc => exact .failed empty
  | case6 f ahead st h gap other ih => exact ih empty (Nat.le_succ_of_le hbefore)

theorem fill_delivering (st : ImageStream) (pending : Run) {width : Nat} (hw : 0 < width)
    (hole : Hole) : (st.delivering pending).fill width hw hole = st.fill width hw hole := by
  unfold fill
  rfl

/-- What is found ahead does not depend on the run that was being delivered. -/
theorem advance_delivering (s : Segment) (ahead : List Fragment) (st : ImageStream) (pending : Run)
    (h : 0 < st.left) (h' : 0 < (st.delivering pending).left) :
    advance s ahead (st.delivering pending) h' =
      ((advance s ahead st h).1.delivering pending, (advance s ahead st h).2) := by
  fun_induction advance s ahead st h with
  | case1 st h =>
    dsimp only
    rw [advance, fill_delivering]
    rfl
  | case2 f ahead st h gap =>
    have hw : 0 < (f.offset - st.position).toNat := by omega
    have there : f.offset = (st.position + (f.offset - st.position).toNat : Nat) := by omega
    dsimp only
    rw [advance_gap h' hw there, fill_delivering]
    rfl
  | case3 f ahead st h gap here content hc none ih =>
    rw [advance_empty h' here hc none]
    exact ih h'
  | case4 f ahead st h gap here content hc nonempty => exact advance_data h' here hc nonempty
  | case5 f ahead st h gap here cause hc => exact advance_failed h' here hc
  | case6 f ahead st h gap other ih =>
    have behind : f.offset < (st.delivering pending).position := by
      show f.offset < st.position
      omega
    rw [advance_skip h' behind]
    exact ih h'

theorem supply_of_pending {run : Run} (hrun : st.pending = run) (nonempty : run.isEmpty = false)
    (h : 0 < st.left) : st.supply s h = (st, .run run nonempty) := by
  subst hrun
  exact supply_of_nonempty nonempty h

/-- In a gap the zeros are found that fill it. -/
theorem advance_of_isGap (h : st.IsGap n) (hn : 0 < n) (nonempty : (Run.zeros n).isEmpty = false)
    (hl : 0 < st.left) : advance s st.ahead st hl = (st, .run (.zeros n) nonempty) := by
  have hfill (hole : Hole) : st.fill n hn hole = .run (.zeros n) nonempty := by
    rw [fill, if_neg (Int.not_lt.mpr h.narrow), h.room]
  have hends := h.ends
  cases hahead : st.ahead with
  | nil =>
    rw [gapEnd, hahead] at hends
    have hleft : st.left = n := by
      unfold left
      dsimp only at hends
      omega
    subst hleft
    rw [advance, hfill, ← hahead]
  | cons f rest =>
    rw [gapEnd, hahead] at hends
    rw [advance_gap hl hn hends.symm, hfill, ← hahead]

/-! ### Streams that drop nothing but zeros -/

theorem Oriented.refl (h : st.Oriented) : Refills st st := ⟨rfl, .inl rfl, h⟩

theorem refills_of_isEmpty (st : ImageStream) {pending : Run} (empty : pending.isEmpty = true)
    (empty' : st.pending.isEmpty = true) : Refills (st.delivering pending) st :=
  ⟨rfl, .inr (.inl ⟨empty, isData_of_isEmpty empty'⟩), oriented_of_isEmpty empty'⟩

theorem meets_advance {pending : Run} (empty : pending.isEmpty = true)
    (empty' : st.pending.isEmpty = true) (h : 0 < (st.delivering pending).left) (h' : 0 < st.left) :
    Meets s s Refills (advance s st.ahead (st.delivering pending) h)
      (advance s st.ahead st h') := by
  rw [advance_delivering s st.ahead st pending h' h]
  have turns : Turns st.passed (advance s st.ahead st h') :=
    turns_advance h' empty' (Nat.le_refl _)
  generalize advance s st.ahead st h' = found at turns ⊢
  cases turns with
  | run oriented _ => exact .run (fun _ _ => rfl) fun count _ => (oriented count).refl
  | @hole next hole empty' =>
    exact .hole (refills_of_isEmpty { next with error := some { hole, segment := s.displayName } }
      empty empty')
  | failed empty' => exact .failed (refills_of_isEmpty _ empty empty')

/-- Streams of which one has dropped zeros find the same, as it finds the zeros again. -/
theorem Refills.meets (h : Refills st st') (hl : 0 < st.left) (hl' : 0 < st'.left)
    (herror : st.error = none) : Meets s s Refills (st.supply s hl) (st'.supply s hl') := by
  obtain ⟨same, hpending, oriented⟩ := h
  generalize st.pending = pending at same hpending
  subst same
  have running : st'.isExhausted = false := isExhausted_eq_false.mpr ⟨herror, hl'⟩
  cases hempty' : st'.pending.isEmpty with
  | true =>
    have hempty : (st'.delivering pending).pending.isEmpty = true := by
      rcases hpending with equal | ⟨empty, _⟩ | stopped
      · exact (congrArg Run.isEmpty equal).trans hempty'
      · exact empty
      · cases running.symm.trans stopped
    rw [supply_of_isEmpty hempty, supply_of_isEmpty hempty']
    exact meets_advance hempty hempty' hl hl'
  | false =>
    rcases hpending with equal | ⟨empty, zeros⟩ | stopped
    · subst equal
      have hempty : (st'.delivering st'.pending).pending.isEmpty = false := hempty'
      rw [supply_of_nonempty hempty, supply_of_nonempty hempty']
      refine .run (fun _ _ => rfl) fun count _ => Oriented.refl ?_
      refine oriented_deliver (fun n hn => ?_) oriented.passed count
      rw [hn, Run.isEmpty, beq_eq_false_iff_ne] at hempty'
      exact oriented.gap n (Nat.pos_of_ne_zero hempty') hn
    · have hempty : (st'.delivering pending).pending.isEmpty = true := empty
      cases hzeros : st'.pending with
      | bytes content passed =>
        rw [hzeros] at zeros hempty'
        have hdata : (!(Run.bytes content passed).isData) = false := by
          simpa [Run.isEmpty, Run.isData] using hempty'
        rw [zeros] at hdata
        cases hdata
      | zeros n =>
        rw [hzeros, Run.isEmpty, beq_eq_false_iff_ne] at hempty'
        have hn : 0 < n := Nat.pos_of_ne_zero hempty'
        have hgap := oriented.gap n hn hzeros
        have again : (st'.delivering pending).IsGap n := ⟨hgap.ends, hgap.narrow, hgap.room⟩
        have nonempty : (Run.zeros n).isEmpty = false := beq_eq_false_iff_ne.mpr hempty'
        rw [supply_of_isEmpty hempty, advance_of_isGap again hn nonempty,
          supply_of_pending hzeros nonempty]
        refine .run (fun _ _ => rfl) fun count _ => Oriented.refl ?_
        refine oriented_deliver (fun m hm => ?_) (fun data => by cases data) count
        cases hm
        exact again
    · cases running.symm.trans stopped

/-- **Streams of which one has dropped zeros give the same answers.** -/
theorem lockstep_refills (s : Segment) : Lockstep s s Refills fun _ _ => False where
  left h := by
    rw [h.same]
    rfl
  error h := by
    rw [h.same]
    exact Iff.rfl
  close h := by
    refine ⟨?_, .inl rfl, oriented_of_isEmpty rfl⟩
    rw [h.same]
    rfl
  supply hl hl' h herror := .inl (h.meets hl hl' herror)
  parted never _ := never

theorem refills_start (s : Segment) (maxFill : Int) :
    Refills (ofSegment s maxFill) (ofSegment s maxFill) :=
  (oriented_of_isEmpty rfl).refl

/-- One stream may drop what it is delivering, if it is not in the middle of a fragment. -/
theorem Refills.drop (h : Refills st st') (between : ¬ st.IsAmidFragment) :
    Refills st.close st' := by
  obtain ⟨same, hpending, oriented⟩ := h
  refine ⟨?_, ?_, oriented⟩
  · rw [same]
    rfl
  · right
    rcases hpending with equal | ⟨_, zeros⟩ | stopped
    · cases hrunning : st.isExhausted with
      | false =>
        left
        refine ⟨rfl, ?_⟩
        rw [← equal]
        exact Bool.eq_false_iff.mpr fun data => between ⟨hrunning, data⟩
      | true =>
        right
        rw [same] at hrunning
        exact hrunning
    · exact .inl ⟨rfl, zeros⟩
    · exact .inr stopped

theorem Refills.serve (h : Refills st st') (between : st.DropsBetween s calls) :
    (st.serve s calls).answersTo calls = (st'.session s (requestsAmong calls)).answers ∧
      st.delivered s calls = st'.delivered s ((requestsAmong calls).map .request) ∧
      Refills (st.serve s calls).final (st'.session s (requestsAmong calls)).final := by
  induction calls generalizing st st' with
  | nil => exact ⟨rfl, rfl, h⟩
  | cons c rest ih =>
    rw [serve_cons, delivered_cons]
    cases c with
    | close => exact ih (h.drop between.1) between.2
    | request request =>
      have alike := ((lockstep_refills s).call h (.request request)).resolve_right id
      have hdelivered : (st.call s (.request request)).delivered =
          (st'.call s (.request request)).delivered := by
        simp only [Course.delivered, alike.failure, alike.pieces]
      obtain ⟨hanswers, hpieces, hfinal⟩ := ih alike.final between
      have hrequests : requestsAmong (.request request :: rest) = request :: requestsAmong rest :=
        rfl
      rw [hrequests, session_cons, List.map_cons, delivered_cons, hdelivered, hpieces]
      refine ⟨?_, rfl, hfinal⟩
      rw [Session.behind, Session.behind, ← hanswers, alike.answer]
      rfl

/-! ### Pieces in the image -/

theorem tiles_course (s : Segment) (want : Nat) (st : ImageStream) :
    Tiles st.position (st.course s want).pieces := by
  fun_induction course s want st with
  | case1 want st h st' run nonempty hs pos count ih =>
    have hposition := (supply_keeps hs).1
    exact ⟨hposition, ih⟩
  | case2 want st h st' hole hs => trivial
  | case3 want st h st' cause hs => trivial
  | case4 want st h => trivial

theorem tiles_call (s : Segment) (st : ImageStream) (request : Request) :
    Tiles st.position (st.call s (.request request)).pieces := by
  rw [call]
  cases request.room with
  | ok _ => exact tiles_course s _ st
  | error cause => trivial

/-- If nothing is lost, the pieces that came of requests lie end to end. -/
theorem tiles_delivered {requests : List Request} (hlost : st.lost s requests = 0) :
    Tiles st.position (st.delivered s (requests.map .request)) := by
  induction requests generalizing st with
  | nil => trivial
  | cons request rest ih =>
    rw [lost, Nat.add_eq_zero_iff] at hlost
    have honward := ih hlost.2
    have hposition := position_call s st request
    rw [List.map_cons, delivered_cons]
    cases hfails : (st.call s (.request request)).failure with
    | none =>
      rw [Course.delivered, hfails]
      rw [hposition] at honward
      exact (tiles_call s st request).append honward
    | some cause =>
      simp only [Course.lost, hfails] at hlost
      rw [hposition, hlost.1] at honward
      rw [Course.delivered, hfails]
      exact honward

/-- Where all of the image can be read, what requests give of it stands in it where it is given. -/
theorem getElem?_of_delivered {image : Packed} {final : ImageStream} {requests : List Request}
    (hread : (ofSegment s maxFill).readAll s = .ok image final) {p : Piece}
    (hp : p ∈ (ofSegment s maxFill).delivered s (requests.map .request)) {x : Nat}
    (hx : p.Covers x) : image.toBytes[x]? = p.bytes[x - p.start]? := by
  rw [readAll_eq] at hread
  have fits := fits_of_read_left hread
  obtain ⟨_, _, hall, himage, _⟩ := read_left_of_fits fits
  cases hread.symm.trans hall
  obtain ⟨_, hposition, hbegins, _⟩ := session_follows fits requests
  rw [sessionOf] at hposition hbegins
  obtain ⟨more, hmore⟩ := hbegins
  have hlost : (ofSegment s maxFill).lost s requests = 0 := by
    have hcount := position_session s (ofSegment s maxFill) requests
    have hstart : (ofSegment s maxFill).position = 0 := rfl
    omega
  have hbyte := (tiles_delivered hlost).byte hp hx
  have hbytes := bytes_delivered s (ofSegment s maxFill) (requests.map .request)
  rw [serve_map_request] at hbytes
  have hinside : x - p.start < p.bytes.length := by
    have hfinish := hx.2
    have hstart := hx.1
    rw [Piece.finish] at hfinish
    omega
  have hthere : x < ((ofSegment s maxFill).session s requests).bytes.length := by
    rw [← hbytes]
    apply (List.getElem?_eq_some_iff.mp (hbyte.trans (List.getElem?_eq_getElem hinside))).1
  rw [himage, ← hmore, List.getElem?_append_left hthere, ← hbytes]
  exact hbyte

/-! ### Streams that drop bytes of a fragment -/

theorem delivered_append (s : Segment) (st : ImageStream) (front back : List Call) :
    st.delivered s (front ++ back) =
      st.delivered s front ++ (st.serve s front).final.delivered s back := by
  induction front generalizing st with
  | nil => rfl
  | cons c rest ih =>
    rw [List.cons_append, delivered_cons, ih, delivered_cons, serve_cons, List.append_assoc]
    rfl

/-- What there is room for is looked for. -/
theorem call_of_hasRoom {request : Request} (room : request.HasRoom) :
    st.call s (.request request) = st.course s (request.want st) := by
  rw [call, (hasRoom_iff request).mp room]

/-- In the middle of a fragment the next byte is one of that fragment. -/
theorem source_amid (h : st.IsAmidFragment) (room : (Request.read 1).HasRoom) :
    (st.delivered s [.request (.read 1)]).head?.bind Piece.source = some (st.passed - 1) := by
  obtain ⟨running, data⟩ := h
  obtain ⟨clean, more⟩ := isExhausted_eq_false.mp running
  have ready : 0 < 1 ∧ st.error = none ∧ 0 < st.left := ⟨Nat.one_pos, clean, more⟩
  cases hpending : st.pending with
  | zeros n =>
    rw [hpending] at data
    cases data
  | bytes content first =>
    rw [hpending] at data
    have hmore : first < content.size := of_decide_eq_true data
    have nonempty : (Run.bytes content first).isEmpty = false := decide_eq_false (by omega)
    have hsize : ((Run.bytes content first).take (min 1 st.left)).size = 1 := by
      have := Run.size_take_pos nonempty (show 0 < min 1 st.left by omega)
      have := Run.size_take_le (.bytes content first) (min 1 st.left)
      omega
    have hcall : st.call s (.request (.read 1)) = st.course s 1 := call_of_hasRoom room
    rw [delivered_cons, hcall, course_run ready (supply_of_pending hpending nonempty _), hsize,
      course_of_not (by simp)]
    rfl

/-- What comes behind a run that was dropped is not of a fragment passed before. -/
theorem source_dropped {i : Nat} (h : i < st.passed) (room : (Request.read 1).HasRoom) :
    (st.close.delivered s [.request (.read 1)]).head?.bind Piece.source ≠ some i := by
  intro hsource
  have hcall : st.close.call s (.request (.read 1)) = st.close.course s 1 := call_of_hasRoom room
  rw [delivered_cons, delivered, List.append_nil, hcall] at hsource
  by_cases ready : 0 < 1 ∧ st.close.error = none ∧ 0 < st.close.left
  · have turns : Turns st.passed (st.close.supply s ready.2.2) := by
      rw [supply_of_isEmpty rfl]
      exact turns_advance ready.2.2 rfl (Nat.le_refl _)
    generalize hs : st.close.supply s ready.2.2 = found at turns
    cases turns with
    | @run next run nonempty _ fresh =>
      rw [course_run ready hs] at hsource
      have hpiece := head?_delivered_behind hsource
      cases run with
      | zeros n => cases hpiece
      | bytes content first =>
        have hdata : (Run.bytes content first).isData = true := by
          simpa [Run.isEmpty, Run.isData] using nonempty
        have hpassed := fresh hdata
        have hlast : next.passed - 1 = i := Option.some.inj hpiece
        omega
    | hole empty =>
      rw [course_hole ready hs] at hsource
      cases hsource
    | failed empty =>
      rw [course_failed ready hs] at hsource
      cases hsource
  · rw [course_of_not ready] at hsource
    cases hsource

/-- **What a stream may drop.** If no call drops the rest of a fragment, the requests among the
calls are answered as if nothing had been dropped, the stream ends in the same place, and if all
of the image can be read, each byte given stands in it where it was given. If the rest of a
fragment is dropped, the next read of a byte gives something else than that. -/
theorem dropped_between (s : Segment) (maxFill : Int) (calls : List Call) :
    (deliveredOf s maxFill calls).flatMap Piece.bytes = (serveOf s maxFill calls).bytes ∧
    ((ofSegment s maxFill).DropsBetween s calls →
      (serveOf s maxFill calls).answersTo calls =
          (sessionOf s maxFill (requestsAmong calls)).answers ∧
        (serveOf s maxFill calls).final.close =
          (sessionOf s maxFill (requestsAmong calls)).final.close ∧
        ∀ image final, (ofSegment s maxFill).readAll s = .ok image final →
          ∀ p ∈ deliveredOf s maxFill calls, ∀ x, p.Covers x →
            image.toBytes[x]? = p.bytes[x - p.start]?) ∧
    ((serveOf s maxFill calls).final.IsAmidFragment → (Request.read 1).HasRoom →
      deliveredOf s maxFill (calls ++ [.close, .request (.read 1)]) ≠
        deliveredOf s maxFill (calls ++ [.request (.read 1)])) := by
  refine ⟨bytes_delivered s _ calls, fun between => ?_, fun amid room same => ?_⟩
  · obtain ⟨hanswers, hpieces, hfinal⟩ := (refills_start s maxFill).serve between
    refine ⟨hanswers, ?_, fun image final hread p hp x hx => ?_⟩
    · rw [serveOf, hfinal.same]
      rfl
    · rw [deliveredOf, hpieces] at hp
      exact getElem?_of_delivered hread hp hx
  · have refills := ((lockstep_refills s).serve (refills_start s maxFill) calls).resolve_right id
    have hpassed := refills.2.2.oriented.passed amid.2
    rw [deliveredOf, deliveredOf, delivered_append, delivered_append] at same
    have hdropped : (serveOf s maxFill calls).final.close.delivered s [.request (.read 1)] =
        (serveOf s maxFill calls).final.delivered s [.request (.read 1)] :=
      List.append_cancel_left same
    have hsource := source_amid (s := s) amid room
    rw [← hdropped] at hsource
    exact source_dropped (Nat.sub_lt hpassed Nat.one_pos) room hsource

/-- Two bytes with a gap before and behind: all closes but the last are made at the start, in the
gap before, and behind the bytes; the last is made at the end. -/
def closedInGaps : List Call :=
  [.close, .request (.read 1), .close, .request (.read 3), .close, .request .readAll, .close]

end

open scoped CommonMachine

/-- A gap in which a close is made is filled all the same. -/
theorem dropped_in_gaps :
    (ofSegment (.holding 6 [(2, [7, 8])]) 2).DropsBetween (.holding 6 [(2, [7, 8])]) closedInGaps ∧
    (serveOf (.holding 6 [(2, [7, 8])]) 2 closedInGaps).answersTo closedInGaps =
      (sessionOf (.holding 6 [(2, [7, 8])]) 2 (requestsAmong closedInGaps)).answers ∧
    (serveOf (.holding 6 [(2, [7, 8])]) 2 closedInGaps).bytes = [0, 0, 7, 8, 0, 0] := by
  have between : (ofSegment (.holding 6 [(2, [7, 8])]) 2).DropsBetween
      (.holding 6 [(2, [7, 8])]) closedInGaps :=
    ⟨by decide +kernel, by decide +kernel, by decide +kernel, by decide +kernel, trivial⟩
  exact ⟨between, ((dropped_between (.holding 6 [(2, [7, 8])]) 2 closedInGaps).2.1 between).1,
    by decide +kernel⟩

/-- A close in the middle of a fragment: zeros stand where the image has the rest of it. -/
theorem dropped_within :
    Fragment.Sorted (Segment.holding 4 [(0, [1, 2, 3, 4])]).fragments.toList ∧
    (sessionOf (.holding 4 [(0, [1, 2, 3, 4])]) 9 [.readAll]).bytes = [1, 2, 3, 4] ∧
    (serveOf (.holding 4 [(0, [1, 2, 3, 4])]) 9
      [.request (.read 1), .close, .request .readAll]).bytes = [1, 0, 0, 0] ∧
    (serveOf (.holding 4 [(0, [1, 2, 3, 4])]) 9 [.request (.read 1)]).final.IsAmidFragment := by
  decide +kernel

end ImageStream
end ObjectModule
