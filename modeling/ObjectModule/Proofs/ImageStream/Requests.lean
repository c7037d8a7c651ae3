import ObjectModule.CommonMachine
import ObjectModule.Proofs.ImageStream.Following
import ObjectModule.Proofs.Outcome

/-! Requests made of a stream one after another.

A session is any list of requests, of any kinds and sizes, with what each of them
gave. While no call fails, a session is one read of as many bytes as it gave
(`session_read`), so any two of them give the same bytes as far as both have come,
and leave the same stream if both exhaust it (`sessions_agree`). Calls fail only
where the walk does, or where a request is itself too large (`session_returned`). -/
namespace ObjectModule

/-- A request for bytes. -/
inductive Request where
  | read (size : Int)
  | readInto (buffer : Packed)
  | readAll

/-- Whether what is asked for by a number can be set aside. -/
def Request.HasRoom [Machine] : Request → Prop
  | read size => Capacity.room size = .ok ()
  | readInto _ | readAll => True

/-- What becomes of setting aside what a request asks for. -/
def Request.room [Machine] : Request → Except CapacityError Unit
  | read size => Capacity.room size
  | readInto _ | readAll => .ok ()

/-- What a request may be answered: bytes or, if what it asks for cannot be set aside, the
reason of that. -/
def Request.IsAnsweredBy [Machine] (c : Request) (answer : Except Error Packed) : Prop :=
  match c.room with
  | .ok () => answer.isOk = true
  | .error cause => answer = .error (.capacity cause)

/-- How many bytes a request asks a stream for. -/
def Request.want (st : ImageStream) : Request → Nat
  | read size => if size < 0 then st.left else size.toNat
  | readInto buffer => buffer.size
  | readAll => st.left

/-- What each call gave, and the stream behind the last. -/
structure Session where
  answers : List (Except Error Packed)
  final : ImageStream

namespace Session

/-- A session behind one more call. -/
def behind (answer : Except Error Packed) (x : Session) : Session :=
  { x with answers := answer :: x.answers }

/-- No call failed. -/
def Returned (x : Session) : Prop := ∀ answer ∈ x.answers, answer.isOk

/-- All bytes given, in order. -/
def bytes (x : Session) : Bytes :=
  x.answers.flatMap fun
    | .ok data => data.toBytes
    | .error _ => []

instance (x : Session) : Decidable x.Returned :=
  inferInstanceAs (Decidable (∀ answer ∈ x.answers, answer.isOk = true))

theorem not_returned_behind_error {cause : Error} {x : Session} :
    ¬ (x.behind (.error cause)).Returned := fun h => nomatch h _ List.mem_cons_self

theorem returned_behind_ok {data : Packed} {x : Session} :
    (x.behind (.ok data)).Returned ↔ x.Returned := by
  refine ⟨fun h answer hmem => h answer (List.mem_cons_of_mem _ hmem), fun h answer hmem => ?_⟩
  rcases List.mem_cons.mp hmem with rfl | hmem
  · rfl
  · exact h answer hmem

end Session

namespace ImageStream

section
variable [Machine]

/-- Produces what a request asks for. What was written to a buffer is what was given. -/
def perform (s : Segment) (st : ImageStream) : Request → EStateM.Result Error ImageStream Packed
  | .read size => st.readAtMost s size
  | .readInto buffer =>
    match st.readInto s buffer with
    | .ok (count, buffer) final => .ok (buffer.part 0 count) final
    | .error cause final => .error cause final
  | .readAll => st.readAll s

/-- Makes requests one after another, whatever became of those before. -/
def session (s : Segment) : ImageStream → List Request → Session
  | st, [] => ⟨[], st⟩
  | st, c :: rest =>
    match st.perform s c with
    | .ok data next => (session s next rest).behind (.ok data)
    | .error cause next => (session s next rest).behind (.error cause)

/-- A session of a stream at the start of a segment. -/
def sessionOf (s : Segment) (maxFill : Int) (calls : List Request) : Session :=
  (ofSegment s maxFill).session s calls

variable {s : Segment} {st next final : ImageStream} {calls : List Request} {data : Packed}

/-! ### One request -/

theorem perform_readInto (s : Segment) (st : ImageStream) (buffer : Packed) :
    st.perform s (.readInto buffer) = st.read s buffer.size := by
  rw [perform, readInto]
  cases st.read s buffer.size with
  | error cause final => rfl
  | ok data final =>
    refine congrArg (EStateM.Result.ok · final) (Packed.eq_of_toBytes_eq ?_)
    rw [Packed.toBytes_part, Packed.toBytes_append, ← Packed.length_toBytes data,
      List.take_left, List.drop_zero]

/-- Every request that has room is a read. -/
theorem perform_eq_read {c : Request} (room : c.HasRoom) :
    st.perform s c = st.read s (c.want st) := by
  cases c with
  | read size =>
    rw [perform, readAtMost, show Capacity.room size = .ok () from room, Request.want]
    by_cases negative : size < 0
    · rw [if_pos negative, if_pos negative]
      exact readAll_eq s st
    · rw [if_neg negative, if_neg negative]
  | readInto buffer => exact perform_readInto s st buffer
  | readAll => exact readAll_eq s st

theorem hasRoom_iff (request : Request) : request.HasRoom ↔ request.room = .ok () := by
  cases request <;> simp [Request.HasRoom, Request.room]

/-- A request that asks for too much leaves the stream as it was. -/
theorem perform_of_error {c : Request} {cause : CapacityError} (h : c.room = .error cause) :
    st.perform s c = .error (.capacity cause) st := by
  cases c with
  | read size =>
    have hroom : Capacity.room size = .error cause := h
    rw [perform, readAtMost, hroom]
  | readInto buffer => cases h
  | readAll => cases h

theorem hasRoom_of_perform {c : Request} (h : st.perform s c = .ok data next) : c.HasRoom := by
  cases c with
  | read size =>
    rw [perform, readAtMost] at h
    split at h
    · cases h
    · assumption
  | readInto buffer => trivial
  | readAll => trivial

/-! ### Whole sessions -/

/-- A session in which no call failed is one read. -/
theorem session_read (h : (st.session s calls).Returned) :
    ∃ want data, st.read s want = .ok data (st.session s calls).final ∧
      data.toBytes = (st.session s calls).bytes := by
  induction calls generalizing st with
  | nil => exact ⟨0, .empty, readOnto_zero, rfl⟩
  | cons c rest ih =>
    rw [session] at h ⊢
    cases hc : st.perform s c with
    | error cause next =>
      rw [hc] at h
      exact absurd h Session.not_returned_behind_error
    | ok front next =>
      rw [hc] at h
      obtain ⟨more, back, hread, hbytes⟩ := ih (Session.returned_behind_ok.mp h)
      have hfirst := (perform_eq_read (hasRoom_of_perform hc)).symm.trans hc
      refine ⟨c.want st + more, front ++ back, ?_, ?_⟩
      · rw [read_add_of_ok hfirst, hread]
        rfl
      · rw [Packed.toBytes_append, hbytes]
        rfl

/-- If all that is left can be read, every request is answered, and together they are one
read. -/
theorem session_of_read_left (hall : st.read s st.left = .ok data final) (calls : List Request) :
    List.Forall₂ Request.IsAnsweredBy calls (st.session s calls).answers ∧
      ∃ want front, st.read s want = .ok front (st.session s calls).final ∧
        front.toBytes = (st.session s calls).bytes := by
  induction calls generalizing st data final with
  | nil => exact ⟨.nil, 0, .empty, readOnto_zero, rfl⟩
  | cons c rest ih =>
    rw [session]
    cases hroom : c.room with
    | error cause =>
      obtain ⟨hanswers, want, front, hread, hbytes⟩ := ih hall
      rw [perform_of_error hroom]
      refine ⟨.cons ?_ hanswers, want, front, hread, hbytes⟩
      rw [Request.IsAnsweredBy, hroom]
    | ok _ =>
      rw [perform_eq_read ((hasRoom_iff c).mpr hroom)]
      cases hc : st.read s (c.want st) with
      | error cause next =>
        rw [read_left_of_error hc] at hall
        cases hall
      | ok first next =>
        rw [read_left_of_ok hc] at hall
        cases hrest : next.read s next.left with
        | error cause last =>
          rw [hrest] at hall
          cases hall
        | ok back last =>
          obtain ⟨hanswers, more, front, hread, hbytes⟩ := ih hrest
          refine ⟨.cons ?_ hanswers, c.want st + more, first ++ front, ?_, ?_⟩
          · rw [Request.IsAnsweredBy, hroom]
            rfl
          · rw [read_add_of_ok hc, hread]
            rfl
          · rw [Packed.toBytes_append, hbytes]
            rfl

/-- No call fails if all that is left can be read. -/
theorem session_returned (room : ∀ c ∈ calls, c.HasRoom) (h : st.read s st.left = .ok data final) :
    (st.session s calls).Returned := by
  refine Outcome.forall_mem_of_forall₂ (session_of_read_left h calls).1 (fun c answer h hroom => ?_)
    room
  rwa [Request.IsAnsweredBy, (hasRoom_iff c).mp hroom] at h

/-! ### Two reads of one stream -/

variable {next' : ImageStream} {data' : Packed} {a b : Nat}

/-- The longer of two reads goes on from the shorter. -/
theorem read_split (h : st.read s a = .ok data next) (h' : st.read s b = .ok data' next')
    (hab : a ≤ b) : ∃ more back, next.read s more = .ok back next' ∧ data' = data ++ back := by
  obtain ⟨more, rfl⟩ := Nat.exists_eq_add_of_le hab
  rw [read_add_of_ok h] at h'
  cases hb : next.read s more with
  | error cause last =>
    rw [hb] at h'
    cases h'
  | ok back last =>
    rw [hb] at h'
    cases h'
    exact ⟨more, back, hb, rfl⟩

theorem read_take (h : st.read s a = .ok data next) (h' : st.read s b = .ok data' next')
    (hle : data.size ≤ data'.size) : data.toBytes = data'.toBytes.take data.size := by
  rcases Nat.le_total a b with hab | hba
  · obtain ⟨more, back, _, rfl⟩ := read_split h h' hab
    rw [Packed.toBytes_append, ← Packed.length_toBytes, List.take_left]
  · obtain ⟨more, back, _, rfl⟩ := read_split h' h hba
    rw [Packed.size_append] at hle ⊢
    have none : back.toBytes = [] := List.eq_nil_of_length_eq_zero (by
      rw [Packed.length_toBytes]
      omega)
    rw [Packed.toBytes_append, none, List.append_nil, List.take_of_length_le]
    exact Nat.le_add_right ..

/-- What exhausts a stream is all there is. -/
theorem read_eq_of_exhausted (h : st.read s a = .ok data next)
    (h' : st.read s b = .ok data' next') (stopped : next.isExhausted = true) (hab : a ≤ b) :
    data = data' ∧ next = next' := by
  obtain ⟨more, back, hback, rfl⟩ := read_split h h' hab
  rw [read, readOnto_of_exhausted stopped] at hback
  cases hback
  exact ⟨(Packed.append_empty data).symm, rfl⟩

/-- What is read is a prefix of all that is left. -/
theorem read_prefix {rest : Packed} (h : st.read s a = .ok data next)
    (hall : st.read s st.left = .ok rest final) : data.toBytes = rest.toBytes.take data.size := by
  have hleft := left_read h
  refine read_take h hall ?_
  rw [read_left_of_ok h] at hall
  cases hn : next.read s next.left with
  | error cause last =>
    rw [hn] at hall
    cases hall
  | ok back last =>
    rw [hn] at hall
    cases hall
    rw [Packed.size_append]
    exact Nat.le_add_right ..

/-! ### Sessions of a fresh stream -/

/-- **Sessions agree.** Where the walk does not fail and every request has room, every
call gives its bytes, and these are the image as far as the session has come. However
a fresh stream is read, as long as no call fails, its position is the number of bytes
given, shorter sessions give the first bytes of longer ones, and all that exhaust the
stream give the same bytes and leave the same stream. A read that gives less than it
was asked for has exhausted its stream. -/
theorem sessions_agree (s : Segment) (maxFill : Int) (calls calls' : List Request) :
    (¬ (s.walk maxFill).Fails → (∀ c ∈ calls, c.HasRoom) →
      (sessionOf s maxFill calls).Returned ∧
      (sessionOf s maxFill calls).bytes =
        (s.laid maxFill).take (sessionOf s maxFill calls).final.position) ∧
    ((sessionOf s maxFill calls).Returned → (sessionOf s maxFill calls').Returned →
      (sessionOf s maxFill calls).bytes.length = (sessionOf s maxFill calls).final.position ∧
      ((sessionOf s maxFill calls).final.position ≤ (sessionOf s maxFill calls').final.position →
        (sessionOf s maxFill calls).bytes =
          (sessionOf s maxFill calls').bytes.take (sessionOf s maxFill calls).final.position) ∧
      ((sessionOf s maxFill calls).final.isExhausted = true →
        (sessionOf s maxFill calls').final.isExhausted = true →
        (sessionOf s maxFill calls).bytes = (sessionOf s maxFill calls').bytes ∧
          (sessionOf s maxFill calls).final = (sessionOf s maxFill calls').final)) ∧
    ∀ (st final : ImageStream) (size : Int) (data : Packed),
      st.readAtMost s size = .ok data final → (data.size : Int) < size →
        final.isExhausted = true := by
  have hstart : (ofSegment s maxFill).position = 0 := rfl
  refine ⟨fun fits room => ?_, fun h h' => ?_, fun st final size data h short => ?_⟩
  · obtain ⟨image, last, hall, himage, _⟩ := read_left_of_fits fits
    have h : (sessionOf s maxFill calls).Returned := session_returned room hall
    obtain ⟨want, data, hread, hbytes⟩ := session_read h
    refine ⟨h, ?_⟩
    rw [sessionOf, ← hbytes, ← himage, position_read hread, hstart, Nat.zero_add]
    exact read_prefix hread hall
  · obtain ⟨a, data, hread, hbytes⟩ := session_read h
    obtain ⟨b, data', hread', hbytes'⟩ := session_read h'
    rw [sessionOf, sessionOf, ← hbytes, ← hbytes', position_read hread, position_read hread',
      hstart, Nat.zero_add, Nat.zero_add]
    refine ⟨rfl, read_take hread hread', fun stopped stopped' => ?_⟩
    -- Each session is one read, and the longer of the two goes on from an exhausted stream.
    rcases Nat.le_total a b with hab | hba
    · obtain ⟨hdata, hfinal⟩ := read_eq_of_exhausted hread hread' stopped hab
      exact ⟨congrArg Packed.toBytes hdata, hfinal⟩
    · obtain ⟨hdata, hfinal⟩ := read_eq_of_exhausted hread' hread stopped' hba
      exact ⟨congrArg Packed.toBytes hdata.symm, hfinal.symm⟩
  · have hread := (perform_eq_read (c := .read size) (hasRoom_of_perform h)).symm.trans h
    rw [Request.want, if_neg (by omega)] at hread
    exact isExhausted_of_short hread (by omega)

/-- Two bytes, nothing written more often than can be counted, and two bytes more. -/
def nothingUncountable : Segment :=
  { Segment.holding 6 [] with
    fragments := #[⟨1, 0, .enumerated (.ofBytes [0x61, 0x62])⟩,
      ⟨1, 2, .iterated [.mk 0x8000000000000000 .empty []]⟩,
      ⟨1, 2, .enumerated (.ofBytes [0x63, 0x64])⟩] }

end

open scoped CommonMachine

/-- A call that fails keeps none of the bytes it has gathered, so what a stream gives
depends on where the calls are cut. -/
theorem sessions_disagree_behind_failure :
    (∀ f ∈ nothingUncountable.fragments, f.length ≤ expansionLimit) ∧
    (sessionOf nothingUncountable 9 [.read 6, .read 6]).final.isExhausted = true ∧
    (sessionOf nothingUncountable 9 [.read 2, .read 1, .read 4]).final.isExhausted = true ∧
    (sessionOf nothingUncountable 9 [.read 6, .read 6]).bytes ≠
      (sessionOf nothingUncountable 9 [.read 2, .read 1, .read 4]).bytes := by
  decide +kernel

/-- Two sessions of which neither meets a failure. -/
theorem sessions_agree_on_six :
    (sessionOf (.holding 6 [(0, [0x61, 0x62]), (3, [0x63])]) 9
        [.read 1, .readInto (.zeros 3), .readAll]).bytes =
      (sessionOf (.holding 6 [(0, [0x61, 0x62]), (3, [0x63])]) 9 [.read 4, .read 4]).bytes ∧
    (sessionOf (.holding 6 [(0, [0x61, 0x62]), (3, [0x63])]) 9
        [.read 1, .readInto (.zeros 3), .readAll]).final =
      (sessionOf (.holding 6 [(0, [0x61, 0x62]), (3, [0x63])]) 9 [.read 4, .read 4]).final :=
  ((sessions_agree (.holding 6 [(0, [0x61, 0x62]), (3, [0x63])]) 9
      [.read 1, .readInto (.zeros 3), .readAll] [.read 4, .read 4]).2.1
    (by decide +kernel) (by decide +kernel)).2.2 (by decide +kernel) (by decide +kernel)

end ImageStream
end ObjectModule
