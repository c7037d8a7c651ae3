import Mathlib.Data.List.Infix
import ObjectModule.CommonMachine
import ObjectModule.Proofs.ImageStream.Requests
import ObjectModule.Proofs.ImageStream.Widening

/-! What wider fills add.

A walk that may fill less is the walk that may fill more, or stops before a hole where that
one goes on (`Walk.Begins`, `Segment.walk_begins`). Where a walk can be gone to its end, any
requests give the first bytes of its image, in the course of which the first of its skipped
fragments are skipped, and requests that exhaust the stream give all of it
(`session_follows`). Together: what a stream gives with a narrower fill is the beginning of
what it gives with a wider one (`narrower_gives_beginning`). -/
namespace ObjectModule

namespace Walk
variable {w w' onward onward' : Walk} {narrow wide : Int}

/-- The walk is the other one, or stops before a hole where that one may go on. -/
def Begins (w w' : Walk) : Prop :=
  w = w' ∨
    (∃ hole, w.ending = .hole hole) ∧ w.pieces <+: w'.pieces ∧ w.skipped <+: w'.skipped

theorem begins_stop (hole : Hole) (w : Walk) : (stop (.hole hole)).Begins w :=
  .inr ⟨⟨hole, rfl⟩, List.nil_prefix, List.nil_prefix⟩

theorem Begins.lay (h : w.Begins w') (p : Piece) : (w.lay p).Begins (w'.lay p) := by
  rcases h with rfl | ⟨hole, hpieces, hskipped⟩
  · exact .inl rfl
  · exact .inr ⟨hole, (List.prefix_cons_inj p).mpr hpieces, hskipped⟩

theorem Begins.skip (h : w.Begins w') (record : SkippedFragment) :
    (w.skip record).Begins (w'.skip record) := by
  rcases h with rfl | ⟨hole, hpieces, hskipped⟩
  · exact .inl rfl
  · exact .inr ⟨hole, hpieces, (List.prefix_cons_inj record).mpr hskipped⟩

theorem Begins.fill [Machine] (h : onward.Begins onward') (hle : narrow ≤ wide)
    (start width : Nat) (hole : Hole) :
    (fill narrow start width hole onward).Begins (fill wide start width hole onward') := by
  unfold Walk.fill
  by_cases gap : narrow < width
  · rw [if_pos gap]
    exact begins_stop hole _
  · rw [if_neg gap, if_neg (by omega)]
    cases Capacity.string width with
    | error cause => exact .inl rfl
    | ok _ => exact h.lay _

theorem Begins.land [Machine] {next next' : Nat → Walk}
    (h : ∀ after, (next after).Begins (next' after)) (length : Int) (f : Fragment)
    (index position : Nat) :
    (land length f index position next).Begins (land length f index position next') := by
  unfold Walk.land
  split
  · exact .inl rfl
  · cases f.contents with
    | error cause => exact .inl rfl
    | ok content => exact (h _).lay _

theorem begins_along [Machine] (s : Segment) (hle : narrow ≤ wide) (length : Int)
    (ahead : List Fragment) (index position : Nat) :
    (along s narrow length ahead index position).Begins
      (along s wide length ahead index position) := by
  induction ahead generalizing index position with
  | nil =>
    rw [along, along]
    split
    · exact .inl rfl
    · exact Begins.fill (.inl rfl) hle _ _ _
  | cons f rest ih =>
    rw [along, along]
    split
    · exact .inl rfl
    · split
      · exact (ih _ _).skip _
      · split
        · exact .land (ih _) _ _ _ _
        · exact .fill (.land (ih _) _ _ _ _) hle _ _ _

theorem Begins.bytes (h : w.Begins w') : w.bytes <+: w'.bytes := by
  rcases h with rfl | ⟨_, ⟨more, hpieces⟩, _⟩
  · exact List.prefix_refl _
  · exact ⟨more.flatMap Piece.bytes, by rw [Walk.bytes, Walk.bytes, ← hpieces, List.flatMap_append]⟩

theorem Begins.skipped (h : w.Begins w') : w.skipped <+: w'.skipped := by
  rcases h with rfl | ⟨_, _, hskipped⟩
  · exact List.prefix_refl _
  · exact hskipped

/-- Where the longer walk finds all it needs, so does the one that begins it. -/
theorem Begins.fits (h : w.Begins w') (fits : ¬ w'.Fails) : ¬ w.Fails := by
  rcases h with rfl | ⟨⟨hole, hends⟩, _⟩
  · exact fits
  · rintro ⟨cause, failed⟩
    cases hends.symm.trans failed

/-- A walk that stops before no hole is the whole of what it begins. -/
theorem Begins.eq_of_error (h : w.Begins w') {s : Segment} (clean : w.error s = none) :
    w = w' := by
  rcases h with rfl | ⟨⟨hole, hends⟩, _⟩
  · rfl
  · rw [error, hends] at clean
    cases clean

end Walk

/-- **A walk that may fill less begins the walk that may fill more.** -/
theorem Segment.walk_begins [Machine] (s : Segment) {narrow wide : Int} (hle : narrow ≤ wide) :
    (s.walk narrow).Begins (s.walk wide) :=
  Walk.begins_along s hle _ _ _ _

theorem Segment.laid_begins [Machine] (s : Segment) {narrow wide : Int} (hle : narrow ≤ wide) :
    s.laid narrow <+: s.laid wide :=
  List.IsPrefix.take (Walk.Begins.bytes (s.walk_begins hle)) _

namespace ImageStream
variable {s : Segment} {st st' final : ImageStream} {calls : List Request} {data : Packed}

/-! ### Skipped fragments stay recorded -/

theorem isExhausted_of_error {st : ImageStream} (h : st.error ≠ none) : st.isExhausted = true :=
  isExhausted_of_not fun ready => h ready.1

section
variable [Machine]

theorem skipped_advance (s : Segment) (ahead : List Fragment) (st : ImageStream)
    (h : 0 < st.left) : st.skippedBefore <:+ (advance s ahead st h).1.skippedBefore := by
  fun_induction advance s ahead st h with
  | case1 st h => exact List.suffix_refl _
  | case2 f ahead st h gap => exact List.suffix_refl _
  | case3 f ahead st h _ _ content _ _ ih => exact ih
  | case4 f ahead st h => exact List.suffix_refl _
  | case5 f ahead st h => exact List.suffix_refl _
  | case6 f ahead st h _ _ ih => exact (List.suffix_cons _ _).trans ih

theorem skipped_supply {h : 0 < st.left} {found : Supply} (hs : st.supply s h = (st', found)) :
    st.skippedBefore <:+ st'.skippedBefore := by
  unfold supply at hs
  split at hs
  · cases hs
    exact List.suffix_refl _
  · have := skipped_advance s st.ahead st h
    rwa [hs] at this

theorem skipped_readOnto {done : Packed} {want : Nat}
    (h : st.readOnto s done want = .ok data final) : st.skippedBefore <:+ final.skippedBefore := by
  fun_induction readOnto s done want st with
  | case1 done want st h' st' run nonempty hs pos chunk ih => exact (skipped_supply hs).trans (ih h)
  | case2 done want st h' st' hole hs =>
    have hsame := skipped_supply hs
    cases h
    exact hsame
  | case3 done want st h' st' cause hs => cases h
  | case4 done want st h' =>
    cases h
    exact List.suffix_refl _

/-- What a read skips comes behind what was skipped before. -/
theorem skipped_read {want : Nat} (h : st.read s want = .ok data final) :
    st.skipped <+: final.skipped :=
  List.reverse_prefix.mpr (skipped_readOnto h)

/-! ### Requests along a walk that can be gone to its end -/

/-- **Requests follow a walk that can be gone to its end.** Every one is answered, and what
they give is the beginning of the image, all of it if the stream is exhausted. -/
theorem session_follows {maxFill : Int} (fits : ¬ (s.walk maxFill).Fails) (calls : List Request) :
    List.Forall₂ Request.IsAnsweredBy calls (sessionOf s maxFill calls).answers ∧
    (sessionOf s maxFill calls).final.position = (sessionOf s maxFill calls).bytes.length ∧
    (sessionOf s maxFill calls).bytes <+: s.laid maxFill ∧
    (sessionOf s maxFill calls).final.skipped <+: (s.walk maxFill).skipped ∧
    ((sessionOf s maxFill calls).final.isExhausted = true →
      (sessionOf s maxFill calls).bytes = s.laid maxFill ∧
      (sessionOf s maxFill calls).final.skipped = (s.walk maxFill).skipped ∧
      (sessionOf s maxFill calls).final.error = (s.walk maxFill).error s) := by
  obtain ⟨image, last, hall, himage, hskipped, herror⟩ := read_left_of_fits fits
  obtain ⟨hanswers, want, front, hread, hbytes⟩ := session_of_read_left hall calls
  rw [sessionOf, ← hbytes, ← himage, ← hskipped, ← herror]
  have hstart : (ofSegment s maxFill).position = 0 := rfl
  have honward := hall
  rw [read_left_of_ok hread] at honward
  refine ⟨hanswers, ?_, ?_, ?_, fun stopped => ?_⟩
  · rw [position_read hread, hstart, Nat.zero_add, Packed.length_toBytes]
  · have htake := read_prefix hread hall
    rw [htake]
    exact List.take_prefix _ _
  · cases hrest : ((ofSegment s maxFill).session s calls).final.read s
      ((ofSegment s maxFill).session s calls).final.left with
    | error cause stream =>
      rw [hrest] at honward
      cases honward
    | ok back stream =>
      rw [hrest] at honward
      cases honward
      exact skipped_read hrest
  · rw [read, readOnto_of_exhausted stopped] at honward
    cases honward
    rw [Packed.append_empty]
    exact ⟨rfl, rfl, rfl⟩

/-- A stream that a session went through to its end without a failure finds all it needs. -/
theorem fits_of_returned {maxFill : Int} (h : (sessionOf s maxFill calls).Returned)
    (stopped : (sessionOf s maxFill calls).final.isExhausted = true) :
    ¬ (s.walk maxFill).Fails := by
  obtain ⟨want, data, hread, _⟩ := session_read h
  have none (more : Nat) : (sessionOf s maxFill calls).final.read s more =
      .ok .empty (sessionOf s maxFill calls).final := readOnto_of_exhausted stopped
  exact fits_of_read_left ((read_left_of_ok hread).trans (by rw [← sessionOf, none]))

/-! ### One request of a fresh stream -/

/-- A request is answered if all can be had that the walk needs. -/
theorem exists_session_singleton {maxFill : Int} (fits : ¬ (s.walk maxFill).Fails) {c : Request}
    (room : c.HasRoom) : ∃ data final, (ofSegment s maxFill).perform s c = .ok data final ∧
      sessionOf s maxFill [c] = ⟨[.ok data], final⟩ := by
  cases h : (ofSegment s maxFill).perform s c with
  | ok data final =>
    refine ⟨data, final, rfl, ?_⟩
    rw [sessionOf, session, h]
    rfl
  | error cause final =>
    obtain ⟨data, last, hall, _⟩ := read_left_of_fits fits
    rw [perform_eq_read room] at h
    rw [read_left_of_error h] at hall
    cases hall

/-- All that a stream gives is the image. -/
theorem bytes_readAll {maxFill : Int} (fits : ¬ (s.walk maxFill).Fails) :
    (sessionOf s maxFill [.readAll]).bytes = s.laid maxFill := by
  have room : Request.readAll.HasRoom := trivial
  obtain ⟨data, final, hread, hsession⟩ := exists_session_singleton fits room
  obtain ⟨_, _, _, _, himage⟩ := session_follows fits [.readAll]
  rw [perform_eq_read room] at hread
  rw [hsession] at himage ⊢
  exact (himage (isExhausted_of_left_le hread (Nat.le_refl _))).1

/-- A first read gives the first bytes of the image, as many as are asked for or all. -/
theorem bytes_readAtMost {maxFill size : Int} (fits : ¬ (s.walk maxFill).Fails) (low : 0 ≤ size)
    (room : (Request.read size).HasRoom) :
    (sessionOf s maxFill [.read size]).bytes = (s.laid maxFill).take size.toNat := by
  obtain ⟨data, final, hread, hsession⟩ := exists_session_singleton fits room
  obtain ⟨_, _, hbegins, _, himage⟩ := session_follows fits [.read size]
  have hbytes : (sessionOf s maxFill [.read size]).bytes = data.toBytes := by
    rw [hsession]
    exact List.append_nil _
  rw [perform_eq_read room, Request.want, if_neg (Int.not_lt.mpr low)] at hread
  have hle := size_read_le hread
  rcases Nat.lt_or_eq_of_le hle with short | full
  · -- What gives less than it was asked for gives all there is.
    have stopped := isExhausted_of_short hread short
    rw [hsession] at himage
    have hall : data.toBytes = s.laid maxFill := by
      rw [← (himage stopped).1, ← hsession, hbytes]
    rw [hbytes, hall, List.take_of_length_le]
    rw [← hall, Packed.length_toBytes]
    exact hle
  · rw [hbytes] at hbegins ⊢
    rw [← full, ← Packed.length_toBytes]
    exact List.prefix_iff_eq_take.mp hbegins

/-! ### Two streams -/

/-- **What a stream may fill decides how far it comes, not what it gives.** Let a stream that
may fill more be read to its end without a failure. What any requests get from one that may
fill less are first bytes of that, and the fragments skipped for them are the first of those
skipped; if the narrower stream comes to its end without an error, the two have given the same
bytes, have skipped the same fragments, and neither has an error. Whatever calls are made of
both, failing ones included: as long as the narrower stream has no error they give the same
answers, and the streams cannot be told apart. -/
theorem narrower_gives_beginning (s : Segment) {narrow wide : Int} (hle : narrow ≤ wide) :
    (∀ calls calls' : List Request, (sessionOf s wide calls').Returned →
      (sessionOf s wide calls').final.isExhausted = true →
      (sessionOf s narrow calls).bytes <+: (sessionOf s wide calls').bytes ∧
      (sessionOf s narrow calls).final.skipped <+: (sessionOf s wide calls').final.skipped ∧
      ((sessionOf s narrow calls).final.isExhausted = true →
        (sessionOf s narrow calls).final.error = none →
        (sessionOf s narrow calls).bytes = (sessionOf s wide calls').bytes ∧
        (sessionOf s narrow calls).final.skipped = (sessionOf s wide calls').final.skipped ∧
        (sessionOf s wide calls').final.error = none)) ∧
    ∀ calls : List Call, (serveOf s narrow calls).final.error = none →
      (serveOf s narrow calls).answers = (serveOf s wide calls).answers ∧
      (serveOf s narrow calls).final.skipped = (serveOf s wide calls).final.skipped ∧
      (serveOf s narrow calls).final.position = (serveOf s wide calls).final.position ∧
      (serveOf s wide calls).final.error = none := by
  refine ⟨fun calls calls' returned stopped' => ?_, fun calls clean => ?_⟩
  · have fits := fits_of_returned returned stopped'
    have begins := s.walk_begins hle
    obtain ⟨_, _, _, _, hall⟩ := session_follows fits calls'
    obtain ⟨hbytes', hskipped', herror'⟩ := hall stopped'
    obtain ⟨_, _, hbytes, hskipped, hend⟩ := session_follows (begins.fits fits) calls
    rw [hbytes', hskipped', herror']
    refine ⟨hbytes.trans (s.laid_begins hle), hskipped.trans begins.skipped,
      fun stopped clean => ?_⟩
    obtain ⟨hbytes, hskipped, herror⟩ := hend stopped
    have same : s.walk narrow = s.walk wide := begins.eq_of_error (herror.symm.trans clean)
    rw [hbytes, hskipped, ← clean, herror, Segment.laid, Segment.laid, same]
    exact ⟨rfl, rfl, rfl⟩
  · have start : IsNarrower (ofSegment s narrow) (ofSegment s wide) := ⟨wide, hle, rfl⟩
    rcases (lockstep_widened s).serve start calls with ⟨hanswers, _, more, _, hfinal⟩ | parted
    · rw [serveOf, serveOf, hfinal]
      exact ⟨hanswers, rfl, rfl, clean⟩
    · have failed : (serveOf s narrow calls).final.error.isSome = true := parted
      rw [clean] at failed
      cases failed

end

open scoped CommonMachine

/-- A gap too wide for one stream may be one that the other cannot fill either: it fails, and
what it read before is lost. -/
theorem wider_loses_what_narrower_delivers :
    (0 : Int) ≤ 0x8000000000000000 ∧
    (sessionOf (.holding 4 [(0, [0x61, 0x62]), (0x8000000000000002, [0x63])]) 0
      [.readAll]).bytes = [0x61, 0x62] ∧
    (sessionOf (.holding 4 [(0, [0x61, 0x62]), (0x8000000000000002, [0x63])]) 0x8000000000000000
      [.readAll]).bytes = [] ∧
    ¬ (sessionOf (.holding 4 [(0, [0x61, 0x62]), (0x8000000000000002, [0x63])]) 0
        [.readAll]).bytes <+:
      (sessionOf (.holding 4 [(0, [0x61, 0x62]), (0x8000000000000002, [0x63])])
        0x8000000000000000 [.readAll]).bytes := by
  decide +kernel

/-- Two bytes, a gap of one, a byte, and two bytes missing at the end: four bytes if one may be
filled, and six if nine may. -/
theorem four_bytes_begin_six :
    (sessionOf (.holding 6 [(0, [0x61, 0x62]), (3, [0x63])]) 1 [.read 3, .readAll]).bytes <+:
      (sessionOf (.holding 6 [(0, [0x61, 0x62]), (3, [0x63])]) 9 [.readAll]).bytes ∧
    (sessionOf (.holding 6 [(0, [0x61, 0x62]), (3, [0x63])]) 1 [.read 3, .readAll]).bytes.length =
      4 :=
  ⟨((narrower_gives_beginning (.holding 6 [(0, [0x61, 0x62]), (3, [0x63])])
      (show (1 : Int) ≤ 9 by decide)).1 [.read 3, .readAll] [.readAll]
    (by decide +kernel) (by decide +kernel)).1, by decide +kernel⟩

end ImageStream
end ObjectModule
