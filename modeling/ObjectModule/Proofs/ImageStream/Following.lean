import ObjectModule.CommonMachine
import ObjectModule.Proofs.ImageStream.Reading
import ObjectModule.Proofs.ImageStream.Walk

/-! A stream follows the walk.

A stream finds its bytes run by run, in the course of reads that may end anywhere,
and the walk lays whole pieces. What is compared is a read of everything left, which
starts between two runs: if the stream stands where the walk does, with the same
fragments ahead, both go on alike (`Follows`). A run delivered is a piece laid
(`report_run`), a fragment passed is a fragment skipped, and where the stream stops
the walk does. Since reading all is one such read, whatever the sizes it is made of,
it gives the image, the skipped fragments, the error and the position the walk
tells (`readAll_follows_walk`). -/
namespace ObjectModule

/-- A report of what comes behind something already seen. -/
def Report.behind (done : Bytes) (before : List SkippedFragment) (position : Nat) (r : Report) :
    Report where
  result := r.result.map (done ++ ·)
  skipped := before ++ r.skipped
  error := r.error
  position := position + r.position

theorem Report.behind_nil (r : Report) : r.behind [] [] 0 = r := by
  obtain ⟨result, skipped, error, position⟩ := r
  cases result <;> simp [behind, Except.map]

namespace Walk
variable {s : Segment} {done : Bytes} {before : List SkippedFragment} {position n : Nat}

theorem along_of_length_le [Machine] {maxFill length : Int} {ahead : List Fragment}
    {index position : Nat} (h : length ≤ position) :
    along s maxFill length ahead index position = stop .complete := by
  cases ahead <;> rw [along, if_pos h]

theorem land_of_length_le [Machine] {length : Int} {f : Fragment} {index position : Nat}
    {onward : Nat → Walk} (h : length ≤ position) :
    land length f index position onward = stop .complete := if_pos h

theorem report_stop (e : Ending) :
    ((stop e).report s n).behind done before position =
      ⟨match e with | .failed cause => .error cause | .complete | .hole _ => .ok done,
        before, (stop e).error s, position⟩ := by
  cases e <;> simp [report, Report.behind, stop, bytes, Except.map]

theorem report_skip (record : SkippedFragment) (w : Walk) :
    ((w.skip record).report s n).behind done before position =
      (w.report s n).behind done (before ++ [record]) position := by
  simp [report, Report.behind, skip, bytes, error]

theorem report_lay {p : Piece} (w : Walk) (h : p.bytes.length ≤ n) :
    ((w.lay p).report s n).behind done before position =
      (w.report s (n - p.bytes.length)).behind (done ++ p.bytes) before
        (position + p.bytes.length) := by
  have hbytes : (w.lay p).bytes.take n = p.bytes ++ w.bytes.take (n - p.bytes.length) := by
    show (p.bytes ++ w.bytes).take n = _
    rw [List.take_append, List.take_of_length_le h]
  have hend : (w.lay p).ending = w.ending := rfl
  simp only [report, Report.behind, hbytes, hend, List.length_append, Nat.add_assoc]
  refine congrArg (fun result => Report.mk result _ _ _) ?_
  cases w.ending <;> simp [Except.map]

theorem report_lay_cut {p : Piece} (h : n ≤ p.bytes.length) :
    (((stop .complete).lay p).report s n).behind done before position =
      ⟨.ok (done ++ p.bytes.take n), before, none, position + n⟩ := by
  have hbytes : ((stop .complete).lay p).bytes = p.bytes := by
    show p.bytes ++ [] = _
    rw [List.append_nil]
  have hlen : (p.bytes.take n).length = n := by
    rw [List.length_take]
    omega
  simp only [report, Report.behind, hbytes, hlen]
  simp [lay, stop, Except.map, error]

end Walk

namespace ImageStream
variable {s : Segment} {done : Packed} {want : Nat} {st : ImageStream}

section
variable [Machine]

/-- Reading on with what was found. -/
def resume (s : Segment) (done : Packed) (want : Nat) :
    ImageStream × Supply → EStateM.Result Error ImageStream Packed
  | (st, .run run _) =>
    (st.deliver run (run.take (min want st.left)).size).readOnto s
      (done ++ run.take (min want st.left)) (want - (run.take (min want st.left)).size)
  | (st, .hole hole) => .ok done { st with error := some { hole, segment := s.displayName } }
  | (st, .failed cause) => .error cause st

theorem readOnto_eq_resume (h : 0 < want ∧ st.error = none ∧ 0 < st.left) :
    st.readOnto s done want = resume s done want (st.supply s h.2.2) := by
  rcases hs : st.supply s h.2.2 with ⟨st', run | hole | cause⟩
  · rw [readOnto_run h hs, resume, left_supply hs]
  · exact readOnto_hole h hs
  · exact readOnto_failed h hs

theorem supply_of_isEmpty (hp : st.pending.isEmpty = true) (h : 0 < st.left) :
    st.supply s h = advance s st.ahead st h := by
  unfold supply
  split
  · next more =>
    rw [hp] at more
    cases more
  · rfl

/-! ### The cases of `advance` -/

theorem advance_gap {f : Fragment} {ahead : List Fragment} {width : Nat} (h : 0 < st.left)
    (hw : 0 < width) (there : f.offset = (st.position + width : Nat)) :
    advance s (f :: ahead) st h =
      ({ st with ahead := f :: ahead }, st.fill width hw .between) := by
  obtain rfl : width = (f.offset - st.position).toNat := by omega
  rw [advance, dif_pos (by omega)]

theorem advance_skip {f : Fragment} {ahead : List Fragment} (h : 0 < st.left)
    (behind : f.offset < st.position) :
    advance s (f :: ahead) st h =
      advance s ahead
        { st with
          passed := st.passed + 1
          skippedBefore := skippedRecord s st f :: st.skippedBefore } h := by
  rw [advance, dif_neg (by omega), if_neg (by omega)]

theorem advance_failed {f : Fragment} {ahead : List Fragment} {cause : Error} (h : 0 < st.left)
    (here : f.offset = st.position) (hc : f.contents = .error cause) :
    advance s (f :: ahead) st h =
      ({ st with ahead, passed := st.passed + 1 }, .failed cause) := by
  rw [advance, dif_neg (by omega), if_pos here, hc]

theorem advance_empty {f : Fragment} {ahead : List Fragment} {content : Packed}
    (h : 0 < st.left) (here : f.offset = st.position) (hc : f.contents = .ok content)
    (none : (Run.ofPacked content).isEmpty = true) :
    advance s (f :: ahead) st h = advance s ahead { st with passed := st.passed + 1 } h := by
  rw [advance, dif_neg (by omega), if_pos here, hc]
  dsimp only
  split
  · rfl
  · next more =>
    rw [none] at more
    cases more

theorem advance_data {f : Fragment} {ahead : List Fragment} {content : Packed}
    (h : 0 < st.left) (here : f.offset = st.position) (hc : f.contents = .ok content)
    (more : (Run.ofPacked content).isEmpty = false) :
    advance s (f :: ahead) st h =
      ({ st with ahead, passed := st.passed + 1 }, .run (.ofPacked content) more) := by
  rw [advance, dif_neg (by omega), if_pos here, hc]
  dsimp only
  split
  · next none =>
    rw [none] at more
    cases more
  · rfl

/-! ### Following the walk -/

/-- Reading all that is left along some fragments gives what the walk along them says. -/
def Follows (s : Segment) (ahead : List Fragment) : Prop :=
  ∀ (done : Packed) (st : ImageStream) (h : 0 < st.left), st.error = none →
    report (resume s done st.left (advance s ahead st h)) =
      ((Walk.along s st.maxFill st.length ahead st.passed st.position).report s st.left).behind
        done.toBytes st.skipped st.position

/-- A stream between two runs follows the walk along the fragments ahead. -/
theorem Follows.readOnto {ahead : List Fragment} (hf : Follows s ahead) (done : Packed)
    (st : ImageStream) (herror : st.error = none) (hp : st.pending.isEmpty = true)
    (hahead : st.ahead = ahead) :
    report (st.readOnto s done st.left) =
      ((Walk.along s st.maxFill st.length ahead st.passed st.position).report s st.left).behind
        done.toBytes st.skipped st.position := by
  by_cases h : 0 < st.left
  · rw [readOnto_eq_resume ⟨h, herror, h⟩, supply_of_isEmpty hp, hahead]
    exact hf done st h herror
  · have hzero : st.left = 0 := by omega
    have hlen : st.length ≤ st.position := by
      unfold left at hzero
      omega
    rw [hzero, readOnto_zero, Walk.along_of_length_le hlen, Walk.report_stop]
    exact congrArg (Report.mk _ _ · _) herror

/-- A run delivered, all of it or as far as the declared length, is a piece laid. -/
theorem report_run (done : Packed) (st : ImageStream) {run : Run}
    {nonempty : run.isEmpty = false} {onward : Walk} {p : Piece} (herror : st.error = none)
    (hpiece : p.bytes = run.toBytes)
    (cut : st.left ≤ p.bytes.length → onward = .stop .complete)
    (whole : p.bytes.length < st.left →
      report ((st.deliver run p.bytes.length).readOnto s (done ++ run.take p.bytes.length)
          (st.deliver run p.bytes.length).left) =
        (onward.report s (st.deliver run p.bytes.length).left).behind
          (done ++ run.take p.bytes.length).toBytes st.skipped (st.position + p.bytes.length)) :
    report (resume s done st.left (st, .run run nonempty)) =
      ((onward.lay p).report s st.left).behind done.toBytes st.skipped st.position := by
  have hsize : (run.take (min st.left st.left)).size = min st.left p.bytes.length := by
    rw [Run.size_take, Nat.min_self, hpiece]
  -- A run that reaches the declared length ends the read inside it, and the walk with it.
  by_cases h : st.left ≤ p.bytes.length
  · rw [resume, hsize, Nat.min_eq_left h, Nat.sub_self, readOnto_zero, cut h,
      Walk.report_lay_cut h, Nat.min_self, hpiece, ← Run.toBytes_take, ← Packed.toBytes_append]
    exact congrArg (Report.mk _ _ · _) herror
  · have hle : p.bytes.length ≤ st.left := by omega
    have htake : run.take (min st.left st.left) = run.take p.bytes.length :=
      Run.take_eq_take (by rw [← hpiece]; omega) (Nat.le_of_eq (congrArg List.length hpiece.symm))
    have hdone : (done ++ run.take p.bytes.length).toBytes = done.toBytes ++ p.bytes := by
      rw [Packed.toBytes_append, Run.toBytes_take, hpiece, List.take_length]
    have hwhole := whole (by omega)
    rw [left_deliver, hdone] at hwhole
    rw [resume, hsize, Nat.min_eq_right hle, htake, hwhole, Walk.report_lay _ hle]

/-- A gap filled is a piece laid, and one that is not stops the walk. -/
theorem report_fill (done : Packed) (st : ImageStream) {width : Nat} (hw : 0 < width) (hole : Hole)
    {onward : Walk} (herror : st.error = none) (cut : st.left ≤ width → onward = .stop .complete)
    (whole : width < st.left →
      report ((st.deliver (.zeros width) width).readOnto s (done ++ (Run.zeros width).take width)
          (st.deliver (.zeros width) width).left) =
        (onward.report s (st.deliver (.zeros width) width).left).behind
          (done ++ (Run.zeros width).take width).toBytes st.skipped (st.position + width)) :
    report (resume s done st.left (st, st.fill width hw hole)) =
      ((Walk.fill st.maxFill st.position width hole onward).report s st.left).behind
        done.toBytes st.skipped st.position := by
  have hlen : (List.replicate width (0 : UInt8)).length = width := List.length_replicate
  unfold fill Walk.fill
  by_cases wide : st.maxFill < width
  · rw [if_pos wide, if_pos wide, Walk.report_stop]
    rfl
  · rw [if_neg wide, if_neg wide]
    cases Capacity.string width with
    | error cause =>
      rw [Walk.report_stop]
      exact congrArg (Report.mk _ _ · _) herror
    | ok _ =>
      refine report_run done st herror rfl ?_ ?_
      · rwa [hlen]
      · rwa [hlen]

/-! ### The cases of the walk -/

theorem follows_nil : Follows s [] := by
  intro done st h herror
  have hlen : ¬ st.length ≤ st.position := by
    unfold left at h
    omega
  have hfill := report_fill (s := s) done { st with ahead := [] } h .atEnd herror (fun _ => rfl)
    fun more => absurd more (Nat.lt_irrefl _)
  rw [advance, Walk.along, if_neg hlen]
  exact hfill

/-- The fragment that starts where the stream is. -/
theorem report_land {f : Fragment} {rest : List Fragment} (hrest : Follows s rest)
    (done : Packed) (st : ImageStream) (h : 0 < st.left) (herror : st.error = none)
    (here : f.offset = st.position) :
    report (resume s done st.left (advance s (f :: rest) st h)) =
      ((Walk.land st.length f st.passed st.position
        (.along s st.maxFill st.length rest (st.passed + 1))).report s st.left).behind
        done.toBytes st.skipped st.position := by
  have hlen : ¬ st.length ≤ st.position := by
    unfold left at h
    omega
  rw [Walk.land, if_neg hlen]
  cases hc : f.contents with
  | error cause =>
    rw [advance_failed h here hc, Walk.report_stop]
    exact congrArg (Report.mk _ _ · _) herror
  | ok content =>
    cases hempty : (Run.ofPacked content).isEmpty with
    | true =>
      have hnil : content.toBytes = [] := by
        rw [Run.isEmpty_eq, List.isEmpty_iff] at hempty
        exact hempty
      have hsize : content.size = 0 := by rw [← Packed.length_toBytes, hnil, List.length_nil]
      have hnext := hrest done { st with passed := st.passed + 1 } h herror
      rw [advance_empty h here hc hempty, Walk.report_lay _ (by simp [hnil])]
      simp only [hnil, hsize, List.length_nil, List.append_nil, Nat.sub_zero, Nat.add_zero]
      exact hnext
    | false =>
      let next : ImageStream := { st with ahead := rest, passed := st.passed + 1 }
      let after := next.deliver (.ofPacked content) content.size
      have hpending : after.pending.isEmpty = true :=
        Run.isEmpty_drop_of_le (r := .ofPacked content) (Nat.le_refl _)
      have cut (hcut : next.left ≤ content.size) :
          st.length ≤ (st.position + content.size : Nat) := by
        have hcut : (st.length - st.position).toNat ≤ content.size := hcut
        omega
      rw [advance_data h here hc hempty]
      exact report_run (s := s) done next (p := ⟨st.position, content.toBytes, some st.passed⟩)
        herror rfl (fun hcut => Walk.along_of_length_le (cut hcut))
        (fun _ => hrest.readOnto _ after herror hpending rfl)

/-- A gap before the next fragment. -/
theorem report_gap {f : Fragment} {rest : List Fragment} (hrest : Follows s rest)
    (done : Packed) (st : ImageStream) (h : 0 < st.left) (herror : st.error = none)
    {width : Nat} (hw : 0 < width) (there : f.offset = (st.position + width : Nat)) :
    report (resume s done st.left (advance s (f :: rest) st h)) =
      ((Walk.fill st.maxFill st.position width .between
        (.land st.length f st.passed (st.position + width)
          (.along s st.maxFill st.length rest (st.passed + 1)))).report s st.left).behind
        done.toBytes st.skipped st.position := by
  let next : ImageStream := { st with ahead := f :: rest }
  let after := next.deliver (.zeros width) width
  have hpending : after.pending.isEmpty = true :=
    Run.isEmpty_drop_of_le (r := .zeros width) (Nat.le_of_eq List.length_replicate)
  have cut (hcut : next.left ≤ width) : st.length ≤ (st.position + width : Nat) := by
    have hcut : (st.length - st.position).toNat ≤ width := hcut
    omega
  have whole (more : width < next.left) :
      report (after.readOnto s (done ++ (Run.zeros width).take width) after.left) =
        ((Walk.land st.length f st.passed (st.position + width)
          (.along s st.maxFill st.length rest (st.passed + 1))).report s after.left).behind
          (done ++ (Run.zeros width).take width).toBytes st.skipped (st.position + width) := by
    have hleft : 0 < after.left := by
      rw [left_deliver]
      exact Nat.sub_pos_of_lt more
    have ready : 0 < after.left ∧ after.error = none ∧ 0 < after.left := ⟨hleft, herror, hleft⟩
    rw [readOnto_eq_resume ready, supply_of_isEmpty hpending hleft]
    exact report_land hrest _ after hleft herror there
  rw [advance_gap h hw there]
  exact report_fill done next hw .between herror
    (fun hcut => Walk.land_of_length_le (cut hcut)) whole

theorem follows_cons {f : Fragment} {rest : List Fragment} (hrest : Follows s rest) :
    Follows s (f :: rest) := by
  intro done st h herror
  have hlen : ¬ st.length ≤ st.position := by
    unfold left at h
    omega
  rw [Walk.along, if_neg hlen]
  by_cases behind : f.offset < st.position
  · let next : ImageStream :=
      { st with
        passed := st.passed + 1
        skippedBefore := skippedRecord s st f :: st.skippedBefore }
    have hskipped : next.skipped = st.skipped ++ [skippedRecord s st f] := List.reverse_cons
    have hnext := hrest done next h herror
    rw [hskipped] at hnext
    rw [if_pos behind, advance_skip h behind, Walk.report_skip]
    exact hnext
  · rw [if_neg behind]
    by_cases here : f.offset = st.position
    · rw [if_pos here]
      exact report_land hrest done st h herror here
    · have there : f.offset = (st.position + (f.offset - st.position).toNat : Nat) := by omega
      have hplace : f.offset.toNat = st.position + (f.offset - st.position).toNat := by omega
      rw [if_neg here, hplace]
      exact report_gap hrest done st h herror (by omega) there

theorem follows (s : Segment) (ahead : List Fragment) : Follows s ahead := by
  induction ahead with
  | nil => exact follows_nil
  | cons f rest ih => exact follows_cons ih

/-! ### Whole images -/

/-- A read of everything left of a fresh stream gives what the walk says. -/
theorem report_read_left (s : Segment) (maxFill : Int) :
    report ((ofSegment s maxFill).read s (ofSegment s maxFill).left) =
      (s.walk maxFill).report s s.length.value.toNat := by
  have hleft : (ofSegment s maxFill).left = s.length.value.toNat :=
    congrArg Int.toNat (Int.sub_zero _)
  have hfollows := (follows s s.fragments.toList).readOnto .empty (ofSegment s maxFill) rfl rfl rfl
  rw [hleft] at hfollows ⊢
  exact hfollows.trans (Report.behind_nil _)

/-- **Reading all of a fresh stream follows the walk**: what it gives, the fragments it
skips, the error it is left with and where it ends. -/
theorem readAll_follows_walk (s : Segment) (maxFill : Int) :
    report ((ofSegment s maxFill).readAll s) = (s.walk maxFill).report s s.length.value.toNat := by
  rw [readAll_eq, report_read_left]

end

section
open scoped CommonMachine

/-- Zeros up to a fragment beyond the declared length are asked for as a whole, so a gap
that may be filled can be too wide to be had where few of its zeros are wanted. -/
theorem readAll_before_uncountable_gap :
    report ((ofSegment (.holding 4 [(0x8000000000000000, [0x61])]) 0x8000000000000000).readAll
        (.holding 4 [(0x8000000000000000, [0x61])])) =
      ⟨.error (.capacity .uncountable), [], none, 0⟩ ∧
    report ((ofSegment (.holding 4 [(0x8000000000000000, [0x61])]) 0x8000000000000000).readAll
        (.holding 4 [(0x8000000000000000, [0x61])])) ≠
      ⟨.ok [0, 0, 0, 0], [], none, 4⟩ := by
  have hread :
      report ((ofSegment (.holding 4 [(0x8000000000000000, [0x61])]) 0x8000000000000000).readAll
          (.holding 4 [(0x8000000000000000, [0x61])])) =
        ⟨.error (.capacity .uncountable), [], none, 0⟩ := by
    rw [readAll_eq, report_read_left]
    rfl
  refine ⟨hread, fun filled => ?_⟩
  rw [hread] at filled
  nomatch congrArg Report.result filled

end

variable [Machine]

/-- What a fresh stream gives if all that the walk needs can be had. -/
theorem read_left_of_fits {maxFill : Int} (fits : ¬ (s.walk maxFill).Fails) :
    ∃ data final,
      (ofSegment s maxFill).read s (ofSegment s maxFill).left = .ok data final ∧
        data.toBytes = s.laid maxFill ∧ final.skipped = (s.walk maxFill).skipped ∧
        final.error = (s.walk maxFill).error s := by
  have hwalk := report_read_left s maxFill
  have hresult : ((s.walk maxFill).report s s.length.value.toNat).result =
      .ok (s.laid maxFill) := by
    rw [Walk.report]
    split
    · next cause failed => exact absurd ⟨cause, failed⟩ fits
    · rfl
    · rfl
  cases hr : (ofSegment s maxFill).read s (ofSegment s maxFill).left with
  | error cause final =>
    rw [hr] at hwalk
    rw [← hwalk] at hresult
    cases hresult
  | ok data final =>
    rw [hr] at hwalk
    rw [← hwalk] at hresult
    exact ⟨data, final, rfl, Except.ok.inj hresult, congrArg Report.skipped hwalk,
      congrArg Report.error hwalk⟩

theorem fits_of_read_left {maxFill : Int} {data : Packed} {final : ImageStream}
    (h : (ofSegment s maxFill).read s (ofSegment s maxFill).left = .ok data final) :
    ¬ (s.walk maxFill).Fails := by
  rintro ⟨cause, failed⟩
  have hwalk := report_read_left s maxFill
  rw [h, Walk.report, failed] at hwalk
  cases congrArg Report.result hwalk

/-- Read to its end without an error, a fresh stream has followed a complete walk. -/
theorem complete_of_read_left {maxFill : Int} {data : Packed} {final : ImageStream}
    (h : (ofSegment s maxFill).read s (ofSegment s maxFill).left = .ok data final)
    (clean : final.error = none) :
    (s.walk maxFill).ending = .complete ∧ data.toBytes = s.laid maxFill ∧
      final.skipped = (s.walk maxFill).skipped := by
  have fits := fits_of_read_left h
  obtain ⟨data', final', h', hbytes, hskipped, herror⟩ := read_left_of_fits fits
  cases h.symm.trans h'
  refine ⟨?_, hbytes, hskipped⟩
  rw [clean, Walk.error] at herror
  cases hend : (s.walk maxFill).ending with
  | complete => rfl
  | hole hole =>
    rw [hend] at herror
    cases herror
  | failed cause => exact absurd ⟨cause, hend⟩ fits

theorem read_left_of_complete {maxFill : Int}
    (complete : (s.walk maxFill).ending = .complete) :
    ∃ data final, (ofSegment s maxFill).read s (ofSegment s maxFill).left = .ok data final ∧
      final.error = none := by
  have fits : ¬ (s.walk maxFill).Fails := by
    rintro ⟨cause, failed⟩
    cases complete.symm.trans failed
  obtain ⟨data, final, h, _, _, herror⟩ := read_left_of_fits fits
  refine ⟨data, final, h, ?_⟩
  rw [herror, Walk.error, complete]

end ImageStream

namespace Segment
variable {s : Segment} {maxFill : Int}

/-! ### Images read at once -/

variable [Machine]

theorem readImage_run (s : Segment) (maxFill : Int) :
    (readImage maxFill).run s =
      match (({ s with isFrozen := true } : Segment).image maxFill).result with
      | .ok image => .ok image { s with isFrozen := true }
      | .error cause => .error cause { s with isFrozen := true } := by
  show (ofExcept (({ s with isFrozen := true } : Segment).image maxFill).result : Action Packed)
    { s with isFrozen := true } = _
  cases (({ s with isFrozen := true } : Segment).image maxFill).result <;> rfl

theorem readAll_of_image {image : Packed} (h : (s.image maxFill).result = .ok image) :
    ∃ final, (ImageStream.ofSegment s maxFill).readAll s = .ok image final ∧
      final.error = none := by
  unfold Segment.image at h
  dsimp only at h
  split at h
  · cases h
  · next data final hread =>
    split at h
    · next clean =>
      cases h
      exact ⟨final, hread, clean⟩
    · cases h

theorem image_of_readAll {image : Packed} {final : ImageStream}
    (h : (ImageStream.ofSegment s maxFill).readAll s = .ok image final)
    (clean : final.error = none) : (s.image maxFill).result = .ok image := by
  simp only [Segment.image, h, clean]

/-- An image that is read is what a complete walk lays. -/
theorem complete_of_readImage {image : Packed} {after : Segment}
    (h : (readImage maxFill).run s = .ok image after) :
    (s.walk maxFill).ending = .complete ∧ image.toBytes = s.laid maxFill := by
  rw [readImage_run] at h
  cases hr : (({ s with isFrozen := true } : Segment).image maxFill).result with
  | error cause =>
    rw [hr] at h
    cases h
  | ok data =>
    rw [hr] at h
    obtain ⟨final, hread, clean⟩ := readAll_of_image hr
    rw [ImageStream.readAll_eq] at hread
    obtain ⟨complete, hbytes, _⟩ := ImageStream.complete_of_read_left hread clean
    rw [walk_frozen] at complete
    rw [laid, walk_frozen] at hbytes
    cases h
    exact ⟨complete, hbytes⟩

theorem readImage_of_complete (complete : (s.walk maxFill).ending = .complete) :
    ∃ image, (readImage maxFill).run s = .ok image { s with isFrozen := true } := by
  rw [← walk_frozen] at complete
  obtain ⟨image, final, hread, clean⟩ := ImageStream.read_left_of_complete complete
  rw [← ImageStream.readAll_eq] at hread
  refine ⟨image, ?_⟩
  rw [readImage_run, image_of_readAll hread clean]

/-- Of a segment only the names, the length and the data matter to its image. -/
theorem image_congr {t : Segment} (hname : s.displayName = t.displayName)
    (hclass : s.className = t.className) (hlength : s.length = t.length)
    (hfragments : s.fragments = t.fragments) (maxFill : Int) :
    s.image maxFill = t.image maxFill := by
  have hopen : ImageStream.ofSegment t maxFill = ImageStream.ofSegment s maxFill := by
    rw [ImageStream.ofSegment, ← hlength, ← hfragments]
    rfl
  have hreport : ImageStream.report ((ImageStream.ofSegment s maxFill).readAll s) =
      ImageStream.report ((ImageStream.ofSegment t maxFill).readAll t) := by
    rw [ImageStream.readAll_eq, ImageStream.readAll_eq, ImageStream.report_read_left,
      ImageStream.report_read_left]
    simp only [walk, Walk.report, Walk.error, Walk.along_congr hname hclass, hname, hlength,
      hfragments]
  rw [hopen] at hreport
  simp only [image, hopen]
  -- Both streams end alike, so the events are the same too.
  cases hs : (ImageStream.ofSegment s maxFill).readAll s <;>
    cases ht : (ImageStream.ofSegment s maxFill).readAll t <;>
    rw [hs, ht] at hreport <;>
    obtain ⟨hresult, hskipped, herror, _⟩ := Report.mk.inj hreport <;>
    simp only [ImageStream.eventsSince, hskipped, herror]
  · rw [Packed.eq_of_toBytes_eq (Except.ok.inj hresult)]
  · cases hresult
  · cases hresult
  · rw [Except.error.inj hresult]

end Segment
end ObjectModule
