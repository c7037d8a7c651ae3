import ObjectModule.CommonMachine
import ObjectModule.Module.Query
import ObjectModule.Proofs.ImageStream.Prefixes
import ObjectModule.Proofs.Module.Numbering
import ObjectModule.Proofs.Module.Placement
import ObjectModule.Proofs.Record.Sizes

/-! Reading the segments of a loaded module.

All that a record can say is bounded, so the segments of a loaded module are
(`reachesNoFarther_of_load`). If a machine holds as much (`Machine.HoldsModules`), a walk along
such a segment finds all it needs, whatever may be filled, unless repeat counts of zero hide more
than the limit: then requests are answered, and the image is either complete or ends before a
hole. -/
namespace ObjectModule

/-- How far a segment of a loaded module can reach: to the end of as much data as a record may
write, at the farthest offset that four bytes can say. -/
def Segment.farthest : Int := 0x100000000 + expansionLimit

/-- Whether a machine has room for all that a module can say: for segments as long as they can
be, and for blocks as deep as they are read. -/
structure Machine.HoldsModules [Machine] : Prop where
  memory : Segment.farthest < Machine.memory
  levels : Block.maxDepth ≤ Machine.levels

theorem Machine.HoldsModules.records [Machine] (holds : HoldsModules) : HoldsRecords where
  memory := Int.lt_trans (by decide) holds.memory
  levels := holds.levels

theorem Machine.HoldsModules.segments [Machine] (holds : HoldsModules) :
    Capacity.Holds Segment.farthest :=
  ⟨by decide, holds.memory⟩

namespace Walk
variable [Machine] {bound : Int}
variable {maxFill length : Int} {onward : Walk} {next : Nat → Walk}

theorem fits_fill {start width : Nat} {hole : Hole} (room : Capacity.Holds bound)
    (hwidth : width ≤ bound) (h : ¬ onward.Fails) :
    ¬ (fill maxFill start width hole onward).Fails := by
  unfold fill
  rw [room.string hwidth]
  split
  · rintro ⟨cause, failed⟩
    cases failed
  · exact h

theorem fits_land {f : Fragment} {index position : Nat} {content : Packed}
    (hc : f.contents = .ok content) (h : ∀ after, ¬ (next after).Fails) :
    ¬ (land length f index position next).Fails := by
  unfold land
  rw [hc]
  split
  · rintro ⟨cause, failed⟩
    cases failed
  · exact h _

/-- A walk finds all it needs if there is room for every stretch and the bytes of every fragment
can be had. -/
theorem fits_along (s : Segment) (room : Capacity.Holds bound) (hlength : length ≤ bound)
    {ahead : List Fragment}
    (hahead : ∀ f ∈ ahead, f.offset ≤ bound ∧ ∃ content, f.contents = .ok content)
    (index position : Nat) : ¬ (along s maxFill length ahead index position).Fails := by
  have stops : ¬ (stop .complete).Fails := by
    rintro ⟨cause, failed⟩
    cases failed
  induction ahead generalizing index position with
  | nil =>
    rw [along]
    split
    · exact stops
    · exact fits_fill room (by omega) stops
  | cons f rest ih =>
    obtain ⟨⟨hoffset, content, hc⟩, hrest⟩ := List.forall_mem_cons.mp hahead
    have onward (after : Nat) := ih hrest (index + 1) after
    rw [along]
    split
    · exact stops
    · split
      · exact onward position
      · split
        · exact fits_land hc onward
        · exact fits_fill room (by omega) (fits_land hc onward)

end Walk

namespace ImageStream
variable [Machine] {s : Segment} {st final : ImageStream} {done data : Packed} {want : Nat}

/-- An error comes before the declared length. -/
theorem left_pos_of_error (h : st.readOnto s done want = .ok data final) (clean : st.error = none)
    (failed : final.error ≠ none) : 0 < final.left := by
  fun_induction readOnto s done want st with
  | case1 done want st h' st' run nonempty hs pos chunk ih =>
    exact ih h ((supply_keeps hs).2.2.trans clean)
  | case2 done want st h' st' hole hs =>
    have hleft := left_supply hs
    cases h
    show 0 < st'.left
    omega
  | case3 done want st h' st' cause hs => cases h
  | case4 done want st h' =>
    cases h
    exact absurd clean failed

end ImageStream

namespace Segment
variable [Machine] {s : Segment} {maxFill : Int}

/-- What is read of a whole stream and what is left then make up the declared length. -/
theorem left_readAll {data : Packed} {final : ImageStream} (low : 0 ≤ s.length.value)
    (h : (ImageStream.ofSegment s maxFill).readAll s = .ok data final) :
    (data.size : Int) + final.left = s.length.value := by
  rw [ImageStream.readAll_eq] at h
  have hsize := ImageStream.left_read h
  have hstart : (ImageStream.ofSegment s maxFill).left = s.length.value.toNat := by
    simp [ImageStream.left, ImageStream.ofSegment]
  omega

/-- A whole stream that comes to its end without an error is as long as declared. -/
theorem size_readAll {data : Packed} {final : ImageStream} (low : 0 ≤ s.length.value)
    (h : (ImageStream.ofSegment s maxFill).readAll s = .ok data final)
    (clean : final.error = none) : (data.size : Int) = s.length.value := by
  have hsize := left_readAll low h
  rw [ImageStream.readAll_eq] at h
  have stopped := ImageStream.isExhausted_of_left_le h (Nat.le_refl _)
  have none : final.left = 0 := by
    simpa [ImageStream.isExhausted, clean] using stopped
  omega

/-- The image is all that is declared, or what lies before a hole. -/
theorem image_of_fits (fits : ¬ (s.walk maxFill).Fails) (low : 0 ≤ s.length.value) :
    (∃ image, (s.image maxFill).result = .ok image ∧ image.size = s.length.value) ∨
    ∃ cause, (s.image maxFill).result = .error (.reconstruction cause) ∧
      cause.data.size < s.length.value ∧ cause.data.toBytes = s.laid maxFill := by
  obtain ⟨data, final, hall, hbytes, _, _⟩ := ImageStream.read_left_of_fits fits
  have hread := (ImageStream.readAll_eq s _).trans hall
  cases herror : final.error with
  | none => exact .inl ⟨data, image_of_readAll hread herror, size_readAll low hread herror⟩
  | some cause =>
    right
    have hsize := left_readAll low hread
    have more := ImageStream.left_pos_of_error hall rfl (by simp [herror])
    refine ⟨{ cause with data }, ?_, ?_, hbytes⟩
    · simp only [image, hread, herror]
    · show (data.size : Int) < _
      omega

/-- Whether a segment and its data reach no farther than those of a loaded module can. -/
structure ReachesNoFarther (s : Segment) : Prop where
  low : 0 ≤ s.length.value
  length : s.length.value ≤ farthest
  fragments : ∀ f ∈ s.fragments, f.IsBounded

theorem ReachesNoFarther.fits (h : s.ReachesNoFarther) (holds : Machine.HoldsModules)
    (hidden : ∀ f ∈ s.fragments, f.HidesNothing) (maxFill : Int) :
    ¬ (s.walk maxFill).Fails := by
  have hfour : (0x100000000 : Int) ≤ farthest := by decide
  refine Walk.fits_along s holds.segments h.length (fun f hf => ?_) 0 0
  have hf := Array.mem_toList_iff.mp hf
  have hbounded := h.fragments f hf
  exact ⟨Int.le_trans (Int.le_of_lt hbounded.offset) hfour, _,
    hbounded.contents holds.records (hidden f hf)⟩

end Segment

namespace Contents
variable {c : Contents} {entries : List Entry} {s : Segment}

/-- What a segment holds is some entry's. -/
theorem Accounts.mem_entries (h : c.Accounts entries) (hs : s ∈ c.segments) {f : Fragment}
    (hf : f ∈ s.fragments) : .data f ∈ entries := by
  have hheld : f ∈ c.held := List.mem_flatMap.mpr ⟨s, hs, Array.mem_toList_iff.mpr hf⟩
  obtain ⟨e, he, hdata⟩ := List.mem_filterMap.mp (h.held.mem_iff.mp hheld)
  cases e <;> cases hdata
  exact he

/-- Entries that are bounded add up to segments that are: those defined declare what they were
defined with, and those injected reach as far as their data. -/
theorem Accounts.length_le (h : c.Accounts entries) (hbounded : ∀ e ∈ entries, e.IsBounded)
    (hsound : ∀ e ∈ entries, e.IsSound) :
    ∀ s ∈ c.segments, s.length.value ≤ Segment.farthest := by
  refine forall_segments.mpr ⟨fun s hs => ?_, fun p hp => ?_⟩
  · have hlength : s.length ∈ (entries.filterMap Entry.definition?).map (·.length) :=
      h.lengths ▸ List.mem_map_of_mem hs
    obtain ⟨t, ht, hlength⟩ := List.mem_map.mp hlength
    obtain ⟨e, he, hdefinition⟩ := List.mem_filterMap.mp ht
    cases e <;> cases hdefinition
    have declared : t.length.value ≤ Segment.bigLengthWide := hbounded _ he
    rw [← hlength]
    exact Int.le_trans declared (by decide)
  · obtain ⟨f, hf, hreached⟩ := (h.grown p hp).reached
    have hmem : p.2 ∈ c.segments := List.mem_append_right _ (List.mem_map_of_mem hp)
    have hentry := h.mem_entries hmem hf
    have hdata : f.IsData := hsound _ hentry
    have hf : f.IsBounded := hbounded _ hentry
    have hlength := hf.length
    have hoffset := hf.offset
    rw [hdata.length, ← Packed.length_toBytes] at hlength
    rw [hreached, Fragment.bytes, Segment.farthest]
    omega

end Contents

namespace Module
variable {input : Bytes} {path : String} {options : Options} {m : Module}

/-- **No segment of a loaded module reaches far.** -/
theorem reachesNoFarther_of_load (h : (load input path options).result = .ok m) :
    ∀ s ∈ m.segments, s.ReachesNoFarther := by
  obtain ⟨entries, hread, hentries, alike⟩ := entries_of_load h
  have haccounts := Contents.accounts_of_alike hentries alike
  have hbounded : ∀ e ∈ entries, e.IsBounded :=
    Outcome.forall_mem_of_forall₂ (Outcome.mapM_eq_ok.mp hread)
      (fun _ _ he hbody => Record.isBounded_entry he hbody) Record.length_body_split
  refine fun s hs => ⟨(isPlaceable_of_load h s hs).length, ?_, fun f hf => ?_⟩
  · exact haccounts.length_le hbounded (fun e he => (hentries e he).1) s hs
  · exact hbounded _ (haccounts.mem_entries hs hf)

open ImageStream

/-- **Readings of a loaded module.** Let a machine have room for all that a module can say, and let
repeat counts of zero hide no more than the limit in any data of a segment. Then every request made
of a stream over it is answered, whatever gaps may be filled, unless it asks for more than there is
room for. The image is as long as the segment declares, or is cut short before a hole: what comes
with that error is shorter, ends where every stream that may fill as much stops, and is the
beginning of what any stream gives that may fill as much or more. -/
theorem readings_of_load [Machine] (holds : Machine.HoldsModules)
    (h : (load input path options).result = .ok m) {s : Segment} (hs : s ∈ m.segments)
    (hidden : ∀ f ∈ s.fragments, f.HidesNothing) :
    (∀ (maxFill : Int) (calls : List Request),
      List.Forall₂ Request.IsAnsweredBy calls (sessionOf s maxFill calls).answers) ∧
    ((∃ image, (m.image s).result = .ok image ∧ image.size = s.length.value) ∨
      ∃ cause, (m.image s).result = .error (.reconstruction cause) ∧
        cause.data.size < s.length.value ∧
        (∀ calls, (sessionOf s m.options.maxFill calls).final.isExhausted = true →
          (sessionOf s m.options.maxFill calls).final.position = cause.data.size) ∧
        ∀ wider, m.options.maxFill ≤ wider → ∀ calls,
          (sessionOf s wider calls).final.isExhausted = true →
            cause.data.toBytes <+: (sessionOf s wider calls).bytes) := by
  have hreaches := reachesNoFarther_of_load h s hs
  have fits := hreaches.fits holds hidden
  refine ⟨fun maxFill calls => (session_follows (fits maxFill) calls).1, ?_⟩
  rcases Segment.image_of_fits (fits m.options.maxFill) hreaches.low with
    complete | ⟨cause, hresult, short, hdata⟩
  · exact .inl complete
  · refine .inr ⟨cause, hresult, short, fun calls stopped => ?_, fun wider hle calls stopped => ?_⟩
    · obtain ⟨_, hposition, _, _, hall⟩ := session_follows (fits m.options.maxFill) calls
      rw [hposition, (hall stopped).1, ← hdata, Packed.length_toBytes]
    · obtain ⟨_, _, _, _, hall⟩ := session_follows (fits wider) calls
      rw [hdata, (hall stopped).1]
      exact s.laid_begins hle

open scoped CommonMachine

/-- A definition of eight bytes, and two bytes behind a gap of one; with these, two that are
written never. -/
def gapAtEnd : Bytes :=
  [0x98, 7, 0, 0x28, 8, 0, 0, 0, 0, 0,
    0xA2, 20, 0, 1, 1, 0, 0, 0, 1, 0, 2, 0, 0, 0, 1, 0x43, 2, 0, 0, 0, 1, 0x44, 0,
    0x8A, 2, 0, 0, 0]

/-- If one byte may be filled, three can be read, and they begin what can be read if nine may. -/
theorem three_bytes_before_gap :
    ∃ m s cause, (load gapAtEnd "" { maxFill := 1 }).result = .ok m ∧ s ∈ m.segments ∧
      (m.image s).result = .error (.reconstruction cause) ∧ cause.data.size = 3 ∧
      cause.data.toBytes <+: (ImageStream.sessionOf s 9 [.read 6, .readAll]).bytes := by
  have facts : (load gapAtEnd "" { maxFill := 1 }).result.toOption.map (fun m =>
      m.options.maxFill == 1 && m.segments.any fun s =>
        decide (∀ f ∈ s.fragments, f.HidesNothing) && !(m.image s).result.isOk &&
        (ImageStream.sessionOf s 9 [.read 6, .readAll]).final.isExhausted &&
        (ImageStream.sessionOf s 1 [.readAll]).final.isExhausted &&
        (ImageStream.sessionOf s 1 [.readAll]).final.position == 3) = some true := by
    decide +kernel
  obtain ⟨m, hload, hfacts⟩ := Outcome.exists_of_toOption_map facts
  simp only [Bool.and_eq_true, List.any_eq_true, beq_iff_eq, decide_eq_true_eq,
    Bool.not_eq_true'] at hfacts
  obtain ⟨hmaxFill, s, hs, ⟨⟨⟨hidden, fails⟩, wide⟩, narrow⟩, hposition⟩ := hfacts
  obtain ⟨_, ⟨image, hresult, _⟩ | ⟨cause, hresult, _, stops, begins⟩⟩ :=
    readings_of_load ⟨by decide, by decide⟩ hload hs hidden
  · rw [hresult] at fails
    cases fails
  · rw [hmaxFill] at stops begins
    exact ⟨m, s, cause, hload, hs, hresult, (stops [.readAll] narrow).symm.trans hposition,
      begins 9 (by decide) _ wide⟩

/-- A definition of four bytes, and a megabyte repeated as often as four bytes can say, and that
never. -/
def hiddenExpansion : Bytes :=
  [0x98, 7, 0, 0x28, 4, 0, 0, 0, 0, 0,
    0xA3, 26, 0, 1, 0, 0, 0, 0, 0, 0, 0, 0, 1, 0, 0xFF, 0xFF, 0xFF, 0xFF, 1, 0, 0, 0, 0x10, 0, 0, 0,
    1, 0x41, 0, 0x8A, 2, 0, 0, 0]

/-- A module that is loaded, of which neither the image nor a stream can be read. -/
theorem unreadable_although_loaded :
    ∃ m s, (load hiddenExpansion "" {}).result = .ok m ∧ s ∈ m.segments ∧
      ¬ (ImageStream.sessionOf s m.options.maxFill [.readAll]).Returned ∧
      (m.image s).result = .error (.capacity .outOfMemory) := by
  have facts : (load hiddenExpansion "" {}).result.toOption.map (fun m => m.segments.any fun s =>
      decide (¬ (ImageStream.sessionOf s m.options.maxFill [.readAll]).Returned) &&
        Outcome.failure? (m.image s).result == some (.capacity .outOfMemory)) = some true := by
    decide +kernel
  obtain ⟨m, hload, hfacts⟩ := Outcome.exists_of_toOption_map facts
  simp only [List.any_eq_true, Bool.and_eq_true, decide_eq_true_eq, beq_iff_eq,
    Outcome.failure?_eq_some] at hfacts
  obtain ⟨s, hs, failed, hresult⟩ := hfacts
  exact ⟨m, s, hload, hs, failed, hresult⟩

end Module
end ObjectModule
