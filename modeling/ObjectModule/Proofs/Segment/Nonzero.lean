import ObjectModule.CommonMachine
import ObjectModule.Proofs.ImageStream.Accounting
import ObjectModule.Proofs.ImageStream.Gaps
import ObjectModule.Proofs.ImageStream.Losses
import ObjectModule.Proofs.Segment.Extent

/-! Whether there is anything but zeros in a segment.

A segment is asked about its fragments one after another, without an image; what it tells is
compared with images here. Every byte of an image that is not zero comes of a fragment, so a
segment without any has images of zeros. If no two fragments are in each other's way, each is found
in the image as a whole, and the segment tells just what the image shows. It tells nothing if it
comes to a fragment whose bytes cannot be had (`nonzero_told`). -/
namespace ObjectModule

namespace Fragment
variable {f : Fragment} {fragments : List Fragment}

/-- Whether some byte of the fragment is not zero. -/
def HoldsNonzero (f : Fragment) : Prop := ∃ byte ∈ f.bytes, byte ≠ 0

theorem isAllZero_payload_iff : f.payload.isAllZero = false ↔ f.HoldsNonzero := by
  rw [Payload.isAllZero_eq, ← Bool.not_eq_true, Bytes.allZero, List.all_eq_true, HoldsNonzero]
  simp [bytes]

variable [Machine]

/-- Within the limit a fragment tells whether it is all zeros, or its bytes cannot be had. -/
theorem ends_isAllZero (h : f.IsWithinLimit) :
    Outcome.Ends (fun zeros => zeros = false ↔ f.HoldsNonzero)
      (fun e => ∃ cause, e = .capacity cause ∧ f.contents = .error e) f.isAllZero := by
  rcases check_of_isWithinLimit h with given | ⟨cause, refused⟩
  · rw [(given_of_check given).2]
    exact isAllZero_payload_iff
  · obtain ⟨hcontents, hzero⟩ := refused_of_check refused
    rw [hzero]
    exact ⟨cause, rfl, hcontents⟩

end Fragment

namespace Segment
variable {s : Segment} {maxFill : Int} {fragments : List Fragment}

section
variable [Machine]

theorem ends_search (h : ∀ f ∈ fragments, f.IsWithinLimit) :
    Outcome.Ends (fun told => told = true ↔ ∃ f ∈ fragments, f.HoldsNonzero)
      (fun e => ∃ f ∈ fragments, ∃ cause, e = .capacity cause ∧ f.contents = .error e)
      (hasNonzeroData.search fragments) := by
  induction fragments with
  | nil => simp [hasNonzeroData.search, Outcome.Ends]
  | cons f rest ih =>
    obtain ⟨hf, hrest⟩ := List.forall_mem_cons.mp h
    have hfirst := Fragment.ends_isAllZero hf
    rw [hasNonzeroData.search]
    cases hzero : f.isAllZero with
    | error e =>
      rw [hzero] at hfirst
      exact ⟨f, List.mem_cons_self, hfirst⟩
    | ok zeros =>
      rw [hzero] at hfirst
      cases zeros with
      | false => exact iff_of_true rfl ⟨f, List.mem_cons_self, hfirst.mp rfl⟩
      | true =>
        have hnone : ¬ f.HoldsNonzero := fun holds => Bool.noConfusion (hfirst.mpr holds)
        have honward := ih hrest
        show Outcome.Ends _ _ (hasNonzeroData.search rest)
        cases hsearch : hasNonzeroData.search rest with
        | ok told =>
          rw [hsearch] at honward
          exact honward.trans (by simp [hnone])
        | error e =>
          rw [hsearch] at honward
          obtain ⟨g, hg, hcause⟩ := honward
          exact ⟨g, List.mem_cons_of_mem f hg, hcause⟩

/-- What a segment tells of its fragments. -/
theorem ends_hasNonzeroData (h : ∀ f ∈ s.fragments, f.IsWithinLimit) :
    Outcome.Ends (fun told => told = true ↔ ∃ f ∈ s.fragments, f.HoldsNonzero)
      (fun e => ∃ f ∈ s.fragments, ∃ cause, e = .capacity cause ∧ f.contents = .error e)
      s.hasNonzeroData := by
  simp only [← Array.mem_toList_iff] at h ⊢
  exact ends_search h

/-! ### Images -/

/-- A byte other than zero that comes of any calls comes of a fragment. -/
theorem holdsNonzero_of_serve {calls : List Call} {byte : UInt8}
    (hbyte : byte ∈ (ImageStream.serveOf s maxFill calls).bytes) (nonzero : byte ≠ 0) :
    ∃ f ∈ s.fragments, f.HoldsNonzero := by
  obtain ⟨produced, htracked, hall⟩ := (ImageStream.tracked_start s maxFill).serve calls
  rw [ImageStream.serveOf, ← ImageStream.bytes_delivered] at hbyte
  obtain ⟨p, hp, hbyte⟩ := List.mem_flatMap.mp hbyte
  have hpart := htracked.parts p (hall p hp)
  unfold Piece.IsPartOf at hpart
  split at hpart
  · exact absurd (hpart byte hbyte) nonzero
  · obtain ⟨f, hf, _, hbegins⟩ := hpart
    refine ⟨f, ?_, byte, List.mem_of_mem_drop (hbegins.subset hbyte), nonzero⟩
    rw [← Array.mem_toList_iff]
    exact List.mem_of_getElem? hf

/-- Fragments in order that are not in each other's way, all of them inside the declared length. -/
structure IsTidy (s : Segment) : Prop where
  sorted : Fragment.Sorted s.fragments.toList
  low : ∀ f ∈ s.fragments, 0 ≤ f.offset
  apart : s.fragments.toList.Pairwise fun f g => ∀ x, f.Covers x → ¬ g.Covers x
  inside : ∀ f ∈ s.fragments, f.offset + f.bytes.length ≤ s.length.value

/-- Of fragments that are not in each other's way all bytes are in the image. -/
theorem exists_laid_of_holdsNonzero (h : s.IsTidy)
    (complete : (s.walk maxFill).ending = .complete) {f : Fragment} (hf : f ∈ s.fragments)
    (nonzero : f.HoldsNonzero) : ∃ byte ∈ s.laid maxFill, byte ≠ 0 := by
  obtain ⟨byte, hbyte, nonzero⟩ := nonzero
  obtain ⟨i, hi⟩ := Array.getElem?_of_mem hf
  obtain ⟨k, hk⟩ := List.getElem?_of_mem hbyte
  have hlength := (List.getElem?_eq_some_iff.mp hk).1
  have hlow := h.low f hf
  have hinside := h.inside f hf
  have composes := laid_composes complete h.sorted h.low
  have accepted : s.Accepts maxFill i := by
    by_contra refused
    obtain ⟨j, g, hj, _, hg, covers⟩ := (composes.rejected i f hi
      (List.ne_nil_of_mem hbyte) (by omega)).mp refused
    have self : f.Covers f.offset := ⟨Int.le_refl _, by omega⟩
    obtain ⟨hjlt, rfl⟩ := List.getElem?_eq_some_iff.mp (Array.getElem?_toList.trans hg)
    obtain ⟨hilt, rfl⟩ := List.getElem?_eq_some_iff.mp (Array.getElem?_toList.trans hi)
    exact List.pairwise_iff_getElem.mp h.apart j i hjlt hilt hj _ covers self
  have hplace := composes.covered i f (f.offset.toNat + k) (by omega) accepted hi
    ⟨by omega, by omega⟩
  rw [Nat.add_sub_cancel_left, hk] at hplace
  exact ⟨byte, List.mem_of_getElem? hplace, nonzero⟩

/-- **What a segment tells of its data is what its images show.** Within the limit it tells
whether any fragment has a byte other than zero, unless it comes to one whose bytes cannot be had.
If any stream over it gives such a byte, it does; if the fragments are in order, apart and inside
the declared length, it does exactly if the image does. -/
theorem nonzero_told (s : Segment) (maxFill : Int) (within : ∀ f ∈ s.fragments, f.IsWithinLimit) :
    Outcome.Ends
      (fun told =>
        (∀ calls : List Call, ∀ byte ∈ (ImageStream.serveOf s maxFill calls).bytes,
          byte ≠ 0 → told = true) ∧
        (s.IsTidy → ∀ calls : List Request, (ImageStream.sessionOf s maxFill calls).Returned →
          (ImageStream.sessionOf s maxFill calls).final.isExhausted = true →
          (ImageStream.sessionOf s maxFill calls).final.error = none →
          (told = true ↔ ∃ byte ∈ (ImageStream.sessionOf s maxFill calls).bytes, byte ≠ 0)))
      (fun e => ∃ f ∈ s.fragments, ∃ cause, e = .capacity cause ∧ f.contents = .error e)
      s.hasNonzeroData ∧
    ((∀ f ∈ s.fragments, ∃ content, f.contents = .ok content) →
      ∃ told, s.hasNonzeroData = .ok told) := by
  have hends := ends_hasNonzeroData within
  refine ⟨hends.with_ok fun told htold => ?_, fun had => ?_⟩
  · rw [htold] at hends
    have hfrom (calls : List Call) (byte : UInt8)
        (hbyte : byte ∈ (ImageStream.serveOf s maxFill calls).bytes) (nonzero : byte ≠ 0) :
        told = true := hends.mpr (holdsNonzero_of_serve hbyte nonzero)
    refine ⟨hfrom, fun tidy calls returned stopped clean => ⟨fun tells => ?_, fun shown => ?_⟩⟩
    · obtain ⟨complete, hbytes, _⟩ := ImageStream.complete_of_session returned stopped clean
      obtain ⟨f, hf, nonzero⟩ := hends.mp tells
      rw [hbytes]
      exact exists_laid_of_holdsNonzero tidy complete hf nonzero
    · obtain ⟨byte, hbyte, nonzero⟩ := shown
      apply hfrom (calls.map .request) byte _ nonzero
      rw [ImageStream.serveOf, ImageStream.serve_map_request]
      exact hbyte
  · cases htold : s.hasNonzeroData with
    | ok told => exact ⟨told, rfl⟩
    | error e =>
      rw [htold] at hends
      obtain ⟨f, hf, _, _, refused⟩ := hends
      obtain ⟨content, given⟩ := had f hf
      cases refused.symm.trans given

end

open scoped CommonMachine

/-- Zeros, an iterated fragment of three bytes with a gap before it, and a gap behind. -/
def tidyIterated : Segment :=
  { holding 9 [] with
    fragments := #[⟨1, 1, .enumerated (.ofBytes [0, 0])⟩,
      .iterating 1 4 [.mk 3 (.ofBytes [0x41]) []]] }

theorem nonzero_told_of_iterated :
    tidyIterated.hasNonzeroData = .ok true ∧
      ∃ byte ∈ (ImageStream.sessionOf tidyIterated 2 [.readAll]).bytes, byte ≠ 0 := by
  have within : ∀ f ∈ tidyIterated.fragments, f.IsWithinLimit := by decide
  have ends : tidyIterated.fragments.toList.Pairwise
      fun f g : Fragment => f.offset + f.bytes.length ≤ g.offset := by decide
  have tidy : tidyIterated.IsTidy := by
    refine ⟨by decide, by decide, ends.imp fun before x hf hg => ?_, by decide⟩
    have := hf.2
    have := hg.1
    omega
  have told : tidyIterated.hasNonzeroData = .ok true := by decide +kernel
  have hends := (nonzero_told tidyIterated 2 within).1
  rw [told] at hends
  exact ⟨told, (hends.2 tidy [.readAll] (by decide +kernel) (by decide +kernel)
    (by decide +kernel)).mp rfl⟩

/-- A zero and another byte, and between them, where the zero stands, what cannot be had. -/
def hiddenBetween : Segment :=
  { holding 2 [] with
    fragments := #[⟨1, 0, .enumerated (.ofBytes [0])⟩, .iterating 1 0 Fragment.neverMegabytes,
      ⟨1, 1, .enumerated (.ofBytes [0x41])⟩] }

/-- A stream skips what cannot be had and gives all of the image, and the segment tells nothing. -/
theorem nonzero_untold :
    (∀ f ∈ hiddenBetween.fragments, f.IsWithinLimit) ∧
    (ImageStream.sessionOf hiddenBetween 0 [.readAll]).bytes = [0, 0x41] ∧
    (ImageStream.sessionOf hiddenBetween 0 [.readAll]).final.error = none ∧
    hiddenBetween.hasNonzeroData = .error (.capacity .outOfMemory) := by
  exact ⟨by decide, by decide +kernel, by decide +kernel, rfl⟩

end Segment
end ObjectModule
