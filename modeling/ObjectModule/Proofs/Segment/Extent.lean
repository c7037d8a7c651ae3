import ObjectModule.CommonMachine
import ObjectModule.Proofs.Record.Sizes
import ObjectModule.Proofs.Segment.Life

/-! How far iterated data reaches.

The length of iterated data is told by arithmetic alone; by it data is refused before any of it
is expanded, and segments grow. Blocks of any shape write just as many bytes (`IsAsTold.length`), so
what is refused for its length would have been too long, and a segment grows just to the end of
the bytes. Within the limit the bytes can be had, unless a factor of the length that is zero hides
one that is too large: a repeat count of zero hides the blocks it is about, and a pattern without
bytes its own repeat count (`isAsTold`). All that is for blocks no deeper in one another than can
be followed; deeper ones are refused for that (`check_of_deep`). -/
namespace ObjectModule

namespace Fragment
variable {f : Fragment} {blocks : List Block} {segment offset : Int}

/-- Iterated data for a segment. -/
def iterating (segment offset : Int) (blocks : List Block) : Fragment :=
  ⟨segment, offset, .iterated blocks⟩

/-- Whether every repeat count is small enough to be a count. -/
def IsCountable (f : Fragment) : Prop :=
  ∀ p ∈ Block.nestedInAll f.blocks, p.2.repeats < Capacity.countBound

instance (f : Fragment) : Decidable f.IsCountable :=
  inferInstanceAs (Decidable (∀ p ∈ Block.nestedInAll f.blocks, _ < _))

/-- Whether the fragment, if it is iterated, is not refused for its length. -/
def IsWithinLimit (f : Fragment) : Prop :=
  match f.payload with
  | .enumerated _ => True
  | .iterated blocks => Block.totalLength blocks ≤ expansionLimit

instance (f : Fragment) : Decidable f.IsWithinLimit := by
  unfold IsWithinLimit
  split <;> infer_instance

section
variable [Machine]

/-- Data that writes as many bytes as its length says, and what follows from that. -/
structure IsAsTold (f : Fragment) : Prop where
  length : f.length = f.payload.expand.size
  nested : ∀ p ∈ Block.nestedInAll f.blocks, p.2.length = p.2.expand.size
  /-- Beyond the limit it is refused for its length, whatever is asked of it. -/
  beyond : (expansionLimit : Int) < f.length →
    f.contents = .error (.format (.oversizeExpansion f.offset f.length)) ∧
      f.isAllZero = .error (.format (.oversizeExpansion f.offset f.length))
  /-- Within the limit its bytes are given, or cannot be had. -/
  within : f.length ≤ expansionLimit →
    f.contents = .ok f.payload.expand ∧ f.isAllZero = .ok f.payload.isAllZero ∨
      ∃ cause, f.contents = .error (.capacity cause) ∧ f.isAllZero = .error (.capacity cause)
  /-- They are given if no zero hides a factor that is too large, and there is room for as much
  as the limit. -/
  given : f.length ≤ expansionLimit → f.IsCountable → f.HidesNothing →
    (expansionLimit : Int) < Machine.memory →
    f.contents = .ok f.payload.expand ∧ f.isAllZero = .ok f.payload.isAllZero
  zeros : f.payload.isAllZero = true ↔ ∀ byte ∈ f.payload.expand.toBytes, byte = 0
  /-- A segment that takes data grows to the end of the bytes, unless it is longer. -/
  grows : ∀ s : Segment, s.isFrozen = false → (Segment.extend f).run s = .ok () { s with
    length := s.length.withValue (max s.length.value (f.offset + f.payload.expand.size))
    fragments := s.fragments.push f }

/-! ### What is given and what is refused -/

theorem given_of_check (h : f.check = .ok ()) :
    f.contents = .ok f.payload.expand ∧ f.isAllZero = .ok f.payload.isAllZero := by
  rw [contents, isAllZero, h]
  exact ⟨rfl, rfl⟩

theorem refused_of_check {e : Error} (h : f.check = .error e) :
    f.contents = .error e ∧ f.isAllZero = .error e := by
  rw [contents, isAllZero, h]
  exact ⟨rfl, rfl⟩

theorem check_of_deep (deep : Machine.levels < Block.depthOfAll blocks) :
    (iterating segment offset blocks).check = .error (.capacity .tooDeep) := by
  simp only [check, iterating, Capacity.depth, if_neg (Nat.not_le.mpr deep)]
  rfl

theorem check_of_beyond (shallow : Block.depthOfAll blocks ≤ Machine.levels)
    (h : (expansionLimit : Int) < Block.totalLength blocks) :
    (iterating segment offset blocks).check =
      .error (.format (.oversizeExpansion offset (Block.totalLength blocks))) := by
  simp only [check, iterating, Capacity.depth_eq_ok shallow, sized, if_pos h]
  rfl

theorem check_of_within (shallow : Block.depthOfAll blocks ≤ Machine.levels)
    (h : Block.totalLength blocks ≤ expansionLimit) :
    (iterating segment offset blocks).check =
      discard ((Block.writtenTogether blocks).mapError .capacity) := by
  simp only [check, iterating, Capacity.depth_eq_ok shallow, sized, if_neg (Int.not_lt.mpr h)]
  rfl

end

end Fragment

namespace Segment
variable {s : Segment} {f : Fragment}

/-- A segment that takes data grows to the end of a fragment, unless it is longer. -/
theorem grownBy_eq (s : Segment) (f : Fragment) :
    s.grownBy f = { s with
      length := s.length.withValue (max s.length.value f.endOffset)
      fragments := s.fragments.push f } := by
  have hlength : (s.grownBy f).length =
      s.length.withValue (max s.length.value f.endOffset) := by
    rw [← value_grownBy, SizedInt.withValue, ← width_grownBy s f]
  rw [← hlength]
  rfl

end Segment

namespace Fragment
variable {f : Fragment} {blocks : List Block}

section
variable [Machine]

/-- Within the limit the bytes are given, or cannot be had. -/
theorem given_or_refused (segment offset : Int)
    (within : Block.totalLength blocks ≤ expansionLimit) :
    (iterating segment offset blocks).check = .ok () ∨
      ∃ cause, (iterating segment offset blocks).check = .error (.capacity cause) := by
  rcases Nat.lt_or_ge Machine.levels (Block.depthOfAll blocks) with deep | shallow
  · exact .inr ⟨.tooDeep, check_of_deep deep⟩
  · rw [check_of_within shallow within]
    cases Block.writtenTogether blocks with
    | ok size => exact .inl rfl
    | error cause => exact .inr ⟨cause, rfl⟩

/-- Of any data within the limit the bytes are given, or cannot be had. -/
theorem check_of_isWithinLimit (h : f.IsWithinLimit) :
    f.check = .ok () ∨ ∃ cause, f.check = .error (.capacity cause) := by
  obtain ⟨segment, offset, payload⟩ := f
  cases payload with
  | enumerated data => exact .inl rfl
  | iterated blocks => exact given_or_refused segment offset h

/-- Data within the limit that cannot be had is refused for its amount or its depth. If it can be
followed, nothing is hidden, and there is room for as much as the limit, then some repeat count is
below zero or too large. -/
theorem refused_of_contents {e : Error} (h : f.IsWithinLimit) (hrefused : f.contents = .error e) :
    (∃ cause, e = .capacity cause) ∧
      (f.IsShallow → f.HidesNothing → (expansionLimit : Int) < Machine.memory →
        ¬ (Block.AllCounted f.blocks ∧ f.IsCountable)) := by
  constructor
  · rcases check_of_isWithinLimit h with given | ⟨cause, refused⟩
    · cases (given_of_check given).1.symm.trans hrefused
    · cases (refused_of_check refused).1.symm.trans hrefused
      exact ⟨cause, rfl⟩
  · rintro shallow hidden room ⟨counted, countable⟩
    obtain ⟨segment, offset, payload⟩ := f
    cases payload with
    | enumerated data => cases hrefused
    | iterated blocks =>
      have hiterated : (iterating segment offset blocks).IsIterated :=
        ⟨rfl, counted, countable, h⟩
      cases (hiterated.contents_of_hidesNothing shallow room hidden).symm.trans hrefused

/-- **Iterated data is as long as it is told to be**, whatever its blocks, if they can be followed
and none is to be written less than never. Beyond the limit it is refused; within it the bytes are
given, unless a factor that is zero hides one that is too large; and a segment grows to the end of
the bytes. -/
theorem isAsTold (segment offset : Int) (shallow : Block.depthOfAll blocks ≤ Machine.levels)
    (counted : Block.AllCounted blocks) : (iterating segment offset blocks).IsAsTold := by
  have hlength : (iterating segment offset blocks).length =
      (iterating segment offset blocks).payload.expand.size :=
    Block.totalLength_eq_size counted
  have hwithin (within : Block.totalLength blocks ≤ expansionLimit) :=
    (given_or_refused segment offset within).imp given_of_check
      fun ⟨cause, refused⟩ => Exists.intro cause (refused_of_check refused)
  refine ⟨hlength, fun p hp => ?_, fun h => refused_of_check (check_of_beyond shallow h), hwithin,
    fun within countable hidden room => ?_, ?_, fun s isOpen => ?_⟩
  · exact Block.length_eq_size (Block.AllCounted.of_nested counted p hp).2
  · have hiterated : (iterating segment offset blocks).IsIterated :=
      ⟨rfl, counted, countable, within⟩
    refine (hwithin within).resolve_right fun ⟨cause, refused, _⟩ => ?_
    cases (hiterated.contents_of_hidesNothing shallow room hidden).symm.trans refused
  · rw [Payload.isAllZero_eq, Bytes.allZero, List.all_eq_true]
    simp only [beq_iff_eq]
  · rw [← hlength]
    show (do Segment.requireOpen; modify (Segment.grownBy _) : Segment.Action Unit).run s = _
    rw [Segment.run_requireOpen_modify, if_neg (Bool.eq_false_iff.mp isOpen), Segment.grownBy_eq]
    rfl

end

/-- Two bytes three times behind three that are written never, all of it twice, with content
beside blocks, which is nothing; a pattern without bytes; and a zero. -/
def unevenBlocks : List Block :=
  [.mk 2 (.ofBytes [0x7A]) [.mk 0 .empty [.mk 3 (.ofBytes [0x41]) []],
    .mk 3 (.ofBytes [0x41, 0x42]) [], .mk 5 .empty []], .mk 1 (.ofBytes [0]) []]

open scoped CommonMachine

/-- Thirteen bytes are told and written, not all of them zeros, and a segment of four bytes grows
to hold them at an offset of one. -/
theorem isAsTold_unevenBlocks :
    Block.AllCounted unevenBlocks ∧
      (iterating 1 1 unevenBlocks).contents = .ok (Block.expandAll unevenBlocks) ∧
      (13 : Int) = (Block.expandAll unevenBlocks).size ∧
      (iterating 1 1 unevenBlocks).isAllZero = .ok false ∧
      (Segment.extend (iterating 1 1 unevenBlocks)).run (.holding 4 []) =
        .ok () { Segment.holding 4 [] with
          length := ⟨2, 14⟩, fragments := #[iterating 1 1 unevenBlocks] } := by
  have counted : Block.AllCounted unevenBlocks := by
    simp [unevenBlocks, Block.AllCounted, Block.IsCounted]
  have htold := isAsTold 1 1 (by decide) counted
  have hlength : (iterating 1 1 unevenBlocks).length = 13 := by decide
  obtain ⟨hcontents, hzero⟩ := htold.given (by rw [hlength]; decide) (by decide) (by decide)
    (by decide)
  have hsize := htold.length.symm.trans hlength
  refine ⟨counted, hcontents, hsize.symm, ?_, ?_⟩
  · exact hzero.trans (by decide)
  · rw [htold.grows _ rfl, hsize]
    rfl

/-- A megabyte, repeated as often as four bytes can say, and that never. -/
def neverMegabytes : List Block :=
  [.mk 0 .empty [.mk 0xFFFFFFFF .empty [.mk 0x100000 (.ofBytes [0x41]) []]]]

/-- No bytes, more often than can be counted. -/
def endlessNothing : List Block := [.mk 0x8000000000000000 .empty []]

/-- Of data that writes nothing, by its length, the bytes may not be had: a zero hides what is
too large beside it. -/
theorem nothing_not_had :
    (Block.AllCounted neverMegabytes ∧ (iterating 1 0 neverMegabytes).length = 0 ∧
      (iterating 1 0 neverMegabytes).contents = .error (.capacity .outOfMemory)) ∧
    Block.AllCounted endlessNothing ∧ (iterating 1 0 endlessNothing).length = 0 ∧
      (iterating 1 0 endlessNothing).contents = .error (.capacity .uncountable) := by
  have counted : Block.AllCounted neverMegabytes ∧ Block.AllCounted endlessNothing := by
    simp [neverMegabytes, endlessNothing, Block.AllCounted, Block.IsCounted]
  exact ⟨⟨counted.1, by decide, rfl⟩, counted.2, by decide, rfl⟩

end Fragment
end ObjectModule
