import ObjectModule.CommonMachine
import ObjectModule.Proofs.ImageStream.Composition
import ObjectModule.Proofs.ImageStream.Requests

/-! Which fragments are accounted for.

Once a fresh stream is read to its end, in whatever steps, a fragment should either be
in the image, at its own offset, or be recorded as skipped, once. It is, exactly
unless a fragment accepted before it reaches the declared length: the stream ends
there, and the fragments still ahead, though they start behind what is there, are not
looked at any more (`accounted_iff`). -/
namespace ObjectModule

section
variable [Machine]

/-- Whether a fragment accepted before a place reaches the declared length. -/
def Segment.FilledBefore (s : Segment) (maxFill : Int) (i : Nat) : Prop :=
  ∃ j g, j < i ∧ s.Accepts maxFill j ∧ s.fragments[j]? = some g ∧
    s.length.value ≤ g.offset + g.bytes.length

instance (s : Segment) (maxFill : Int) (i : Nat) : Decidable (s.Accepts maxFill i) :=
  inferInstanceAs
    (Decidable (∃ p ∈ (s.walk maxFill).pieces, p.source = some i ∧ p.bytes ≠ []))

end

namespace ImageStream
variable {s : Segment} {maxFill : Int} {calls : List Request} {i : Nat} {f : Fragment}

section
variable [Machine]

/-- A session that exhausts a stream without an error is told by a complete walk. -/
theorem complete_of_session (h : (sessionOf s maxFill calls).Returned)
    (stopped : (sessionOf s maxFill calls).final.isExhausted = true)
    (clean : (sessionOf s maxFill calls).final.error = none) :
    (s.walk maxFill).ending = .complete ∧
      (sessionOf s maxFill calls).bytes = s.laid maxFill ∧
      (sessionOf s maxFill calls).final.skipped = (s.walk maxFill).skipped := by
  obtain ⟨want, data, hread, hbytes⟩ := session_read h
  have hread : (ofSegment s maxFill).read s want = .ok data (sessionOf s maxFill calls).final :=
    hread
  have hall : (ofSegment s maxFill).read s (ofSegment s maxFill).left =
      .ok data (sessionOf s maxFill calls).final := by
    rw [read_left_of_ok hread, read, readOnto_of_exhausted stopped]
    exact congrArg (EStateM.Result.ok · (sessionOf s maxFill calls).final)
      (Packed.append_empty data)
  obtain ⟨complete, hlaid, hskipped⟩ := complete_of_read_left hall clean
  exact ⟨complete, hbytes.symm.trans hlaid, hskipped⟩

theorem filledBefore_iff :
    s.FilledBefore maxFill i ↔ (s.walk maxFill).IsFullAt s.length.value i := by
  constructor
  · rintro ⟨j, g, hj, ⟨p, hp, hsource, _⟩, hg, full⟩
    obtain ⟨hoffset, hbytes⟩ := Segment.eq_of_source hp hsource hg
    refine ⟨p, hp, ⟨j, hj, hsource⟩, ?_⟩
    rw [hoffset, hbytes] at full
    unfold Piece.finish
    omega
  · rintro ⟨p, hp, ⟨j, hj, hsource⟩, full⟩
    obtain ⟨g, hg, hoffset, hbytes⟩ := Segment.exists_fragment hp hsource
    have hbelow := (Walk.sound s maxFill).below p hp
    unfold Piece.finish at full
    refine ⟨j, g, hj, ⟨p, hp, hsource, List.ne_nil_of_length_pos (by omega)⟩, hg, ?_⟩
    rw [hoffset, hbytes]
    omega

/-- **A fragment is accounted for exactly unless the image was full before it.** It is
then either accepted or recorded as skipped once, and never both; one that is
accepted is found in the bytes at its own offset, as far as the declared length; and
behind a fragment that fills the image one is neither accepted nor recorded. -/
theorem accounted_iff (s : Segment) (maxFill : Int) (calls : List Request) {i : Nat} {f : Fragment}
    (sorted : Fragment.Sorted s.fragments.toList)
    (h : (sessionOf s maxFill calls).Returned)
    (stopped : (sessionOf s maxFill calls).final.isExhausted = true)
    (clean : (sessionOf s maxFill calls).final.error = none)
    (hf : s.fragments[i]? = some f) (nonempty : f.bytes ≠ []) (low : 0 ≤ f.offset)
    (high : f.offset < s.length.value) :
    (((s.Accepts maxFill i ∧
          timesRecorded i (sessionOf s maxFill calls).final.skipped = 0) ∨
        (¬ s.Accepts maxFill i ∧
          timesRecorded i (sessionOf s maxFill calls).final.skipped = 1)) ↔
      ¬ s.FilledBefore maxFill i) ∧
    (s.FilledBefore maxFill i →
      ¬ s.Accepts maxFill i ∧
        timesRecorded i (sessionOf s maxFill calls).final.skipped = 0) ∧
    (s.Accepts maxFill i → ∀ x : Nat, x < s.length.value → f.Covers x →
      (sessionOf s maxFill calls).bytes[x]? = f.bytes[x - f.offset.toNat]?) := by
  obtain ⟨complete, hbytes, hskipped⟩ := complete_of_session h stopped clean
  rw [hbytes, hskipped, filledBefore_iff]
  have haccepts : s.Accepts maxFill i ↔ (s.walk maxFill).Lays i :=
    ⟨Segment.lays_of_accepts, fun lays => Segment.accepts_of_lays lays hf nonempty⟩
  have start : ¬ s.length.value ≤ (0 : Nat) := by omega
  rw [haccepts]
  refine ⟨?_, ?_, fun lays x => Segment.getElem?_of_lays lays hf⟩
  · cases Segment.fate complete sorted hf high with
    | laid lays records room =>
      exact iff_of_true (.inl ⟨lays, records⟩) fun full => room (.inr full)
    | skipped lays records room taken =>
      exact iff_of_true (.inr ⟨lays, records⟩) fun full => room (.inr full)
    | unexamined lays records full =>
      have full := full.resolve_left start
      refine iff_of_false ?_ fun room => room full
      rintro (⟨lays', _⟩ | ⟨_, records'⟩)
      · exact lays lays'
      · cases records.symm.trans records'
  · intro full
    cases Segment.fate complete sorted hf high with
    | laid lays records room => exact absurd (.inr full) room
    | skipped lays records room taken => exact absurd (.inr full) room
    | unexamined lays records _ => exact ⟨lays, records⟩

end

open scoped CommonMachine

/-- A fragment inside one that fills the image goes without a trace. -/
theorem unaccounted_in_full_image :
    Fragment.Sorted (Segment.holding 4 [(0, [1, 2, 3, 4]), (2, [5])]).fragments.toList ∧
    (sessionOf (.holding 4 [(0, [1, 2, 3, 4]), (2, [5])]) 0 [.readAll]).Returned ∧
    (sessionOf (.holding 4 [(0, [1, 2, 3, 4]), (2, [5])]) 0 [.readAll]).final.isExhausted = true ∧
    (sessionOf (.holding 4 [(0, [1, 2, 3, 4]), (2, [5])]) 0 [.readAll]).final.error = none ∧
    (sessionOf (.holding 4 [(0, [1, 2, 3, 4]), (2, [5])]) 0 [.readAll]).bytes = [1, 2, 3, 4] ∧
    (sessionOf (.holding 4 [(0, [1, 2, 3, 4]), (2, [5])]) 0 [.readAll]).final.skipped = [] ∧
    ¬ (Segment.holding 4 [(0, [1, 2, 3, 4]), (2, [5])]).Accepts 0 1 := by
  decide +kernel

/-- A fragment inside one that leaves room behind it. -/
theorem recorded_with_room :
    timesRecorded 1
        (sessionOf (.holding 5 [(0, [1, 2, 3, 4]), (2, [5])]) 1 [.read 3, .readAll]).final.skipped =
      1 := by
  have room : ¬ (Segment.holding 5 [(0, [1, 2, 3, 4]), (2, [5])]).FilledBefore 1 1 := by
    rintro ⟨j, g, hj, _, hg, full⟩
    obtain rfl : j = 0 := by omega
    cases hg
    exact absurd full (by decide)
  have rejected : ¬ (Segment.holding 5 [(0, [1, 2, 3, 4]), (2, [5])]).Accepts 1 1 := by decide
  have accounted :=
    (accounted_iff (.holding 5 [(0, [1, 2, 3, 4]), (2, [5])]) 1 [.read 3, .readAll]
      (f := ⟨1, 2, .enumerated (.ofBytes [5])⟩) (by decide) (by decide +kernel)
      (by decide +kernel) (by decide +kernel) rfl (by decide) (by decide) (by decide)).1.mpr room
  exact (accounted.resolve_left fun accepted => rejected accepted.1).2

end ImageStream
end ObjectModule
