import ObjectModule.Fragment
import ObjectModule.Segment.Definition
import ObjectModule.Proofs.Outcome
import ObjectModule.Proofs.Record.Reading

/-! What a record says.

The body of a record is read by its kind: an `Entry` is what comes of it. Whatever the
bytes, a definition that is read has a length not below zero, an address exactly if it is
absolute, and no data yet, but takes some (`Segment.IsDefinition`); data that is read has a
segment number and an offset not below zero and as many bytes as its length says
(`Fragment.IsData`). -/
namespace ObjectModule

/-- What a record says. -/
inductive Entry where
  | moduleName (name : String)
  | names (names : List String)
  | definition (s : Segment)
  | data (f : Fragment)
  /-- Nothing that counts. -/
  | other
deriving Repr

namespace Entry

/-- The segment an entry defines. -/
def definition? : Entry → Option Segment
  | definition s => some s
  | _ => none

/-- The data in an entry. -/
def data? : Entry → Option Fragment
  | data f => some f
  | _ => none

end Entry

/-- Reads what a record says. -/
def Record.entry (r : Record) : Except FormatError Entry :=
  match r.type.kind with
  | .header => .moduleName <$> r.moduleName
  | .names => .names <$> r.names
  | .definition => .definition <$> (Segment.read r.type).parse r.body
  | .enumerated => .data <$> Fragment.ofEnumerated r
  | .iterated => .data <$> Fragment.ofIterated r
  | .other => .ok .other

/-- A record of no kind that is known says nothing that counts. -/
theorem Record.entry_of_other {r : Record} (h : r.type.kind = .other) : r.entry = .ok .other := by
  simp only [entry, h]

/-- The record that ends a module says nothing that counts. -/
theorem Record.entry_of_endsModule {r : Record} (h : r.type.endsModule = true) :
    r.entry = .ok .other := by
  refine entry_of_other ?_
  rcases of_decide_eq_true h with htype | htype <;> rw [htype] <;> rfl

/-- A segment as its definition gives it. -/
structure Segment.IsDefinition (s : Segment) : Prop where
  length : 0 ≤ s.length.value
  address : s.address =
    if s.attributes.isAbsolute then some ((s.frameNumber : Int) + s.frameOffset) else none
  fragments : s.fragments = #[]
  isOpen : s.isFrozen = false

/-- A fragment as a data record gives it. -/
structure Fragment.IsData (f : Fragment) : Prop where
  segment : 0 ≤ f.segment
  offset : 0 ≤ f.offset
  length : f.length = f.payload.expand.size

/-- What an entry holds is as a record gives it. -/
def Entry.IsSound : Entry → Prop
  | definition s => s.IsDefinition
  | data f => f.IsData
  | _ => True

/-! ### Definitions -/

namespace Segment

/-- The frame that is read, if one is, as the frame number and offset that are kept. -/
theorem gives_readFrame (attributes : Attributes) :
    (readFrame attributes).Gives fun frame => frame.isSome = attributes.isAbsolute := by
  unfold readFrame
  split
  · next absolute =>
    refine Reader.gives_bind fun number => Reader.gives_bind fun offset => Reader.gives_pure ?_
    exact absolute.symm
  · next relocatable => exact Reader.gives_pure (Bool.eq_false_iff.mpr relocatable).symm

theorem gives_read (type : RecordType) : (read type).Gives IsDefinition := by
  refine Reader.gives_bind fun attributes => ?_
  refine (gives_readFrame _).bind fun frame hframe => ?_
  refine (Reader.gives_sizedInt _).bind fun length hlength => ?_
  refine Reader.gives_bind fun nameIndex => Reader.gives_bind fun classIndex =>
    Reader.gives_bind fun overlayIndex => Reader.gives_pure ⟨?_, ?_, rfl, rfl⟩
  · dsimp only
    split
    · split <;> exact Int.natCast_nonneg _
    · exact hlength
  · cases frame with
    | none => simp [← hframe]
    | some frame => simp [← hframe]

end Segment

/-! ### Data -/

namespace Fragment

theorem gives_readHead (wide : Bool) :
    (readHead wide).Gives fun head => 0 ≤ head.1 ∧ 0 ≤ head.2 :=
  Reader.gives_index.bind fun _ hsegment =>
    (Reader.gives_sizedInt wide).bind fun _ hoffset => Reader.gives_pure ⟨hsegment, hoffset⟩

theorem isData_of_enumerated {r : Record} {f : Fragment} (h : ofEnumerated r = .ok f) :
    f.IsData := by
  unfold ofEnumerated at h
  split at h
  · cases h
  · refine Reader.Gives.parse ?_ h
    refine (gives_readHead _).bind fun head hhead => Reader.gives_bind fun bytes => ?_
    exact Reader.gives_pure ⟨hhead.1, hhead.2, rfl⟩

theorem eq_of_sized {f g : Fragment} (h : f.sized = .ok g) : g = f := by
  unfold sized at h
  split at h
  · cases h
    rfl
  · split at h
    · cases h
    · cases h
      rfl

theorem isData_of_iterated {r : Record} {f : Fragment} (h : ofIterated r = .ok f) : f.IsData := by
  unfold ofIterated at h
  split at h
  · cases h
  · obtain ⟨g, hread, hsized⟩ := Outcome.bind_eq_ok.mp h
    rw [eq_of_sized hsized]
    refine Reader.Gives.parse ?_ hread
    refine (gives_readHead _).bind fun head hhead => ?_
    refine (Reader.gives_untilEnd (Block.gives_read _ _)).bind fun blocks hblocks => ?_
    refine Reader.gives_pure ⟨hhead.1, hhead.2, ?_⟩
    exact Block.totalLength_eq_size (Block.allCounted_iff.mpr hblocks)

end Fragment

/-- **Whatever a record says is sound.** -/
theorem Record.isSound_entry {r : Record} {e : Entry} (h : r.entry = .ok e) : e.IsSound := by
  unfold entry at h
  cases hkind : r.type.kind with
  | header =>
    simp only [hkind, Outcome.map_eq_ok] at h
    obtain ⟨name, _, rfl⟩ := h
    trivial
  | names =>
    simp only [hkind, Outcome.map_eq_ok] at h
    obtain ⟨names, _, rfl⟩ := h
    trivial
  | definition =>
    simp only [hkind, Outcome.map_eq_ok] at h
    obtain ⟨s, hread, rfl⟩ := h
    exact (Segment.gives_read _).parse hread
  | enumerated =>
    simp only [hkind, Outcome.map_eq_ok] at h
    obtain ⟨f, hread, rfl⟩ := h
    exact Fragment.isData_of_enumerated hread
  | iterated =>
    simp only [hkind, Outcome.map_eq_ok] at h
    obtain ⟨f, hread, rfl⟩ := h
    exact Fragment.isData_of_iterated hread
  | other =>
    simp only [hkind] at h
    cases h
    trivial

end ObjectModule
