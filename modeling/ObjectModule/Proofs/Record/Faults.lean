import ObjectModule.Proofs.Record.Definition
import ObjectModule.Proofs.Record.Splitting

/-! Faults in records.

The faults found in the body of a record are few (`Record.cause_entry`): bytes are lacking in it,
or its blocks are nested too deeply or expand to more than they may. Nothing in a record refers to
what other records say, so a name that is not there, or an alignment that cannot be had, is never
found while a record is read.

Reading goes forward from the start of an input, so no number is found of which only a part is
there. Whatever stops an input from being cut into records, or a record from being read, is a
fault of format (`fault_split`, `fault_entry`). -/
namespace ObjectModule

/-- A fault of format, and not a number that is only in part there. -/
def FormatError.IsFault (e : FormatError) : Prop := e ≠ .incompleteNumber

/-- What may be wrong with the body of a record. -/
inductive FormatError.IsInBody (body : Bytes) : FormatError → Prop
  | shortage {e : FormatError} (h : e.IsShortage 0 body) : IsInBody body e
  | depth : IsInBody body .nestedTooDeeply
  | size {offset length : Int} (h : expansionLimit < length) :
      IsInBody body (.oversizeExpansion offset length)

variable {Fault : FormatError → Prop}

namespace Reader

theorem lacks_index : index.Lacks fun _ => Fault := by
  refine (lacks_number 1).bind (takes_number 1) fun first _ _ => ?_
  split
  · exact lacks_pure _
  · exact (lacks_number 1).bind_pure

theorem lacks_sizedInt (wide : Bool) : (sizedInt wide).Lacks fun _ => Fault := by
  rw [sizedInt, u16or32_eq]
  exact (lacks_number _).bind_pure

/-- A reader that finds nothing else wrong is short of bytes where it fails. -/
theorem isInBody_of_parse {α : Type} {reader : Reader α} (h : reader.Lacks fun _ _ => False)
    {body : Bytes} {e : FormatError} (hrun : reader.parse body = .error e) : e.IsInBody body :=
  .shortage ((h.parse hrun).resolve_right id)

end Reader

theorem Block.lacks_read (wide : Bool) (levels : Nat) :
    (read wide levels).Lacks fun _ e => e = .nestedTooDeeply := by
  induction levels with
  | zero => exact Reader.lacks_throw fun _ => rfl
  | succ levels ih =>
    rw [read, Reader.u16or32_eq]
    refine (Reader.lacks_number _).bind (Reader.takes_number _) fun repeats _ _ => ?_
    refine (Reader.lacks_number 2).bind (Reader.takes_number 2) fun count _ _ => ?_
    split
    · refine (Reader.lacks_number 1).bind (Reader.takes_number 1) fun size _ _ => ?_
      exact (Reader.lacks_bytes (Int.natCast_nonneg _)).bind_pure
    · exact (ih.times (takes_read wide levels) count).bind_pure

namespace Definition

theorem lacks_readFrame (attributes : Attributes) :
    (Segment.readFrame attributes).Lacks fun _ => Fault := by
  unfold Segment.readFrame
  split
  · exact (Reader.lacks_number 2).bind (Reader.takes_number 2) fun _ _ _ =>
      (Reader.lacks_number 1).bind_pure
  · exact Reader.lacks_pure _

theorem lacks_read (type : RecordType) : (Segment.read type).Lacks fun _ => Fault := by
  refine (Reader.lacks_number 1).bind (Reader.takes_number 1) fun attributes _ _ => ?_
  refine (lacks_readFrame _).bind (takes_readFrame _) fun frame _ _ => ?_
  refine (Reader.lacks_sizedInt _).bind (Reader.takes_sizedInt _) fun length _ _ => ?_
  refine Reader.lacks_index.bind Index.takes_index fun nameIndex _ _ => ?_
  refine Reader.lacks_index.bind Index.takes_index fun classIndex _ _ => ?_
  exact Reader.lacks_index.bind_pure

end Definition

namespace Fragment
variable {r : Record} {e : FormatError}

theorem lacks_readHead (wide : Bool) : (readHead wide).Lacks fun _ => Fault :=
  Reader.lacks_index.bind Index.takes_index fun _ _ _ =>
    (Reader.lacks_sizedInt wide).bind_pure

theorem cause_ofEnumerated (hkind : r.type.kind = .enumerated) (h : ofEnumerated r = .error e) :
    e.IsInBody r.body := by
  unfold ofEnumerated at h
  rw [if_neg (not_not.mpr hkind)] at h
  refine Reader.isInBody_of_parse ?_ h
  exact (lacks_readHead _).bind (takes_readHead _) fun _ _ _ => Reader.lacks_remainder.bind_pure

theorem cause_sized {f : Fragment} {body : Bytes} (h : f.sized = .error e) : e.IsInBody body := by
  unfold sized at h
  split at h
  · cases h
  · split at h
    · next high =>
      cases h
      exact .size high
    · cases h

theorem cause_ofIterated (hkind : r.type.kind = .iterated) (h : ofIterated r = .error e) :
    e.IsInBody r.body := by
  rw [ofIterated_eq_bind hkind] at h
  rcases Outcome.bind_eq_error.mp h with hread | ⟨f, _, hsized⟩
  · have hlacks : (readIterated r.type.isWide).Lacks fun _ e => e = .nestedTooDeeply := by
      refine (lacks_readHead _).bind (takes_readHead _) fun _ _ _ => ?_
      exact ((Block.lacks_read _ _).untilEnd (Block.takes_read _ _)).bind_pure
    rcases hlacks.parse hread with shortage | rfl
    · exact .shortage shortage
    · exact .depth
  · exact cause_sized hsized

end Fragment

/-- **What is wrong with a record that cannot be read is in its body.** -/
theorem Record.cause_entry {r : Record} {e : FormatError} (h : r.entry = .error e) :
    e.IsInBody r.body := by
  unfold entry at h
  cases hkind : r.type.kind with
  | header =>
    simp only [hkind, Outcome.map_eq_error] at h
    exact Reader.isInBody_of_parse Reader.lacks_countedString h
  | names =>
    simp only [hkind, Outcome.map_eq_error] at h
    exact Reader.isInBody_of_parse
      (Reader.lacks_countedString.untilEnd Reader.takes_countedString) h
  | definition =>
    simp only [hkind, Outcome.map_eq_error] at h
    exact Reader.isInBody_of_parse (Definition.lacks_read _) h
  | enumerated =>
    simp only [hkind, Outcome.map_eq_error] at h
    exact Fragment.cause_ofEnumerated hkind h
  | iterated =>
    simp only [hkind, Outcome.map_eq_error] at h
    exact Fragment.cause_ofIterated hkind h
  | other =>
    simp only [hkind] at h
    cases h

/-! ### Faults of format -/

namespace FormatError
variable {e : FormatError} {offset : Nat} {rest body : Bytes}

theorem IsShortage.isFault (h : e.IsShortage offset rest) : e.IsFault := by
  obtain ⟨_, _, _, rfl⟩ := h.eq
  nofun

theorem IsInBody.isFault (h : e.IsInBody body) : e.IsFault := by
  cases h with
  | shortage h => exact h.isFault
  | depth => nofun
  | size => nofun

end FormatError

namespace Record
variable {r : Record} {e : FormatError}

/-- **What stops a record from being read is a fault of format.** -/
theorem fault_entry (h : r.entry = .error e) : e.IsFault := (cause_entry h).isFault

/-- **What stops an input from being cut into records is a fault of format.** -/
theorem fault_split {input : Bytes} (h : (split input).fault = some e) : e.IsFault := by
  obtain ⟨_, _, cut⟩ := Frame.isCut_split input
  obtain ⟨_, _, _, shortage | ⟨_, _, _, rfl⟩⟩ := cut.stopped e h
  · exact shortage.isFault
  · nofun

end Record
end ObjectModule
