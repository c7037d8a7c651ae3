import ObjectModule.Proofs.Module.Closing
import ObjectModule.Proofs.Record.Faults

/-! Which fault is reported.

An input is cut and its records are taken up in one go, so that the first fault on the way is
the one reported: where a record is refused, what stands behind it is not looked at
(`load_of_refused`). Names are looked up, and segments placed, only when the whole input is cut
and all of its records are taken up (`taken_of_late`). -/
namespace ObjectModule

/-- The offset behind the last byte of a record. -/
def Record.endOffset (r : Record) : Nat := r.offset + r.body.length + 4

/-- Whether an error is about a name that is not there, or about the place of a segment. -/
def Error.IsLate : Error → Prop
  | format (.nameOutOfBounds ..) | format (.unsupportedAlignment ..) | relocation _ => True
  | _ => False

namespace Frame
variable {frames : List Frame} {offset : Nat} {front others : List Record} {r : Record}

/-- Where a record stands among others, there is one that is written so, behind others. -/
theorem exists_of_recordsFrom (h : recordsFrom offset frames = front ++ r :: others) :
    ∃ before f behind, frames = before ++ f :: behind ∧ front = recordsFrom offset before ∧
      r = f.recordAt (offset + (allBytes before).length) := by
  induction frames generalizing offset front with
  | nil => simp [recordsFrom] at h
  | cons a rest ih =>
    cases front with
    | nil =>
      obtain ⟨rfl, _⟩ := List.cons.inj h
      exact ⟨[], a, rest, rfl, rfl, rfl⟩
    | cons x front =>
      obtain ⟨rfl, hrest⟩ := List.cons.inj h
      obtain ⟨before, f, behind, rfl, rfl, rfl⟩ := ih hrest
      refine ⟨a :: before, f, behind, rfl, rfl, ?_⟩
      rw [allBytes_cons, List.length_append, Nat.add_assoc]

theorem endOffset_recordAt (f : Frame) (before : List Frame) :
    (f.recordAt (allBytes before).length).endOffset = (allBytes (before ++ [f])).length := by
  have := f.length_toBytes
  simp only [Record.endOffset, recordAt, allBytes, List.flatMap_append, List.flatMap_singleton,
    List.length_append]
  omega

/-- Only the last of records of which at most the last ends the module does so. -/
theorem EndAtLast.of_append {before behind : List Frame} {f : Frame}
    (h : EndAtLast (before ++ f :: behind)) : ∀ a ∈ before, a.type.endsModule = false :=
  fun a ha => h a (by simp [List.dropLast_append_of_ne_nil, ha])

/-- Inputs that agree up to the end of a record are cut alike up to there, unless it ends the
module. -/
theorem split_of_agreeing {input input' : Bytes}
    (hcut : (Record.split input).records = front ++ r :: others)
    (inside : r.type.endsModule = false) (hinput : input.take r.endOffset <+: input') :
    ∃ others', (Record.split input').records = front ++ r :: others' := by
  obtain ⟨frames, back, cut⟩ := isCut_split input
  obtain ⟨before, f, behind, rfl, rfl, hr⟩ := exists_of_recordsFrom (cut.records ▸ hcut)
  rw [Nat.zero_add] at hr
  subst hr
  -- Both inputs start with the same records, none of which ends the module.
  have hinside : ∀ a ∈ before ++ [f], a.type.endsModule = false :=
    List.forall_mem_append.mpr ⟨cut.endAtLast.of_append, List.forall_mem_singleton.mpr inside⟩
  have hwritten : input = allBytes (before ++ [f]) ++ (allBytes behind ++ back) := by
    rw [cut.written]
    simp [allBytes]
  rw [endOffset_recordAt, hwritten, List.take_left] at hinput
  obtain ⟨rest, rfl⟩ := hinput
  refine ⟨(cutBehind (before ++ [f]).length (allBytes (before ++ [f])).length rest).records, ?_⟩
  rw [split_frames hinside, recordsFrom_append, Nat.zero_add]
  exact List.append_assoc ..

end Frame

namespace Contents
variable {c : Contents} {r : Record} {e : Error} {records : List Record}

/-- A record that ends the module is never refused. -/
theorem inside_of_refused (hc : c.IsOpen) (h : (c.takeUp r).result = .error e) :
    r.type.endsModule = false := by
  refine Bool.eq_false_iff.mpr fun ends => ?_
  have hentry := Record.entry_of_endsModule ends
  rcases (takeUp_eq_error hc).mp h with ⟨_, hfault, _⟩ | ⟨_, hdata, _⟩
  · cases hentry.symm.trans hfault
  · cases hentry.symm.trans hdata

theorem not_isLate_of_takeUp (hc : c.IsOpen) (h : (c.takeUp r).result = .error e) :
    ¬ e.IsLate := by
  rcases (takeUp_eq_error hc).mp h with ⟨fault, hfault, rfl⟩ | ⟨f, _, _, rfl⟩
  · cases Record.cause_entry hfault with
    | shortage shortage =>
      obtain ⟨_, _, _, rfl⟩ := shortage.eq
      exact id
    | depth => exact id
    | size => exact id
  · exact id

end Contents

namespace Module
open ObjectModule.Frame
variable {input input' : Bytes} {path : String} {options : Options} {e : Error}

/-- **The four ways in which loading fails**, each only where those before it do not: a record is
refused, the rest of the input cannot be cut, a name is not found, a segment cannot be placed. -/
theorem load_eq_error :
    (load input path options).result = .error e ↔
      (Contents.takeUpAll {} (Record.split input).records).result = .error e ∨
      ∃ taken, (Contents.takeUpAll {} (Record.split input).records).result = .ok taken ∧
        ((∃ fault, (Record.split input).fault = some fault ∧ e = .format fault) ∨
          (Record.split input).fault = none ∧
            (taken.resolve = .error e ∨
              ∃ closed, taken.resolve = .ok closed ∧
                (place closed path options).result = .error e)) := by
  rw [result_load, Contents.ofBytes, Logged.result_bind]
  cases (Contents.takeUpAll {} (Record.split input).records).result with
  | error fault => simp [Outcome.bind_eq_error]
  | ok taken =>
    cases (Record.split input).fault with
    | some fault =>
      simp [Outcome.bind_eq_error]
      exact eq_comm
    | none => simp [Outcome.bind_eq_error]

/-- **Where a record is refused, nothing behind it matters.** -/
theorem load_of_refused {front others : List Record} {r : Record} {c : Contents}
    (hcut : (Record.split input).records = front ++ r :: others)
    (hfront : (Contents.takeUpAll {} front).result = .ok c)
    (hrefused : (c.takeUp r).result = .error e) (hinput : input.take r.endOffset <+: input') :
    (load input' path options).result = .error e := by
  have hc := Contents.isOpen_empty.takeUpAll hfront
  obtain ⟨others', hcut'⟩ :=
    split_of_agreeing hcut (Contents.inside_of_refused hc hrefused) hinput
  refine load_eq_error.mpr (.inl ?_)
  exact Contents.takeUpAll_eq_error.mpr ⟨front, r, others', c, hcut', hfront, hrefused⟩

/-- What stops an input from being cut is not a name or a place. -/
theorem not_isLate_of_split {fault : FormatError} (h : (Record.split input).fault = some fault) :
    ¬ (Error.format fault).IsLate := by
  obtain ⟨frames, back, cut⟩ := isCut_split input
  obtain ⟨_, _, _, shortage | ⟨_, _, _, rfl⟩⟩ := cut.stopped fault h
  · obtain ⟨_, _, _, rfl⟩ := shortage.eq
    exact id
  · exact id

/-- **Names and places are judged only when all records are taken up.** -/
theorem taken_of_late (late : e.IsLate) (h : (load input path options).result = .error e) :
    (Record.split input).fault = none ∧
      ∃ taken, (Contents.takeUpAll {} (Record.split input).records).result = .ok taken ∧
        (taken.resolve = .error e ∨
          ∃ closed, taken.resolve = .ok closed ∧
            (place closed path options).result = .error e) := by
  rcases load_eq_error.mp h with hrefused | ⟨taken, htaken, ⟨fault, hfault, rfl⟩ | ⟨hcut, hlate⟩⟩
  · obtain ⟨_, _, _, _, _, htaken, hrefused⟩ := Contents.takeUpAll_eq_error.mp hrefused
    have hc := Contents.isOpen_empty.takeUpAll htaken
    exact absurd late (Contents.not_isLate_of_takeUp hc hrefused)
  · exact absurd late (not_isLate_of_split hfault)
  · exact ⟨hcut, taken, htaken, hlate⟩

/-- **The first fault is the one reported.** Where records are taken up to one that is refused,
every input that agrees up to the end of that record fails in the same way. And a name or a place
is at fault only where the whole input is cut and each of its records is taken up. -/
theorem first_fault_reported (path : String) (options : Options) :
    (∀ input front r others c e, (Record.split input).records = front ++ r :: others →
      (Contents.takeUpAll {} front).result = .ok c → (c.takeUp r).result = .error e →
      ∀ input', input.take r.endOffset <+: input' →
        (load input' path options).result = .error e) ∧
    ∀ input e, e.IsLate → (load input path options).result = .error e →
      (Record.split input).fault = none ∧
        ∃ taken, (Contents.takeUpAll {} (Record.split input).records).result = .ok taken ∧
          (taken.resolve = .error e ∨
            ∃ closed, taken.resolve = .ok closed ∧
              (place closed path options).result = .error e) :=
  ⟨fun _ _ _ _ _ _ hcut hfront hrefused _ => load_of_refused hcut hfront hrefused,
    fun _ _ => taken_of_late⟩

/-- Names, and data for segment zero. -/
def dataForNone : Bytes := [0x96, 3, 0, 1, 0x41, 0, 0xA0, 5, 0, 0, 0, 0, 7, 0]

/-- A segment with the third of no names. -/
def thirdOfNone : Bytes := [0x98, 7, 0, 0x20, 4, 0, 3, 0, 0, 0, 0x8A, 2, 0, 0, 0]

/-- Data for no segment is refused before the record without a length behind it is met. The name
that is not there is missed only behind the end of the module. -/
theorem first_fault_of_dataForNone :
    (load (dataForNone ++ [0x96, 0, 0]) "" {}).result = .error (.format (.noSegment 0)) ∧
      (load thirdOfNone "" {}).result = .error (.format (.nameOutOfBounds .segment 3 0)) ∧
      (Record.split thirdOfNone).fault = none := by
  obtain ⟨hrefused, hlate⟩ := first_fault_reported "" {}
  have hcut : (Record.split (dataForNone ++ [0x8A, 2, 0, 0, 0])).records =
      [⟨.lnames, 0, [1, 0x41], 0⟩] ++ ⟨.ledata, 6, [0, 0, 0, 7], 0⟩ :: [⟨.modend, 14, [0], 0⟩] := by
    decide +kernel
  have htaken : (Contents.takeUpAll {} [⟨.lnames, 0, [1, 0x41], 0⟩]).result.toOption.isSome := by
    decide +kernel
  have hthird : Outcome.failure? (load thirdOfNone "" {}).result =
      some (.format (.nameOutOfBounds .segment 3 0)) := by
    decide +kernel
  have hthird := Outcome.failure?_eq_some.mp hthird
  obtain ⟨c, hc⟩ := Outcome.exists_of_isSome_toOption htaken
  have hnone : (c.takeUp ⟨.ledata, 6, [0, 0, 0, 7], 0⟩).result = .error (.format (.noSegment 0)) :=
    (Contents.takeUp_eq_error (Contents.isOpen_empty.takeUpAll hc)).mpr (.inr ⟨_, rfl, rfl, rfl⟩)
  have late : (Error.format (.nameOutOfBounds .segment 3 0)).IsLate := trivial
  exact ⟨hrefused _ _ _ _ c _ hcut hc hnone _ ⟨[0x96, 0, 0], rfl⟩, hthird,
    (hlate _ _ late hthird).1⟩

end Module
end ObjectModule
