import ObjectModule.Module.Contents
import ObjectModule.Proofs.Record.Entry

/-! What records add up to.

Taking up a record reads its entry and enters it. As long as all segments take data
(`IsOpen`), which they do until the last record is taken up, only reading can fail, apart from
data for segment zero. So the contents that records add up to are a fold over their entries
(`takeUpAll_eq_ok`), and what is to be shown of contents is shown of one entry at a time. -/
namespace ObjectModule

/-- Whether an entry may be entered: data must be for a segment with a number above zero. -/
def Entry.HasSegment : Entry → Prop
  | data f => f.segment.toNat ≠ 0
  | _ => True

namespace Segment
variable {s : Segment}

/-- A change of data is refused if the segment is frozen. -/
theorem run_requireOpen_modify (change : Segment → Segment) (s : Segment) :
    (do requireOpen; modify change : Action Unit).run s =
      if s.isFrozen then .error (.access (.frozen s.displayName)) s else .ok () (change s) := by
  simp only [requireOpen, EStateM.run_bind, EStateM.run_get]
  cases s.isFrozen <;> rfl

/-- A segment that takes data is changed. -/
theorem applied_requireOpen_modify (h : s.isFrozen = false) (change : Segment → Segment) :
    (do requireOpen; modify change : Action Unit).applied s = .ok (change s) := by
  have hrun := run_requireOpen_modify change s
  rw [h] at hrun
  rw [Action.applied, hrun]
  rfl

theorem applied_attach (h : s.isFrozen = false) (f : Fragment) :
    (attach f).applied s = .ok (s.withFragment f) :=
  applied_requireOpen_modify h (withFragment f)

theorem applied_extend (h : s.isFrozen = false) (f : Fragment) :
    (extend f).applied s = .ok (s.grownBy f) :=
  applied_requireOpen_modify h (grownBy f)

end Segment

namespace Contents

/-- The injected segments with a fragment handed to the one of an index, which is made if it
is not there yet. -/
def withInjected (index : Nat) (f : Fragment) : List (Nat × Segment) → List (Nat × Segment)
  | [] => [(index, .grownBy f (.injected index .data))]
  | (i, s) :: rest =>
    if i < index then (i, s) :: withInjected index f rest
    else if i = index then (i, s.grownBy f) :: rest
    else (index, .grownBy f (.injected index .data)) :: (i, s) :: rest

/-- The contents with a fragment handed to its segment. -/
def handing (c : Contents) (f : Fragment) : Contents :=
  if f.segment.toNat ≤ c.defined.size then
    { c with defined := c.defined.modify (f.segment.toNat - 1) (Segment.withFragment f) }
  else { c with injected := withInjected f.segment.toNat f c.injected }

/-- The contents with one more record counted. -/
def counted (c : Contents) : Contents := { c with recordCount := c.recordCount + 1 }

/-- The contents with what an entry adds. -/
def adding (c : Contents) : Entry → Contents
  | .moduleName name => { c with name }
  | .names names => { c with names := c.names ++ names }
  | .definition s => { c with defined := c.defined.push s }
  | .data f => c.handing f
  | .other => c

/-- The contents with an entry, which counts as a record. -/
def entering (c : Contents) (e : Entry) : Contents := c.counted.adding e

/-- The contents with entries one after another. -/
def enteringAll (c : Contents) (entries : List Entry) : Contents := entries.foldl entering c

variable {c c' : Contents} {f : Fragment} {r : Record} {P : Segment → Prop} {e : Entry}
  {entries : List Entry} {injected : List (Nat × Segment)} {number : Nat}

/-! ### What all segments have in common -/

theorem forall_modify {segments : List Segment} {change : Segment → Segment}
    (h : ∀ s ∈ segments, P s) (hchange : ∀ s, P s → P (change s)) (place : Nat) :
    ∀ s ∈ segments.modify place change, P s := by
  induction segments generalizing place with
  | nil => simp
  | cons s rest ih =>
    obtain ⟨hs, hrest⟩ := List.forall_mem_cons.mp h
    cases place with
    | zero => exact List.forall_mem_cons.mpr ⟨hchange s hs, hrest⟩
    | succ place => exact List.forall_mem_cons.mpr ⟨hs, ih hrest place⟩

theorem forall_segments :
    (∀ s ∈ c.segments, P s) ↔ (∀ s ∈ c.defined.toList, P s) ∧ ∀ p ∈ c.injected, P p.2 := by
  unfold segments
  rw [List.forall_mem_append, List.forall_mem_map]

/-- What holds of the injected segments and of a new one, and is kept by growing, holds behind
a fragment. -/
theorem forall_withInjected {P : Nat × Segment → Prop} (h : ∀ p ∈ injected, P p)
    (hnew : P (number, .grownBy f (.injected number .data)))
    (hgrow : ∀ s, P (number, s) → P (number, s.grownBy f)) :
    ∀ p ∈ withInjected number f injected, P p := by
  fun_induction withInjected number f injected with
  | case1 => simpa using hnew
  | case2 i s rest less ih =>
    obtain ⟨hfirst, hrest⟩ := List.forall_mem_cons.mp h
    exact List.forall_mem_cons.mpr ⟨hfirst, ih hrest⟩
  | case3 s rest less =>
    obtain ⟨hfirst, hrest⟩ := List.forall_mem_cons.mp h
    exact List.forall_mem_cons.mpr ⟨hgrow s hfirst, hrest⟩
  | case4 i s rest less other => exact List.forall_mem_cons.mpr ⟨hnew, h⟩

/-! ### Segments that take data -/

/-- Whether all segments take data. -/
def IsOpen (c : Contents) : Prop := ∀ s ∈ c.segments, s.isFrozen = false

theorem isOpen_empty : IsOpen {} := fun _ hs => nomatch hs

/-- They still do with one more entry. -/
theorem IsOpen.adding (h : c.IsOpen) (hsound : e.IsSound) : (c.adding e).IsOpen := by
  cases e with
  | definition s =>
    obtain ⟨hdefined, hinjected⟩ := forall_segments.mp h
    refine forall_segments.mpr ⟨?_, hinjected⟩
    show ∀ t ∈ (c.defined.push s).toList, t.isFrozen = false
    rw [Array.toList_push, List.forall_mem_append]
    exact ⟨hdefined, List.forall_mem_singleton.mpr hsound.isOpen⟩
  | data f =>
    obtain ⟨hdefined, hinjected⟩ := forall_segments.mp h
    show (c.handing f).IsOpen
    unfold handing
    split
    · refine forall_segments.mpr ⟨?_, hinjected⟩
      rw [Array.toList_modify]
      have keeps (s : Segment) (hs : s.isFrozen = false) :
          (s.withFragment f).isFrozen = false := hs
      exact forall_modify hdefined keeps _
    · refine forall_segments.mpr ⟨hdefined, ?_⟩
      exact forall_withInjected (P := fun p => p.2.isFrozen = false) hinjected rfl fun _ hs => hs
  | _ => exact h

theorem IsOpen.entering (h : c.IsOpen) (hsound : e.IsSound) : (c.entering e).IsOpen :=
  IsOpen.adding (c := c.counted) h hsound

/-- The injected segment of an index is found open, or made. -/
theorem extendInjected_eq_ok (h : ∀ p ∈ injected, p.2.isFrozen = false) :
    extendInjected number f injected = .ok (withInjected number f injected) := by
  have hnew : injectFor number f = .ok (.grownBy f (.injected number .data)) :=
    Segment.applied_extend rfl f
  fun_induction withInjected number f injected with
  | case1 =>
    rw [extendInjected, hnew]
    rfl
  | case2 i s rest less ih =>
    rw [extendInjected, if_pos less, ih (List.forall_mem_cons.mp h).2]
    rfl
  | case3 s rest less =>
    rw [extendInjected, if_neg less, if_pos rfl,
      Segment.applied_extend (List.forall_mem_cons.mp h).1]
    rfl
  | case4 i s rest less other =>
    rw [extendInjected, if_neg less, if_neg other, hnew]
    rfl

/-- **While all segments take data, only data for segment zero is refused.** -/
theorem result_attach (h : c.IsOpen) :
    (c.attach f).result =
      if f.segment.toNat = 0 then .error (.format (.noSegment f.offset))
      else .ok (c.handing f) := by
  obtain ⟨hdefined, hinjected⟩ := forall_segments.mp h
  unfold attach handing
  by_cases zero : f.segment.toNat = 0
  · simp [zero]
  · by_cases defined : f.segment.toNat ≤ c.defined.size
    · have inside : f.segment.toNat - 1 < c.defined.size := by omega
      have isOpen := hdefined _ (Array.getElem_mem_toList inside)
      have same : c.defined.set (f.segment.toNat - 1)
          (Segment.withFragment f c.defined[f.segment.toNat - 1]) =
          c.defined.modify (f.segment.toNat - 1) (Segment.withFragment f) := by
        refine Array.ext (by simp) fun i _ _ => ?_
        rw [Array.getElem_set, Array.getElem_modify]
        split <;> simp [*]
      simp [zero, defined, Segment.applied_attach isOpen, same]
    · have hextend : extendInjected f.segment.toNat f c.injected =
          .ok (withInjected f.segment.toNat f c.injected) := extendInjected_eq_ok hinjected
      by_cases new : (c.injected.lookup f.segment.toNat).isNone
      · simp [zero, defined, new, hextend]
      · simp [zero, defined, new, hextend]

theorem attach_eq_ok (h : c.IsOpen) :
    (c.attach f).result = .ok c' ↔ f.segment.toNat ≠ 0 ∧ c.handing f = c' := by
  rw [result_attach h]
  split <;> simp [*]

theorem attach_eq_error (h : c.IsOpen) {e : Error} :
    (c.attach f).result = .error e ↔
      f.segment.toNat = 0 ∧ e = .format (.noSegment f.offset) := by
  rw [result_attach h]
  split <;> simp [*, eq_comm]

/-! ### Taking up records -/

/-- What a record adds is what its entry adds. -/
theorem process_eq_ok (hc : c.IsOpen) :
    (c.process r).result = .ok c' ↔ ∃ e, r.entry = .ok e ∧ e.HasSegment ∧ c.adding e = c' := by
  unfold process Record.entry
  cases r.type.kind with
  | header => simp [Entry.HasSegment, adding]
  | names => simp [Entry.HasSegment, adding]
  | definition => simp [Entry.HasSegment, adding]
  | enumerated => simp [Entry.HasSegment, adding, attach_eq_ok hc]
  | iterated => simp [Entry.HasSegment, adding, attach_eq_ok hc]
  | other => simp [Entry.HasSegment, adding]

theorem takeUp_eq_ok (hc : c.IsOpen) :
    (c.takeUp r).result = .ok c' ↔ ∃ e, r.entry = .ok e ∧ e.HasSegment ∧ c.entering e = c' := by
  simp only [takeUp, Logged.result_bind, Logged.result_note, Outcome.bind_eq_ok]
  constructor
  · rintro ⟨_, _, h⟩
    exact (process_eq_ok (c := c.counted) hc).mp h
  · intro h
    exact ⟨(), trivial, (process_eq_ok (c := c.counted) hc).mpr h⟩

/-- Behind a record that is taken up all segments still take data. -/
theorem IsOpen.takeUp (hc : c.IsOpen) (h : (c.takeUp r).result = .ok c') : c'.IsOpen := by
  obtain ⟨e, he, _, rfl⟩ := (takeUp_eq_ok hc).mp h
  exact hc.entering (Record.isSound_entry he)

theorem process_eq_error (hc : c.IsOpen) {e : Error} :
    (c.process r).result = .error e ↔ (∃ fault, r.entry = .error fault ∧ e = .format fault) ∨
      ∃ f, r.entry = .ok (.data f) ∧ f.segment.toNat = 0 ∧ e = .format (.noSegment f.offset) := by
  unfold process Record.entry
  cases r.type.kind with
  | header => simp [Outcome.map_eq_error]
  | names => simp [Outcome.map_eq_error]
  | definition => simp [Outcome.map_eq_error]
  | enumerated => simp [Outcome.bind_eq_error, Outcome.map_eq_error, attach_eq_error hc]
  | iterated => simp [Outcome.bind_eq_error, Outcome.map_eq_error, attach_eq_error hc]
  | other => simp

/-- A record is refused if it cannot be read, or holds data for segment zero. -/
theorem takeUp_eq_error (hc : c.IsOpen) {e : Error} :
    (c.takeUp r).result = .error e ↔ (∃ fault, r.entry = .error fault ∧ e = .format fault) ∨
      ∃ f, r.entry = .ok (.data f) ∧ f.segment.toNat = 0 ∧ e = .format (.noSegment f.offset) :=
  process_eq_error (c := c.counted) hc

/-- **Records are refused with the first of them that is refused**, behind those that are taken
up. -/
theorem takeUpAll_eq_error {records : List Record} {e : Error} :
    (takeUpAll c records).result = .error e ↔
      ∃ front r back taken, records = front ++ r :: back ∧
        (takeUpAll c front).result = .ok taken ∧ (taken.takeUp r).result = .error e := by
  constructor
  · intro h
    induction records generalizing c with
    | nil => cases h
    | cons r rest ih =>
      simp only [takeUpAll, Logged.fold_cons, Logged.result_bind, Outcome.bind_eq_error] at h
      rcases h with hfirst | ⟨next, hfirst, hrest⟩
      · exact ⟨[], r, rest, c, rfl, rfl, hfirst⟩
      · obtain ⟨front, r', back, taken, rfl, htaken, hrefused⟩ := ih hrest
        refine ⟨r :: front, r', back, taken, rfl, ?_, hrefused⟩
        simp only [takeUpAll, Logged.fold_cons, Logged.result_bind, hfirst]
        exact htaken
  · rintro ⟨front, r, back, taken, rfl, htaken, hrefused⟩
    rw [takeUpAll] at htaken
    simp only [takeUpAll, Logged.fold_append, Logged.fold_cons, Logged.result_bind, htaken]
    exact Outcome.bind_eq_error.mpr
      (.inr ⟨taken, rfl, Outcome.bind_eq_error.mpr (.inl hrefused)⟩)

/-- **Records add up to what their entries add up to**, if all segments take data at first. -/
theorem takeUpAll_eq_ok (hc : c.IsOpen) {records : List Record} :
    (takeUpAll c records).result = .ok c' ↔
      ∃ entries, records.mapM Record.entry = .ok entries ∧ (∀ e ∈ entries, e.HasSegment) ∧
        c.enteringAll entries = c' := by
  unfold takeUpAll
  induction records generalizing c with
  | nil => simp [enteringAll]
  | cons r rest ih =>
    simp only [Logged.fold_cons, Logged.result_bind, Outcome.bind_eq_ok, List.mapM_cons,
      Outcome.pure_eq_ok]
    constructor
    · rintro ⟨next, hfirst, hrest⟩
      obtain ⟨entries, hentries, hsegments, rfl⟩ := (ih (hc.takeUp hfirst)).mp hrest
      obtain ⟨e, he, hsegment, rfl⟩ := (takeUp_eq_ok hc).mp hfirst
      exact ⟨e :: entries, ⟨e, he, entries, hentries, rfl⟩,
        List.forall_mem_cons.mpr ⟨hsegment, hsegments⟩, rfl⟩
    · rintro ⟨_, ⟨e, he, entries, hentries, rfl⟩, hsegments, rfl⟩
      obtain ⟨hsegment, hsegments⟩ := List.forall_mem_cons.mp hsegments
      have hfirst := (takeUp_eq_ok hc).mpr ⟨e, he, hsegment, rfl⟩
      exact ⟨_, hfirst, (ih (hc.takeUp hfirst)).mpr ⟨entries, hentries, hsegments, rfl⟩⟩

/-- **Until the last record is taken up all segments take data.** -/
theorem IsOpen.takeUpAll (hc : c.IsOpen) {records : List Record}
    (h : (Contents.takeUpAll c records).result = .ok c') : c'.IsOpen := by
  unfold Contents.takeUpAll at h
  induction records generalizing c with
  | nil =>
    cases h
    exact hc
  | cons r rest ih =>
    simp only [Logged.fold_cons, Logged.result_bind, Outcome.bind_eq_ok] at h
    obtain ⟨next, hfirst, hrest⟩ := h
    exact ih (hc.takeUp hfirst) hrest

/-! ### What entries add up to -/

/-- What holds of segments as entries define them, and is kept when data is handed to them, holds
of all that are defined. -/
theorem forall_defined_enteringAll (hdefine : ∀ s, .definition s ∈ entries → P s)
    (hwith : ∀ s f, P s → P (s.withFragment f)) (h : ∀ s ∈ c.defined.toList, P s) :
    ∀ s ∈ (c.enteringAll entries).defined.toList, P s := by
  induction entries generalizing c with
  | nil => exact h
  | cons e rest ih =>
    have hrest : ∀ s, .definition s ∈ rest → P s := fun s hs =>
      hdefine s (List.mem_cons_of_mem _ hs)
    suffices onward : ∀ s ∈ (c.entering e).defined.toList, P s from ih hrest onward
    cases e with
    | definition s =>
      show ∀ t ∈ (c.defined.push s).toList, P t
      rw [Array.toList_push, List.forall_mem_append]
      exact ⟨h, List.forall_mem_singleton.mpr (hdefine s List.mem_cons_self)⟩
    | data f =>
      show ∀ s ∈ (c.counted.handing f).defined.toList, P s
      unfold handing
      split
      · rw [Array.toList_modify]
        exact forall_modify h (fun s => hwith s f) _
      · exact h
    | _ => exact h

/-- What holds of a new injected segment, and is kept when it grows, holds of all that are
injected. -/
theorem forall_injected_enteringAll (hinject : ∀ number : Nat, P (.injected number .data))
    (hgrow : ∀ s f, P s → P (s.grownBy f)) (h : ∀ p ∈ c.injected, P p.2) :
    ∀ p ∈ (c.enteringAll entries).injected, P p.2 := by
  induction entries generalizing c with
  | nil => exact h
  | cons e rest ih =>
    suffices onward : ∀ p ∈ (c.entering e).injected, P p.2 from ih onward
    cases e with
    | data f =>
      show ∀ p ∈ (c.counted.handing f).injected, P p.2
      unfold handing
      split
      · exact h
      · exact forall_withInjected (P := fun p => P p.2) h (hgrow _ _ (hinject _)) fun s => hgrow s f
    | _ => exact h

/-- What holds of segments as they are defined or injected, and is kept when data is handed to
them, holds of all segments that entries add up to. -/
theorem forall_enteringAll (hdefine : ∀ s, s.IsDefinition → P s)
    (hinject : ∀ number : Nat, P (.injected number .data))
    (hwith : ∀ s f, P s → P (s.withFragment f)) (hgrow : ∀ s f, P s → P (s.grownBy f))
    (hsound : ∀ e ∈ entries, e.IsSound) (h : ∀ s ∈ c.segments, P s) :
    ∀ s ∈ (c.enteringAll entries).segments, P s := by
  obtain ⟨hdefined, hinjected⟩ := forall_segments.mp h
  refine forall_segments.mpr ⟨?_, forall_injected_enteringAll hinject hgrow hinjected⟩
  exact forall_defined_enteringAll (fun s hs => hdefine s (hsound _ hs)) hwith hdefined

end Contents
end ObjectModule
