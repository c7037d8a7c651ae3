import ObjectModule.Proofs.Module.Closing
import ObjectModule.Proofs.Record.Faults

/-! How loading ends.

Segments take data until all records are taken up (`ends_takeUpAll`), and have a place before they
are placed only if they are absolute (`IsOpen`). They have names from the start, or references
from which names are looked up (`RefersForward`). So no data is refused, every segment can be
closed, and can then be placed unless the alignment code forced on it is no good: loading ends with
a module whose segments are all complete, or in one of two kinds of fault (`load_ends`). -/
namespace ObjectModule

/-- How loading may fail, if given segments are to be placed: by a fault of format, or because
the alignment code forced on a relocatable segment is that of absolute ones. -/
inductive LoadFault (override : Option Int) (segments : List Segment) : Error → Prop
  | format {cause : FormatError} (h : cause.IsFault) : LoadFault override segments (.format cause)
  | absolute {s : Segment} (forced : override = some 0) (hs : s ∈ segments)
      (relocatable : s.attributes.isAbsolute = false) :
      LoadFault override segments (.relocation (.absolute s.displayName))

namespace Segment

/-- A segment that takes data, and has a place just if it is absolute. -/
structure IsOpen (s : Segment) : Prop where
  isOpen : s.isFrozen = false
  address : s.address.isSome = s.attributes.isAbsolute

/-- A segment none of whose references counts back from the end of the names. -/
structure RefersForward (s : Segment) : Prop where
  name : 0 ≤ s.nameIndex.value
  className : 0 ≤ s.classIndex.value
  overlay : 0 ≤ s.overlayIndex.value

/-- A segment whose three names are known. -/
structure IsNamed (s : Segment) : Prop where
  name : s.name.isSome
  className : s.className.isSome
  overlay : s.overlayName.isSome

/-- A segment that is closed, and has a place just if it is absolute. -/
structure IsReady (s : Segment) : Prop where
  isFrozen : s.isFrozen = true
  named : s.IsNamed
  address : s.address.isSome = s.attributes.isAbsolute

/-- A segment of a loaded module. -/
structure IsComplete (s : Segment) : Prop where
  isFrozen : s.isFrozen = true
  named : s.IsNamed
  address : s.address.isSome

variable {s : Segment} {override : Option Int} {segments : List Segment}

/-! ### Definitions and injected segments -/

theorem gives_read_open (type : RecordType) :
    (read type).Gives fun s => s.IsOpen ∧ s.RefersForward := by
  refine Reader.gives_bind fun attributes => ?_
  refine (gives_readFrame _).bind fun frame hframe => ?_
  refine Reader.gives_bind fun length => ?_
  refine Reader.gives_index.bind fun nameIndex hname => ?_
  refine Reader.gives_index.bind fun classIndex hclass => ?_
  refine Reader.gives_index.bind fun overlayIndex hoverlay => ?_
  refine Reader.gives_pure ⟨⟨rfl, ?_⟩, ⟨hname, hclass, hoverlay⟩⟩
  rw [Option.isSome_map]
  exact hframe

theorem isOpen_injected (number : Nat) : (injected number .data).IsOpen :=
  have relocatable : injectedAttributes.isAbsolute = false := by decide
  ⟨rfl, relocatable.symm⟩

theorem isNamed_injected (number : Nat) : (injected number .data).IsNamed :=
  ⟨rfl, rfl, rfl⟩

/-! ### Closing -/

/-- A reference that does not count back is to a name, or beyond the last. -/
theorem ends_lookUp (names : Array String) {reference : Index} (h : 0 ≤ reference.value)
    (role : NameRole) :
    Outcome.Ends (fun _ => True) (LoadFault override segments) (lookUp names reference role) := by
  unfold lookUp
  split
  · trivial
  · next nonzero =>
    split
    · exact .format nofun
    · next within =>
      have hplace : placeOf names reference = reference.value - 1 := if_pos (by omega)
      have hsome : (reference.value - 1).toNat < names.size := by omega
      simp only [hplace, if_neg (by omega : ¬ reference.value - 1 < 0),
        Array.getElem?_eq_getElem hsome]
      trivial

theorem ends_resolveNames (names : Array String) (hs : s.IsOpen) (refers : s.RefersForward) :
    Outcome.Ends (fun t => t.IsOpen ∧ t.IsNamed) (LoadFault override segments)
      ((resolveNames names).applied s) := by
  rw [applied_resolveNames]
  exact (ends_lookUp names refers.name _).bind fun name _ =>
    (ends_lookUp names refers.className _).bind fun className _ =>
      (ends_lookUp names refers.overlay _).bind fun overlayName _ =>
        ⟨⟨hs.isOpen, hs.address⟩, ⟨rfl, rfl, rfl⟩⟩

/-- **An open segment can be closed.** -/
theorem ends_settle (hs : s.IsOpen) (named : s.IsNamed) {Q : Error → Prop} :
    Outcome.Ends IsReady Q (Contents.settle.applied s) := by
  rw [applied_settle, hs.isOpen]
  exact ⟨rfl, ⟨named.name, named.className, named.overlay⟩, hs.address⟩

/-! ### Placing -/

theorem forced_of_effectiveAlignment (relocatable : s.attributes.isAbsolute = false)
    (h : s.effectiveAlignment override = 0) : override = some 0 := by
  have halignment : s.attributes.alignment ≠ 0 := by
    simpa [Attributes.isAbsolute] using relocatable
  unfold effectiveAlignment at h
  cases override with
  | none => exact absurd (Int.natCast_eq_zero.mp h) halignment
  | some code =>
    dsimp only at h
    split at h
    · rw [h]
    · exact absurd (Int.natCast_eq_zero.mp h) halignment

/-- **A segment that is ready can be placed**, whatever the address, unless the alignment code
forced on it is no good. -/
theorem ends_place (h : s.IsReady) (hs : s ∈ segments) (first : Int) :
    Outcome.Ends (fun p => p.1.IsComplete) (LoadFault override segments)
      (s.place override first).result := by
  unfold place
  by_cases absolute : s.attributes.isAbsolute = true
  · rw [if_pos absolute]
    exact ⟨h.isFrozen, h.named, h.address.trans absolute⟩
  · have relocatable : s.attributes.isAbsolute = false := Bool.not_eq_true _ ▸ absolute
    have haddress : s.address = none := by
      have := h.address
      rw [relocatable] at this
      simpa using this
    rw [if_neg absolute, run_relocate, haddress]
    by_cases zero : s.effectiveAlignment override = 0
    · rw [if_pos zero]
      exact .absolute (forced_of_effectiveAlignment relocatable zero) hs relocatable
    · rw [if_neg zero]
      cases Alignment.boundary? (s.effectiveAlignment override) with
      | none => exact .format nofun
      | some boundary => exact ⟨rfl, ⟨h.named.name, h.named.className, h.named.overlay⟩, rfl⟩

theorem ends_placeAll {some : List Segment} (h : ∀ s ∈ some, s.IsReady)
    (hsome : ∀ s ∈ some, s ∈ segments) (first : Int) :
    Outcome.Ends (fun p => ∀ s ∈ p.1, s.IsComplete) (LoadFault override segments)
      (placeAll override some first).result := by
  induction some generalizing first with
  | nil => exact fun s hs => nomatch hs
  | cons s rest ih =>
    obtain ⟨hs, hrest⟩ := List.forall_mem_cons.mp h
    obtain ⟨hmem, hothers⟩ := List.forall_mem_cons.mp hsome
    simp only [placeAll_cons, Logged.result_bind, Logged.result_pure]
    refine (ends_place hs hmem first).bind fun p hp => ?_
    refine (ih hrest hothers p.2).bind fun placed hplaced => ?_
    exact List.forall_mem_cons.mpr ⟨hp, hplaced⟩

end Segment

/-! ### Taking up records -/

/-- A segment is open, with references to names, as a record defines it. -/
theorem Record.isOpen_definition {r : Record} {s : Segment} (h : r.entry = .ok (.definition s)) :
    s.IsOpen ∧ s.RefersForward := by
  unfold entry at h
  cases hkind : r.type.kind with
  | definition =>
    simp only [hkind, Outcome.map_eq_ok] at h
    obtain ⟨s', hread, hs⟩ := h
    cases hs
    exact (Segment.gives_read_open _).parse hread
  | other =>
    simp only [hkind] at h
    cases h
  | _ =>
    simp only [hkind, Outcome.map_eq_ok] at h
    obtain ⟨_, _, h⟩ := h
    cases h

namespace Contents
variable {c : Contents} {override : Option Int} {segments : List Segment}

theorem ends_ofFormat {α : Type} {r : Record} {x : Except FormatError α} {toEntry : α → Entry}
    (hentry : r.entry = toEntry <$> x) :
    Outcome.Ends (fun _ => True) (LoadFault override segments) (Logged.ofFormat x).result := by
  cases x with
  | ok a => trivial
  | error e => exact .format (Record.fault_entry hentry)

/-- No segment refuses data while all take some. -/
theorem ends_attach (hc : c.IsOpen) (f : Fragment) :
    Outcome.Ends (fun _ => True) (LoadFault override segments) (c.attach f).result := by
  rw [result_attach hc]
  split
  · exact .format nofun
  · trivial

/-- Taking up a record fails only if it cannot be read or its data is for segment zero. -/
theorem ends_process (hc : c.IsOpen) (r : Record) :
    Outcome.Ends (fun _ => True) (LoadFault override segments) (c.process r).result := by
  unfold process
  cases hkind : r.type.kind with
  | header =>
    have hentry : r.entry = .moduleName <$> r.moduleName := by simp only [Record.entry, hkind]
    exact Logged.result_bind .. ▸ (ends_ofFormat hentry).bind fun _ _ => trivial
  | names =>
    have hentry : r.entry = .names <$> r.names := by simp only [Record.entry, hkind]
    exact Logged.result_bind .. ▸ (ends_ofFormat hentry).bind fun _ _ => trivial
  | definition =>
    have hentry : r.entry = .definition <$> (Segment.read r.type).parse r.body := by
      simp only [Record.entry, hkind]
    exact Logged.result_bind .. ▸ (ends_ofFormat hentry).bind fun _ _ => trivial
  | enumerated =>
    have hentry : r.entry = .data <$> Fragment.ofEnumerated r := by simp only [Record.entry, hkind]
    exact Logged.result_bind .. ▸ (ends_ofFormat hentry).bind fun f _ => ends_attach hc f
  | iterated =>
    have hentry : r.entry = .data <$> Fragment.ofIterated r := by simp only [Record.entry, hkind]
    exact Logged.result_bind .. ▸ (ends_ofFormat hentry).bind fun f _ => ends_attach hc f
  | other => trivial

theorem ends_takeUp (hc : c.IsOpen) (r : Record) :
    Outcome.Ends IsOpen (LoadFault override segments) (c.takeUp r).result := by
  have hends : Outcome.Ends (fun _ => True) (LoadFault override segments) (c.takeUp r).result :=
    ends_process (c := c.counted) hc r
  exact hends.with_ok fun _ => hc.takeUp

/-- **All segments take data until the last record is taken up.** -/
theorem ends_takeUpAll (hc : c.IsOpen) (records : List Record) :
    Outcome.Ends IsOpen (LoadFault override segments) (c.takeUpAll records).result := by
  unfold takeUpAll
  induction records generalizing c with
  | nil => exact hc
  | cons r rest ih =>
    simp only [Logged.fold_cons, Logged.result_bind]
    exact (ends_takeUp hc r).bind fun _ hnext => ih hnext

/-! ### Contents -/

/-- **Whatever records add up to can be closed**, unless a reference is beyond the last name. -/
theorem ends_resolve (hdefined : ∀ s ∈ c.defined.toList, s.IsOpen ∧ s.RefersForward)
    (hinjected : ∀ p ∈ c.injected, p.2.IsOpen ∧ p.2.IsNamed) :
    Outcome.Ends (fun c' => ∀ s ∈ c'.segments, s.IsReady) (LoadFault override segments)
      c.resolve := by
  have hnamed : Outcome.Ends (fun named => ∀ s ∈ named.toList, s.IsOpen ∧ s.IsNamed)
      (LoadFault override segments) (c.defined.mapM (Segment.resolveNames c.names).applied) :=
    Outcome.ends_mapM_toList fun s hs =>
      Segment.ends_resolveNames c.names (hdefined s hs).1 (hdefined s hs).2
  refine hnamed.bind fun named hopen => ?_
  have hclosed : Outcome.Ends (fun defined => ∀ s ∈ defined.toList, s.IsReady)
      (LoadFault override segments) (named.mapM settle.applied) :=
    Outcome.ends_mapM_toList fun s hs => Segment.ends_settle (hopen s hs).1 (hopen s hs).2
  refine hclosed.bind fun defined hready => ?_
  have hothers : Outcome.Ends (fun injected => ∀ p ∈ injected, p.2.IsReady)
      (LoadFault override segments)
      (c.injected.mapM fun p => do return (p.1, ← settle.applied p.2)) :=
    Outcome.ends_mapM fun p hp =>
      (Segment.ends_settle (hinjected p hp).1 (hinjected p hp).2).bind fun s hs => hs
  exact hothers.bind fun injected hinjected => forall_segments.mpr ⟨hready, hinjected⟩

theorem isOpen_of_takeUpAll {records : List Record}
    (h : (takeUpAll {} records).result = .ok c) :
    (∀ s ∈ c.defined.toList, s.IsOpen ∧ s.RefersForward) ∧
      ∀ p ∈ c.injected, p.2.IsOpen ∧ p.2.IsNamed := by
  obtain ⟨entries, hentries, _, rfl⟩ := (takeUpAll_eq_ok isOpen_empty).mp h
  have hdefine : ∀ e ∈ entries, ∀ s, e = .definition s → s.IsOpen ∧ s.RefersForward :=
    Outcome.forall_mem_of_forall₂ (Outcome.mapM_eq_ok.mp hentries)
      (fun r e hr _ s hs => Record.isOpen_definition (hs ▸ hr)) fun _ _ => trivial
  refine ⟨forall_defined_enteringAll (fun s hs => hdefine _ hs s rfl) (fun s f hs => ?_) ?_,
    forall_injected_enteringAll (P := fun s => s.IsOpen ∧ s.IsNamed) (fun number => ?_)
      (fun s f hs => ?_) ?_⟩
  · exact ⟨⟨hs.1.isOpen, hs.1.address⟩, ⟨hs.2.name, hs.2.className, hs.2.overlay⟩⟩
  · simp
  · exact ⟨Segment.isOpen_injected number, Segment.isNamed_injected number⟩
  · exact ⟨⟨hs.1.isOpen, hs.1.address⟩, ⟨hs.2.name, hs.2.className, hs.2.overlay⟩⟩
  · simp

/-- **What the records of an input add up to is ready to be placed**, if they are not at
fault. -/
theorem ends_ofBytes (input : Bytes) :
    Outcome.Ends (fun c => ∀ s ∈ c.segments, s.IsReady) (LoadFault override segments)
      (ofBytes input).result := by
  have htakeUp : Outcome.Ends IsOpen (LoadFault override segments)
      (takeUpAll {} (Record.split input).records).result := ends_takeUpAll isOpen_empty _
  unfold ofBytes
  simp only [Logged.result_bind]
  refine (htakeUp.with_ok fun _ => isOpen_of_takeUpAll).bind fun taken htaken => ?_
  cases hfault : (Record.split input).fault with
  | some fault => exact .format (Record.fault_split hfault)
  | none =>
    show Outcome.Ends _ _ (ofExcept taken.resolve : Logged Error Contents).result
    rw [Logged.result_ofExcept]
    exact ends_resolve htaken.1 htaken.2

end Contents

namespace Module
variable {c : Contents} {path : String} {options : Options}

/-- **What is ready can be placed**, unless the forced alignment code is no good. -/
theorem ends_place (h : ∀ s ∈ c.segments, s.IsReady) :
    Outcome.Ends (fun m => ∀ s ∈ m.segments, s.IsComplete)
      (LoadFault options.alignOverride c.segments) (place c path options).result := by
  obtain ⟨hdefined, hinjected⟩ := List.forall_mem_append.mp h
  unfold place
  simp only [Logged.result_bind]
  refine (Segment.ends_placeAll hdefined (fun s hs => List.mem_append_left _ hs) _).bind
    fun defined hplaced => ?_
  refine (Segment.ends_placeAll hinjected (fun s hs => List.mem_append_right _ hs) _).bind
    fun injected hothers => ?_
  refine Contents.forall_segments.mpr ⟨hplaced, fun p hp => hothers p.2 ?_⟩
  exact (List.of_mem_zip hp).2

/-- The segments that are to be placed: none if the records of the input are at fault. -/
def toPlace (input : Bytes) : List Segment :=
  ((Contents.ofBytes input).result.toOption.map Contents.segments).getD []

/-- **How loading ends**, whatever the input and the options: with segments that are all closed,
named and placed, or with a fault in the records or the forced alignment code. No segment is
closed or placed twice, and none refuses data. -/
theorem load_ends (input : Bytes) (path : String) (options : Options) :
    Outcome.Ends (fun m => ∀ s ∈ m.segments, s.IsComplete)
      (LoadFault options.alignOverride (toPlace input)) (load input path options).result := by
  have hready : Outcome.Ends (fun c => ∀ s ∈ c.segments, s.IsReady)
      (LoadFault options.alignOverride (toPlace input)) (Contents.ofBytes input).result :=
    Contents.ends_ofBytes input
  unfold load ofContents
  simp only [Logged.result_bind]
  have hcontents (c : Contents) (h : (Contents.ofBytes input).result = .ok c) :
      (∀ s ∈ c.segments, s.IsReady) ∧ toPlace input = c.segments := by
    rw [h] at hready
    exact ⟨hready, by simp [toPlace, h, Except.toOption]⟩
  refine (hready.with_ok hcontents).bind fun c hc => ?_
  exact (hc.2 ▸ ends_place hc.1).bind fun m hm => hm

/-- The second kind of fault: the code of absolute segments, forced on one that is not. -/
example :
    (match (load [0x98, 7, 0, 0x20, 4, 0, 0, 0, 0, 0, 0x8A, 2, 0, 0, 0] ""
        { alignOverride := some 0 }).result with
      | .ok _ => false
      | .error e => e = .relocation (.absolute "")) = true := by
  decide +kernel

end Module
end ObjectModule
