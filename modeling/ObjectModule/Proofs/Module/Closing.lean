import ObjectModule.Module.Load
import ObjectModule.Proofs.Module.Entering

/-! From contents to a module.

When all records are taken up, the names of the defined segments are looked up, the data of
every segment is put in order, and the segments are placed. What each of these steps does to
a segment is an equation. Together they make a module of contents segment by segment, and
change no more of a segment than `Becomes` says (`entries_of_load`). -/
namespace ObjectModule

/-- Fragments by offset; those at one offset stay in their order. -/
def Fragment.byOffset (fragments : List Fragment) : List Fragment :=
  fragments.mergeSort fun f g => f.offset ≤ g.offset

namespace Segment
variable {s s' : Segment} {override : Option Int} {first next : Int}

/-- What is left of a segment when its data is put in order. -/
structure Closes (s s' : Segment) : Prop where
  attributes : s'.attributes = s.attributes
  length : s'.length = s.length
  frameNumber : s'.frameNumber = s.frameNumber
  frameOffset : s'.frameOffset = s.frameOffset
  address : s'.address = s.address
  fragments : s'.fragments.toList = Fragment.byOffset s.fragments.toList

/-- What is left of a segment when it is placed, or is absolute and stays where it is. -/
structure IsPlacing (s s' : Segment) : Prop where
  attributes : s'.attributes = s.attributes
  length : s'.length = s.length
  frameNumber : s'.frameNumber = s.frameNumber
  frameOffset : s'.frameOffset = s.frameOffset
  fragments : s'.fragments = s.fragments
  absolute : s.attributes.isAbsolute = true → s'.address = s.address

/-! ### What is done to a segment -/

theorem applied_resolveNames (names : Array String) (s : Segment) :
    (resolveNames names).applied s = (do
      let name ← lookUp names s.nameIndex .segment
      let className ← lookUp names s.classIndex .className
      let overlayName ← lookUp names s.overlayIndex .overlay
      return { s with name, className, overlayName, permissions := .ofClass className }) := by
  simp only [resolveNames, Action.applied, EStateM.run_bind, EStateM.run_get]
  cases lookUp names s.nameIndex .segment with
  | error e => rfl
  | ok name =>
    cases lookUp names s.classIndex .className with
    | error e => rfl
    | ok className => cases lookUp names s.overlayIndex .overlay <;> rfl

theorem applied_settle (s : Segment) :
    Contents.settle.applied s =
      if s.isFrozen then .error (.access (.frozen s.displayName))
      else .ok { s with
        fragments := (Fragment.byOffset s.fragments.toList).toArray, isFrozen := true } := by
  simp only [Contents.settle, sortFragments, requireOpen, Action.applied, EStateM.run_bind,
    EStateM.run_get]
  cases s.isFrozen <;> rfl

theorem closes_of_settle (h : Contents.settle.applied s = .ok s') : s.Closes s' := by
  rw [applied_settle] at h
  split at h
  · cases h
  · cases h
    exact ⟨rfl, rfl, rfl, rfl, rfl, rfl⟩

/-- Looking up names does not matter to how a segment closes. -/
theorem Closes.of_resolveNames {names : Array String} {t : Segment}
    (h : (resolveNames names).applied s = .ok t) (closes : t.Closes s') : s.Closes s' := by
  simp only [applied_resolveNames, Outcome.bind_eq_ok, Outcome.pure_eq_ok] at h
  obtain ⟨name, _, className, _, overlayName, _, rfl⟩ := h
  exact ⟨closes.attributes, closes.length, closes.frameNumber, closes.frameOffset,
    closes.address, closes.fragments⟩

theorem run_relocate (first : Int) (override : Option Int) (s : Segment) :
    (relocate first override).run s =
      if s.effectiveAlignment override = 0 then .error (.relocation (.absolute s.displayName)) s
      else
        match Alignment.boundary? (s.effectiveAlignment override), s.address with
        | none, _ => .error (.format (.unsupportedAlignment
            (toString (s.effectiveAlignment override)) s.displayName)) s
        | some _, some address => .error (.relocation (.alreadyPlaced s.displayName address)) s
        | some boundary, none =>
          .ok (Alignment.roundUp boundary first + s.length.value)
            { s with address := some (Alignment.roundUp boundary first), isFrozen := true } := by
  simp only [relocate, EStateM.run_bind, EStateM.run_get]
  by_cases absolute : s.effectiveAlignment override = 0
  · rw [if_pos absolute, if_pos absolute]
    rfl
  · rw [if_neg absolute, if_neg absolute]
    cases Alignment.boundary? (s.effectiveAlignment override) with
    | none => rfl
    | some boundary =>
      obtain ⟨_, _, _, _, _, _, _, _, address, _⟩ := s
      cases address <;> rfl

/-- Relocating a segment that has no place yet, to a boundary that exists. -/
theorem relocate_eq_ok :
    (relocate first override).run s = .ok next s' ↔
      s.address = none ∧
        ∃ boundary, Alignment.boundary? (s.effectiveAlignment override) = some boundary ∧
          s' = { s with address := some (Alignment.roundUp boundary first), isFrozen := true } ∧
          next = Alignment.roundUp boundary first + s.length.value := by
  rw [run_relocate]
  by_cases absolute : s.effectiveAlignment override = 0
  · simp [absolute, Alignment.boundary?]
  · rw [if_neg absolute]
    cases Alignment.boundary? (s.effectiveAlignment override) <;> cases s.address <;>
      simp [eq_comm, and_comm]

/-- What placing a segment behind others gives. -/
theorem place_eq_ok :
    (s.place override first).result = .ok (s', next) ↔
      s.attributes.isAbsolute = true ∧ s' = s ∧ next = first ∨
      s.attributes.isAbsolute = false ∧ s.address = none ∧
        ∃ boundary, Alignment.boundary? (s.effectiveAlignment override) = some boundary ∧
          s' = { s with address := some (Alignment.roundUp boundary first), isFrozen := true } ∧
          next = Alignment.roundUp boundary first + s.length.value := by
  unfold place
  cases hs : s.attributes.isAbsolute with
  | true => simp [eq_comm]
  | false =>
    simp only [Bool.false_eq_true, if_false, false_and, false_or, true_and, ← relocate_eq_ok]
    cases (relocate first override).run s <;> simp [Logged.notes, and_comm]

theorem isPlacing_of_place (h : (s.place override first).result = .ok (s', next)) :
    s.IsPlacing s' := by
  rcases place_eq_ok.mp h with ⟨_, rfl, _⟩ | ⟨relocatable, _, boundary, _, rfl, _⟩
  · exact ⟨rfl, rfl, rfl, rfl, rfl, fun _ => rfl⟩
  · refine ⟨rfl, rfl, rfl, rfl, rfl, fun absolute => ?_⟩
    rw [relocatable] at absolute
    cases absolute

/-- What placing does to each segment it does to all of them. -/
theorem forall₂_placeAll {R : Segment → Segment → Prop}
    (hplace : ∀ s s' first next, (s.place override first).result = .ok (s', next) → R s s')
    {segments placed : List Segment}
    (h : (placeAll override segments first).result = .ok (placed, next)) :
    List.Forall₂ R segments placed := by
  induction segments generalizing first placed with
  | nil =>
    cases h
    exact .nil
  | cons s rest ih =>
    simp only [placeAll_cons, Logged.result_bind, Outcome.bind_eq_ok, Logged.result_pure] at h
    obtain ⟨⟨s', first'⟩, hs, ⟨rest', last⟩, hrest, h⟩ := h
    cases h
    exact .cons (hplace _ _ _ _ hs) (ih hrest)

theorem isPlacing_of_placeAll {segments placed : List Segment}
    (h : (placeAll override segments first).result = .ok (placed, next)) :
    List.Forall₂ IsPlacing segments placed :=
  forall₂_placeAll (fun _ _ _ _ => isPlacing_of_place) h

/-- What is left of a segment when its module is loaded. -/
structure Becomes (s s' : Segment) : Prop where
  attributes : s'.attributes = s.attributes
  length : s'.length = s.length
  frameNumber : s'.frameNumber = s.frameNumber
  frameOffset : s'.frameOffset = s.frameOffset
  fragments : s'.fragments.toList = Fragment.byOffset s.fragments.toList
  absolute : s.attributes.isAbsolute = true → s'.address = s.address

theorem Closes.becomes {t : Segment} (closes : s.Closes t) (placing : t.IsPlacing s') :
    s.Becomes s' where
  attributes := placing.attributes.trans closes.attributes
  length := placing.length.trans closes.length
  frameNumber := placing.frameNumber.trans closes.frameNumber
  frameOffset := placing.frameOffset.trans closes.frameOffset
  fragments := by rw [placing.fragments, closes.fragments]
  absolute h := (placing.absolute (closes.attributes ▸ h)).trans closes.address

end Segment

/-! ### Segment by segment -/

namespace Contents

/-- Contents of which the segments are related, each to the one in its place. -/
structure Alike (R : Segment → Segment → Prop) (c c' : Contents) : Prop where
  defined : List.Forall₂ R c.defined.toList c'.defined.toList
  injected : List.Forall₂ (fun p q => q.1 = p.1 ∧ R p.2 q.2) c.injected c'.injected

variable {R S T : Segment → Segment → Prop} {c c' c'' : Contents}

theorem Alike.segments (h : Alike R c c') : List.Forall₂ R c.segments c'.segments :=
  List.rel_append h.defined (List.rel_map (fun _ _ hp => hp.2) h.injected)

theorem Alike.comp (hT : ∀ s t u, R s t → S t u → T s u) (h : Alike R c c')
    (h' : Alike S c' c'') : Alike T c c'' where
  defined := Outcome.forall₂_comp hT h.defined h'.defined
  injected := Outcome.forall₂_comp
    (fun _ _ _ ⟨hi, hs⟩ ⟨hi', hs'⟩ => ⟨hi'.trans hi, hT _ _ _ hs hs'⟩) h.injected h'.injected

/-- Names and order leave the segments where they are. -/
theorem alike_of_resolve (h : c.resolve = .ok c') : Alike Segment.Closes c c' := by
  simp only [resolve, Outcome.bind_eq_ok, Outcome.pure_eq_ok] at h
  obtain ⟨named, hnamed, defined, hdefined, injected, hinjected, rfl⟩ := h
  refine ⟨?_, ?_⟩
  · refine Outcome.forall₂_comp (fun s t u hs ht => ?_) (Outcome.mapM_toList_of_ok hnamed)
      (Outcome.mapM_toList_of_ok hdefined)
    exact (Segment.closes_of_settle ht).of_resolveNames hs
  · refine (Outcome.mapM_eq_ok.mp hinjected).imp fun p q h => ?_
    simp only [Outcome.bind_eq_ok, Outcome.pure_eq_ok] at h
    obtain ⟨s, hs, rfl⟩ := h
    exact ⟨rfl, Segment.closes_of_settle hs⟩

end Contents

namespace Module
variable {c : Contents} {m : Module} {path : String} {options : Options}

/-- Placing puts the segments of the contents behind one another, the injected ones last. -/
theorem place_eq_ok :
    (place c path options).result = .ok m ↔
      ∃ defined address injected,
        (Segment.placeAll options.alignOverride c.defined.toList options.baseAddress).result =
          .ok (defined, address) ∧
        (Segment.placeAll options.alignOverride (c.injected.map Prod.snd) address).result =
          .ok (injected, m.nextAddress) ∧
        m = { c with
          defined := defined.toArray
          injected := (c.injected.map Prod.fst).zip injected
          path, options, nextAddress := m.nextAddress } := by
  simp only [place, Logged.result_bind, Outcome.bind_eq_ok, Logged.result_pure, Prod.exists,
    Except.ok.injEq]
  constructor
  · rintro ⟨defined, address, hdefined, injected, next, hinjected, rfl⟩
    exact ⟨defined, address, injected, hdefined, hinjected, rfl⟩
  · rintro ⟨defined, address, injected, hdefined, hinjected, hm⟩
    exact ⟨defined, address, hdefined, injected, m.nextAddress, hinjected, hm.symm⟩

theorem forall₂_zip_of_map {R : Segment → Segment → Prop} {pairs : List (Nat × Segment)}
    {placed : List Segment} (h : List.Forall₂ R (pairs.map Prod.snd) placed) :
    List.Forall₂ (fun p q => q.1 = p.1 ∧ R p.2 q.2) pairs ((pairs.map Prod.fst).zip placed) := by
  induction pairs generalizing placed with
  | nil =>
    cases h
    exact .nil
  | cons p rest ih =>
    cases h with
    | cons hp hrest => exact .cons ⟨rfl, hp⟩ (ih hrest)

theorem alike_of_place (h : (place c path options).result = .ok m) :
    Contents.Alike Segment.IsPlacing c m.toContents := by
  obtain ⟨defined, address, injected, hdefined, hinjected, hm⟩ := place_eq_ok.mp h
  rw [hm]
  refine ⟨?_, forall₂_zip_of_map (Segment.isPlacing_of_placeAll hinjected)⟩
  simpa using Segment.isPlacing_of_placeAll hdefined

/-- Loading is placing what the records add up to. -/
theorem result_load (input : Bytes) (path : String) (options : Options) :
    (load input path options).result =
      (do (place (← (Contents.ofBytes input).result) path options).result) := by
  simp only [load, ofContents, Logged.result_bind, Logged.result_note, Logged.result_pure]
  refine bind_congr fun c => ?_
  cases (place c path options).result <;> rfl

/-- **A module is loaded from what its records add up to**: these are closed, then placed. -/
theorem load_eq_ok {input : Bytes} :
    (load input path options).result = .ok m ↔
      ∃ taken closed, (Contents.takeUpAll {} (Record.split input).records).result = .ok taken ∧
        (Record.split input).fault = none ∧ taken.resolve = .ok closed ∧
        (place closed path options).result = .ok m := by
  simp only [result_load, Contents.ofBytes, Logged.result_bind, Outcome.bind_eq_ok]
  cases (Record.split input).fault with
  | some fault => simp
  | none =>
    simp only [Logged.result_ofExcept, true_and]
    constructor
    · rintro ⟨closed, ⟨taken, htaken, hclosed⟩, hplaced⟩
      exact ⟨taken, closed, htaken, hclosed, hplaced⟩
    · rintro ⟨taken, closed, htaken, hclosed, hplaced⟩
      exact ⟨closed, ⟨taken, htaken, hclosed⟩, hplaced⟩

/-- What a module is loaded from, in what its records say. -/
theorem load_entries_eq_ok {input : Bytes} :
    (load input path options).result = .ok m ↔
      ∃ entries closed, (Record.split input).records.mapM Record.entry = .ok entries ∧
        (∀ e ∈ entries, e.HasSegment) ∧ (Record.split input).fault = none ∧
        (({} : Contents).enteringAll entries).resolve = .ok closed ∧
        (place closed path options).result = .ok m := by
  simp only [load_eq_ok, Contents.takeUpAll_eq_ok Contents.isOpen_empty]
  constructor
  · rintro ⟨_, closed, ⟨entries, hentries, hsegments, rfl⟩, hfault, hclosed, hplaced⟩
    exact ⟨entries, closed, hentries, hsegments, hfault, hclosed, hplaced⟩
  · rintro ⟨entries, closed, hentries, hsegments, hfault, hclosed, hplaced⟩
    exact ⟨_, closed, ⟨entries, hentries, hsegments, rfl⟩, hfault, hclosed, hplaced⟩

/-- **What a module was loaded from**: entries of which each was read and may be entered, and
whose segments became those of the module. -/
theorem entries_of_load {input : Bytes} (h : (load input path options).result = .ok m) :
    ∃ entries, (Record.split input).records.mapM Record.entry = .ok entries ∧
      (∀ e ∈ entries, e.IsSound ∧ e.HasSegment) ∧
      Contents.Alike Segment.Becomes (({} : Contents).enteringAll entries) m.toContents := by
  obtain ⟨entries, closed, hentries, hsegments, _, hclosed, hplaced⟩ := load_entries_eq_ok.mp h
  have hsound : ∀ e ∈ entries, e.IsSound :=
    Outcome.forall_mem_of_forall₂ (Outcome.mapM_eq_ok.mp hentries)
      (fun _ _ hr _ => Record.isSound_entry hr) fun _ _ => trivial
  refine ⟨entries, hentries, fun e he => ⟨hsound e he, hsegments e he⟩, ?_⟩
  exact (Contents.alike_of_resolve hclosed).comp
    (fun _ _ _ closes placing => closes.becomes placing) (alike_of_place hplaced)

end Module
end ObjectModule
