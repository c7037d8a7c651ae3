import ObjectModule.Proofs.Module.Routing
import ObjectModule.Proofs.Record.Framing

/-! The order of records.

Two records next to each other may change places, unless both give names, both name the
module, both define a segment, both hold data for one place of one segment, or one defines the
segment that the other holds data for (`Entry.conflicts`). The contents they add up to are then
the same but for the order in which fragments were attached, and that is lost when the segments
are closed: `sorted` puts the data of contents in order beforehand, without changing what
becomes of them (`resolve_sorted`). -/
namespace ObjectModule

/-- How many segments entries define. -/
def Entry.definitions (entries : List Entry) : Nat := (entries.filterMap definition?).length

/-- Whether two entries, the first of them with so many definitions before it, must stay in
their order. -/
def Entry.conflicts (definitions : Nat) : Entry → Entry → Bool
  | .moduleName _, .moduleName _ => true
  | .names _, .names _ => true
  | .definition _, .definition _ => true
  | .data f, .data g => f.segment == g.segment && f.offset == g.offset
  | .definition _, .data f | .data f, .definition _ => f.segment == definitions + 1
  | _, _ => false

theorem SizedInt.eq_of_value {m n : SizedInt} (hwidth : m.width = n.width)
    (hvalue : m.value = n.value) : m = n := by
  cases m
  cases n
  cases hwidth
  cases hvalue
  rfl

/-! ### Data in order -/

namespace Fragment
variable {f g : Fragment} {l l' : List Fragment}

/-- Fragments in order are told by what stands at each offset. -/
theorem eq_of_filter_eq (h : Sorted l) (h' : Sorted l')
    (same : ∀ offset, l.filter (·.offset = offset) = l'.filter (·.offset = offset)) : l = l' := by
  induction l generalizing l' with
  | nil =>
    cases l' with
    | nil => rfl
    | cons g rest => simpa using same g.offset
  | cons f rest ih =>
    cases l' with
    | nil => simpa using same f.offset
    | cons g rest' =>
      obtain ⟨hf, hrest⟩ := List.pairwise_cons.mp h
      obtain ⟨hg, hrest'⟩ := List.pairwise_cons.mp h'
      -- Each of the two first fragments is found in the other list, so neither comes before.
      have hfg : f.offset ≤ g.offset := by
        have hmem : g ∈ f :: rest := by
          have : g ∈ (f :: rest).filter (·.offset = g.offset) := by simp [same g.offset]
          exact (List.mem_filter.mp this).1
        rcases List.mem_cons.mp hmem with rfl | hmem
        · exact Int.le_refl _
        · exact hf g hmem
      have hgf : g.offset ≤ f.offset := by
        have hmem : f ∈ g :: rest' := by
          have : f ∈ (g :: rest').filter (·.offset = f.offset) := by simp [← same f.offset]
          exact (List.mem_filter.mp this).1
        rcases List.mem_cons.mp hmem with rfl | hmem
        · exact Int.le_refl _
        · exact hg f hmem
      have heq : g.offset = f.offset := Int.le_antisymm hgf hfg
      have hfirst := same f.offset
      simp only [List.filter_cons, heq, decide_true, if_true, List.cons.injEq] at hfirst
      obtain ⟨rfl, _⟩ := hfirst
      refine congrArg (f :: ·) (ih hrest hrest' fun offset => ?_)
      have := same offset
      simp only [List.filter_cons] at this
      split at this
      · exact (List.cons.inj this).2
      · exact this

/-- Fragments are put in the same order if they are the same at each offset. -/
theorem byOffset_eq_of_filter_eq
    (same : ∀ offset, l.filter (·.offset = offset) = l'.filter (·.offset = offset)) :
    byOffset l = byOffset l' := by
  have hl := gathers_byOffset l
  have hl' := gathers_byOffset l'
  refine eq_of_filter_eq hl.sorted hl'.sorted fun offset => ?_
  rw [hl.stable, hl'.stable, same]

theorem byOffset_byOffset_append (l l' : List Fragment) :
    byOffset (byOffset l ++ l') = byOffset (l ++ l') :=
  byOffset_eq_of_filter_eq fun offset => by
    rw [List.filter_append, List.filter_append, (gathers_byOffset l).stable]

theorem byOffset_swap (h : f.offset ≠ g.offset) (l : List Fragment) :
    byOffset (l ++ [f, g]) = byOffset (l ++ [g, f]) := by
  refine byOffset_eq_of_filter_eq fun offset => ?_
  rw [List.filter_append, List.filter_append]
  congr 1
  simp only [List.filter_cons, List.filter_nil]
  by_cases hf : f.offset = offset
  · have hg : g.offset ≠ offset := fun hg => h (hf.trans hg.symm)
    simp [hf, hg]
  · by_cases hg : g.offset = offset <;> simp [hf, hg]

end Fragment

namespace Segment
variable {f g : Fragment}

/-- The segment with its data in order. -/
def sorted (s : Segment) : Segment :=
  { s with fragments := (Fragment.byOffset s.fragments.toList).toArray }

theorem sorted_sorted (s : Segment) : s.sorted.sorted = s.sorted := by
  have := Fragment.byOffset_byOffset_append s.fragments.toList []
  simp only [List.append_nil] at this
  simp only [sorted, List.toList_toArray, this]

theorem sorted_withFragment (s : Segment) (f : Fragment) :
    (s.sorted.withFragment f).sorted = (s.withFragment f).sorted := by
  simp only [sorted, withFragment, Array.toList_push, Fragment.byOffset_byOffset_append]

theorem sorted_grownBy (s : Segment) (f : Fragment) :
    (s.sorted.grownBy f).sorted = (s.grownBy f).sorted := by
  simp only [sorted, grownBy, Array.toList_push, Fragment.byOffset_byOffset_append]
  rfl

theorem sorted_withFragment_swap (h : f.offset ≠ g.offset) (s : Segment) :
    ((s.withFragment f).withFragment g).sorted = ((s.withFragment g).withFragment f).sorted := by
  simp only [sorted, withFragment, Array.toList_push, List.append_assoc, List.cons_append,
    List.nil_append, Fragment.byOffset_swap h]

/-- Growing by two fragments ends at the later end, whichever comes first. -/
theorem sorted_grownBy_swap (h : f.offset ≠ g.offset) (s : Segment) :
    ((s.grownBy f).grownBy g).sorted = ((s.grownBy g).grownBy f).sorted := by
  have hlength : ((s.grownBy f).grownBy g).length = ((s.grownBy g).grownBy f).length := by
    refine SizedInt.eq_of_value ?_ ?_
    · simp only [width_grownBy]
    · simp only [value_grownBy]
      omega
  have hfragments : Fragment.byOffset ((s.grownBy f).grownBy g).fragments.toList =
      Fragment.byOffset ((s.grownBy g).grownBy f).fragments.toList := by
    simp only [grownBy, Array.toList_push, List.append_assoc, List.cons_append, List.nil_append,
      Fragment.byOffset_swap h]
  show ({ s with length := _, fragments := _ } : Segment) = { s with length := _, fragments := _ }
  rw [hlength, hfragments]

end Segment

namespace Contents
variable {c c' : Contents} {e e' : Entry} {f g : Fragment} {injected : List (Nat × Segment)}

/-- The contents with the data of every segment in order. -/
def sorted (c : Contents) : Contents :=
  { c with
    defined := c.defined.map Segment.sorted
    injected := c.injected.map fun p => (p.1, p.2.sorted) }

/-! ### Entering in order -/

theorem sorted_sorted (c : Contents) : c.sorted.sorted = c.sorted := by
  simp only [sorted, Array.map_map, List.map_map, Function.comp_def, Segment.sorted_sorted]

theorem map_sorted_modify (defined : Array Segment) (place : Nat) (f : Fragment) :
    ((defined.map Segment.sorted).modify place (Segment.withFragment f)).map Segment.sorted =
      (defined.modify place (Segment.withFragment f)).map Segment.sorted := by
  refine Array.ext_getElem? fun i => ?_
  simp only [Array.getElem?_map, Array.getElem?_modify]
  split <;> cases defined[i]? <;> simp [Segment.sorted_withFragment, Segment.sorted_sorted]

theorem map_sorted_withInjected (number : Nat) (f : Fragment) (injected : List (Nat × Segment)) :
    (withInjected number f (injected.map fun p => (p.1, p.2.sorted))).map
        (fun p => (p.1, p.2.sorted)) =
      (withInjected number f injected).map fun p => (p.1, p.2.sorted) := by
  fun_induction withInjected number f injected with
  | case1 => rfl
  | case2 i s rest less ih => simp [withInjected, less, Segment.sorted_sorted, ih]
  | case3 s rest less =>
    simp [withInjected, Segment.sorted_sorted, Segment.sorted_grownBy, Function.comp_def]
  | case4 i s rest less other =>
    simp [withInjected, less, other, Segment.sorted_sorted, Function.comp_def]

/-- It does not matter to the order of data in which order the data before stands. -/
theorem sorted_adding (c : Contents) (e : Entry) :
    (c.sorted.adding e).sorted = (c.adding e).sorted := by
  cases e with
  | moduleName name => exact congrArg (fun d : Contents => { d with name }) (sorted_sorted c)
  | names names =>
    exact congrArg (fun d : Contents => { d with names := d.names ++ names }) (sorted_sorted c)
  | other => exact sorted_sorted c
  | definition s =>
    have h := sorted_sorted c
    simp only [sorted, Contents.mk.injEq] at h
    simp only [adding, sorted, Array.map_push, h]
  | data f =>
    have h := sorted_sorted c
    simp only [sorted, Contents.mk.injEq] at h
    simp only [adding, handing, sorted, Array.size_map]
    split
    · simp only [map_sorted_modify, h]
    · simp only [map_sorted_withInjected, h]

/-- Where data goes, and what becomes of it, has nothing to do with names and counts. -/
theorem handing_apart (c : Contents) (f : Fragment) (name : String → String)
    (names : Array String → Array String) (count : Nat → Nat) :
    handing { c with name := name c.name, names := names c.names,
                     recordCount := count c.recordCount } f =
      { c.handing f with name := name (c.handing f).name, names := names (c.handing f).names,
                         recordCount := count (c.handing f).recordCount } := by
  by_cases h : f.segment.toNat ≤ c.defined.size <;> simp [handing, h]

theorem counted_adding (c : Contents) (e : Entry) : (c.adding e).counted = c.counted.adding e := by
  cases e with
  | data f => exact (handing_apart c f id id (· + 1)).symm
  | _ => rfl

theorem sorted_enteringAll (c : Contents) (entries : List Entry) :
    (c.sorted.enteringAll entries).sorted = (c.enteringAll entries).sorted := by
  induction entries generalizing c with
  | nil => exact sorted_sorted c
  | cons e rest ih =>
    show ((c.sorted.entering e).enteringAll rest).sorted = ((c.entering e).enteringAll rest).sorted
    rw [← ih (c.sorted.entering e), ← ih (c.entering e)]
    exact congrArg (fun d => (enteringAll d rest).sorted) (sorted_adding c.counted e)

/-! ### Entering in another order -/

/-- Fragments for different numbers are handed to different injected segments. -/
theorem withInjected_swap {m n : Nat} (h : m ≠ n) (f g : Fragment)
    (injected : List (Nat × Segment)) :
    withInjected n g (withInjected m f injected) =
      withInjected m f (withInjected n g injected) := by
  induction injected with
  | nil =>
    rcases Nat.lt_or_gt_of_ne h with less | less
    · simp [withInjected, less, Nat.lt_asymm less, h.symm]
    · simp [withInjected, less, Nat.lt_asymm less, h]
  | cons p rest ih =>
    obtain ⟨i, s⟩ := p
    grind [withInjected]

theorem map_sorted_withInjected_swap (number : Nat) (h : f.offset ≠ g.offset)
    (injected : List (Nat × Segment)) :
    (withInjected number g (withInjected number f injected)).map (fun p => (p.1, p.2.sorted)) =
      (withInjected number f (withInjected number g injected)).map
        fun p => (p.1, p.2.sorted) := by
  induction injected with
  | nil => simp [withInjected, Segment.sorted_grownBy_swap h]
  | cons p rest ih =>
    obtain ⟨i, s⟩ := p
    by_cases less : i < number
    · simp [withInjected, less, ih]
    · by_cases same : i = number
      · simp [withInjected, same, Segment.sorted_grownBy_swap h]
      · simp [withInjected, less, same, Segment.sorted_grownBy_swap h]

theorem modify_swap {place place' : Nat} (h : place = place' → f.offset ≠ g.offset)
    (defined : Array Segment) :
    ((defined.modify place (Segment.withFragment f)).modify place'
        (Segment.withFragment g)).map Segment.sorted =
      ((defined.modify place' (Segment.withFragment g)).modify place
        (Segment.withFragment f)).map Segment.sorted := by
  refine Array.ext_getElem? fun i => ?_
  simp only [Array.getElem?_map, Array.getElem?_modify]
  by_cases hi : place = i
  · by_cases hi' : place' = i
    · cases defined[i]? with
      | none => simp [hi, hi']
      | some s => simp [hi, hi', Segment.sorted_withFragment_swap (h (hi.trans hi'.symm))]
    · simp [hi, hi']
  · simp [hi]

/-- Fragments may change places unless both are for one place of one segment. -/
theorem handing_swap (c : Contents) (hf : f.segment.toNat ≠ 0) (hg : g.segment.toNat ≠ 0)
    (h : f.segment.toNat = g.segment.toNat → f.offset ≠ g.offset) :
    ((c.handing f).handing g).sorted = ((c.handing g).handing f).sorted := by
  by_cases defined : f.segment.toNat ≤ c.defined.size <;>
    by_cases defined' : g.segment.toNat ≤ c.defined.size
  · have hplace : f.segment.toNat - 1 = g.segment.toNat - 1 → f.offset ≠ g.offset :=
      fun same => h (by omega)
    simp [handing, defined, defined', sorted, modify_swap hplace]
  · simp [handing, defined, defined']
  · simp [handing, defined, defined']
  · by_cases same : f.segment.toNat = g.segment.toNat
    · have := map_sorted_withInjected_swap f.segment.toNat (h same) c.injected
      simp [handing, defined', sorted, same] at this ⊢
      exact this
    · simp [handing, defined, defined', withInjected_swap same]

/-- A definition may change places with data, unless this is for the segment it defines. -/
theorem handing_definition (c : Contents) (s : Segment) (hf : f.segment.toNat ≠ 0)
    (h : f.segment.toNat ≠ c.defined.size + 1) :
    (c.adding (.definition s)).handing f = (c.handing f).adding (.definition s) := by
  by_cases defined : f.segment.toNat ≤ c.defined.size
  · have hplace : c.defined.size ≠ f.segment.toNat - 1 := by omega
    have hpush : (c.defined.push s).modify (f.segment.toNat - 1) (Segment.withFragment f) =
        (c.defined.modify (f.segment.toNat - 1) (Segment.withFragment f)).push s := by
      refine Array.ext_getElem? fun i => ?_
      simp only [Array.getElem?_modify, Array.getElem?_push, Array.size_modify]
      by_cases hi : i = c.defined.size
      · simp [hi, hplace.symm]
      · simp [hi]
    simp [adding, handing, defined, Nat.le_succ_of_le defined, hpush]
  · have beyond : ¬ f.segment.toNat ≤ c.defined.size + 1 := by omega
    simp [adding, handing, defined, beyond]

/-- **Entries may change places unless they conflict.** -/
theorem adding_swap (c : Contents) (he : e.IsSound ∧ e.HasSegment)
    (he' : e'.IsSound ∧ e'.HasSegment) (h : e.conflicts c.defined.size e' = false) :
    ((c.adding e).adding e').sorted = ((c.adding e').adding e).sorted := by
  cases e with
  | other => rfl
  | moduleName name =>
    cases e' with
    | moduleName name' => cases h
    | data f => exact congrArg sorted (handing_apart c f (fun _ => name) id id)
    | _ => rfl
  | names names =>
    cases e' with
    | names names' => cases h
    | data f => exact congrArg sorted (handing_apart c f id (· ++ names) id)
    | _ => rfl
  | definition s =>
    cases e' with
    | definition s' => cases h
    | data f =>
      refine congrArg sorted (handing_definition c s he'.2 fun hnumber => ?_)
      have hsegment : f.segment = c.defined.size + 1 := by
        have := he'.1.segment
        omega
      simp [Entry.conflicts, hsegment] at h
    | _ => rfl
  | data f =>
    cases e' with
    | moduleName name => exact congrArg sorted (handing_apart c f (fun _ => name) id id).symm
    | names names => exact congrArg sorted (handing_apart c f id (· ++ names) id).symm
    | other => rfl
    | definition s =>
      refine congrArg sorted (handing_definition c s he.2 fun hnumber => ?_).symm
      have hsegment : f.segment = c.defined.size + 1 := by
        have := he.1.segment
        omega
      simp [Entry.conflicts, hsegment] at h
    | data g =>
      refine handing_swap c he.2 he'.2 fun hnumber hoffset => ?_
      have hsegment : f.segment = g.segment := by
        have hf := he.1.segment
        have hg := he'.1.segment
        omega
      simp [Entry.conflicts, hsegment, hoffset] at h

theorem entering_swap (c : Contents) (he : e.IsSound ∧ e.HasSegment)
    (he' : e'.IsSound ∧ e'.HasSegment) (h : e.conflicts c.defined.size e' = false) :
    ((c.entering e).entering e').sorted = ((c.entering e').entering e).sorted := by
  simp only [entering, counted_adding]
  exact adding_swap c.counted.counted he he' h

theorem enteringAll_append (c : Contents) (front back : List Entry) :
    c.enteringAll (front ++ back) = (c.enteringAll front).enteringAll back := List.foldl_append

theorem size_enteringAll (c : Contents) (entries : List Entry) :
    (c.enteringAll entries).defined.size = c.defined.size + Entry.definitions entries := by
  simpa [Entry.definitions] using congrArg List.length (map_length_enteringAll c entries)

/-! ### Closing in another order -/

/-- Names are found whatever the order of data. -/
theorem applied_resolveNames_sorted (names : Array String) (s : Segment) :
    (Segment.resolveNames names).applied s.sorted =
      Segment.sorted <$> (Segment.resolveNames names).applied s := by
  rw [Segment.applied_resolveNames, Segment.applied_resolveNames]
  dsimp only [Segment.sorted]
  cases Segment.lookUp names s.nameIndex .segment with
  | error e => rfl
  | ok name =>
    cases Segment.lookUp names s.classIndex .className with
    | error e => rfl
    | ok className => cases Segment.lookUp names s.overlayIndex .overlay <;> rfl

theorem applied_settle_sorted (s : Segment) : settle.applied s.sorted = settle.applied s := by
  have horder : Fragment.byOffset (Fragment.byOffset s.fragments.toList) =
      Fragment.byOffset s.fragments.toList := by
    simpa using Fragment.byOffset_byOffset_append s.fragments.toList []
  rw [Segment.applied_settle, Segment.applied_settle]
  simp only [Segment.sorted, List.toList_toArray, horder, Segment.displayName]

/-- **It does not matter to what becomes of data in which order it was attached.** -/
theorem resolve_sorted (c : Contents) : c.sorted.resolve = c.resolve := by
  have hnamed : c.sorted.defined.mapM (Segment.resolveNames c.names).applied =
      (fun named => named.map Segment.sorted) <$>
        c.defined.mapM (Segment.resolveNames c.names).applied := by
    rw [← Outcome.mapM_map_left]
    show (c.defined.map Segment.sorted).mapM _ = _
    rw [Array.mapM_map]
    exact congrArg c.defined.mapM (funext (applied_resolveNames_sorted c.names))
  have hdefined (named : Array Segment) :
      (named.map Segment.sorted).mapM settle.applied = named.mapM settle.applied := by
    rw [Array.mapM_map]
    exact congrArg named.mapM (funext applied_settle_sorted)
  have hinjected : c.sorted.injected.mapM (fun p => do return (p.1, ← settle.applied p.2)) =
      c.injected.mapM fun p => do return (p.1, ← settle.applied p.2) := by
    show (c.injected.map _).mapM _ = _
    rw [List.mapM_map]
    refine congrArg c.injected.mapM (funext fun p => ?_)
    simp only [Function.comp_def, applied_settle_sorted]
  unfold resolve
  rw [show c.sorted.names = c.names from rfl, hnamed, hinjected]
  cases c.defined.mapM (Segment.resolveNames c.names).applied with
  | error e => rfl
  | ok named =>
    show ((named.map Segment.sorted).mapM settle.applied >>= _) = (named.mapM settle.applied >>= _)
    rw [hdefined]
    rfl

theorem resolve_enteringAll_swap (c : Contents) (front back : List Entry)
    (he : e.IsSound ∧ e.HasSegment) (he' : e'.IsSound ∧ e'.HasSegment)
    (h : e.conflicts (c.enteringAll front).defined.size e' = false) :
    (c.enteringAll (front ++ e :: e' :: back)).resolve =
      (c.enteringAll (front ++ e' :: e :: back)).resolve := by
  have hswap := entering_swap (c.enteringAll front) he he' h
  rw [← resolve_sorted, ← resolve_sorted (c.enteringAll (front ++ e' :: e :: back)),
    enteringAll_append, enteringAll_append]
  show ((((c.enteringAll front).entering e).entering e').enteringAll back).sorted.resolve =
    ((((c.enteringAll front).entering e').entering e).enteringAll back).sorted.resolve
  rw [← sorted_enteringAll, hswap, sorted_enteringAll]

end Contents

end ObjectModule
