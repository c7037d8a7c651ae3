import ObjectModule.Proofs.ImageStream.Fates
import ObjectModule.Proofs.Module.Closing
import ObjectModule.Proofs.Module.Injected

/-! Where data goes.

A data record names its segment by number. If that many segments are defined by then, the
data goes to the one of that number, otherwise to the one injected for the number; a later
definition does not change that. `Routes` says of contents that each segment holds what was
sent to it, and is kept by every entry. Closing the segments puts what they hold in order,
so that a module accounts for all data of its records (`accounts_of_load`). -/
namespace ObjectModule

/-- Where data may go: to the segment defined at a place, or to the one injected for a
number. -/
inductive Destination where
  | defined (place : Nat)
  | injected (number : Nat)
deriving DecidableEq, Repr

namespace Destination

/-- Where data for the segment of a number goes if so many segments are defined. -/
def of (definitions number : Nat) : Destination :=
  if number ≤ definitions then .defined (number - 1) else .injected number

/-- The data sent to a destination, in order. -/
def receives (d : Destination) (sent : List (Destination × Fragment)) : List Fragment :=
  (sent.filter (·.1 = d)).map Prod.snd

theorem receives_append_self (d : Destination) (sent : List (Destination × Fragment))
    (f : Fragment) : d.receives (sent ++ [(d, f)]) = d.receives sent ++ [f] := by
  simp [receives]

theorem receives_append_other {d d' : Destination} (h : d' ≠ d)
    (sent : List (Destination × Fragment)) (f : Fragment) :
    d.receives (sent ++ [(d', f)]) = d.receives sent := by
  simp [receives, h]

end Destination

/-- The data in entries with where it goes, if so many segments are defined before. -/
def Entry.sent (definitions : Nat) : List Entry → List (Destination × Fragment)
  | [] => []
  | .definition _ :: rest => sent (definitions + 1) rest
  | .data f :: rest => (.of definitions f.segment.toNat, f) :: sent definitions rest
  | .moduleName _ :: rest | .names _ :: rest | .other :: rest => sent definitions rest

theorem Entry.map_sent (definitions : Nat) (entries : List Entry) :
    (sent definitions entries).map Prod.snd = entries.filterMap data? := by
  induction entries generalizing definitions with
  | nil => rfl
  | cons e rest ih => cases e <;> simp [sent, data?, List.filterMap_cons, ih]

/-- The fragments held are those received, by offset, and those at one offset in the order in
which they came. -/
structure Fragment.Gathers (held received : List Fragment) : Prop where
  sorted : Sorted held
  same : held.Perm received
  stable : ∀ offset, held.filter (·.offset = offset) = received.filter (·.offset = offset)

namespace Contents

/-- The segment at a destination. -/
def segmentFor? (c : Contents) : Destination → Option Segment
  | .defined place => c.defined[place]?
  | .injected number => c.injected.lookup number

/-- The data of all segments. -/
def held (c : Contents) : List Fragment := c.segments.flatMap (·.fragments.toList)

/-- What is known of contents when data has been sent. -/
structure Routes (c : Contents) (sent : List (Destination × Fragment)) : Prop where
  arrives : ∀ p ∈ sent, ∃ s, c.segmentFor? p.1 = some s
  holds : ∀ d s, c.segmentFor? d = some s → s.fragments.toList = d.receives sent
  held : c.held.Perm (sent.map Prod.snd)
  ascending : c.injected.Pairwise fun p q => p.1 < q.1
  grown : ∀ p ∈ c.injected, p.2.IsGrown

/-- The segments hold the data of the entries, each where it goes. -/
structure Accounts (c : Contents) (entries : List Entry) : Prop where
  numbered : ∀ f, .data f ∈ entries → 0 < f.segment
  /-- Data goes to a segment that is there. -/
  arrives : ∀ p ∈ Entry.sent 0 entries, ∃ s, c.segmentFor? p.1 = some s
  /-- A segment holds what goes to it and nothing else, in order of offset. -/
  gathers : ∀ d s, c.segmentFor? d = some s →
    Fragment.Gathers s.fragments.toList (d.receives (Entry.sent 0 entries))
  /-- All segments together hold all data once. -/
  held : c.held.Perm (entries.filterMap Entry.data?)
  /-- There are as many defined segments as definitions, with the lengths these give. -/
  lengths : c.defined.toList.map (·.length) =
    (entries.filterMap Entry.definition?).map (·.length)
  ascending : c.injected.Pairwise fun p q => p.1 < q.1
  grown : ∀ p ∈ c.injected, p.2.IsGrown

variable {c : Contents} {f : Fragment} {s : Segment} {sent : List (Destination × Fragment)}

/-! ### Segments at destinations -/

theorem segmentFor?_define (c : Contents) (s : Segment) (d : Destination) :
    segmentFor? { c with defined := c.defined.push s } d =
      if d = .defined c.defined.size then some s else c.segmentFor? d := by
  cases d with
  | injected number => rfl
  | defined place => simp [segmentFor?, Array.getElem?_push]

theorem segmentFor?_modify (c : Contents) (place : Nat) (f : Fragment) (d : Destination) :
    segmentFor? { c with defined := c.defined.modify place (Segment.withFragment f) } d =
      if d = .defined place then (c.segmentFor? d).map (Segment.withFragment f)
      else c.segmentFor? d := by
  cases d with
  | injected number => rfl
  | defined i =>
    by_cases hi : i = place
    · simp [segmentFor?, Array.getElem?_modify, hi]
    · simp [segmentFor?, Array.getElem?_modify, hi, Ne.symm hi]

theorem segmentFor?_withInjected (h : c.injected.Pairwise fun p q => p.1 < q.1) (number : Nat)
    (f : Fragment) (d : Destination) :
    segmentFor? { c with injected := withInjected number f c.injected } d =
      if d = .injected number then
        some (((c.segmentFor? d).getD (.injected number .data)).grownBy f)
      else c.segmentFor? d := by
  cases d with
  | defined place => rfl
  | injected i =>
    have hlookup := lookup_withInjected h number f i
    by_cases hi : i = number
    · simpa [segmentFor?, hi] using hlookup
    · simpa [segmentFor?, hi] using hlookup

/-! ### Entries -/

theorem routes_empty : Routes {} [] where
  arrives _ h := nomatch h
  holds d s h := by
    cases d <;> simp [segmentFor?] at h
  held := .refl _
  ascending := .nil
  grown _ h := nomatch h

theorem Routes.receives_eq_nil (h : Routes c sent) {d : Destination} (hd : c.segmentFor? d = none) :
    d.receives sent = [] := by
  have hnone : ∀ p ∈ sent, p.1 ≠ d := by
    intro p hp hpd
    obtain ⟨s, hs⟩ := h.arrives p hp
    rw [hpd, hd] at hs
    cases hs
  simpa [Destination.receives] using hnone

/-- A new definition is where nothing was sent. -/
theorem Routes.define (h : Routes c sent) (hs : s.fragments = #[]) :
    Routes { c with defined := c.defined.push s } sent where
  arrives p hp := by
    rw [segmentFor?_define]
    split
    · exact ⟨s, rfl⟩
    · exact h.arrives p hp
  holds d t ht := by
    rw [segmentFor?_define] at ht
    split at ht
    · next hd =>
      cases ht
      rw [h.receives_eq_nil (by simp [hd, segmentFor?]), hs]
    · exact h.holds d t ht
  held := by
    have := h.held
    simpa [Contents.held, segments, hs] using this
  ascending := h.ascending
  grown := h.grown

theorem held_modify {segments : List Segment} {i : Nat} (hi : i < segments.length) :
    ((segments.modify i (Segment.withFragment f)).flatMap (·.fragments.toList)).Perm
      (f :: segments.flatMap (·.fragments.toList)) := by
  induction segments generalizing i with
  | nil => exact absurd hi (Nat.not_lt_zero i)
  | cons s rest ih =>
    cases i with
    | zero => simp [Segment.withFragment]
    | succ i =>
      rw [List.modify_succ_cons, List.flatMap_cons, List.flatMap_cons]
      exact ((ih (Nat.lt_of_succ_lt_succ hi)).append_left _).trans List.perm_middle

/-- Contents route one fragment more if its destination holds it behind what it held before,
and the other segments are as they were. -/
theorem Routes.hand (h : Routes c sent) {c' : Contents} {d : Destination} (s' : Segment)
    (hd : c'.segmentFor? d = some s') (hs' : s'.fragments.toList = d.receives sent ++ [f])
    (hother : ∀ d' ≠ d, c'.segmentFor? d' = c.segmentFor? d')
    (hheld : c'.held.Perm (f :: c.held))
    (ascending : c'.injected.Pairwise fun p q => p.1 < q.1)
    (grown : ∀ p ∈ c'.injected, p.2.IsGrown) : Routes c' (sent ++ [(d, f)]) where
  arrives p hp := by
    by_cases hpd : p.1 = d
    · exact ⟨s', hpd ▸ hd⟩
    · rw [hother p.1 hpd]
      refine h.arrives p ((List.mem_append.mp hp).resolve_right fun hlast => hpd ?_)
      rw [List.mem_singleton.mp hlast]
  holds d' t ht := by
    by_cases hd' : d' = d
    · subst hd'
      rw [hd] at ht
      cases ht
      rw [hs', Destination.receives_append_self]
    · rw [hother d' hd'] at ht
      rw [h.holds d' t ht, Destination.receives_append_other (Ne.symm hd')]
  held := by
    rw [List.map_append]
    refine hheld.trans ((h.held.cons f).trans ?_)
    exact (List.perm_append_singleton f _).symm
  ascending
  grown

/-- A fragment for a defined segment. -/
theorem Routes.hand_defined (h : Routes c sent) {place : Nat} (hplace : place < c.defined.size) :
    Routes { c with defined := c.defined.modify place (Segment.withFragment f) }
      (sent ++ [(.defined place, f)]) := by
  obtain ⟨s, hs⟩ : ∃ s, c.segmentFor? (.defined place) = some s :=
    ⟨_, Array.getElem?_eq_getElem hplace⟩
  refine h.hand (s.withFragment f) ?_ ?_ (fun d' hd' => ?_) ?_ h.ascending h.grown
  · rw [segmentFor?_modify, if_pos rfl, hs]
    rfl
  · rw [← h.holds _ s hs]
    simp [Segment.withFragment]
  · rw [segmentFor?_modify, if_neg hd']
  · simp only [Contents.held, segments, Array.toList_modify, List.flatMap_append]
    exact (held_modify (by simpa using hplace)).append_right _

/-- A fragment for an injected segment. -/
theorem Routes.hand_injected (h : Routes c sent) (hf : f.IsData) (number : Nat) :
    Routes { c with injected := withInjected number f c.injected }
      (sent ++ [(.injected number, f)]) := by
  refine h.hand (((c.segmentFor? (.injected number)).getD (.injected number .data)).grownBy f)
    ?_ ?_ (fun d' hd' => ?_) ?_ (ascending_withInjected h.ascending) ?_
  · rw [segmentFor?_withInjected h.ascending, if_pos rfl]
  · cases hs : c.segmentFor? (.injected number) with
    | none =>
      rw [h.receives_eq_nil hs]
      rfl
    | some s =>
      rw [← h.holds _ s hs]
      simp [Segment.grownBy]
  · rw [segmentFor?_withInjected h.ascending, if_neg hd']
  · simp only [Contents.held, segments, List.flatMap_append, List.flatMap_map]
    exact (held_withInjected.append_left _).trans List.perm_middle
  · exact forall_withInjected h.grown (Segment.isGrown_injected number hf)
      fun s hs => hs.grownBy hf

/-- A fragment goes where the number of definitions by then says. -/
theorem Routes.handing (h : Routes c sent) (hf : f.IsData) (hsegment : f.segment.toNat ≠ 0) :
    Routes (c.handing f) (sent ++ [(.of c.defined.size f.segment.toNat, f)]) := by
  unfold Contents.handing Destination.of
  split
  · exact h.hand_defined (by omega)
  · exact h.hand_injected hf _

theorem size_handing (c : Contents) (f : Fragment) :
    (c.handing f).defined.size = c.defined.size := by
  unfold handing
  split
  · exact Array.size_modify
  · rfl

theorem Routes.counted (h : Routes c sent) : Routes c.counted sent :=
  ⟨h.arrives, h.holds, h.held, h.ascending, h.grown⟩

/-- **Every entry sends its data on its way.** -/
theorem Routes.enteringAll (h : Routes c sent) {entries : List Entry}
    (hentries : ∀ e ∈ entries, e.IsSound ∧ e.HasSegment) :
    Routes (c.enteringAll entries) (sent ++ Entry.sent c.defined.size entries) := by
  induction entries generalizing c sent with
  | nil => rwa [Entry.sent, List.append_nil]
  | cons e rest ih =>
    obtain ⟨⟨hsound, hsegment⟩, hrest⟩ := List.forall_mem_cons.mp hentries
    cases e with
    | moduleName name => exact ih ⟨h.arrives, h.holds, h.held, h.ascending, h.grown⟩ hrest
    | names names => exact ih ⟨h.arrives, h.holds, h.held, h.ascending, h.grown⟩ hrest
    | other => exact ih h.counted hrest
    | definition s =>
      have := ih (h.counted.define hsound.fragments) hrest
      rwa [Array.size_push] at this
    | data f =>
      have := ih (h.counted.handing hsound hsegment) hrest
      rwa [size_handing, List.append_assoc] at this

/-! ### What stays of definitions -/

section Told
variable {α : Type} {told : Segment → α}

theorem map_modify (kept : ∀ s f, told (Segment.withFragment f s) = told s)
    (segments : List Segment) (place : Nat) (f : Fragment) :
    (segments.modify place (Segment.withFragment f)).map told = segments.map told := by
  induction segments generalizing place with
  | nil => cases place <;> rfl
  | cons s rest ih => cases place <;> simp [kept, ih]

theorem map_handing (kept : ∀ s f, told (Segment.withFragment f s) = told s) (c : Contents)
    (f : Fragment) : (c.handing f).defined.toList.map told = c.defined.toList.map told := by
  unfold handing
  split
  · rw [Array.toList_modify, map_modify kept]
  · rfl

/-- What does not depend on the data handed to a segment stays as its definition has it. -/
theorem map_enteringAll (kept : ∀ s f, told (Segment.withFragment f s) = told s) (c : Contents)
    (entries : List Entry) :
    (c.enteringAll entries).defined.toList.map told =
      c.defined.toList.map told ++ (entries.filterMap Entry.definition?).map told := by
  induction entries generalizing c with
  | nil => simp [enteringAll]
  | cons e rest ih =>
    refine (ih (c.entering e)).trans ?_
    cases e with
    | moduleName name => rfl
    | names names => rfl
    | other => rfl
    | definition s => simp [entering, adding, counted, Entry.definition?]
    | data f => exact congrArg (· ++ _) (map_handing kept c.counted f)

end Told

/-- Definitions keep the lengths they give. -/
theorem map_length_enteringAll (c : Contents) (entries : List Entry) :
    (c.enteringAll entries).defined.toList.map (·.length) =
      c.defined.toList.map (·.length) ++ (entries.filterMap Entry.definition?).map (·.length) :=
  map_enteringAll (fun _ _ => rfl) c entries

end Contents

/-! ### Order -/

/-- Sorting gathers what was received. -/
theorem Fragment.gathers_byOffset (received : List Fragment) :
    Gathers (byOffset received) received := by
  have trans (f g h : Fragment) (hfg : decide (f.offset ≤ g.offset) = true)
      (hgh : decide (g.offset ≤ h.offset) = true) : decide (f.offset ≤ h.offset) = true := by
    simp only [decide_eq_true_eq] at *
    omega
  have total (f g : Fragment) : (decide (f.offset ≤ g.offset) || decide (g.offset ≤ f.offset)) =
      true := by
    simp only [Bool.or_eq_true, decide_eq_true_eq]
    omega
  have same : (byOffset received).Perm received := List.mergeSort_perm ..
  refine ⟨?_, same, fun offset => ?_⟩
  · refine (List.pairwise_mergeSort trans total received).imp fun h => ?_
    simpa using h
  · -- The fragments at one offset are sorted as they are, so they stay a part of the whole.
    have sorted : (received.filter (·.offset = offset)).Pairwise
        fun f g => decide (f.offset ≤ g.offset) = true := by
      refine List.pairwise_filter.mpr (List.pairwise_of_forall fun f g hf hg => ?_)
      simp only [decide_eq_true_eq] at *
      omega
    have part := (List.sublist_mergeSort trans total sorted List.filter_sublist).filter
      (·.offset = offset)
    simp only [List.filter_filter, Bool.and_self] at part
    exact (part.eq_of_length ((same.filter _).length_eq.symm)).symm

/-! ### Modules -/

theorem Segment.IsGrown.becomes {s s' : Segment} (h : s.IsGrown) (hs : s.Becomes s') :
    s'.IsGrown := by
  have hmem (f : Fragment) : f ∈ s'.fragments ↔ f ∈ s.fragments := by
    rw [← Array.mem_toList_iff, hs.fragments, ← Array.mem_toList_iff]
    exact (List.mergeSort_perm ..).mem_iff
  obtain ⟨hwidth, hcovers, f, hf, hreached⟩ := h
  refine ⟨hs.length ▸ hwidth, fun g hg => ?_, f, (hmem f).mpr hf, hs.length ▸ hreached⟩
  rw [hs.length]
  exact hcovers g ((hmem g).mp hg)

namespace Contents
variable {R : Segment → Segment → Prop} {c c' : Contents} {entries : List Entry}

theorem rel_getElem? {l l' : List Segment} (h : List.Forall₂ R l l') (i : Nat) :
    Option.Rel R l[i]? l'[i]? := by
  induction h generalizing i with
  | nil => exact .none
  | cons hs _ ih =>
    cases i with
    | zero => exact .some hs
    | succ i => exact ih i

theorem rel_lookup {l l' : List (Nat × Segment)}
    (h : List.Forall₂ (fun p q => q.1 = p.1 ∧ R p.2 q.2) l l') (i : Nat) :
    Option.Rel R (l.lookup i) (l'.lookup i) := by
  induction h with
  | nil => exact .none
  | @cons p q _ _ hp _ ih =>
    rw [lookup_cons, lookup_cons, hp.1]
    split
    · exact .some hp.2
    · exact ih

/-- Contents that are alike have related segments at every destination. -/
theorem Alike.segmentFor? (h : Alike R c c') (d : Destination) :
    Option.Rel R (c.segmentFor? d) (c'.segmentFor? d) := by
  cases d with
  | injected number => exact rel_lookup h.injected number
  | defined place =>
    have := rel_getElem? h.defined place
    rwa [Array.getElem?_toList, Array.getElem?_toList] at this

theorem held_perm {l l' : List Segment} (h : List.Forall₂ Segment.Becomes l l') :
    (l'.flatMap (·.fragments.toList)).Perm (l.flatMap (·.fragments.toList)) := by
  induction h with
  | nil => exact .refl _
  | cons hs _ ih =>
    rw [List.flatMap_cons, List.flatMap_cons, hs.fragments]
    exact (List.mergeSort_perm ..).append ih

/-- Closing and placing segments makes what was routed accounted for. -/
theorem Routes.accounts (h : Routes c (Entry.sent 0 entries))
    (hdata : ∀ e ∈ entries, e.IsSound ∧ e.HasSegment)
    (hlengths : c.defined.toList.map (·.length) =
      (entries.filterMap Entry.definition?).map (·.length))
    (alike : Alike Segment.Becomes c c') : Accounts c' entries where
  numbered f hf := by
    obtain ⟨_, hsegment⟩ := hdata _ hf
    have : f.segment.toNat ≠ 0 := hsegment
    omega
  arrives p hp := by
    obtain ⟨s, hs⟩ := h.arrives p hp
    have hrel := alike.segmentFor? p.1
    rw [hs] at hrel
    cases hs' : c'.segmentFor? p.1 with
    | none =>
      rw [hs'] at hrel
      cases hrel
    | some s' => exact ⟨s', rfl⟩
  gathers d s' hs' := by
    have hrel := alike.segmentFor? d
    rw [hs'] at hrel
    cases hs : c.segmentFor? d with
    | none =>
      rw [hs] at hrel
      cases hrel
    | some s =>
      rw [hs] at hrel
      obtain ⟨hbecomes⟩ := hrel
      rw [hbecomes.fragments, h.holds d s hs]
      exact Fragment.gathers_byOffset _
  held := (held_perm alike.segments).trans (Entry.map_sent 0 entries ▸ h.held)
  lengths := by
    rw [← hlengths]
    exact Outcome.map_eq_of_forall₂ alike.defined fun _ _ hs => hs.length
  ascending := by
    have hkeys : c'.injected.map Prod.fst = c.injected.map Prod.fst :=
      Outcome.map_eq_of_forall₂ alike.injected fun _ _ hp => hp.1
    rw [← List.pairwise_map, hkeys, List.pairwise_map]
    exact h.ascending
  grown := Outcome.forall_mem_of_forall₂ alike.injected (fun _ _ hp grown => grown.becomes hp.2)
    h.grown

end Contents

/-- **No data is lost, doubled or sent astray by loading a module.** Each record is read;
data goes to the segment that its number and the definitions before it say, and is held there
in order of offset; definitions keep their lengths, and injected segments are as long as their
data needs. -/
theorem Module.accounts_of_load {input : Bytes} {path : String} {options : Options} {m : Module}
    (h : (load input path options).result = .ok m) :
    ∃ entries, (Record.split input).records.mapM Record.entry = .ok entries ∧
      m.toContents.Accounts entries := by
  obtain ⟨entries, hread, hentries, alike⟩ := entries_of_load h
  have hroutes := Contents.routes_empty.enteringAll hentries
  have hlengths := Contents.map_length_enteringAll {} entries
  exact ⟨entries, hread, hroutes.accounts hentries hlengths alike⟩

/-- Data for segments 2 and 1, each before and behind the one definition: `7` and `9` for
segment 2, `8` and `6` for segment 1. -/
def interleaved : Bytes :=
  [0xA0, 5, 0, 2, 4, 0, 7, 0, 0xA0, 5, 0, 1, 0, 0, 8, 0, 0x98, 7, 0, 0x20, 4, 0, 0, 0, 0, 0,
    0xA0, 5, 0, 1, 0, 0, 6, 0, 0xA0, 5, 0, 2, 0, 0, 9, 0, 0x8A, 2, 0, 0, 0]

/-- Data for a number that is defined in between goes to two segments. -/
theorem Module.accounts_of_interleaved :
    ∃ m, (load interleaved "" {}).result = .ok m ∧
      (∃ entries, (Record.split interleaved).records.mapM Record.entry = .ok entries ∧
        m.toContents.Accounts entries) ∧
      m.injected.map Prod.fst = [1, 2] := by
  have numbers : (load interleaved "" {}).result.toOption.map
      (fun m => m.injected.map Prod.fst) = some [1, 2] := by decide +kernel
  cases h : (load interleaved "" {}).result with
  | error e =>
    rw [h] at numbers
    cases numbers
  | ok m =>
    rw [h] at numbers
    exact ⟨m, rfl, accounts_of_load h, Option.some.inj numbers⟩

end ObjectModule
