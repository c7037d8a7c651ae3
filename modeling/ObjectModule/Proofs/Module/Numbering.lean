import ObjectModule.Proofs.Module.Order

/-! Segment numbers.

A number is to name one segment: the one that is defined under it, however late, or else one
that is injected. Where data goes is settled when it is met, so this holds of a module exactly
if its entries are in order, that is, if no data stands before the definition of its segment
(`Contents.Accounts.injected_iff`). Then the data of a number is all in one place
(`Contents.Accounts.gathers_number`). -/
namespace ObjectModule

namespace Entry

/-- Whether no data stands before the definition of its segment: so many segments are defined
by then, or never are. -/
def InOrder (entries : List Entry) : Prop :=
  ∀ front f back, entries = front ++ .data f :: back →
    f.segment.toNat ≤ definitions front ∨ definitions entries < f.segment.toNat

end Entry

/-- Places that are settled at different times are the same if the segment is defined by the
earlier or not by the later. -/
theorem Destination.of_eq_of_iff {early late number : Nat} (h : early ≤ late) :
    of early number = of late number ↔ number ≤ early ∨ late < number := by
  unfold of
  by_cases defined : number ≤ early
  · simp [defined, Nat.le_trans defined h]
  · by_cases defined' : number ≤ late
    · simp [defined, defined']
    · simp [defined, defined']
      omega

theorem Destination.of_inj {definitions number number' : Nat} (h : 0 < number)
    (h' : 0 < number') : of definitions number = of definitions number' ↔ number = number' := by
  unfold of
  split <;> split <;> simp <;> omega

namespace Entry
variable {entries front back : List Entry} {p : Destination × Fragment} {before : Nat}

theorem definitions_append (front back : List Entry) :
    definitions (front ++ back) = definitions front + definitions back := by
  simp [definitions]

/-- Data goes where the definitions before it say. -/
theorem mem_sent :
    p ∈ sent before entries ↔ ∃ front f back, entries = front ++ .data f :: back ∧
      p = (.of (before + definitions front) f.segment.toNat, f) := by
  induction entries generalizing before with
  | nil => simp [sent]
  | cons e rest ih =>
    have hcount (front : List Entry) :
        before + definitions (e :: front) = before + definitions [e] + definitions front := by
      rw [Nat.add_assoc, ← definitions_append, List.singleton_append]
    -- The data is the first entry, or it stands behind the first.
    have hcons : (∃ front f back, e :: rest = front ++ .data f :: back ∧
          p = (.of (before + definitions front) f.segment.toNat, f)) ↔
        (∃ f, e = .data f ∧ p = (.of before f.segment.toNat, f)) ∨
        ∃ front f back, rest = front ++ .data f :: back ∧
          p = (.of (before + definitions [e] + definitions front) f.segment.toNat, f) := by
      constructor
      · rintro ⟨front, f, back, happend, hp⟩
        cases front with
        | nil =>
          obtain ⟨rfl, rfl⟩ := List.cons.inj happend
          exact .inl ⟨f, rfl, hp⟩
        | cons _ front =>
          obtain ⟨rfl, rfl⟩ := List.cons.inj happend
          exact .inr ⟨front, f, back, rfl, hcount front ▸ hp⟩
      · rintro (⟨f, rfl, hp⟩ | ⟨front, f, back, rfl, hp⟩)
        · exact ⟨[], f, rest, rfl, hp⟩
        · exact ⟨e :: front, f, back, rfl, hcount front ▸ hp⟩
    rw [hcons, ← ih]
    cases e <;> simp [sent, definitions, definition?, List.filterMap_cons]

/-- In order, data goes where it would go if all definitions came first. -/
theorem inOrder_iff :
    InOrder entries ↔
      ∀ p ∈ sent 0 entries, p.1 = .of (definitions entries) p.2.segment.toNat := by
  have hle (front back : List Entry) : definitions front ≤ definitions (front ++ back) := by
    rw [definitions_append]
    exact Nat.le_add_right ..
  constructor
  · rintro h p hp
    obtain ⟨front, f, back, rfl, rfl⟩ := mem_sent.mp hp
    rw [Nat.zero_add]
    exact (Destination.of_eq_of_iff (hle ..)).mpr (h front f back rfl)
  · rintro h front f back rfl
    have := h _ (mem_sent.mpr ⟨front, f, back, rfl, rfl⟩)
    rw [Nat.zero_add] at this
    exact (Destination.of_eq_of_iff (hle ..)).mp this

theorem InOrder.receives (h : InOrder entries) (positive : ∀ g, .data g ∈ entries → 0 < g.segment)
    {number : Int} (hnumber : 0 < number) :
    Destination.receives (.of (definitions entries) number.toNat) (sent 0 entries) =
      (entries.filterMap data?).filter (·.segment = number) := by
  have hmem : ∀ p ∈ sent 0 entries, .data p.2 ∈ entries := by
    intro p hp
    obtain ⟨front, f, back, rfl, rfl⟩ := mem_sent.mp hp
    simp
  rw [← map_sent 0, List.filter_map, Destination.receives]
  refine congrArg (List.map Prod.snd) (List.filter_congr fun p hp => ?_)
  have hp0 := positive p.2 (hmem p hp)
  rw [inOrder_iff.mp h p hp, Function.comp_apply, decide_eq_decide,
    Destination.of_inj (by omega) (by omega)]
  omega

end Entry

namespace Contents
variable {c : Contents} {entries : List Entry}

theorem lookup_of_mem {injected : List (Nat × Segment)}
    (h : injected.Pairwise fun p q => p.1 < q.1) {p : Nat × Segment} (hp : p ∈ injected) :
    injected.lookup p.1 = some p.2 := by
  induction injected with
  | nil => cases hp
  | cons q rest ih =>
    obtain ⟨hfirst, hrest⟩ := List.pairwise_cons.mp h
    rw [lookup_cons]
    rcases List.mem_cons.mp hp with rfl | hp
    · rw [if_pos rfl]
    · have := hfirst p hp
      rw [if_neg (by omega), ih hrest hp]

theorem Accounts.size_defined (h : c.Accounts entries) :
    c.defined.size = Entry.definitions entries := by
  simpa [Entry.definitions] using congrArg List.length h.lengths

/-- **Segments are injected for undefined numbers only, exactly if the entries are in
order.** -/
theorem Accounts.injected_iff (h : c.Accounts entries) :
    (∀ p ∈ c.injected, c.defined.size < p.1) ↔ Entry.InOrder entries := by
  rw [Entry.inOrder_iff, h.size_defined]
  constructor
  · intro hbeyond p hp
    obtain ⟨s, hs⟩ := h.arrives p hp
    obtain ⟨front, f, back, rfl, rfl⟩ := Entry.mem_sent.mp hp
    rw [Nat.zero_add] at hs ⊢
    have hle : Entry.definitions front ≤ Entry.definitions (front ++ .data f :: back) := by
      rw [Entry.definitions_append]
      exact Nat.le_add_right ..
    refine (Destination.of_eq_of_iff hle).mpr ?_
    by_cases defined : f.segment.toNat ≤ Entry.definitions front
    · exact .inl defined
    · simp only [Destination.of, if_neg defined] at hs
      obtain ⟨first, last, hinjected, _⟩ := List.lookup_eq_some_iff.mp hs
      exact .inr (hbeyond (f.segment.toNat, s) (by simp [hinjected]))
  · intro horder p hp
    obtain ⟨f, hf, _⟩ := (h.grown p hp).reached
    have hreceived : f ∈ Destination.receives (.injected p.1) (Entry.sent 0 entries) :=
      (h.gathers (.injected p.1) p.2 (lookup_of_mem h.ascending hp)).same.mem_iff.mp
        (Array.mem_toList_iff.mpr hf)
    simp only [Destination.receives, List.mem_map, List.mem_filter, decide_eq_true_eq] at hreceived
    obtain ⟨q, ⟨hq, hdestination⟩, rfl⟩ := hreceived
    have := horder q hq
    rw [hdestination, Destination.of] at this
    split at this
    · cases this
    · have := Destination.injected.inj this
      omega

/-- In order, the data of a number is all in the segment of that number. -/
theorem Accounts.gathers_number (h : c.Accounts entries) (horder : Entry.InOrder entries)
    {f : Fragment} (hf : .data f ∈ entries) :
    ∃ s, c.segmentFor? (.of c.defined.size f.segment.toNat) = some s ∧
      Fragment.Gathers s.fragments.toList
        ((entries.filterMap Entry.data?).filter (·.segment = f.segment)) := by
  obtain ⟨front, back, hentries⟩ := List.append_of_mem hf
  have hsent : (Destination.of (0 + Entry.definitions front) f.segment.toNat, f) ∈
      Entry.sent 0 entries := Entry.mem_sent.mpr ⟨front, f, back, hentries, rfl⟩
  have hplace := Entry.inOrder_iff.mp horder _ hsent
  obtain ⟨s, hs⟩ := h.arrives _ hsent
  rw [hplace] at hs
  have hgathers := h.gathers _ s hs
  rw [horder.receives h.numbered (h.numbered f hf)] at hgathers
  exact ⟨s, h.size_defined ▸ hs, hgathers⟩

theorem accounts_of_alike (hentries : ∀ e ∈ entries, e.IsSound ∧ e.HasSegment)
    (alike : Alike Segment.Becomes (({} : Contents).enteringAll entries) c) : c.Accounts entries :=
  (routes_empty.enteringAll hentries).accounts hentries (map_length_enteringAll {} entries) alike

end Contents

namespace Module

/-- **A number names one segment, exactly if no data stands before the definition of its
segment**: segments are then injected for numbers only that are never defined, and the data of
each number is together. -/
theorem injected_undefined_iff {input : Bytes} {path : String} {options : Options} {m : Module}
    (h : (load input path options).result = .ok m) :
    ∃ entries, (Record.split input).records.mapM Record.entry = .ok entries ∧
      m.defined.size = Entry.definitions entries ∧
      ((∀ p ∈ m.injected, m.defined.size < p.1) ↔ Entry.InOrder entries) ∧
      (Entry.InOrder entries → ∀ f, .data f ∈ entries →
        ∃ s, m.segmentFor? (.of m.defined.size f.segment.toNat) = some s ∧
          Fragment.Gathers s.fragments.toList
            ((entries.filterMap Entry.data?).filter (·.segment = f.segment))) := by
  obtain ⟨entries, hread, hentries, alike⟩ := entries_of_load h
  have haccounts := Contents.accounts_of_alike hentries alike
  exact ⟨entries, hread, haccounts.size_defined, haccounts.injected_iff,
    fun horder _ hf => haccounts.gathers_number horder hf⟩

/-- A definition, then data for segment 2 and for segment 1. -/
def definedFirst : Bytes :=
  [0x98, 7, 0, 0x28, 4, 0, 0, 0, 0, 0, 0xA0, 5, 0, 2, 0, 0, 0xBB, 0,
    0xA0, 5, 0, 1, 0, 0, 0xAA, 0, 0x8A, 2, 0, 0, 0x74]

/-- Behind the definition data is in order, and is injected for segment 2 only. -/
theorem injected_undefined_iff_of_definedFirst :
    ∃ m, (load definedFirst "" {}).result = .ok m ∧ m.injected.map Prod.fst = [2] ∧
      ∃ entries, (Record.split definedFirst).records.mapM Record.entry = .ok entries ∧
        Entry.InOrder entries := by
  have numbers : (load definedFirst "" {}).result.toOption.map
      (fun m => (m.defined.size, m.injected.map Prod.fst)) = some (1, [2]) := by decide +kernel
  obtain ⟨m, hload, hnumbers⟩ := Outcome.exists_of_toOption_map numbers
  obtain ⟨hdefined, hinjected⟩ := Prod.mk.inj hnumbers
  obtain ⟨entries, hread, _, hiff, _⟩ := injected_undefined_iff hload
  refine ⟨m, hload, hinjected, entries, hread, hiff.mp fun p hp => ?_⟩
  have hnumber : p.1 ∈ m.injected.map Prod.fst := List.mem_map_of_mem hp
  rw [hinjected] at hnumber
  rw [hdefined, List.mem_singleton.mp hnumber]
  decide

/-- Data for segment 1, then its definition. -/
def definedLate : Bytes :=
  [0xA0, 5, 0, 1, 0, 0, 0xAA, 0, 0x98, 7, 0, 0x28, 4, 0, 0, 0, 0, 0, 0x8A, 2, 0, 0, 0x74]

/-- Data that stands before the definition of its segment is held by another. -/
theorem injected_for_defined :
    ∃ m, (load definedLate "" {}).result = .ok m ∧ ¬ ∀ p ∈ m.injected, m.defined.size < p.1 := by
  have numbers : (load definedLate "" {}).result.toOption.map
      (fun m => (m.defined.size, m.injected.map Prod.fst)) = some (1, [1]) := by decide +kernel
  obtain ⟨m, hload, hnumbers⟩ := Outcome.exists_of_toOption_map numbers
  obtain ⟨hdefined, hinjected⟩ := Prod.mk.inj hnumbers
  refine ⟨m, hload, fun hall => ?_⟩
  have hnumber : 1 ∈ m.injected.map Prod.fst := hinjected ▸ List.mem_singleton_self 1
  obtain ⟨p, hp, hone⟩ := List.mem_map.mp hnumber
  have := hall p hp
  omega

end Module
end ObjectModule
