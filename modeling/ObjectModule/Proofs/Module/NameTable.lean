import ObjectModule.Proofs.Module.Routing
import ObjectModule.Proofs.Record.Definition
import ObjectModule.Proofs.Record.Framing
import ObjectModule.Proofs.Record.Names
import ObjectModule.Proofs.Segment.Rights

/-! The name table of a module.

The names of a module are those of all its records of names, in the order of the input, and only
when all are known they are looked up. So an index in a definition stands for the name at that
place of the whole table, counted from one, wherever in the input the definition is
(`names_of_load`). -/
namespace ObjectModule

/-- What an index of a definition stands for: the empty name if it is zero, else the name at its
place, counted from one. -/
inductive Index.StandsFor (table : List String) (i : Index) : Option String → Prop
  | empty (zero : i.value = 0) : StandsFor table i (some "")
  | name {place : Nat} {name : String} (value : i.value = place + 1)
      (found : table[place]? = some name) : StandsFor table i (some name)

/-- A segment has the names of its definition, and the rights that go with its class. -/
structure Segment.NamedAs (table : List String) (d : Definition) (s : Segment) : Prop where
  name : d.nameIndex.StandsFor table s.name
  className : d.classIndex.StandsFor table s.className
  overlayName : d.overlayIndex.StandsFor table s.overlayName
  permissions : s.permissions = .forClass s.className

/-- In the body of a record stands a definition, and nothing behind it is read. -/
structure Record.Defines (r : Record) (d : Definition) : Prop where
  fits : d.Fits r.type.isWide
  body : ∃ more, r.body = d.toBytes ++ more

/-- The names in an entry. -/
def Entry.names? : Entry → Option (List String)
  | .names texts => some texts
  | _ => none

/-! ### One segment -/

namespace Segment
variable {table : Array String} {i : Index} {role : NameRole} {name : String}
  {override : Option Int} {first next : Int} {type : RecordType} {d : Definition}
  {s read taken named settled placed : Segment}

/-- The indices under which a segment looks up its names. -/
def references (s : Segment) : Index × Index × Index := (s.nameIndex, s.classIndex, s.overlayIndex)

/-- The names of a segment and what may be done with it. -/
def naming (s : Segment) : Option String × Option String × Option String × Permissions :=
  (s.name, s.className, s.overlayName, s.permissions)

/-- An index that counts from one is looked up at its place. -/
theorem standsFor_of_lookUp (hvalue : 0 ≤ i.value) (h : lookUp table i role = .ok name) :
    i.StandsFor table.toList (some name) := by
  unfold lookUp placeOf at h
  by_cases zero : i.value = 0
  · rw [if_pos zero] at h
    cases h
    exact .empty zero
  · have positive : 0 < i.value := by omega
    rw [if_neg zero, if_pos positive] at h
    split at h
    · cases h
    · rw [if_neg (by omega)] at h
      split at h
      · next found =>
        cases h
        have value : i.value = ((i.value - 1).toNat : Nat) + 1 := by omega
        exact .name value (by rwa [Array.getElem?_toList])
      · cases h

/-- Looking up its names names a segment as its definition says. -/
theorem namedAs_of_resolveNames (hfits : d.Fits type.isWide)
    (same : s.references = (d.segment type).references)
    (h : (resolveNames table).applied s = .ok named) : named.NamedAs table.toList d := by
  simp only [references, Prod.mk.injEq] at same
  obtain ⟨hname, hclass, hoverlay⟩ := same
  simp only [applied_resolveNames, hname, hclass, hoverlay, Outcome.bind_eq_ok,
    Outcome.pure_eq_ok] at h
  obtain ⟨name, foundName, className, foundClass, overlayName, foundOverlay, rfl⟩ := h
  exact ⟨standsFor_of_lookUp hfits.nameIndex.1 foundName,
    standsFor_of_lookUp hfits.classIndex.1 foundClass,
    standsFor_of_lookUp hfits.overlayIndex.1 foundOverlay, rfl⟩

theorem naming_of_settle (h : Contents.settle.applied s = .ok settled) :
    settled.naming = s.naming := by
  rw [applied_settle] at h
  split at h
  · cases h
  · cases h
    rfl

theorem naming_of_place (h : (s.place override first).result = .ok (placed, next)) :
    placed.naming = s.naming := by
  rcases place_eq_ok.mp h with ⟨_, rfl, _⟩ | ⟨_, _, _, _, rfl, _⟩ <;> rfl

theorem NamedAs.of_naming {names : List String} (h : s.NamedAs names d)
    (same : placed.naming = s.naming) : placed.NamedAs names d := by
  simp only [naming, Prod.mk.injEq] at same
  obtain ⟨hname, hclass, hoverlay, hpermissions⟩ := same
  constructor
  · rw [hname]
    exact h.name
  · rw [hclass]
    exact h.className
  · rw [hoverlay]
    exact h.overlayName
  · rw [hpermissions, hclass]
    exact h.permissions

end Segment

/-! ### All records of a kind -/

namespace Record
variable {α : Type} {records : List Record} {entries : List Entry} {kind : RecordType.Kind}
  {part? : Entry → Option α} {R : Record → α → Prop} {lists found : List (List String)}

/-- The records of a kind, in their order, are what the parts of that kind among the entries come
from. -/
theorem forall₂_of_kind
    (hpart : ∀ r e, r.entry = .ok e → if r.type.kind = kind then ∃ a, part? e = some a ∧ R r a
      else part? e = none)
    (h : List.Forall₂ (fun r e => r.entry = .ok e) records entries) :
    List.Forall₂ R (records.filter (·.type.kind = kind)) (entries.filterMap part?) := by
  induction h with
  | nil => exact .nil
  | @cons r e _ _ hr _ ih =>
    have hpart := hpart r e hr
    by_cases hkind : r.type.kind = kind
    · rw [if_pos hkind] at hpart
      obtain ⟨a, ha, hR⟩ := hpart
      simpa [List.filter_cons, hkind, List.filterMap_cons, ha] using ⟨hR, ih⟩
    · rw [if_neg hkind] at hpart
      simpa [List.filter_cons, hkind, List.filterMap_cons, hpart] using ih

/-- What a record of names and a definition say, and that no other record says such a thing. -/
theorem parts_of_entry {r : Record} {e : Entry} (h : r.entry = .ok e) :
    (r.type.kind = .names ∧ ∃ texts, e = .names texts ∧ r.names = .ok texts) ∨
      (r.type.kind = .definition ∧
        ∃ s, e = .definition s ∧ (Segment.read r.type).parse r.body = .ok s) ∨
      (r.type.kind ≠ .names ∧ r.type.kind ≠ .definition ∧ e.names? = none ∧
        e.definition? = none) := by
  unfold entry at h
  cases hkind : r.type.kind with
  | other =>
    simp only [hkind] at h
    cases h
    exact .inr (.inr ⟨by decide, by decide, rfl, rfl⟩)
  | names =>
    simp only [hkind, Outcome.map_eq_ok] at h
    obtain ⟨texts, htexts, rfl⟩ := h
    exact .inl ⟨rfl, texts, rfl, htexts⟩
  | definition =>
    simp only [hkind, Outcome.map_eq_ok] at h
    obtain ⟨s, hs, rfl⟩ := h
    exact .inr (.inl ⟨rfl, s, rfl, hs⟩)
  | header | enumerated | iterated =>
    simp only [hkind, Outcome.map_eq_ok] at h
    obtain ⟨_, _, rfl⟩ := h
    exact .inr (.inr ⟨by decide, by decide, rfl, rfl⟩)

/-- The records of names, in their order, are what the names among the entries come from. -/
theorem forall₂_names (h : List.Forall₂ (fun r e => r.entry = .ok e) records entries) :
    List.Forall₂ (fun r texts => r.names = .ok texts) (records.filter (·.type.kind = .names))
      (entries.filterMap Entry.names?) := by
  refine forall₂_of_kind (fun r e he => ?_) h
  rcases parts_of_entry he with ⟨hkind, texts, rfl, hr⟩ | ⟨hkind, s, rfl, _⟩ | ⟨hkind, _, hnone, _⟩
  · rw [if_pos hkind]
    exact ⟨texts, rfl, hr⟩
  · rw [if_neg (by simp [hkind])]
    rfl
  · rw [if_neg hkind]
    exact hnone

/-- The definitions among the records, in their order, are what those among the entries come
from. -/
theorem forall₂_definitions (h : List.Forall₂ (fun r e => r.entry = .ok e) records entries) :
    List.Forall₂ (fun r s => (Segment.read r.type).parse r.body = .ok s)
      (records.filter (·.type.kind = .definition)) (entries.filterMap Entry.definition?) := by
  refine forall₂_of_kind (fun r e he => ?_) h
  rcases parts_of_entry he with ⟨hkind, texts, rfl, _⟩ | ⟨hkind, s, rfl, hr⟩ | ⟨_, hkind, _, hnone⟩
  · rw [if_neg (by simp [hkind])]
    rfl
  · rw [if_pos hkind]
    exact ⟨s, rfl, hr⟩
  · rw [if_neg hkind]
    exact hnone

/-- What is read of records of names is what was written. -/
theorem names_eq_of_written
    (hread : List.Forall₂ (fun r texts => r.names = .ok texts) records found)
    (hwritten : records.map (·.body) = lists.map CountedString.allToBytes)
    (hfits : ∀ texts ∈ lists, ∀ text ∈ texts, CountedString.Fits text) : found = lists := by
  induction hread generalizing lists with
  | nil => exact (List.map_eq_nil_iff.mp hwritten.symm).symm
  | @cons r texts _ _ hr _ ih =>
    cases lists with
    | nil => cases hwritten
    | cons first others =>
      obtain ⟨hfirst, hothers⟩ := List.cons.inj hwritten
      obtain ⟨hfitsFirst, hfits⟩ := List.forall_mem_cons.mp hfits
      have hsame := hr.symm.trans (names_eq_ok.mpr ⟨hfirst, hfitsFirst⟩)
      rw [Except.ok.inj hsame, ih hothers hfits]

end Record

/-! ### Contents -/

namespace Contents
variable {c c' : Contents} {entries : List Entry}

theorem names_handing (c : Contents) (f : Fragment) : (c.handing f).names = c.names := by
  unfold handing
  split <;> rfl

/-- Names are put behind those that are there. -/
theorem names_enteringAll (c : Contents) (entries : List Entry) :
    (c.enteringAll entries).names.toList =
      c.names.toList ++ (entries.filterMap Entry.names?).flatten := by
  induction entries generalizing c with
  | nil => simp [enteringAll]
  | cons e rest ih =>
    refine (ih (c.entering e)).trans ?_
    cases e with
    | moduleName name => rfl
    | definition s => rfl
    | other => rfl
    | names names => simp [entering, adding, counted, Entry.names?]
    | data f => exact congrArg (·.toList ++ _) (names_handing c.counted f)

/-- Definitions keep the references they make. -/
theorem references_enteringAll (entries : List Entry) :
    List.Forall₂ (fun s t => Segment.references t = s.references)
      (entries.filterMap Entry.definition?)
      (({} : Contents).enteringAll entries).defined.toList := by
  have kept : ∀ s f, Segment.references (Segment.withFragment f s) = s.references :=
    fun _ _ => rfl
  have same := map_enteringAll kept {} entries
  have related : List.Forall₂ (fun i j => j = i)
      ((entries.filterMap Entry.definition?).map Segment.references)
      ((({} : Contents).enteringAll entries).defined.toList.map Segment.references) := by
    rw [same]
    exact List.forall₂_same.mpr fun _ _ => rfl
  rwa [List.forall₂_map_left_iff, List.forall₂_map_right_iff] at related

theorem names_of_resolve (h : c.resolve = .ok c') :
    c'.names = c.names ∧
      List.Forall₂ (fun s t => ∃ named, (Segment.resolveNames c.names).applied s = .ok named ∧
        t.naming = named.naming) c.defined.toList c'.defined.toList := by
  simp only [resolve, Outcome.bind_eq_ok, Outcome.pure_eq_ok] at h
  obtain ⟨named, hnamed, defined, hdefined, injected, _, rfl⟩ := h
  refine ⟨rfl, Outcome.forall₂_comp (fun s t u hs ht => ?_) (Outcome.mapM_toList_of_ok hnamed)
    (Outcome.mapM_toList_of_ok hdefined)⟩
  exact ⟨t, hs, Segment.naming_of_settle ht⟩

end Contents

/-! ### Modules -/

namespace Module
variable {input : Bytes} {path : String} {options : Options} {m : Module}
  {lists : List (List String)}

theorem naming_of_place {c : Contents} (h : (place c path options).result = .ok m) :
    m.names = c.names ∧
      List.Forall₂ (fun s t => t.naming = Segment.naming s) c.defined.toList m.defined.toList := by
  obtain ⟨defined, address, injected, hdefined, _, hm⟩ := place_eq_ok.mp h
  rw [hm]
  exact ⟨rfl, Segment.forall₂_placeAll (fun _ _ _ _ => Segment.naming_of_place) hdefined⟩

/-- A module has all names of its records, and its segments have theirs from the whole table. -/
theorem named_of_load (h : (load input path options).result = .ok m)
    (hwritten : ((Record.split input).records.filter (·.type.kind = .names)).map (·.body) =
      lists.map CountedString.allToBytes)
    (hfits : ∀ texts ∈ lists, ∀ text ∈ texts, CountedString.Fits text) :
    m.names.toList = lists.flatten ∧
      List.Forall₂ (fun r s => ∃ d, r.Defines d ∧ s.NamedAs lists.flatten d)
        ((Record.split input).records.filter (·.type.kind = .definition)) m.defined.toList := by
  obtain ⟨entries, closed, hentries, _, _, hclosed, hplaced⟩ := load_entries_eq_ok.mp h
  have hread := Outcome.mapM_eq_ok.mp hentries
  have hlists := Record.names_eq_of_written (Record.forall₂_names hread) hwritten hfits
  have htable : (({} : Contents).enteringAll entries).names.toList = lists.flatten := by
    rw [Contents.names_enteringAll, hlists]
    rfl
  obtain ⟨hnames, hresolved⟩ := Contents.names_of_resolve hclosed
  obtain ⟨hnames', hplaced⟩ := naming_of_place hplaced
  refine ⟨by rw [hnames', hnames, htable], ?_⟩
  -- From each definition a segment is read, which is handed data, named, settled and placed.
  have htaken := Outcome.forall₂_comp
    (T := fun r s => ∃ d, r.Defines d ∧ s.references = (d.segment r.type).references)
    (fun r s t hr hs => by
      obtain ⟨_, more, hbody, d, hd, rfl, rfl⟩ := (Definition.takes_read r.type).parse hr
      exact ⟨d, ⟨hd, more, hbody⟩, hs⟩)
    (Record.forall₂_definitions hread) (Contents.references_enteringAll entries)
  have hnamed := Outcome.forall₂_comp
    (T := fun r s => ∃ d, r.Defines d ∧ s.NamedAs lists.flatten d)
    (fun r s t hr hs => by
      obtain ⟨d, hd, same⟩ := hr
      obtain ⟨named, hnamed, kept⟩ := hs
      have names := Segment.namedAs_of_resolveNames hd.fits same hnamed
      rw [htable] at names
      exact ⟨d, hd, names.of_naming kept⟩)
    htaken hresolved
  refine Outcome.forall₂_comp (fun r s t hr kept => ?_) hnamed hplaced
  obtain ⟨d, hd, names⟩ := hr
  exact ⟨d, hd, names.of_naming kept⟩

/-- **Names are put together in the order of the input, and looked up in the whole table**,
wherever a definition stands. Of a record they are read exactly if its body is names behind their
counts, and refused exactly where a count is larger than what is left. -/
theorem names_of_load :
    (∀ (input : Bytes) (path : String) (options : Options) (m : Module)
        (lists : List (List String)), (load input path options).result = .ok m →
      ((Record.split input).records.filter (·.type.kind = .names)).map (·.body) =
        lists.map CountedString.allToBytes →
      (∀ texts ∈ lists, ∀ text ∈ texts, CountedString.Fits text) →
      m.names.toList = lists.flatten ∧
        List.Forall₂ (fun r s => ∃ d, r.Defines d ∧ s.NamedAs lists.flatten d)
          ((Record.split input).records.filter (·.type.kind = .definition)) m.defined.toList) ∧
    (∀ (r : Record) texts, r.names = .ok texts ↔
      r.body = CountedString.allToBytes texts ∧ ∀ text ∈ texts, CountedString.Fits text) ∧
    ∀ (r : Record) e, r.names = .error e ↔
      ∃ (texts : List String) (count : UInt8) (more : Bytes),
        (∀ text ∈ texts, CountedString.Fits text) ∧
        r.body = CountedString.allToBytes texts ++ count :: more ∧ more.length < count.toNat ∧
        e = .unexpectedEnd count.toNat ((CountedString.allToBytes texts).length + 1 : Nat)
          more.length :=
  ⟨fun _ _ _ _ _ => named_of_load, fun _ _ => Record.names_eq_ok, fun _ _ => Record.names_eq_error⟩

/-- A definition before all names, one behind them, and a comment between the names. -/
def namesBetween : Bytes :=
  Frame.allBytes
    [{ code := 0x98, body := [0x28, 4, 0, 2, 3, 1], checksum := 0 },
      { code := 0x96, body := [0, 1, 0x41], checksum := 0 },
      { code := 0x88, body := [0, 0], checksum := 0 },
      { code := 0xCA, body := [4, 0x43, 0x4F, 0x44, 0x45, 1, 0xE9], checksum := 0 },
      { code := 0x99, body := [0x28, 4, 0, 0, 0, 0x80, 4, 0, 0], checksum := 0 },
      { code := 0x8A, body := [0x80], checksum := 0 }]

/-- Either definition finds its names, though one stands before all of them. -/
theorem names_of_load_between :
    let lists := [["", "A"], ["CODE", "é"]]
    ((Record.split namesBetween).records.filter (·.type.kind = .names)).map (·.body) =
        lists.map CountedString.allToBytes ∧
      (∀ texts ∈ lists, ∀ text ∈ texts, CountedString.Fits text) ∧
      ∃ m, (load namesBetween "" {}).result = .ok m ∧
        m.defined.toList.map (·.name) = [some "A", some "é"] ∧
        m.names.toList = lists.flatten ∧
        List.Forall₂ (fun r s => ∃ d, r.Defines d ∧ s.NamedAs lists.flatten d)
          ((Record.split namesBetween).records.filter (·.type.kind = .definition))
          m.defined.toList := by
  have hwritten : ((Record.split namesBetween).records.filter (·.type.kind = .names)).map
      (·.body) = [["", "A"], ["CODE", "é"]].map CountedString.allToBytes := by decide +kernel
  have hfits : ∀ texts ∈ [["", "A"], ["CODE", "é"]], ∀ text ∈ texts,
      CountedString.Fits text := by
    have latin : ∀ texts ∈ [["", "A"], ["CODE", "é"]], ∀ text ∈ texts, ∀ c ∈ text.toList,
        c.toNat < 0x100 := by simp
    have short : ∀ texts ∈ [["", "A"], ["CODE", "é"]], ∀ text ∈ texts,
        text.length < 0x100 := by decide
    exact fun texts htexts text htext => ⟨latin texts htexts text htext,
      short texts htexts text htext⟩
  have told : (load namesBetween "" {}).result.toOption.map
      (fun m => m.defined.toList.map (·.name)) = some [some "A", some "é"] := by decide +kernel
  obtain ⟨m, hload, hnames⟩ := Outcome.exists_of_toOption_map told
  exact ⟨hwritten, hfits, m, hload, hnames,
    names_of_load.1 namesBetween "" {} m _ hload hwritten hfits⟩

end Module
end ObjectModule
