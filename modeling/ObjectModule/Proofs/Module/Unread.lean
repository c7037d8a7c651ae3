import ObjectModule.Proofs.Module.Order
import ObjectModule.Proofs.Record.Definition
import ObjectModule.Proofs.Record.Splitting

/-! What does not matter to a module.

Checksums are not judged. Behind the name in a header, and behind the fields of a definition,
nothing is read, nor in the body of the record that ends the module, nor behind that record.
Records of other kinds are passed over. `Frame.Retells` relates records that differ only so: what
counts of what they say is the same (`Retells.counting`), and so are the modules they are loaded
to, but for how many records were met (`load_retold`). -/
namespace ObjectModule

/-! ### What is not read -/

/-- What is read of the body of a header, or of a definition. -/
inductive Record.IsReadOf (type : RecordType) : Bytes → Prop
  | name {text : Bytes} (kind : type.kind = .header) (fits : text.length < 0x100) :
      IsReadOf type text.counted
  | fields {d : Definition} (kind : type.kind = .definition) (fits : d.Fits type.isWide) :
      IsReadOf type d.toBytes

/-- Bodies of records of some type that differ at most behind what is read of them. -/
inductive Record.SameRead (type : RecordType) : Bytes → Bytes → Prop
  | same (body : Bytes) : SameRead type body body
  | behind {front : Bytes} (read : IsReadOf type front) (more more' : Bytes) :
      SameRead type (front ++ more) (front ++ more')

namespace Frame

/-- Whether a record contributes nothing, and does not end the module. -/
structure IsPassedOver (r : Frame) : Prop where
  kind : r.type.kind = .other
  inside : r.type.endsModule = false

/-- Records that differ only in what does not matter. -/
inductive Retells : List Frame → List Frame → Prop
  | nil : Retells [] []
  | last {r r' : Frame} (code : r'.code = r.code) (ends : r.type.endsModule = true) :
      Retells [r] [r']
  | cons {r r' : Frame} {frames frames' : List Frame} (code : r'.code = r.code)
      (inside : r.type.endsModule = false) (body : Record.SameRead r.type r.body r'.body)
      (others : Retells frames frames') : Retells (r :: frames) (r' :: frames')
  | inserted {r : Frame} {frames frames' : List Frame} (passed : r.IsPassedOver)
      (others : Retells frames frames') : Retells frames (r :: frames')
  | deleted {r : Frame} {frames frames' : List Frame} (passed : r.IsPassedOver)
      (others : Retells frames frames') : Retells (r :: frames) frames'

end Frame

namespace Record
variable {type : RecordType} {front body body' : Bytes} {e : Entry}

/-- Behind what is read of a body anything may stand. -/
theorem IsReadOf.exists_entry (h : IsReadOf type front) :
    ∃ e, ∀ offset more checksum, entry ⟨type, offset, front ++ more, checksum⟩ = .ok e := by
  cases h with
  | @name text kind fits =>
    refine ⟨.moduleName text.latin1, fun offset more checksum => ?_⟩
    simp only [entry, kind, moduleName, (Reader.reads_countedString fits).parse more]
    rfl
  | @fields d kind fits =>
    refine ⟨.definition (d.segment type), fun offset more checksum => ?_⟩
    simp only [entry, kind, (Definition.reads_read fits).parse more]
    rfl

/-- What a record says does not depend on its place, its checksum and what is not read. -/
theorem SameRead.entry_eq (h : SameRead type body body') (offset offset' : Nat)
    (checksum checksum' : UInt8) :
    entry ⟨type, offset', body', checksum'⟩ = entry ⟨type, offset, body, checksum⟩ := by
  cases h with
  | same => rfl
  | behind read more more' =>
    obtain ⟨e, he⟩ := read.exists_entry
    rw [he, he]

/-- The body of a header or of a definition starts with what is read of it. -/
theorem exists_isReadOf {r : Record} (hkind : r.type.kind = .header ∨ r.type.kind = .definition)
    (h : r.entry = .ok e) : ∃ front more, IsReadOf r.type front ∧ r.body = front ++ more := by
  unfold entry at h
  rcases hkind with kind | kind
  · simp only [kind, Outcome.map_eq_ok] at h
    obtain ⟨name, hname, rfl⟩ := h
    obtain ⟨_, more, hbody, text, fits, rfl, _⟩ := Reader.takes_countedString.parse hname
    exact ⟨_, more, .name kind fits, hbody⟩
  · simp only [kind, Outcome.map_eq_ok] at h
    obtain ⟨s, hs, rfl⟩ := h
    obtain ⟨_, more, hbody, d, fits, rfl, _⟩ := (Definition.takes_read r.type).parse hs
    exact ⟨_, more, .fields kind fits, hbody⟩

end Record

/-! ### What is the same of retold records -/

/-- Whether an entry adds something. -/
def Entry.counts : Entry → Bool
  | other => false
  | _ => true

/-- Only entries that count may be refused. -/
theorem Entry.forall_hasSegment_filter {entries : List Entry} :
    (∀ e ∈ entries.filter counts, e.HasSegment) ↔ ∀ e ∈ entries, e.HasSegment := by
  refine ⟨fun h e he => ?_, fun h e he => h e (List.mem_filter.mp he).1⟩
  cases hcounts : e.counts with
  | true => exact h e (List.mem_filter.mpr ⟨he, hcounts⟩)
  | false =>
    cases e with
    | other => trivial
    | _ => cases hcounts

namespace Frame
variable {r : Frame} {frames frames' : List Frame} {entries : List Entry}

theorem type_eq {r' : Frame} (code : r'.code = r.code) : r'.type = r.type := by
  rw [type, type, code]

/-- Records say the same whatever is not read of them. -/
theorem entry_eq_of_sameRead {r' : Frame} (code : r'.code = r.code)
    (body : Record.SameRead r.type r.body r'.body) : r'.entry = r.entry := by
  rw [entry, entry, recordAt, recordAt, type_eq code]
  exact body.entry_eq 0 0 r.checksum r'.checksum

/-- **What counts of what retold records say is the same.** -/
theorem Retells.counting (h : Retells frames frames') (hentries : frames.mapM entry = .ok entries) :
    ∃ entries', frames'.mapM entry = .ok entries' ∧
      entries'.filter Entry.counts = entries.filter Entry.counts := by
  induction h generalizing entries with
  | nil => exact ⟨entries, hentries, rfl⟩
  | @last r r' code ends =>
    have hr' := entry_of_endsModule (type_eq code ▸ ends)
    simp only [List.mapM_cons, List.mapM_nil, entry_of_endsModule ends, Outcome.bind_eq_ok,
      Outcome.pure_eq_ok] at hentries
    obtain ⟨e, he, _, rfl, rfl⟩ := hentries
    cases he
    exact ⟨[.other], by simp [hr'], rfl⟩
  | cons code _ body _ ih =>
    simp only [List.mapM_cons, Outcome.bind_eq_ok, Outcome.pure_eq_ok] at hentries ⊢
    obtain ⟨e, he, others, hothers, rfl⟩ := hentries
    obtain ⟨others', hothers', same⟩ := ih hothers
    refine ⟨e :: others', ⟨e, ?_, others', hothers', rfl⟩, ?_⟩
    · rw [entry_eq_of_sameRead code body, he]
    · rw [List.filter_cons, List.filter_cons, same]
  | inserted passed _ ih =>
    obtain ⟨others, hothers, same⟩ := ih hentries
    exact ⟨.other :: others, by simp [entry_of_other passed.kind, hothers], same⟩
  | deleted passed _ ih =>
    simp only [List.mapM_cons, entry_of_other passed.kind, Outcome.bind_eq_ok,
      Outcome.pure_eq_ok] at hentries
    obtain ⟨e, he, others, hothers, rfl⟩ := hentries
    obtain ⟨others', hothers', same⟩ := ih hothers
    cases he
    exact ⟨others', hothers', same⟩

/-- Of retold records, too, at most the last ends the module. -/
theorem Retells.endAtLast (h : Retells frames frames') : EndAtLast frames ∧ EndAtLast frames' := by
  induction h with
  | nil => exact ⟨endAtLast_nil, endAtLast_nil⟩
  | last => exact ⟨by simp [EndAtLast], by simp [EndAtLast]⟩
  | cons code inside _ _ ih =>
    exact ⟨(endAtLast_cons_of_not inside).mpr ih.1,
      (endAtLast_cons_of_not (type_eq code ▸ inside)).mpr ih.2⟩
  | inserted passed _ ih => exact ⟨ih.1, (endAtLast_cons_of_not passed.inside).mpr ih.2⟩
  | deleted passed _ ih => exact ⟨(endAtLast_cons_of_not passed.inside).mpr ih.1, ih.2⟩

/-- Retold records end the module if the records do. -/
theorem Retells.endModule_iff (h : Retells frames frames') :
    EndModule frames' ↔ EndModule frames := by
  induction h with
  | nil => exact Iff.rfl
  | last code ends =>
    exact iff_of_true ⟨_, rfl, type_eq code ▸ ends⟩ ⟨_, rfl, ends⟩
  | cons code inside _ _ ih =>
    rw [endModule_cons_of_not inside, endModule_cons_of_not (type_eq code ▸ inside), ih]
  | inserted passed _ ih => rw [endModule_cons_of_not passed.inside, ih]
  | deleted passed _ ih => rw [endModule_cons_of_not passed.inside, ih]

end Frame

/-! ### The count of records -/

namespace Contents
variable {c : Contents}

/-- The contents with another count of records. -/
def recounted (c : Contents) (count : Nat) : Contents := { c with recordCount := count }

theorem recounted_adding (c : Contents) (count : Nat) (e : Entry) :
    (c.recounted count).adding e = (c.adding e).recounted count := by
  cases e with
  | data f => exact handing_apart c f id id fun _ => count
  | _ => rfl

theorem entering_recounted (c : Contents) (count : Nat) (e : Entry) :
    (c.recounted count).entering e = (c.entering e).recounted (count + 1) := by
  have h := recounted_adding c (count + 1) e
  have h' := recounted_adding c (c.recordCount + 1) e
  show (c.recounted (count + 1)).adding e = ((c.recounted (c.recordCount + 1)).adding e).recounted _
  rw [h, h']
  rfl

theorem recordCount_entering (c : Contents) (e : Entry) :
    (c.entering e).recordCount = c.recordCount + 1 :=
  congrArg recordCount (entering_recounted c c.recordCount e)

theorem enteringAll_recounted (c : Contents) (count : Nat) (entries : List Entry) :
    (c.recounted count).enteringAll entries =
      (c.enteringAll entries).recounted (count + entries.length) := by
  induction entries generalizing c count with
  | nil => rfl
  | cons e rest ih =>
    show ((c.recounted count).entering e).enteringAll rest =
      ((c.entering e).enteringAll rest).recounted _
    rw [entering_recounted, ih, List.length_cons, Nat.add_right_comm, Nat.add_assoc]

/-- Entries that do not count are only met. -/
theorem enteringAll_eq_recounted (c : Contents) (entries : List Entry) :
    c.enteringAll entries =
      (c.enteringAll (entries.filter Entry.counts)).recounted (c.recordCount + entries.length) := by
  induction entries generalizing c with
  | nil => rfl
  | cons e rest ih =>
    have hfirst : c.enteringAll (e :: rest) = ((c.entering e).enteringAll
        (rest.filter Entry.counts)).recounted (c.recordCount + (e :: rest).length) := by
      show (c.entering e).enteringAll rest = _
      rw [ih, recordCount_entering, List.length_cons, Nat.add_right_comm, Nat.add_assoc]
    rw [hfirst]
    cases e with
    | other =>
      show ((c.recounted (c.recordCount + 1)).enteringAll _).recounted _ = _
      rw [enteringAll_recounted]
      rfl
    | _ => rfl

theorem resolve_recounted (c : Contents) (count : Nat) :
    (c.recounted count).resolve = (·.recounted count) <$> c.resolve := by
  simp only [resolve, recounted, map_bind, map_pure]

end Contents

namespace Module
open ObjectModule.Frame
variable {path : String} {options : Options} {m : Module} {frames frames' : List Frame}
  {back back' : Bytes}

theorem result_place_recounted (c : Contents) (count : Nat) :
    (place (c.recounted count) path options).result =
      (fun m => { m with recordCount := count }) <$> (place c path options).result := by
  simp only [place, Contents.recounted, Logged.result_bind, Logged.result_pure, map_bind]
  rfl

/-- What an input of whole records is loaded from. -/
theorem load_whole_eq_ok (hframes : EndAtLast frames) (hback : back = [] ∨ EndModule frames) :
    (load (allBytes frames ++ back) path options).result = .ok m ↔
      ∃ entries closed, frames.mapM entry = .ok entries ∧ (∀ e ∈ entries, e.HasSegment) ∧
        (({} : Contents).enteringAll entries).resolve = .ok closed ∧
        (place closed path options).result = .ok m := by
  simp only [load_entries_eq_ok, split_whole hframes hback, mapM_entry_recordsFrom, true_and]

/-- An input that is loaded consists of whole records, and of what follows the end of the module.
In the body of each header and of each definition stands what is read of it. -/
theorem frames_of_load {input : Bytes} (h : (load input path options).result = .ok m) :
    ∃ frames back, input = allBytes frames ++ back ∧ EndAtLast frames ∧
      (back = [] ∨ EndModule frames) ∧
      ∀ r ∈ frames, r.type.kind = .header ∨ r.type.kind = .definition →
        ∃ front more, Record.IsReadOf r.type front ∧ r.body = front ++ more := by
  obtain ⟨entries, _, hentries, _, hfault, _⟩ := load_entries_eq_ok.mp h
  obtain ⟨frames, back, hcut⟩ := isCut_split input
  rw [hcut.records, mapM_entry_recordsFrom] at hentries
  refine ⟨frames, back, hcut.written, hcut.endAtLast, hcut.whole hfault, ?_⟩
  exact Outcome.forall_mem_of_forall₂ (Outcome.mapM_eq_ok.mp hentries).flip
    (fun _ r hr _ hkind => Record.exists_isReadOf (r := r.recordAt 0) hkind hr) fun _ _ => trivial

/-- Retold records are loaded to the same module, but for how many there are. -/
theorem load_of_retells (h : Retells frames frames') (hback : back = [] ∨ EndModule frames)
    (hback' : back' = [] ∨ EndModule frames)
    (hload : (load (allBytes frames ++ back) path options).result = .ok m) :
    m.recordCount = frames.length ∧
      (load (allBytes frames' ++ back') path options).result =
        .ok { m with recordCount := frames'.length } := by
  obtain ⟨entries, closed, hentries, hsegments, hclosed, hplaced⟩ :=
    (load_whole_eq_ok h.endAtLast.1 hback).mp hload
  obtain ⟨entries', hentries', same⟩ := h.counting hentries
  have hends : back' = [] ∨ EndModule frames' := hback'.imp_right h.endModule_iff.mpr
  have hlength := (Outcome.mapM_eq_ok.mp hentries).length_eq
  have hlength' := (Outcome.mapM_eq_ok.mp hentries').length_eq
  -- Apart from their count, both modules are made of what counts.
  rw [Contents.enteringAll_eq_recounted, Contents.resolve_recounted, Outcome.map_eq_ok] at hclosed
  obtain ⟨counting, hcounting, rfl⟩ := hclosed
  rw [result_place_recounted, Outcome.map_eq_ok] at hplaced
  obtain ⟨placed, hplaced, rfl⟩ := hplaced
  refine ⟨by simp [hlength], (load_whole_eq_ok h.endAtLast.2 hends).mpr
    ⟨entries', counting.recounted entries'.length, hentries', ?_, ?_, ?_⟩⟩
  · rw [← Entry.forall_hasSegment_filter, same, Entry.forall_hasSegment_filter]
    exact hsegments
  · rw [Contents.enteringAll_eq_recounted, same, Contents.resolve_recounted, hcounting]
    simp
  · rw [result_place_recounted, hplaced, hlength']
    rfl

/-- **What does not matter to a module.** Whatever is loaded consists of whole records, and what
is retold of them, whatever follows the end of the module, is loaded to the same module. Only the
count of records is another, if some were inserted or deleted. -/
theorem load_retold (path : String) (options : Options) :
    (∀ input m, (load input path options).result = .ok m →
      ∃ frames back, input = allBytes frames ++ back ∧ EndAtLast frames ∧
        (back = [] ∨ EndModule frames) ∧
        ∀ r ∈ frames, r.type.kind = .header ∨ r.type.kind = .definition →
          ∃ front more, Record.IsReadOf r.type front ∧ r.body = front ++ more) ∧
    ∀ frames frames' back back' m, Retells frames frames' → (back = [] ∨ EndModule frames) →
      (back' = [] ∨ EndModule frames) →
      (load (allBytes frames ++ back) path options).result = .ok m →
      m.recordCount = frames.length ∧
        (load (allBytes frames' ++ back') path options).result =
          .ok { m with recordCount := frames'.length } :=
  ⟨fun _ _ => frames_of_load, fun _ _ _ _ _ => load_of_retells⟩

/-- The definition of a segment of two bytes. -/
def twoBytes : Definition where
  attributes := ⟨0x20⟩
  frame := none
  length := ⟨2, 2⟩
  nameIndex := ⟨1, 0⟩
  classIndex := ⟨1, 0⟩
  overlayIndex := ⟨1, 0⟩

/-- A header, a definition with data, and the end of the module. -/
def plainRecords : List Frame :=
  [{ code := 0x80, body := [1, 0x4D], checksum := 0 },
    { code := 0x98, body := [0x20, 2, 0, 0, 0, 0], checksum := 0 },
    { code := 0xA0, body := [1, 0, 0, 0x11, 0x12], checksum := 0 },
    { code := 0x8A, body := [0xC0], checksum := 0 }]

/-- The same with a comment, another checksum, and more behind what is read. -/
def adornedRecords : List Frame :=
  [{ code := 0x80, body := [1, 0x4D] ++ [0x42], checksum := 9 },
    { code := 0x88, body := [0, 1], checksum := 0 },
    { code := 0x98, body := [0x20, 2, 0, 0, 0, 0] ++ [1, 2, 3], checksum := 0 },
    { code := 0xA0, body := [1, 0, 0, 0x11, 0x12], checksum := 5 },
    { code := 0x8A, body := [1, 2], checksum := 0 }]

theorem load_retold_of_adorned :
    Retells plainRecords adornedRecords ∧ EndModule plainRecords ∧
      ∃ m, (load (allBytes plainRecords) "" {}).result = .ok m ∧ m.recordCount = 4 ∧
        (load (allBytes adornedRecords ++ [0xFF]) "" {}).result =
          .ok { m with recordCount := 5 } := by
  have hname : Record.IsReadOf .theadr (Bytes.counted [0x4D]) := .name rfl (by decide)
  have hfields : Record.IsReadOf .segdef [0x20, 2, 0, 0, 0, 0] :=
    have hbytes : twoBytes.toBytes = [0x20, 2, 0, 0, 0, 0] := by decide
    hbytes ▸ .fields rfl ⟨by decide, by decide, by decide, by decide, by decide⟩
  have hretells : Retells plainRecords adornedRecords := by
    refine .cons rfl (by decide) (.behind hname [] [0x42]) ?_
    refine .inserted ⟨by decide, by decide⟩ ?_
    refine .cons rfl (by decide) (.behind hfields [] [1, 2, 3]) ?_
    exact .cons rfl (by decide) (.same _) (.last rfl (by decide))
  have hends : EndModule plainRecords := ⟨_, rfl, by decide⟩
  have loaded : (load (allBytes plainRecords ++ []) "" {}).result.toOption.isSome := by
    decide +kernel
  obtain ⟨m, hload⟩ := Outcome.exists_of_isSome_toOption loaded
  obtain ⟨hcount, hretold⟩ :=
    (load_retold "" {}).2 _ _ [] [0xFF] m hretells (.inl rfl) (.inr hends) hload
  exact ⟨hretells, hends, m, by rwa [List.append_nil] at hload, hcount, hretold⟩

end Module
end ObjectModule
