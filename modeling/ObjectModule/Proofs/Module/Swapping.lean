import ObjectModule.Proofs.Module.Order
import ObjectModule.Proofs.Record.Framing

/-! Records that change places.

Entries may change places unless they conflict, and so may the records they were read from:
wherever an input starts with records of which two neighbours do not conflict, swapping these
gives the same module or none (`load_swap`). What is behind them may be anything. -/
namespace ObjectModule

namespace Frame

/-- Whether two records, the first of them with so many definitions before it, must stay in
their order. A record that cannot be read is not bound to one: it lets nothing be loaded. -/
def conflicts (definitions : Nat) (r r' : Frame) : Bool :=
  match r.entry, r'.entry with
  | .ok e, .ok e' => e.conflicts definitions e'
  | _, _ => false

/-- How many of the records define a segment. -/
def definitions (frames : List Frame) : Nat := frames.countP (·.type.kind = .definition)

variable {frames : List Frame} {r : Frame} {e : Entry} {entries : List Entry}

theorem isSome_definition? (h : r.entry = .ok e) :
    e.definition?.isSome = decide (r.type.kind = .definition) := by
  have h : (r.recordAt 0).entry = .ok e := h
  have hkind : (r.recordAt 0).type.kind = r.type.kind := rfl
  unfold Record.entry at h
  rw [hkind] at h
  cases kind : r.type.kind with
  | other =>
    simp only [kind] at h
    cases h
    rfl
  | _ =>
    simp only [kind, Outcome.map_eq_ok] at h
    obtain ⟨_, _, rfl⟩ := h
    rfl

/-- The definitions among records are those among what they say. -/
theorem definitions_eq (h : frames.mapM entry = .ok entries) :
    Entry.definitions entries = definitions frames := by
  rw [Entry.definitions, List.length_filterMap_eq_countP]
  induction Outcome.mapM_eq_ok.mp h with
  | nil => rfl
  | cons hr hrest ih =>
    have ih := ih (Outcome.mapM_eq_ok.mpr hrest)
    simp only [definitions, List.countP_cons, isSome_definition? hr] at ih ⊢
    rw [ih]

end Frame

theorem Entry.conflicts_comm (definitions : Nat) (e e' : Entry) :
    e.conflicts definitions e' = e'.conflicts definitions e := by
  cases e <;> cases e' <;> simp only [conflicts]
  rw [Bool.beq_comm (a := Fragment.segment _), Bool.beq_comm (a := Fragment.offset _)]

theorem Frame.conflicts_comm (definitions : Nat) (r r' : Frame) :
    r.conflicts definitions r' = r'.conflicts definitions r := by
  unfold conflicts
  cases r.entry with
  | error fault => cases r'.entry <;> rfl
  | ok e =>
    cases r'.entry with
    | error fault => rfl
    | ok e' => exact e.conflicts_comm definitions e'

namespace Module
open ObjectModule.Frame
variable {front frames : List Frame} {a b : Frame} {rest : Bytes} {path : String}
  {options : Options} {m : Module}

/-- What an input that starts with frames is loaded from. -/
theorem load_allBytes_eq_ok (hframes : ∀ r ∈ frames, r.type.endsModule = false) :
    (load (allBytes frames ++ rest) path options).result = .ok m ↔
      ∃ entries back closed,
        let behind := cutBehind frames.length (allBytes frames).length rest
        frames.mapM entry = .ok entries ∧ behind.records.mapM Record.entry = .ok back ∧
        (∀ e ∈ entries ++ back, e.HasSegment) ∧ behind.fault = none ∧
        (({} : Contents).enteringAll (entries ++ back)).resolve = .ok closed ∧
        (place closed path options).result = .ok m := by
  simp only [load_entries_eq_ok, split_frames hframes, List.mapM_append, mapM_entry_recordsFrom,
    Outcome.bind_eq_ok, Outcome.pure_eq_ok]
  constructor
  · rintro ⟨_, closed, ⟨entries, hentries, back, hback, rfl⟩, hsegments, hfault, hclosed, hplaced⟩
    exact ⟨entries, back, closed, hentries, hback, hsegments, hfault, hclosed, hplaced⟩
  · rintro ⟨entries, back, closed, hentries, hback, hsegments, hfault, hclosed, hplaced⟩
    exact ⟨_, closed, ⟨entries, hentries, back, hback, rfl⟩, hsegments, hfault, hclosed, hplaced⟩

theorem load_of_swap (hframes : ∀ r ∈ front ++ [a, b], r.type.endsModule = false)
    (h : a.conflicts (definitions front) b = false)
    (hload : (load (allBytes (front ++ [a, b]) ++ rest) path options).result = .ok m) :
    (load (allBytes (front ++ [b, a]) ++ rest) path options).result = .ok m := by
  have hswapped : ∀ r ∈ front ++ [b, a], r.type.endsModule = false := fun r hr =>
    hframes r (by simpa [or_comm, or_left_comm] using hr)
  have hlength : (allBytes (front ++ [b, a])).length = (allBytes (front ++ [a, b])).length := by
    simp [allBytes, Nat.add_comm]
  obtain ⟨entries, back, closed, hentries, hback, hsegments, hfault, hclosed, hplaced⟩ :=
    (load_allBytes_eq_ok hframes).mp hload
  simp only [List.mapM_append, List.mapM_cons, List.mapM_nil, Outcome.bind_eq_ok,
    Outcome.pure_eq_ok] at hentries
  obtain ⟨before, hbefore, _, ⟨e, he, _, ⟨e', he', _, rfl, rfl⟩, rfl⟩, rfl⟩ := hentries
  have hswap : (({} : Contents).enteringAll ((before ++ [e, e']) ++ back)).resolve =
      (({} : Contents).enteringAll ((before ++ [e', e]) ++ back)).resolve := by
    rw [List.append_assoc, List.append_assoc]
    refine Contents.resolve_enteringAll_swap _ _ _ ⟨Record.isSound_entry he, hsegments e (by simp)⟩
      ⟨Record.isSound_entry he', hsegments e' (by simp)⟩ ?_
    rw [Contents.size_enteringAll, definitions_eq hbefore]
    simpa [conflicts, he, he'] using h
  refine (load_allBytes_eq_ok hswapped).mpr ⟨before ++ [e', e], back, closed, ?_, ?_, ?_, ?_, ?_,
    hplaced⟩
  · simp [List.mapM_append, hbefore, he, he']
  · simpa [hlength] using hback
  · exact fun e hmem => hsegments e (by simpa [or_comm, or_left_comm] using hmem)
  · simpa [hlength] using hfault
  · rwa [← hswap]

/-- **Records that do not conflict may change places**: the input is loaded to the same module
as before, or as before to none. -/
theorem load_swap (hframes : ∀ r ∈ front ++ [a, b], r.type.endsModule = false)
    (h : a.conflicts (definitions front) b = false) (rest : Bytes) (path : String)
    (options : Options) :
    (load (allBytes (front ++ [a, b]) ++ rest) path options).result.toOption =
      (load (allBytes (front ++ [b, a]) ++ rest) path options).result.toOption := by
  have hswapped : ∀ r ∈ front ++ [b, a], r.type.endsModule = false := fun r hr =>
    hframes r (by simpa [or_comm, or_left_comm] using hr)
  have h' : b.conflicts (definitions front) a = false := conflicts_comm .. ▸ h
  exact Outcome.toOption_congr fun m => ⟨load_of_swap hframes h, load_of_swap hswapped h'⟩

/-- The definition of a segment of four bytes. -/
def fourBytes : Frame := { code := 0x98, body := [0x20, 4, 0, 0, 0, 0], checksum := 0 }

/-- Data for the first half of segment 1. -/
def firstHalf : Frame := { code := 0xA0, body := [1, 0, 0, 7, 8], checksum := 0 }

/-- Data for the second half of segment 1. -/
def secondHalf : Frame := { code := 0xA0, body := [1, 2, 0, 9, 6], checksum := 0 }

/-- The halves of a segment may come in any order. -/
theorem load_swap_of_halves :
    let front := [fourBytes]
    let bytes (r r' : Frame) := allBytes (front ++ [r, r']) ++ [0x8A, 2, 0, 0, 0]
    (∀ r ∈ front ++ [secondHalf, firstHalf], r.type.endsModule = false) ∧
      secondHalf.conflicts (definitions front) firstHalf = false ∧
      (load (bytes secondHalf firstHalf) "" {}).result.toOption =
        (load (bytes firstHalf secondHalf) "" {}).result.toOption ∧
      (load (bytes firstHalf secondHalf) "" {}).result.toOption.isSome := by
  have inside : ∀ r ∈ [fourBytes] ++ [secondHalf, firstHalf], r.type.endsModule = false := by
    decide +kernel
  have apart : secondHalf.conflicts (definitions [fourBytes]) firstHalf = false := by
    decide +kernel
  exact ⟨inside, apart, load_swap inside apart _ _ _, by decide +kernel⟩

end Module
end ObjectModule
