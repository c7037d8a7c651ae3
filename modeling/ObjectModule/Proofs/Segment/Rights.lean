import ObjectModule.CommonMachine
import ObjectModule.Proofs.Record.Reading
import ObjectModule.Proofs.Segment.Life

/-! The class of a segment and what may be done with its contents.

Of all that may be asked of a segment only looking up names changes its class or its rights.
The names are looked up one after another, and each is kept as soon as it is found: the class
is the one the last table gave that has the first two names, the rights are for the class the
last table gave that has all three (`class_and_rights_afterAll`). They belong together as long as
no table has a class and no overlay (`rights_match_class`). -/
namespace ObjectModule

/-- What may be done with the contents of a segment of a class, or of none yet. -/
def Permissions.forClass : Option String → Permissions
  | some className => ofClass className
  | none => data

namespace Segment

/-- The class a table of names gives a segment, whether or not it has the overlay. -/
def classFrom (s : Segment) (names : Array String) : Option String :=
  Except.toOption do
    let _ ← lookUp names s.nameIndex .segment
    lookUp names s.classIndex .className

/-- The class a table gives a segment, if it has all three names. -/
def classKeptFrom (s : Segment) (names : Array String) : Option String :=
  Except.toOption do
    let _ ← lookUp names s.nameIndex .segment
    let className ← lookUp names s.classIndex .className
    let _ ← lookUp names s.overlayIndex .overlay
    return className

/-- The table an operation looks names up in, if it does. -/
def Operation.names? : Operation → Option (Array String)
  | resolveNames names => some names
  | relocate .. | attach _ | extend _ | sortFragments | freeze | openStream _ | readImage _ => none

/-- What the last of the tables that tells anything tells. -/
def lastTold (told : Array String → Option String) : List Operation → Option String
  | [] => none
  | op :: rest => (lastTold told rest).or (op.names?.bind told)

variable {s t : Segment}

/-! ### One operation -/

/-- Operations that look up no names leave class and rights alone. -/
theorem Makes.unnamed {op : Operation} (h : s.Makes op t)
    (other : ∀ names, op ≠ .resolveNames names) :
    t.className = s.className ∧ t.permissions = s.permissions := by
  cases h with
  | same | placed | filled | closed => exact ⟨rfl, rfl⟩
  | named names lookup => exact absurd lookup (other names)

/-- A class that is found is kept, and the rights follow if the overlay is found too. -/
theorem class_and_rights_after_resolveNames [Machine] (names : Array String) (s : Segment) :
    (s.after (.resolveNames names)).className = (s.classFrom names).or s.className ∧
    (s.after (.resolveNames names)).permissions =
      ((s.classKeptFrom names).map .ofClass).getD s.permissions := by
  rw [after, Operation.action, Action.leaving, run_resolveNames, classFrom, classKeptFrom]
  cases lookUp names s.nameIndex .segment with
  | error e => exact ⟨rfl, rfl⟩
  | ok name =>
    cases lookUp names s.classIndex .className with
    | error e => exact ⟨rfl, rfl⟩
    | ok className => cases lookUp names s.overlayIndex .overlay <;> exact ⟨rfl, rfl⟩

theorem class_and_rights_after [Machine] (s : Segment) (op : Operation) :
    (s.after op).className = (op.names?.bind s.classFrom).or s.className ∧
    (s.after op).permissions =
      ((op.names?.bind s.classKeptFrom).map .ofClass).getD s.permissions := by
  cases op with
  | resolveNames names => exact class_and_rights_after_resolveNames names s
  | relocate | attach | extend | sortFragments | freeze | openStream | readImage =>
    exact (s.makes_after _).unnamed nofun

/-! ### Any operations -/

/-- What a table tells does not depend on what became of the segment. -/
theorem Continues.classFrom (h : s.Continues t) : t.classFrom = s.classFrom := by
  unfold Segment.classFrom
  rw [h.nameIndex, h.classIndex]

theorem Continues.classKeptFrom (h : s.Continues t) : t.classKeptFrom = s.classKeptFrom := by
  unfold Segment.classKeptFrom
  rw [h.nameIndex, h.classIndex, h.overlayIndex]

theorem class_and_rights_afterAll [Machine] (s : Segment) (ops : List Operation) :
    (s.afterAll ops).className = (lastTold s.classFrom ops).or s.className ∧
    (s.afterAll ops).permissions =
      ((lastTold s.classKeptFrom ops).map .ofClass).getD s.permissions := by
  induction ops generalizing s with
  | nil => exact ⟨rfl, rfl⟩
  | cons op rest ih =>
    have continues := s.continues_after op
    obtain ⟨hclass, hrights⟩ := s.class_and_rights_after op
    obtain ⟨hclass', hrights'⟩ := ih (s.after op)
    rw [continues.classFrom, hclass] at hclass'
    rw [continues.classKeptFrom, hrights] at hrights'
    rw [afterAll_cons, hclass', hrights', lastTold, lastTold]
    refine ⟨(Option.or_assoc ..).symm, ?_⟩
    cases lastTold s.classKeptFrom rest <;> rfl

/-- Tables that all have the overlay if they have the class tell the same twice. -/
theorem lastTold_eq {told kept : Array String → Option String} {ops : List Operation}
    (h : ∀ names, .resolveNames names ∈ ops → told names = kept names) :
    lastTold told ops = lastTold kept ops := by
  induction ops with
  | nil => rfl
  | cons op rest ih =>
    have hop : op.names?.bind told = op.names?.bind kept := by
      cases op with
      | resolveNames names => exact h names List.mem_cons_self
      | relocate | attach | extend | sortFragments | freeze | openStream | readImage => rfl
    rw [lastTold, lastTold, hop, ih fun names hmem => h names (List.mem_cons_of_mem _ hmem)]

theorem classFrom_eq_classKeptFrom {names : Array String}
    (h : (s.classFrom names).isSome → (lookUp names s.overlayIndex .overlay).isOk) :
    s.classFrom names = s.classKeptFrom names := by
  unfold classFrom at h ⊢
  unfold classKeptFrom
  cases hname : lookUp names s.nameIndex .segment with
  | error e => rfl
  | ok name =>
    rw [hname] at h
    cases hclass : lookUp names s.classIndex .className with
    | error e => rfl
    | ok className =>
      rw [hclass] at h
      cases hoverlay : lookUp names s.overlayIndex .overlay with
      | ok overlayName => rfl
      | error e =>
        rw [hoverlay] at h
        cases h rfl

/-! ### Segments that are read -/

theorem gives_read_unnamed (type : RecordType) :
    (read type).Gives fun s => s.className = none ∧ s.permissions = .data :=
  Reader.gives_bind fun _ => Reader.gives_bind fun _ => Reader.gives_bind fun _ =>
    Reader.gives_bind fun _ => Reader.gives_bind fun _ => Reader.gives_bind fun _ =>
      Reader.gives_pure ⟨rfl, rfl⟩

/-- **Rights belong to the class** of a segment that was read, whatever was asked of it then,
unless a table had its class and not its overlay. The class is what the last table told that
has the segment's own name and the class; the rights are for the class that the last table told
that has the overlay too. -/
theorem rights_match_class [Machine] {type : RecordType} {body : Bytes}
    (h : (read type).parse body = .ok s) (ops : List Operation) :
    ((∀ names, .resolveNames names ∈ ops → (s.classFrom names).isSome →
        (lookUp names s.overlayIndex .overlay).isOk) →
      (s.afterAll ops).permissions = .forClass (s.afterAll ops).className) ∧
    (s.afterAll ops).className = lastTold s.classFrom ops ∧
    (s.afterAll ops).permissions = .forClass (lastTold s.classKeptFrom ops) := by
  obtain ⟨hnone, hdata⟩ := (gives_read_unnamed type).parse h
  obtain ⟨hclass, hrights⟩ := s.class_and_rights_afterAll ops
  rw [hnone, Option.or_none] at hclass
  have hkept : (s.afterAll ops).permissions = .forClass (lastTold s.classKeptFrom ops) := by
    rw [hrights, hdata]
    cases lastTold s.classKeptFrom ops <;> rfl
  refine ⟨fun complete => ?_, hclass, hkept⟩
  have same := lastTold_eq fun names hmem => classFrom_eq_classKeptFrom (complete names hmem)
  rw [hkept, hclass, same]

open scoped CommonMachine

/-- A table that has the class and not the overlay: the segment is of class CODE then, and may
be written. -/
theorem writable_code :
    ∃ s, (read .segdef).parse [0x28, 4, 0, 0, 1, 2] = .ok s ∧
      (s.afterAll [.resolveNames #["CODE"]]).className = some "CODE" ∧
      (s.afterAll [.resolveNames #["CODE"]]).permissions = .data ∧
      (s.afterAll [.resolveNames #["CODE"]]).permissions ≠
        .forClass (s.afterAll [.resolveNames #["CODE"]]).className :=
  ⟨_, rfl, by decide +kernel⟩

/-- Names looked up in a table without the class, then in one with all of them. -/
theorem code_stays_unwritable :
    ∃ s, (read .segdef).parse [0x28, 4, 0, 0, 2, 1] = .ok s ∧
      (s.afterAll [.resolveNames #["A"], .resolveNames #["A", "CODE"],
        .relocate 0 none]).permissions = .forClass (some "CODE") := by
  have hread : (read .segdef).parse [0x28, 4, 0, 0, 2, 1] = .ok _ := rfl
  refine ⟨_, hread, ((rights_match_class hread
    [.resolveNames #["A"], .resolveNames #["A", "CODE"], .relocate 0 none]).1
    fun names hmem => ?_).trans (by decide +kernel)⟩
  simp only [List.mem_cons, Operation.resolveNames.injEq, List.not_mem_nil, or_false,
    reduceCtorEq] at hmem
  rcases hmem with rfl | rfl <;> decide +kernel

end Segment
end ObjectModule
