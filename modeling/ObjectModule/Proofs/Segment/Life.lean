import ObjectModule.CommonMachine
import ObjectModule.Proofs.ImageStream.Following
import ObjectModule.Proofs.Module.Closing
import ObjectModule.Proofs.Module.Injected

/-! The life of a segment, whatever is asked of it.

An `Operation` is anything that may be asked of a segment, and a life is a list of them, of
which any may be refused. What an operation does is an equation for each; what all of them
have in common is that the segment `Continues`: its definition stays as it was read, a declared
length only grows, data comes only as long as it is open, and it is placed at most once, which
closes it. This is kept by one operation (`continues_after`) and so by any number of them
(`continues_afterAll`). A life holds at most one relocation, and the address tells whether it
did (`placings_eq`). -/
namespace ObjectModule.Segment

/-- What may be asked of a segment. -/
inductive Operation where
  | resolveNames (names : Array String)
  | relocate (first : Int) (override : Option Int)
  /-- Data as it is or still to be expanded; both are attached alike. -/
  | attach (f : Fragment)
  | extend (f : Fragment)
  | sortFragments
  | freeze
  | openStream (maxFill : Int)
  | readImage (maxFill : Int)

namespace Operation

variable [Machine]

/-- What is done to the segment. What is found besides is not kept. -/
def action : Operation → Action Unit
  | resolveNames names => Segment.resolveNames names
  | relocate first override => discard (Segment.relocate first override)
  | attach f => Segment.attach f
  | extend f => Segment.extend f
  | sortFragments => Segment.sortFragments
  | freeze => Segment.freeze
  | openStream maxFill => discard (Segment.openStream maxFill)
  | readImage maxFill => discard (Segment.readImage maxFill)

/-- Whether the operation is about the data of the segment. -/
def IsOnData : Operation → Prop
  | attach _ | extend _ | sortFragments => True
  | resolveNames _ | relocate .. | freeze | openStream _ | readImage _ => False

/-- Whether the operation ends the time in which data is attached. -/
def IsClosing : Operation → Prop
  | freeze | openStream _ | readImage _ => True
  | resolveNames _ | relocate .. | attach _ | extend _ | sortFragments => False

/-- Whether the operation places a segment: it is to relocate it, and is not refused. -/
def places (s : Segment) : Operation → Bool
  | relocate first override => ((Segment.relocate first override).applied s).isOk
  | resolveNames _ | attach _ | extend _ | sortFragments | freeze | openStream _ | readImage _ =>
    false

end Operation

/-- The segment behind an action, refused or not. -/
def Action.leaving {α : Type} (action : Action α) (s : Segment) : Segment :=
  match action.run s with
  | .ok _ t => t
  | .error _ t => t

section
variable [Machine]

/-- The segment behind an operation. -/
def after (s : Segment) (op : Operation) : Segment := op.action.leaving s

/-- The segment behind operations one after another, whatever became of those before. -/
def afterAll (s : Segment) (ops : List Operation) : Segment := ops.foldl after s

/-- How many of the operations place the segment. -/
def placings (s : Segment) : List Operation → Nat
  | [] => 0
  | op :: rest => (op.places s).toNat + (s.after op).placings rest

/-- What an operation can make of a segment. -/
inductive Makes (s : Segment) (op : Operation) : Segment → Prop
  /-- Nothing: it is refused at once. -/
  | same (stays : op.places s = false) : Makes s op s
  /-- Names are looked up, as far as they are found. -/
  | named (names : Array String) (lookup : op = .resolveNames names)
      (name className overlayName : Option String) (permissions : Permissions) :
      Makes s op { s with name, className, overlayName, permissions }
  /-- It is placed. -/
  | placed (places : op.places s = true) (free : s.address = none) (address : Int) :
      Makes s op { s with address := some address, isFrozen := true }
  /-- Its data is added to or put in order. -/
  | filled (stays : op.places s = false) (isOpen : s.isFrozen = false) (length : SizedInt)
      (fragments : Array Fragment) (width : length.width = s.length.width)
      (grows : s.length.value ≤ length.value) : Makes s op { s with length, fragments }
  /-- It takes no more data. -/
  | closed (stays : op.places s = false) : Makes s op { s with isFrozen := true }

/-- What a segment is for life, and what may become of it. -/
structure Continues (s t : Segment) : Prop where
  attributes : t.attributes = s.attributes
  width : t.length.width = s.length.width
  nameIndex : t.nameIndex = s.nameIndex
  classIndex : t.classIndex = s.classIndex
  overlayIndex : t.overlayIndex = s.overlayIndex
  recordType : t.recordType = s.recordType
  frameNumber : t.frameNumber = s.frameNumber
  frameOffset : t.frameOffset = s.frameOffset
  isInjected : t.isInjected = s.isInjected
  length : s.length.value ≤ t.length.value
  frozen : s.isFrozen = true → t.isFrozen = true ∧ t.length = s.length ∧ t.fragments = s.fragments
  address : t.address = s.address ∨
    s.address = none ∧ t.address.isSome = true ∧ t.isFrozen = true

@[simp] theorem afterAll_nil (s : Segment) : s.afterAll [] = s := rfl

@[simp] theorem afterAll_cons (s : Segment) (op : Operation) (rest : List Operation) :
    s.afterAll (op :: rest) = (s.after op).afterAll rest := rfl

theorem afterAll_append (s : Segment) (before behind : List Operation) :
    s.afterAll (before ++ behind) = (s.afterAll before).afterAll behind :=
  List.foldl_append

end

variable {s t u : Segment}

/-! ### What one operation does -/

theorem run_resolveNames (names : Array String) (s : Segment) :
    (resolveNames names).run s =
      match lookUp names s.nameIndex .segment with
      | .error e => .error e s
      | .ok name =>
        match lookUp names s.classIndex .className with
        | .error e => .error e { s with name := some name }
        | .ok className =>
          match lookUp names s.overlayIndex .overlay with
          | .error e => .error e { s with name := some name, className := some className }
          | .ok overlayName => .ok () { s with
              name := some name, className := some className, overlayName := some overlayName
              permissions := .ofClass className } := by
  simp only [resolveNames, EStateM.run_bind, EStateM.run_get]
  cases lookUp names s.nameIndex .segment with
  | error e => rfl
  | ok name =>
    cases lookUp names s.classIndex .className with
    | error e => rfl
    | ok className => cases lookUp names s.overlayIndex .overlay <;> rfl

theorem leaving_discard {α : Type} (action : Action α) (s : Segment) :
    Action.leaving (discard action) s = action.leaving s := by
  cases h : action s <;>
    simp [Action.leaving, discard, Functor.mapConst, EStateM.map, EStateM.run, h]

section
variable [Machine]

theorem leaving_readImage (maxFill : Int) (s : Segment) :
    (readImage maxFill).leaving s = { s with isFrozen := true } := by
  rw [Action.leaving, readImage_run]
  cases (({ s with isFrozen := true } : Segment).image maxFill).result <;> rfl

theorem makes_resolveNames (names : Array String) (s : Segment) :
    s.Makes (.resolveNames names) (s.after (.resolveNames names)) := by
  rw [after, Operation.action, Action.leaving, run_resolveNames]
  cases lookUp names s.nameIndex .segment with
  | error e => exact .named names rfl _ _ _ _
  | ok name =>
    cases lookUp names s.classIndex .className with
    | error e => exact .named names rfl _ _ _ _
    | ok className =>
      cases lookUp names s.overlayIndex .overlay <;> exact .named names rfl _ _ _ _

theorem makes_relocate (first : Int) (override : Option Int) (s : Segment) :
    s.Makes (.relocate first override) (s.after (.relocate first override)) := by
  rw [after, Operation.action, leaving_discard, Action.leaving]
  cases h : (relocate first override).run s with
  | ok next t =>
    obtain ⟨free, _, _, rfl, _⟩ := relocate_eq_ok.mp h
    refine .placed ?_ free _
    rw [Operation.places, Action.applied, h]
    rfl
  | error e t =>
    have same : t = s := by
      rw [run_relocate] at h
      split at h
      · cases h
        rfl
      · split at h <;> cases h <;> rfl
    rw [same]
    refine .same ?_
    rw [Operation.places, Action.applied, h]
    rfl

theorem makes_of_change {op : Operation} {change : Segment → Segment}
    (h : op.action = do requireOpen; modify change) (stays : op.places s = false)
    (filled : s.isFrozen = false → s.Makes op (change s)) : s.Makes op (s.after op) := by
  rw [after, h, Action.leaving, run_requireOpen_modify]
  cases frozen : s.isFrozen with
  | true => exact .same stays
  | false => exact filled frozen

/-- **What an operation does to a segment**, refused or not. -/
theorem makes_after (s : Segment) (op : Operation) : s.Makes op (s.after op) := by
  cases op with
  | resolveNames names => exact makes_resolveNames names s
  | relocate first override => exact makes_relocate first override s
  | attach f =>
    exact makes_of_change rfl rfl fun isOpen => .filled rfl isOpen _ _ rfl (Int.le_refl _)
  | extend f =>
    have grows : s.length.value ≤ (s.grownBy f).length.value := by
      rw [value_grownBy]
      exact Int.le_max_left ..
    exact makes_of_change rfl rfl fun isOpen =>
      .filled rfl isOpen _ _ (width_grownBy s f) grows
  | sortFragments =>
    exact makes_of_change rfl rfl fun isOpen => .filled rfl isOpen _ _ rfl (Int.le_refl _)
  | freeze => exact .closed rfl
  | openStream maxFill =>
    rw [after, Operation.action, leaving_discard]
    exact .closed rfl
  | readImage maxFill =>
    rw [after, Operation.action, leaving_discard, leaving_readImage]
    exact .closed rfl

/-- What is about the data of a segment is refused if it is frozen, which leaves it as it is, and
only then. -/
theorem run_eq_error_iff {op : Operation} (data : op.IsOnData) :
    op.action.run s = .error (.access (.frozen s.displayName)) s ↔ s.isFrozen = true := by
  have run_change (change : Segment → Segment) :
      (do requireOpen; modify change : Action Unit).run s =
        .error (.access (.frozen s.displayName)) s ↔ s.isFrozen = true := by
    rw [run_requireOpen_modify]
    cases s.isFrozen <;> simp
  cases op with
  | attach f | extend f | sortFragments => exact run_change _
  | resolveNames | relocate | freeze | openStream | readImage => exact data.elim

theorem isFrozen_after {op : Operation} (closing : op.IsClosing) :
    (s.after op).isFrozen = true := by
  cases op with
  | freeze => rfl
  | openStream maxFill =>
    rw [after, Operation.action, leaving_discard]
    rfl
  | readImage maxFill => rw [after, Operation.action, leaving_discard, leaving_readImage]
  | resolveNames | relocate | attach | extend | sortFragments => exact closing.elim

end

/-! ### What every operation keeps -/

theorem Continues.refl (s : Segment) : s.Continues s :=
  ⟨rfl, rfl, rfl, rfl, rfl, rfl, rfl, rfl, rfl, Int.le_refl _, fun h => ⟨h, rfl, rfl⟩, .inl rfl⟩

theorem Continues.trans (h : s.Continues t) (h' : t.Continues u) : s.Continues u where
  attributes := h'.attributes.trans h.attributes
  width := h'.width.trans h.width
  nameIndex := h'.nameIndex.trans h.nameIndex
  classIndex := h'.classIndex.trans h.classIndex
  overlayIndex := h'.overlayIndex.trans h.overlayIndex
  recordType := h'.recordType.trans h.recordType
  frameNumber := h'.frameNumber.trans h.frameNumber
  frameOffset := h'.frameOffset.trans h.frameOffset
  isInjected := h'.isInjected.trans h.isInjected
  length := Int.le_trans h.length h'.length
  frozen frozen := by
    obtain ⟨frozen', hlength, hfragments⟩ := h.frozen frozen
    obtain ⟨frozen'', hlength', hfragments'⟩ := h'.frozen frozen'
    exact ⟨frozen'', hlength'.trans hlength, hfragments'.trans hfragments⟩
  address := by
    rcases h.address with same | ⟨free, placed, frozen⟩
    · rcases h'.address with same' | ⟨free', placed', frozen'⟩
      · exact .inl (same'.trans same)
      · exact .inr ⟨same.symm.trans free', placed', frozen'⟩
    · rcases h'.address with same' | ⟨free', _⟩
      · exact .inr ⟨free, by rw [same', placed], (h'.frozen frozen).1⟩
      · rw [free'] at placed
        cases placed

theorem Makes.continues {op : Operation} (h : s.Makes op t) : s.Continues t := by
  have hs := Continues.refl s
  cases h with
  | same => exact hs
  | named names _ name className overlayName permissions => exact { hs with }
  | placed _ free address =>
    exact { hs with
      frozen := fun _ => ⟨rfl, rfl, rfl⟩
      address := .inr ⟨free, rfl, rfl⟩ }
  | filled _ isOpen length fragments width grows =>
    exact { hs with
      width, length := grows
      frozen := fun frozen => by
        rw [isOpen] at frozen
        cases frozen }
  | closed => exact { hs with frozen := fun _ => ⟨rfl, rfl, rfl⟩, address := .inl rfl }

theorem continues_after [Machine] (s : Segment) (op : Operation) : s.Continues (s.after op) :=
  (s.makes_after op).continues

theorem continues_afterAll [Machine] (s : Segment) (ops : List Operation) :
    s.Continues (s.afterAll ops) := by
  induction ops generalizing s with
  | nil => exact .refl s
  | cons op rest ih => exact (s.continues_after op).trans (ih _)

/-- What the record of a segment looked like does not depend on what became of the segment. -/
theorem Continues.layout (h : s.Continues t) : t.layout = s.layout := by
  simp only [Segment.layout, h.attributes, h.width, h.nameIndex, h.classIndex, h.overlayIndex]

/-! ### The place of a segment -/

/-- An operation that places a segment gives it its first address and freezes it; no other
changes the address. -/
theorem Makes.address {op : Operation} (h : s.Makes op t) :
    (op.places s = true → s.address = none ∧ t.address.isSome = true ∧ t.isFrozen = true) ∧
    (op.places s = false → t.address = s.address) := by
  cases h with
  | same stays | filled stays | closed stays =>
    rw [stays]
    exact ⟨nofun, fun _ => rfl⟩
  | named names lookup =>
    rw [lookup]
    exact ⟨nofun, fun _ => rfl⟩
  | placed places free address =>
    rw [places]
    exact ⟨fun _ => ⟨free, rfl, rfl⟩, nofun⟩

section
variable [Machine]

/-- Segments with an address that had none were placed meanwhile, once. -/
theorem placings_eq (s : Segment) (ops : List Operation) :
    s.address.isSome.toNat + s.placings ops = (s.afterAll ops).address.isSome.toNat := by
  induction ops generalizing s with
  | nil => rfl
  | cons op rest ih =>
    obtain ⟨places, stays⟩ := (s.makes_after op).address
    rw [afterAll_cons, ← ih, placings]
    cases h : op.places s with
    | false => rw [stays h, Bool.toNat_false, Nat.zero_add]
    | true =>
      obtain ⟨free, placed, _⟩ := places h
      rw [free, placed]
      exact (Nat.zero_add _)

/-- **The life of a segment.** Whatever is asked of a segment, and whatever of it is refused:
from any state of its life to any later one it continues, and the layout of its record stays
as it was. Freezing it, opening a stream and reading its image freeze it; what is about its
data is refused from then on, and leaves it as it is. Its address changes only where an
operation places it, which gives it its first one and freezes it, and this happens once at
most: if the segment had no address and has one now. -/
theorem life_goes_forward (s : Segment) (before behind : List Operation) :
    (s.afterAll before).Continues (s.afterAll (before ++ behind)) ∧
    (s.afterAll before).layout = s.layout ∧
    (∀ op : Operation, op.IsClosing → ((s.afterAll before).after op).isFrozen = true) ∧
    (∀ op : Operation, op.IsOnData →
      (op.action.run (s.afterAll before) =
          .error (.access (.frozen (s.afterAll before).displayName)) (s.afterAll before) ↔
        (s.afterAll before).isFrozen = true)) ∧
    (∀ op : Operation, ((s.afterAll before).after op).address ≠ (s.afterAll before).address →
      op.places (s.afterAll before) = true) ∧
    (∀ op : Operation, op.places (s.afterAll before) = true →
      (s.afterAll before).address = none ∧
      ((s.afterAll before).after op).address.isSome = true ∧
      ((s.afterAll before).after op).isFrozen = true) ∧
    s.placings before ≤ 1 ∧
    s.address.isSome.toNat + s.placings before = (s.afterAll before).address.isSome.toNat := by
  have hplacings := s.placings_eq before
  have hsome := Bool.toNat_le (s.afterAll before).address.isSome
  refine ⟨?_, (s.continues_afterAll before).layout, fun op closing => isFrozen_after closing,
    fun op data => run_eq_error_iff data, fun op moved => ?_, fun op places => ?_, by omega,
    hplacings⟩
  · rw [afterAll_append]
    exact continues_afterAll _ behind
  · cases h : op.places (s.afterAll before) with
    | true => rfl
    | false => exact absurd ((makes_after _ op).address.2 h) moved
  · exact (makes_after _ op).address.1 places

end

open scoped CommonMachine

/-- A segment is placed once, although it is asked for twice, and takes no data then. -/
theorem placed_once :
    ((Segment.holding 4 [(0, [0x61])]).afterAll
        [.relocate 5 none, .relocate 9 none, .attach ⟨1, 2, .enumerated (.ofBytes [0x62])⟩,
          .sortFragments]).address = some 5 ∧
    ((Segment.holding 4 [(0, [0x61])]).afterAll
        [.relocate 5 none, .relocate 9 none, .attach ⟨1, 2, .enumerated (.ofBytes [0x62])⟩,
          .sortFragments]).fragments.size = 1 ∧
    (Segment.holding 4 [(0, [0x61])]).placings [.relocate 5 none, .relocate 9 none] ≤ 1 :=
  ⟨by decide +kernel, by decide +kernel,
    (life_goes_forward _ [.relocate 5 none, .relocate 9 none] []).2.2.2.2.2.2.1⟩

end ObjectModule.Segment
