import ObjectModule.Proofs.Module.Closing
import ObjectModule.Proofs.Module.Injected

/-! Where segments are placed.

The relocatable segments of a module stand behind one another from the base address on, each
at the first boundary behind the one before (`PlacedFrom`). As no segment has a length below
zero they never overlap. Absolute segments stay where their definitions put them, and the
others are placed as if they were not there. -/
namespace ObjectModule

namespace Alignment

/-- The least multiple of a boundary that is not below an address. -/
structure IsFirstFrom (boundary : Nat) (first address : Int) : Prop where
  aligned : (boundary : Int) ∣ address
  low : first ≤ address
  least : ∀ other, (boundary : Int) ∣ other → first ≤ other → address ≤ other

/-- Rounding up gives the least multiple that is not below. -/
theorem isFirstFrom_roundUp {boundary : Nat} (h : 0 < boundary) (first : Int) :
    IsFirstFrom boundary first (roundUp boundary first) := by
  have hpos : (0 : Int) < boundary := Int.natCast_pos.mpr h
  refine ⟨Int.dvd_mul_left .., ?_, ?_⟩
  · have hdiv := Int.mul_ediv_add_emod (first + boundary - 1) boundary
    have hmod := Int.emod_lt_of_pos (first + boundary - 1) hpos
    unfold roundUp
    rw [Int.mul_comm]
    omega
  · rintro _ ⟨k, rfl⟩ hlow
    have hk : (first + boundary - 1) / boundary < k + 1 := by
      refine Int.ediv_lt_of_lt_mul hpos ?_
      rw [Int.add_mul, Int.one_mul, Int.mul_comm]
      omega
    unfold roundUp
    rw [Int.mul_comm (boundary : Int) k]
    exact Int.mul_le_mul_of_nonneg_right (Int.le_of_lt_add_one hk) (Int.le_of_lt hpos)

/-- The gap to the next boundary is less than the boundary. -/
theorem IsFirstFrom.high {boundary : Nat} {first address : Int}
    (h : IsFirstFrom boundary first address) (hpos : 0 < boundary) :
    address < first + boundary := by
  have below := h.least (address - boundary) (Int.dvd_sub h.aligned (Int.dvd_refl _))
  omega

theorem boundary_pos {code : Int} {boundary : Nat} (h : boundary? code = some boundary) :
    0 < boundary := by
  unfold boundary? at h
  grind

end Alignment

namespace Segment
variable {override : Option Int} {segments : List Segment} {first last : Int}

/-- Segments that stand behind one another between two addresses, each at the first of its
boundaries behind the one before. -/
def PlacedFrom (override : Option Int) : (first : Int) → List Segment → (last : Int) → Prop
  | first, [], last => last = first
  | first, s :: rest, last =>
    ∃ boundary address, Alignment.boundary? (s.effectiveAlignment override) = some boundary ∧
      s.address = some address ∧ Alignment.IsFirstFrom boundary first address ∧
      PlacedFrom override (address + s.length.value) rest last

/-- A segment ends no later than another begins. -/
def Precedes (s t : Segment) : Prop :=
  ∃ last first, s.endAddress? = some last ∧ t.address = some first ∧ last ≤ first

/-- What is placed behind an address stays behind it. -/
theorem PlacedFrom.low (h : PlacedFrom override first segments last)
    (hlength : ∀ s ∈ segments, 0 ≤ s.length.value) :
    ∀ s ∈ segments, ∃ address, s.address = some address ∧ first ≤ address := by
  induction segments generalizing first with
  | nil => simp
  | cons s rest ih =>
    obtain ⟨boundary, address, _, haddress, hfirst, hrest⟩ := h
    obtain ⟨hs, hothers⟩ := List.forall_mem_cons.mp hlength
    refine List.forall_mem_cons.mpr ⟨⟨address, haddress, hfirst.low⟩, fun t ht => ?_⟩
    obtain ⟨address', haddress', hlow⟩ := ih hrest hothers t ht
    have := hfirst.low
    exact ⟨address', haddress', by omega⟩

/-- Segments placed behind one another do not overlap. -/
theorem PlacedFrom.precedes (h : PlacedFrom override first segments last)
    (hlength : ∀ s ∈ segments, 0 ≤ s.length.value) : segments.Pairwise Precedes := by
  induction segments generalizing first with
  | nil => exact .nil
  | cons s rest ih =>
    obtain ⟨boundary, address, _, haddress, _, hrest⟩ := h
    obtain ⟨_, hothers⟩ := List.forall_mem_cons.mp hlength
    refine List.pairwise_cons.mpr ⟨fun t ht => ?_, ih hrest hothers⟩
    obtain ⟨address', haddress', hlow⟩ := hrest.low hothers t ht
    exact ⟨_, address', by rw [endAddress?, haddress]; rfl, haddress', hlow⟩

/-- Between neighbours there is less than the boundary of the later. -/
theorem PlacedFrom.close {front back : List Segment} {s t : Segment}
    (h : PlacedFrom override first (front ++ s :: t :: back) last) :
    ∃ (behind address : Int) (boundary : Nat), s.endAddress? = some behind ∧
      t.address = some address ∧ address - behind < boundary ∧
      Alignment.boundary? (t.effectiveAlignment override) = some boundary := by
  induction front generalizing first with
  | nil =>
    obtain ⟨_, address, _, haddress, _, boundary, address', hboundary, haddress', hfirst, _⟩ := h
    have := hfirst.high (Alignment.boundary_pos hboundary)
    exact ⟨address + s.length.value, address', boundary, by rw [endAddress?, haddress]; rfl,
      haddress', by omega, hboundary⟩
  | cons _ rest ih =>
    obtain ⟨_, _, _, _, _, hrest⟩ := h
    exact ih hrest

/-- The last segment ends where the next would be placed. -/
theorem PlacedFrom.endAddress_last (h : PlacedFrom override first segments last) {s : Segment}
    (hs : segments.getLast? = some s) : s.endAddress? = some last := by
  induction segments generalizing first with
  | nil => cases hs
  | cons t rest ih =>
    obtain ⟨_, address, _, haddress, _, hrest⟩ := h
    cases rest with
    | nil =>
      obtain rfl : t = s := Option.some.inj hs
      rw [endAddress?, haddress, hrest]
      rfl
    | cons u others => exact ih hrest hs

theorem Precedes.le {s t : Segment} (h : s.Precedes t) (hs : 0 ≤ s.length.value) :
    ∃ a b, s.address = some a ∧ t.address = some b ∧ a ≤ b := by
  obtain ⟨behind, first, hbehind, hfirst, hle⟩ := h
  obtain ⟨start, hstart, rfl⟩ := Option.map_eq_some_iff.mp hbehind
  exact ⟨start, first, hstart, hfirst, by omega⟩

theorem covers_eq_true_iff {s : Segment} {address : Int} : s.covers address = true ↔
    ∃ start, s.address = some start ∧ start ≤ address ∧ address < start + s.length.value := by
  unfold covers
  cases s.address <;> simp

/-- Whether no address lies in both of two segments. -/
def Apart (s t : Segment) : Prop :=
  ∀ address, ¬ (s.covers address = true ∧ t.covers address = true)

theorem Precedes.apart {s t : Segment} (h : s.Precedes t) : s.Apart t := by
  rintro address ⟨hs, ht⟩
  obtain ⟨behind, first, hbehind, hfirst, hle⟩ := h
  obtain ⟨start, hstart, rfl⟩ := Option.map_eq_some_iff.mp hbehind
  obtain ⟨start', hstart', _, high⟩ := covers_eq_true_iff.mp hs
  obtain ⟨first', hfirst', low, _⟩ := covers_eq_true_iff.mp ht
  cases hstart.symm.trans hstart'
  cases hfirst.symm.trans hfirst'
  omega

/-- Where no address is covered twice, what covers one is one segment. -/
theorem filter_covers_eq {s : Segment} {address : Int} (apart : segments.Pairwise Apart)
    (hs : s ∈ segments) (hcovers : s.covers address = true) :
    segments.filter (·.covers address) = [s] := by
  induction segments with
  | nil => cases hs
  | cons t rest ih =>
    obtain ⟨hfirst, hrest⟩ := List.pairwise_cons.mp apart
    rcases List.mem_cons.mp hs with rfl | hs
    · have others : rest.filter (·.covers address) = [] :=
        List.filter_eq_nil_iff.mpr fun u hu hcovers' => hfirst u hu address ⟨hcovers, hcovers'⟩
      rw [List.filter_cons, if_pos hcovers, others]
    · have passed : ¬ t.covers address = true := fun ht => hfirst s hs address ⟨ht, hcovers⟩
      rw [List.filter_cons, if_neg passed, ih hrest hs]

/-- Of segments that do not overlap at most one covers an address. -/
theorem length_filter_covers_le (h : segments.Pairwise Precedes) (address : Int) :
    (segments.filter (·.covers address)).length ≤ 1 := by
  cases hcovering : segments.filter (·.covers address) with
  | nil => simp
  | cons s rest =>
    have hs : s ∈ segments.filter (·.covers address) := hcovering ▸ List.mem_cons_self
    obtain ⟨hmem, hcovers⟩ := List.mem_filter.mp hs
    rw [← hcovering, filter_covers_eq (h.imp Precedes.apart) hmem hcovers]
    exact Nat.le_refl 1

/-! ### Placing -/

/-- The segments of one list are placed behind those of the list before it. -/
theorem placeAll_append (override : Option Int) (front back : List Segment) (first : Int) :
    placeAll override (front ++ back) first = (do
      let (front, address) ← placeAll override front first
      let (back, last) ← placeAll override back address
      return (front ++ back, last)) := by
  induction front generalizing first with
  | nil =>
    simp only [List.nil_append, placeAll_nil, pure_bind]
    exact (bind_pure _).symm
  | cons s rest ih =>
    simp only [List.cons_append, placeAll_cons, ih, bind_assoc, pure_bind]

/-- Placing segments puts the relocatable ones behind one another. -/
theorem placedFrom_placeAll {placed : List Segment}
    (h : (placeAll override segments first).result = .ok (placed, last)) :
    PlacedFrom override first (placed.filter (!·.attributes.isAbsolute)) last := by
  induction segments generalizing first placed with
  | nil =>
    cases h
    rfl
  | cons s rest ih =>
    simp only [placeAll_cons, Logged.result_bind, Outcome.bind_eq_ok, Logged.result_pure] at h
    obtain ⟨⟨s', first'⟩, hs, ⟨rest', last'⟩, hrest, h⟩ := h
    obtain ⟨rfl, rfl⟩ := Prod.mk.inj (Except.ok.inj h)
    rcases place_eq_ok.mp hs with ⟨absolute, rfl, rfl⟩ | ⟨relocatable, _, boundary, hb, rfl, rfl⟩
    · simpa [List.filter_cons, absolute] using ih hrest
    · simp only [List.filter_cons, relocatable, Bool.not_false, if_true]
      exact ⟨boundary, _, hb, rfl, Alignment.isFirstFrom_roundUp (Alignment.boundary_pos hb) first,
        ih hrest⟩

end Segment

/-! ### Modules -/

/-- The segments that are placed, in order. -/
def Contents.relocatable (c : Contents) : List Segment :=
  c.segments.filter (!·.attributes.isAbsolute)

/-- What is known of a segment that is about to be placed. -/
structure Segment.IsPlaceable (s : Segment) : Prop where
  length : 0 ≤ s.length.value
  absolute : s.attributes.isAbsolute = true →
    s.address = some ((s.frameNumber : Int) + s.frameOffset)

theorem Contents.isPlaceable_enteringAll {entries : List Entry} (h : ∀ e ∈ entries, e.IsSound) :
    ∀ s ∈ (({} : Contents).enteringAll entries).segments, s.IsPlaceable := by
  refine forall_enteringAll (fun s hs => ⟨hs.length, fun absolute => ?_⟩) (fun number => ?_)
    (fun s f hs => ⟨hs.length, hs.absolute⟩) (fun s f hs => ⟨?_, hs.absolute⟩) h ?_
  · rw [hs.address, if_pos absolute]
  · have relocatable : Segment.injectedAttributes.isAbsolute = false := by decide
    refine ⟨Int.le_refl 0, fun absolute => ?_⟩
    rw [show (Segment.injected number .data).attributes = Segment.injectedAttributes from rfl,
      relocatable] at absolute
    cases absolute
  · have := hs.length
    rw [Segment.value_grownBy]
    omega
  · simp [segments]

theorem Segment.IsPlaceable.becomes {s s' : Segment} (h : s.IsPlaceable) (hs : s.Becomes s') :
    s'.IsPlaceable where
  length := hs.length ▸ h.length
  absolute absolute := by
    rw [hs.attributes] at absolute
    rw [hs.absolute absolute, h.absolute absolute, hs.frameNumber, hs.frameOffset]

namespace Module

/-- The segments of a module are placed as they should be. -/
structure IsPlaced (m : Module) (options : Options) : Prop where
  /-- Each stands at its first boundary behind the one before, the first at its first
  boundary behind the base address. -/
  placed : Segment.PlacedFrom options.alignOverride options.baseAddress m.relocatable m.nextAddress
  /-- Each ends before the later ones begin. -/
  apart : m.relocatable.Pairwise Segment.Precedes
  ascending : m.relocatable.Pairwise fun s t =>
    ∃ a b, s.address = some a ∧ t.address = some b ∧ a ≤ b
  single : ∀ address, (m.relocatable.filter (·.covers address)).length ≤ 1
  /-- Between neighbours there is less than the boundary of the later. -/
  close : ∀ front s t back, m.relocatable = front ++ s :: t :: back →
    ∃ (behind address : Int) (boundary : Nat), s.endAddress? = some behind ∧
      t.address = some address ∧ address - behind < boundary ∧
      Alignment.boundary? (t.effectiveAlignment options.alignOverride) = some boundary
  next : ∀ s, m.relocatable.getLast? = some s → s.endAddress? = some m.nextAddress
  none : m.relocatable = [] → m.nextAddress = options.baseAddress
  absolute : ∀ s ∈ m.segments, s.attributes.isAbsolute = true →
    s.address = some ((s.frameNumber : Int) + s.frameOffset)

variable {c : Contents} {m : Module} {input : Bytes} {path : String} {options : Options}

/-- The segments of a module were placed one behind the other, the injected ones last. -/
theorem placeAll_of_place (h : (place c path options).result = .ok m) :
    (Segment.placeAll options.alignOverride c.segments options.baseAddress).result =
      .ok (m.segments, m.nextAddress) := by
  obtain ⟨defined, address, injected, hdefined, hinjected, hm⟩ := place_eq_ok.mp h
  have hlength : injected.length ≤ (c.injected.map Prod.fst).length := by
    have := (Segment.isPlacing_of_placeAll hinjected).length_eq
    simp only [List.length_map] at this ⊢
    omega
  have hsegments : m.segments = defined ++ injected := by
    rw [hm, Contents.segments, List.map_snd_zip hlength]
  rw [Contents.segments, Segment.placeAll_append, hsegments]
  simp only [Logged.result_bind, Outcome.bind_eq_ok]
  exact ⟨_, hdefined, _, hinjected, rfl⟩

theorem placedFrom_of_place (h : (place c path options).result = .ok m) :
    Segment.PlacedFrom options.alignOverride options.baseAddress m.relocatable m.nextAddress :=
  Segment.placedFrom_placeAll (placeAll_of_place h)

theorem isPlaceable_of_load (h : (load input path options).result = .ok m) :
    ∀ s ∈ m.segments, s.IsPlaceable := by
  obtain ⟨entries, _, hentries, alike⟩ := entries_of_load h
  exact Outcome.forall_mem_of_forall₂ alike.segments (fun _ _ hs h => h.becomes hs)
    (Contents.isPlaceable_enteringAll fun e he => (hentries e he).1)

theorem precedes_of_load (h : (load input path options).result = .ok m) :
    m.relocatable.Pairwise Segment.Precedes := by
  obtain ⟨_, closed, _, _, _, hplaced⟩ := load_eq_ok.mp h
  exact (placedFrom_of_place hplaced).precedes fun s hs =>
    (isPlaceable_of_load h s (List.mem_filter.mp hs).1).length

/-- **Placing never overlaps.** The relocatable segments of a module stand behind one another
from the base address on, whatever absolute segments lie between them in the file. -/
theorem isPlaced_of_load (h : (load input path options).result = .ok m) :
    IsPlaced m options := by
  have hplaceable := isPlaceable_of_load h
  obtain ⟨_, closed, _, _, _, hplaced⟩ := load_eq_ok.mp h
  have placed := placedFrom_of_place hplaced
  have hlength : ∀ s ∈ m.relocatable, 0 ≤ s.length.value :=
    fun s hs => (hplaceable s (List.mem_filter.mp hs).1).length
  have apart := placed.precedes hlength
  refine ⟨placed, apart, ?_, Segment.length_filter_covers_le apart, fun front s t back split => ?_,
    fun s => placed.endAddress_last, fun none => ?_, fun s hs => (hplaceable s hs).absolute⟩
  · exact apart.imp_of_mem fun hs _ precedes => precedes.le (hlength _ hs)
  · rw [split] at placed
    exact placed.close
  · rw [none] at placed
    exact placed

/-- Three definitions: five bytes at paragraphs, four at address `0x1239`, three at words. -/
def threeDefinitions : Bytes :=
  [0x98, 7, 0, 0x60, 5, 0, 0, 0, 0, 0, 0x98, 10, 0, 0x00, 0x34, 0x12, 5, 4, 0, 0, 0, 0, 0,
    0x98, 7, 0, 0x40, 3, 0, 0, 0, 0, 0, 0x8A, 2, 0, 0, 0]

/-- From an address below zero on, with an absolute segment between two others. -/
theorem isPlaced_of_threeDefinitions :
    ∃ m, (load threeDefinitions "" { baseAddress := -7 }).result = .ok m ∧
      IsPlaced m { baseAddress := -7 } ∧
      m.segments.map (·.address) = [some 0, some 0x1239, some 6] := by
  have addresses : (load threeDefinitions "" { baseAddress := -7 }).result.toOption.map
      (fun m => m.segments.map (·.address)) = some [some 0, some 0x1239, some 6] := by
    decide +kernel
  cases h : (load threeDefinitions "" { baseAddress := -7 }).result with
  | error e =>
    rw [h] at addresses
    cases addresses
  | ok m =>
    rw [h] at addresses
    exact ⟨m, rfl, isPlaced_of_load h, Option.some.inj addresses⟩

end Module
end ObjectModule
