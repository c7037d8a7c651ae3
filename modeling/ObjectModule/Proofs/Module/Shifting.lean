import ObjectModule.CommonMachine
import ObjectModule.Module.Query
import ObjectModule.Proofs.ImageStream.Following
import ObjectModule.Proofs.Module.Endings
import ObjectModule.Proofs.Module.Placement

/-! Loading to another base address.

Every boundary divides the page, so where the base address moves by whole pages each segment
moves with it, apart from absolute ones, and nothing else changes (`load_moved`). Where it moves
by less, segments keep their order: none is placed lower from a higher base address. -/
namespace ObjectModule

namespace Alignment
variable {code : Int} {boundary : Nat}

/-- The largest boundary. -/
def page : Nat := 0x1000

theorem boundary_dvd_page (h : boundary? code = some boundary) : boundary ∣ page := by
  unfold boundary? at h
  split_ifs at h <;> cases h <;> decide

/-- Rounding up moves with multiples of the boundary, below zero too. -/
theorem roundUp_add {distance : Int} (hpos : 0 < boundary) (h : (boundary : Int) ∣ distance)
    (first : Int) : roundUp boundary (first + distance) = roundUp boundary first + distance := by
  obtain ⟨k, rfl⟩ := h
  have hne : (boundary : Int) ≠ 0 := by omega
  have hsum : first + boundary * k + boundary - 1 = first + boundary - 1 + boundary * k := by omega
  rw [roundUp, roundUp, hsum, Int.add_mul_ediv_left _ _ hne, Int.add_mul, Int.mul_comm k]

theorem roundUp_mono (hpos : 0 < boundary) {first first' : Int} (h : first ≤ first') :
    roundUp boundary first ≤ roundUp boundary first' :=
  have later := isFirstFrom_roundUp hpos first'
  (isFirstFrom_roundUp hpos first).least _ later.aligned (Int.le_trans h later.low)

end Alignment

/-! ### Segments that move -/

namespace Segment
variable {s t t' : Segment} {override : Option Int} {segments placed placed' : List Segment}
  {distance first first' next next' : Int}

/-- The segment at a distance from where it is, unless it is absolute. -/
def moved (distance : Int) (s : Segment) : Segment :=
  if s.attributes.isAbsolute then s else { s with address := s.address.map (· + distance) }

/-- Only the address of a segment moves. -/
theorem moved_eq (s : Segment) (distance : Int) :
    s.moved distance = { s with address := (s.moved distance).address } := by
  unfold moved
  split <;> rfl

/-- A segment moves with the place it is put to. -/
theorem result_place_add (h : (Alignment.page : Int) ∣ distance) (s : Segment)
    (override : Option Int) (first : Int) :
    (s.place override (first + distance)).result =
      (fun p => (p.1.moved distance, p.2 + distance)) <$> (s.place override first).result := by
  unfold place
  cases absolute : s.attributes.isAbsolute with
  | true => simp [moved, absolute]
  | false =>
    simp only [Bool.false_eq_true, if_false, run_relocate]
    by_cases zero : s.effectiveAlignment override = 0
    · simp [zero]
    · rw [if_neg zero, if_neg zero]
      cases hboundary : Alignment.boundary? (s.effectiveAlignment override) with
      | none => simp
      | some boundary =>
        cases haddress : s.address with
        | some address => simp
        | none =>
          have hpos := Alignment.boundary_pos hboundary
          have hdvd : (boundary : Int) ∣ distance :=
            Int.dvd_trans (Int.ofNat_dvd.mpr (Alignment.boundary_dvd_page hboundary)) h
          simp [Logged.notes, moved, absolute, Alignment.roundUp_add hpos hdvd]
          omega

theorem result_placeAll_add (h : (Alignment.page : Int) ∣ distance) (segments : List Segment)
    (override : Option Int) (first : Int) :
    (placeAll override segments (first + distance)).result =
      (fun p => (p.1.map (moved distance), p.2 + distance)) <$>
        (placeAll override segments first).result := by
  induction segments generalizing first with
  | nil => rfl
  | cons s rest ih =>
    simp only [placeAll_cons, Logged.result_bind, Logged.result_pure, result_place_add h,
      bind_map_left, ih, map_bind]
    rfl

/-- Two segments that have places, the second none lower than the first. -/
def NoLower (s t : Segment) : Prop := ∃ a b, s.address = some a ∧ t.address = some b ∧ a ≤ b

theorem noLower_of_place (hs : s.IsReady) (h : first ≤ first')
    (ht : (s.place override first).result = .ok (t, next))
    (ht' : (s.place override first').result = .ok (t', next')) : NoLower t t' ∧ next ≤ next' := by
  rcases place_eq_ok.mp ht with ⟨absolute, rfl, rfl⟩ | ⟨relocatable, _, boundary, hb, rfl, rfl⟩
  · rcases place_eq_ok.mp ht' with ⟨_, rfl, rfl⟩ | ⟨relocatable, _⟩
    · obtain ⟨address, haddress⟩ := Option.isSome_iff_exists.mp (hs.address.trans absolute)
      exact ⟨⟨address, address, haddress, haddress, Int.le_refl _⟩, h⟩
    · cases absolute.symm.trans relocatable
  · rcases place_eq_ok.mp ht' with ⟨absolute, _⟩ | ⟨_, _, boundary', hb', rfl, rfl⟩
    · cases absolute.symm.trans relocatable
    · cases hb.symm.trans hb'
      have hle := Alignment.roundUp_mono (Alignment.boundary_pos hb) h
      exact ⟨⟨_, _, rfl, rfl, hle⟩, by omega⟩

/-- From a higher address on no segment is placed lower. -/
theorem noLower_of_placeAll (hsegments : ∀ s ∈ segments, s.IsReady) (h : first ≤ first')
    (hplaced : (placeAll override segments first).result = .ok (placed, next))
    (hplaced' : (placeAll override segments first').result = .ok (placed', next')) :
    List.Forall₂ NoLower placed placed' ∧ next ≤ next' := by
  induction segments generalizing first first' placed placed' with
  | nil =>
    cases hplaced
    cases hplaced'
    exact ⟨.nil, h⟩
  | cons s rest ih =>
    obtain ⟨hs, hrest⟩ := List.forall_mem_cons.mp hsegments
    simp only [placeAll_cons, Logged.result_bind, Outcome.bind_eq_ok, Logged.result_pure]
      at hplaced hplaced'
    obtain ⟨⟨t, behind⟩, ht, ⟨others, last⟩, hothers, hplaced⟩ := hplaced
    obtain ⟨⟨t', behind'⟩, ht', ⟨others', last'⟩, hothers', hplaced'⟩ := hplaced'
    cases hplaced
    cases hplaced'
    obtain ⟨hfirst, hbehind⟩ := noLower_of_place hs h ht ht'
    obtain ⟨hall, hlast⟩ := ih hrest hbehind hothers hothers'
    exact ⟨.cons hfirst hall, hlast⟩

end Segment

namespace Module
variable {c : Contents} {m m' : Module} {input : Bytes} {path : String} {options : Options}
  {distance base : Int}

/-- The module loaded to a base address at a distance. -/
def moved (distance : Int) (m : Module) : Module :=
  { m with
    defined := m.defined.map (Segment.moved distance)
    injected := m.injected.map (Prod.map id (Segment.moved distance))
    options := { m.options with baseAddress := m.options.baseAddress + distance }
    nextAddress := m.nextAddress + distance }

theorem segments_moved (distance : Int) (m : Module) :
    (m.moved distance).segments = m.segments.map (Segment.moved distance) := by
  simp [moved, Contents.segments]

theorem result_place_add (h : (Alignment.page : Int) ∣ distance) (c : Contents) (path : String)
    (options : Options) :
    (place c path { options with baseAddress := options.baseAddress + distance }).result =
      moved distance <$> (place c path options).result := by
  simp only [place, Logged.result_bind, Logged.result_pure, Segment.result_placeAll_add h,
    bind_map_left, map_bind]
  refine bind_congr fun p => bind_congr fun q => ?_
  simp [moved, List.zip_map_right]

theorem image_moved [Machine] (distance : Int) (m : Module) (s : Segment) :
    (m.moved distance).image (s.moved distance) = m.image s := by
  show (s.moved distance).image m.options.maxFill = s.image m.options.maxFill
  rw [s.moved_eq]
  apply Segment.image_congr <;> rfl

/-- From a higher base address on no segment of a module is placed lower. -/
theorem noLower_of_load {higher : Int} (h : options.baseAddress ≤ higher)
    (hload : (load input path options).result = .ok m)
    (hload' : (load input path { options with baseAddress := higher }).result = .ok m') :
    List.Forall₂ Segment.NoLower m.segments m'.segments ∧ m.nextAddress ≤ m'.nextAddress := by
  rw [result_load, Outcome.bind_eq_ok] at hload hload'
  obtain ⟨c, hc, hplaced⟩ := hload
  obtain ⟨c', hc', hplaced'⟩ := hload'
  cases hc.symm.trans hc'
  have hready : Outcome.Ends (fun c => ∀ s ∈ c.segments, s.IsReady)
      (LoadFault options.alignOverride []) (Contents.ofBytes input).result :=
    Contents.ends_ofBytes input
  rw [hc] at hready
  exact Segment.noLower_of_placeAll hready h (placeAll_of_place hplaced)
    (placeAll_of_place hplaced')

/-- **A module moves with its base address.** By whole pages everything is placed as before at a
distance, but for absolute segments, or fails as before; images stay as they are. By any other
distance nothing moves the other way. -/
theorem load_moved [Machine] (input : Bytes) (path : String) (options : Options) :
    (∀ pages : Int, (load input path
        { options with baseAddress := options.baseAddress + Alignment.page * pages }).result =
      moved (Alignment.page * pages) <$> (load input path options).result) ∧
    (∀ distance m, (moved distance m).segments = m.segments.map (Segment.moved distance) ∧
      ∀ s, (moved distance m).image (s.moved distance) = m.image s) ∧
    ∀ higher m m', options.baseAddress ≤ higher → (load input path options).result = .ok m →
      (load input path { options with baseAddress := higher }).result = .ok m' →
      List.Forall₂ Segment.NoLower m.segments m'.segments ∧ m.nextAddress ≤ m'.nextAddress := by
  refine ⟨fun pages => ?_, fun distance m => ⟨segments_moved distance m, image_moved distance m⟩,
    fun _ _ _ => noLower_of_load⟩
  have h : (Alignment.page : Int) ∣ Alignment.page * pages := Int.dvd_mul_right ..
  simp only [result_load, result_place_add h, map_bind]

open scoped CommonMachine

/-- A page down everything but the absolute segment is a page lower; a few bytes up nothing is
lower than before. -/
theorem load_moved_of_threeDefinitions :
    ∃ m m', (load threeDefinitions "" { baseAddress := -7 }).result = .ok m ∧
      (load threeDefinitions "" { baseAddress := -0x1007 }).result = .ok (m.moved (-0x1000)) ∧
      (load threeDefinitions "" { baseAddress := 5 }).result = .ok m' ∧
      m.segments.map (·.address) = [some 0, some 0x1239, some 6] ∧
      List.Forall₂ Segment.NoLower m.segments m'.segments ∧ m.nextAddress ≤ m'.nextAddress := by
  obtain ⟨hpages, -, hhigher⟩ := load_moved threeDefinitions "" { baseAddress := -7 }
  have addresses : (load threeDefinitions "" { baseAddress := -7 }).result.toOption.map
      (fun m => m.segments.map (·.address)) = some [some 0, some 0x1239, some 6] := by
    decide +kernel
  have higher : (load threeDefinitions "" { baseAddress := 5 }).result.toOption.map
      (fun m => m.segments.map (·.address)) = some [some 16, some 0x1239, some 22] := by
    decide +kernel
  obtain ⟨m, hm, haddresses⟩ := Outcome.exists_of_toOption_map addresses
  obtain ⟨m', hm', _⟩ := Outcome.exists_of_toOption_map higher
  refine ⟨m, m', hm, ?_, hm', haddresses, hhigher 5 m m' (by decide) hm hm'⟩
  have hpage := hpages (-1)
  rw [hm] at hpage
  exact hpage

end Module
end ObjectModule
