import ObjectModule.CommonMachine
import ObjectModule.Proofs.Module.Readings

/-! Reading a loaded module by address.

A read finds the first segment that covers its address and cuts its bytes out of the image. Where
no address is covered twice, as in every module without absolute segments (`apart_of_load`), that
is the only one, so a read that starts inside another finds the same segment: what is read at once
is what is read in parts (`read_in_parts`), and a read is refused just if no segment has all of
it. -/
namespace ObjectModule

/-- Whether the error says that bytes cannot be had. -/
def Error.IsOfData : Error → Prop
  | format _ | capacity _ => True
  | relocation _ | reconstruction _ | access _ => False

/-! ### Images -/

section
variable [Machine]

/-- The bytes of a fragment are given, or cannot be had. -/
theorem Fragment.ends_contents (f : Fragment) :
    Outcome.Ends (fun _ => True) Error.IsOfData f.contents := by
  have hcheck : Outcome.Ends (fun _ => True) Error.IsOfData f.check := by
    unfold check
    cases f.payload with
    | enumerated data => trivial
    | iterated blocks =>
      have hdepth : Outcome.Ends (fun _ => True) Error.IsOfData
          ((Capacity.depth (Block.depthOfAll blocks)).mapError Error.capacity) := by
        cases Capacity.depth (Block.depthOfAll blocks) <;> trivial
      refine hdepth.bind fun _ _ => ?_
      have hsized : Outcome.Ends (fun _ => True) Error.IsOfData
          (discard (f.sized.mapError Error.format)) := by
        cases f.sized <;> trivial
      refine hsized.bind fun _ _ => ?_
      cases Block.writtenTogether blocks <;> trivial
  exact hcheck.bind fun _ _ => trivial

namespace Walk
variable {s : Segment} {maxFill length : Int} {index position : Nat} {cause : Error}

theorem isOfData_of_fill {start width : Nat} {hole : Hole} {onward : Walk}
    (h : (fill maxFill start width hole onward).ending = .failed cause)
    (honward : onward.ending = .failed cause → cause.IsOfData) : cause.IsOfData := by
  unfold fill at h
  split at h
  · cases h
  · split at h
    · cases h
      trivial
    · exact honward h

theorem isOfData_of_land {f : Fragment} {next : Nat → Walk}
    (h : (land length f index position next).ending = .failed cause)
    (hnext : ∀ after, (next after).ending = .failed cause → cause.IsOfData) : cause.IsOfData := by
  unfold land at h
  split at h
  · cases h
  · have hcontents := f.ends_contents
    split at h
    · next failed =>
      rw [failed] at hcontents
      cases h
      exact hcontents
    · exact hnext _ h

/-- What stops a walk, other than a hole, is that bytes cannot be had. -/
theorem isOfData_of_along {ahead : List Fragment}
    (h : (along s maxFill length ahead index position).ending = .failed cause) :
    cause.IsOfData := by
  induction ahead generalizing index position with
  | nil =>
    rw [along] at h
    split at h
    · cases h
    · exact isOfData_of_fill h fun complete => by cases complete
  | cons f rest ih =>
    rw [along] at h
    split at h
    · cases h
    · split at h
      · exact ih h
      · split at h
        · exact isOfData_of_land h fun _ => ih
        · exact isOfData_of_fill h fun h => isOfData_of_land h fun _ => ih

end Walk

end

namespace Segment
variable {s t : Segment} {address : Int} {segments : List Segment}

theorem isOfData_of_readAll [Machine] {maxFill : Int} {cause : Error} {final : ImageStream}
    (h : (ImageStream.ofSegment s maxFill).readAll s = .error cause final) : cause.IsOfData := by
  have hwalk := congrArg Report.result (ImageStream.report_read_left s maxFill)
  rw [← ImageStream.readAll_eq, h] at hwalk
  cases hending : (s.walk maxFill).ending with
  | failed failure =>
    simp only [Walk.report, hending] at hwalk
    cases hwalk
    exact Walk.isOfData_of_along hending
  | complete | hole hole =>
    simp only [Walk.report, hending] at hwalk
    cases hwalk

/-- An image is as long as is declared. If there is none, there is a hole or bytes cannot be
had. -/
theorem ends_image [Machine] (low : 0 ≤ s.length.value) (maxFill : Int) :
    Outcome.Ends (fun image => (image.size : Int) = s.length.value)
      (fun e => e.IsOfData ∨ ∃ cause, e = .reconstruction cause) (s.image maxFill).result := by
  cases hresult : (s.image maxFill).result with
  | ok image =>
    obtain ⟨final, hread, clean⟩ := readAll_of_image hresult
    exact size_readAll low hread clean
  | error e =>
    unfold image at hresult
    dsimp only at hresult
    split at hresult
    · next cause final hread =>
      cases hresult
      exact .inl (isOfData_of_readAll hread)
    · split at hresult
      · cases hresult
      · cases hresult
        exact .inr ⟨_, rfl⟩

/-! ### Segments at addresses -/

theorem find?_covers_eq (apart : segments.Pairwise Apart) (hs : s ∈ segments)
    (hcovers : s.covers address = true) : segments.find? (·.covers address) = some s := by
  rw [← List.head?_filter, filter_covers_eq apart hs hcovers]
  rfl

/-- Whether a segment has all of so many bytes from an address on. -/
def Spans (s : Segment) (address size : Int) : Prop :=
  ∀ place, address ≤ place → place < address + size → s.covers place = true

/-- A segment has all of some bytes if it has the first and the last. -/
theorem spans_iff {size : Int} (hsize : 0 < size) : s.Spans address size ↔
    ∃ start, s.address = some start ∧ start ≤ address ∧
      address - start + size ≤ s.length.value := by
  constructor
  · intro spans
    obtain ⟨start, hstart, low, _⟩ :=
      covers_eq_true_iff.mp (spans address (Int.le_refl _) (by omega))
    obtain ⟨start', hstart', _, high⟩ :=
      covers_eq_true_iff.mp (spans (address + size - 1) (by omega) (by omega))
    cases hstart.symm.trans hstart'
    exact ⟨start, hstart, low, by omega⟩
  · rintro ⟨start, hstart, low, high⟩ place hfirst hlast
    exact covers_eq_true_iff.mpr ⟨start, hstart, by omega, by omega⟩

end Segment

namespace Bytes
variable {bytes : Bytes} {first middle last : Int}

/-- The bytes between two places that are there. -/
theorem slice_eq (low : 0 ≤ first) (order : first ≤ last) (high : last ≤ bytes.length) :
    bytes.slice first last = (bytes.take last.toNat).drop first.toNat := by
  have hfirst : place bytes.length first = first.toNat := by
    rw [place, if_neg (by omega)]
    omega
  have hlast : place bytes.length last = last.toNat := by
    rw [place, if_neg (by omega)]
    omega
  rw [slice, hfirst, hlast]

theorem length_slice (low : 0 ≤ first) (order : first ≤ last) (high : last ≤ bytes.length) :
    ((bytes.slice first last).length : Int) = last - first := by
  rw [slice_eq low order high, List.length_drop, List.length_take]
  omega

/-- What lies between two places lies before or behind a third between them. -/
theorem slice_append (low : 0 ≤ first) (order : first ≤ middle) (order' : middle ≤ last)
    (high : last ≤ bytes.length) :
    bytes.slice first middle ++ bytes.slice middle last = bytes.slice first last := by
  rw [slice_eq low order (by omega), slice_eq (by omega) order' high,
    slice_eq low (by omega) high]
  have hfront : bytes.take middle.toNat = (bytes.take last.toNat).take middle.toNat := by
    rw [List.take_take, Nat.min_eq_left (by omega)]
  have hlength : first.toNat ≤ ((bytes.take last.toNat).take middle.toNat).length := by
    rw [List.length_take, List.length_take]
    omega
  rw [hfront, ← List.drop_append_of_le_length hlength, List.take_append_drop]

theorem getElem?_slice {k : Nat} (low : 0 ≤ first) (high : last ≤ bytes.length)
    (hk : first + k < last) :
    (bytes.slice first last)[k]? = bytes[first.toNat + k]? := by
  rw [slice_eq low (by omega) high, List.getElem?_drop, List.getElem?_take_of_lt (by omega)]

end Bytes

namespace Module
variable {m : Module} {input : Bytes} {path : String} {options : Options} {s : Segment}
  {address size : Int} {data : Packed}

/-! ### Reads -/

theorem result_read_of_none [Machine] (h : m.segmentAt? address = none) (size : Int) :
    (m.read address size).result = .error (.access (.unmapped address)) := by
  rw [read, h]
  rfl

/-- What a read gives of the segment it finds. -/
theorem result_read_of_some [Machine] {start : Int} (h : m.segmentAt? address = some s)
    (hs : s.address = some start) (size : Int) :
    (m.read address size).result =
      if s.length.value < address - start + size then .error (.access .beyondSegment)
      else (·.slice (address - start) (address - start + size)) <$> (m.image s).result := by
  rw [read, h]
  dsimp only
  rw [hs]
  dsimp only
  split
  · rfl
  · simp only [bind_pure_comp, Logged.result_map]

/-- The segment found at an address has one, and covers it. -/
theorem covers_of_segmentAt? (h : m.segmentAt? address = some s) :
    s ∈ m.segments ∧ ∃ start, s.address = some start ∧ start ≤ address ∧
      address < start + s.length.value :=
  ⟨List.mem_of_find?_eq_some h,
    Segment.covers_eq_true_iff.mp (List.find?_some (p := fun s : Segment => s.covers address) h)⟩

section
variable [Machine]

/-- What is read is cut out of the image of the segment found. -/
theorem read_eq_ok : (m.read address size).result = .ok data ↔
    ∃ s start image, m.segmentAt? address = some s ∧ s.address = some start ∧ start ≤ address ∧
      address - start + size ≤ s.length.value ∧ (m.image s).result = .ok image ∧
      image.slice (address - start) (address - start + size) = data := by
  constructor
  · intro h
    cases hfound : m.segmentAt? address with
    | none =>
      rw [result_read_of_none hfound] at h
      cases h
    | some s =>
      obtain ⟨_, start, hstart, low, _⟩ := covers_of_segmentAt? hfound
      rw [result_read_of_some hfound hstart] at h
      split at h
      · cases h
      · next within =>
        obtain ⟨image, himage, hdata⟩ := Outcome.map_eq_ok.mp h
        exact ⟨s, start, image, rfl, hstart, low, by omega, himage, hdata⟩
  · rintro ⟨s, start, image, hfound, hstart, _, within, himage, hdata⟩
    rw [result_read_of_some hfound hstart, if_neg (by omega), himage, ← hdata]
    rfl

theorem ends_image (h : (load input path options).result = .ok m) (hs : s ∈ m.segments) :
    Outcome.Ends (fun image => (image.size : Int) = s.length.value)
      (fun e => e.IsOfData ∨ ∃ cause, e = .reconstruction cause) (m.image s).result :=
  s.ends_image (isPlaceable_of_load h s hs).length m.options.maxFill

theorem length_image {image : Packed} (h : (load input path options).result = .ok m)
    (hfound : m.segmentAt? address = some s) (himage : (m.image s).result = .ok image) :
    (image.toBytes.length : Int) = s.length.value := by
  have hends := ends_image h (List.mem_of_find?_eq_some hfound)
  rw [himage] at hends
  exact hends

/-- A read of no less than nothing gives as much as is asked for. -/
theorem size_read (h : (load input path options).result = .ok m) (hsize : 0 ≤ size)
    (hread : (m.read address size).result = .ok data) : (data.size : Int) = size := by
  obtain ⟨s, start, image, hfound, hstart, low, within, himage, rfl⟩ := read_eq_ok.mp hread
  have hlength := length_image h hfound himage
  rw [← Packed.length_toBytes, Packed.toBytes_slice,
    Bytes.length_slice (by omega) (by omega) (by omega)]
  omega

/-- Whether bytes stand at an address: they are those of the image of the one segment that covers
it, from that address on. -/
def Holds (m : Module) (address : Int) (data : Packed) : Prop :=
  ∃ s start image, m.segments.filter (·.covers address) = [s] ∧ s.address = some start ∧
    (m.image s).result = .ok image ∧ ∀ k : Nat, k < data.size → ∃ place : Nat,
      (place : Int) = address + k - start ∧ place < image.size ∧
      data.toBytes[k]? = image.toBytes[place]?

/-- Bytes read at once are read in two parts as well, and stand where they are read. -/
structure IsInParts (m : Module) (address front back : Int) (data : Packed) : Prop where
  parts : ∃ first second, (m.read address front).result = .ok first ∧
    (m.read (address + front) back).result = .ok second ∧ data = first ++ second
  size : (data.size : Int) = front + back
  holds : m.Holds address data

theorem holds_read (h : (load input path options).result = .ok m)
    (apart : m.segments.Pairwise Segment.Apart) (hsize : 0 < size)
    (hread : (m.read address size).result = .ok data) : m.Holds address data := by
  have hdata := size_read h (by omega) hread
  obtain ⟨s, start, image, hfound, hstart, low, within, himage, rfl⟩ := read_eq_ok.mp hread
  have hlength := length_image h hfound himage
  have hcovers := Segment.covers_eq_true_iff.mpr ⟨start, hstart, low, by omega⟩
  refine ⟨s, start, image,
    Segment.filter_covers_eq apart (List.mem_of_find?_eq_some hfound) hcovers,
    hstart, himage, fun k hk => ⟨(address - start).toNat + k, by omega, ?_, ?_⟩⟩
  · rw [← Packed.length_toBytes]
    omega
  · rw [Packed.toBytes_slice, Bytes.getElem?_slice (by omega) (by omega) (by omega)]

theorem parts_read (h : (load input path options).result = .ok m)
    (apart : m.segments.Pairwise Segment.Apart) {front back : Int} (hfront : 0 ≤ front)
    (hback : 0 < back) (hread : (m.read address (front + back)).result = .ok data) :
    ∃ first second, (m.read address front).result = .ok first ∧
      (m.read (address + front) back).result = .ok second ∧ data = first ++ second := by
  obtain ⟨s, start, image, hfound, hstart, low, within, himage, rfl⟩ := read_eq_ok.mp hread
  have hlength := length_image h hfound himage
  -- All of the read lies in one segment, so where the second part begins no other can be found.
  have onward : m.segmentAt? (address + front) = some s :=
    Segment.find?_covers_eq apart (List.mem_of_find?_eq_some hfound)
      (Segment.covers_eq_true_iff.mpr ⟨start, hstart, by omega, by omega⟩)
  have between : address + front - start = address - start + front := by omega
  refine ⟨_, _, read_eq_ok.mpr ⟨s, start, image, hfound, hstart, low, by omega, himage, rfl⟩,
    read_eq_ok.mpr ⟨s, start, image, onward, hstart, by omega, by omega, himage, rfl⟩,
    Packed.eq_of_toBytes_eq ?_⟩
  rw [Packed.toBytes_append, Packed.toBytes_slice, Packed.toBytes_slice, Packed.toBytes_slice,
    between, ← Int.add_assoc]
  exact (Bytes.slice_append (by omega) (by omega) (by omega) (by omega)).symm

/-- A read is refused just if no segment has all that is asked for. -/
theorem refused_iff (h : (load input path options).result = .ok m)
    (apart : m.segments.Pairwise Segment.Apart) (hsize : 0 < size) :
    (∃ cause, (m.read address size).result = .error (.access cause)) ↔
      ¬ ∃ s ∈ m.segments, s.Spans address size := by
  constructor
  · rintro ⟨cause, refused⟩ ⟨s, hs, spans⟩
    obtain ⟨start, hstart, low, high⟩ := (Segment.spans_iff hsize).mp spans
    have hfound : m.segmentAt? address = some s :=
      Segment.find?_covers_eq apart hs (spans address (Int.le_refl _) (by omega))
    rw [result_read_of_some hfound hstart, if_neg (by omega), Outcome.map_eq_error] at refused
    have hends := ends_image h hs
    rw [refused] at hends
    rcases hends with hdata | ⟨_, hreconstruction⟩
    · exact hdata
    · cases hreconstruction
  · intro unspanned
    cases hfound : m.segmentAt? address with
    | none => exact ⟨_, result_read_of_none hfound size⟩
    | some s =>
      obtain ⟨hs, start, hstart, low, _⟩ := covers_of_segmentAt? hfound
      have beyond : s.length.value < address - start + size := by
        by_contra within
        exact unspanned ⟨s, hs, (Segment.spans_iff hsize).mpr ⟨start, hstart, low, by omega⟩⟩
      rw [result_read_of_some hfound hstart, if_pos beyond]
      exact ⟨_, rfl⟩

end

theorem apart_of_load (h : (load input path options).result = .ok m)
    (relocatable : ∀ s ∈ m.segments, s.attributes.isAbsolute = false) :
    m.segments.Pairwise Segment.Apart := by
  have hsegments : m.relocatable = m.segments :=
    List.filter_eq_self.mpr fun s hs => by rw [relocatable s hs]; rfl
  rw [← hsegments]
  exact (precedes_of_load h).imp Segment.Precedes.apart

/-- **Reading by address.** In a module without absolute segments no address is covered twice.
Where none is, a read is a read of its parts, wherever it is parted, and gives what the image of
the one segment has there. A read of something is refused just if no segment has all of it. -/
theorem read_in_parts [Machine] (h : (load input path options).result = .ok m) :
    ((∀ s ∈ m.segments, s.attributes.isAbsolute = false) → m.segments.Pairwise Segment.Apart) ∧
    (m.segments.Pairwise Segment.Apart → ∀ address : Int,
      (∀ front back data, 0 ≤ front → 0 < back →
        (m.read address (front + back)).result = .ok data →
          m.IsInParts address front back data) ∧
      ∀ size, 0 < size → ((∃ cause, (m.read address size).result = .error (.access cause)) ↔
        ¬ ∃ s ∈ m.segments, s.Spans address size)) :=
  ⟨apart_of_load h, fun apart _ =>
    ⟨fun _ _ _ hfront hback hread => ⟨parts_read h apart hfront hback hread,
        size_read h (by omega) hread, holds_read h apart (by omega) hread⟩,
      fun _ hsize => refused_iff h apart hsize⟩⟩

/-- Three definitions: three bytes, none and four; two bytes of data for the last, at its second
byte. -/
def adjacentDefinitions : Bytes :=
  [0x98, 7, 0, 0x20, 3, 0, 0, 0, 0, 0, 0x98, 7, 0, 0x20, 0, 0, 0, 0, 0, 0,
    0x98, 7, 0, 0x20, 4, 0, 0, 0, 0, 0, 0xA0, 6, 0, 3, 1, 0, 0x44, 0x45, 0, 0x8A, 2, 0, 0, 0]

open scoped CommonMachine

/-- Three bytes are read in two parts where two segments begin, and a read from one segment into
another is refused. -/
theorem adjacent_read_in_parts :
    ∃ m data, (load adjacentDefinitions "" { baseAddress := -2 }).result = .ok m ∧
      (∀ s ∈ m.segments, s.attributes.isAbsolute = false) ∧
      (m.read 1 (1 + 2)).result = .ok data ∧ data.toBytes = [0, 0x44, 0x45] ∧
      m.IsInParts 1 1 2 data ∧
      (m.read (-1) 4).result = .error (.access .beyondSegment) ∧
      ¬ ∃ s ∈ m.segments, s.Spans (-1) 4 := by
  have facts : (load adjacentDefinitions "" { baseAddress := -2 }).result.toOption.map (fun m =>
      m.segments.all (!·.attributes.isAbsolute) &&
        (m.read 1 (1 + 2)).result.toOption.map (·.toBytes) == some [0, 0x44, 0x45] &&
        Outcome.failure? (m.read (-1) 4).result == some (.access .beyondSegment)) = some true := by
    decide +kernel
  obtain ⟨m, hload, hfacts⟩ := Outcome.exists_of_toOption_map facts
  simp only [Bool.and_eq_true, List.all_eq_true, Bool.not_eq_true', beq_iff_eq,
    Outcome.failure?_eq_some] at hfacts
  obtain ⟨⟨relocatable, hbytes⟩, refused⟩ := hfacts
  obtain ⟨data, hread, hbytes⟩ := Outcome.exists_of_toOption_map hbytes
  obtain ⟨apart, reads⟩ := read_in_parts hload
  have hapart := apart relocatable
  exact ⟨m, data, hload, relocatable, hread, hbytes,
    (reads hapart 1).1 1 2 data (by decide) (by decide) hread, refused,
    ((reads hapart (-1)).2 4 (by decide)).mp ⟨_, refused⟩⟩

end Module
end ObjectModule
