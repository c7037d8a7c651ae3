import ObjectModule.CommonMachine
import ObjectModule.Proofs.Module.Addresses

/-! How much a read by address gives.

A read compares only its upper end with the segment, so an amount below zero passes, and the
place up to which bytes are cut out may lie below zero as well: it then counts from the end of the
image. `read_as_asked_iff` says for every amount whether the read gives what is asked for, and
what it gives otherwise. -/
namespace ObjectModule

namespace Bytes
variable {bytes : Bytes} {first last : Int}

/-- A slice is as long as its two places are apart. -/
theorem length_slice_places (bytes : Bytes) (first last : Int) :
    (bytes.slice first last).length = place bytes.length last - place bytes.length first := by
  have hlast : place bytes.length last ≤ bytes.length := Nat.min_le_right _ _
  rw [slice, List.length_drop, List.length_take, Nat.min_eq_left hlast]

theorem place_of_nonneg {length : Nat} (low : 0 ≤ first) (high : first ≤ length) :
    (place length first : Int) = first := by
  rw [place, if_neg (by omega)]
  omega

theorem place_of_neg (length : Nat) (below : first < 0) :
    (place length first : Int) = max (length + first) 0 := by
  rw [place, if_pos below]
  omega

/-- Nothing lies between a place and one before it. -/
theorem slice_eq_nil (low : 0 ≤ last) (order : last ≤ first) (high : first ≤ bytes.length) :
    bytes.slice first last = [] := by
  have hfirst := place_of_nonneg (Int.le_trans low order) high
  have hlast := place_of_nonneg low (Int.le_trans order high)
  apply List.eq_nil_of_length_eq_zero
  rw [length_slice_places]
  omega

/-- A last place below zero is counted from the end. -/
theorem length_slice_of_neg (low : 0 ≤ first) (high : first ≤ bytes.length) (below : last < 0) :
    ((bytes.slice first last).length : Int) = max (bytes.length + last - first) 0 := by
  have hfirst := place_of_nonneg low high
  have hlast := place_of_neg bytes.length below
  rw [length_slice_places]
  omega

end Bytes

namespace Module
variable {m : Module} {input : Bytes} {path : String} {options : Options} {s : Segment}
  {address size : Int} {data : Packed}

section
variable [Machine]

/-- Whether bytes are what is asked for: so many, or none if the amount is below zero, and each
stands in the image of the segment found, at its place from the address on. -/
structure IsAsAsked (m : Module) (address size : Int) (data : Packed) : Prop where
  count : (data.size : Int) = max size 0
  inside : ∃ s start image, m.segmentAt? address = some s ∧ s.address = some start ∧
    (m.image s).result = .ok image ∧ ∀ k : Nat, k < data.size → ∃ place : Nat,
      (place : Int) = address + k - start ∧ place < image.size ∧
      data.toBytes[k]? = image.toBytes[place]?

/-- Bytes of the right number are the right ones if none are asked for. -/
theorem IsAsAsked.of_none (hread : (m.read address size).result = .ok data) (below : size ≤ 0)
    (none : data.size = 0) : m.IsAsAsked address size data := by
  obtain ⟨s, start, image, hfound, hstart, _, _, himage, _⟩ := read_eq_ok.mp hread
  exact ⟨by omega, s, start, image, hfound, hstart, himage, fun k hk => by omega⟩

/-- A read of no less than nothing gives what is asked for. -/
theorem isAsAsked_of_nonneg (h : (load input path options).result = .ok m)
    (hread : (m.read address size).result = .ok data) (low : 0 ≤ size) :
    m.IsAsAsked address size data := by
  have hsize := size_read h low hread
  obtain ⟨s, start, image, hfound, hstart, before, within, himage, rfl⟩ := read_eq_ok.mp hread
  have hlength := length_image h hfound himage
  refine ⟨by omega, s, start, image, hfound, hstart, himage, fun k hk => ?_⟩
  refine ⟨(address - start).toNat + k, by omega, ?_, ?_⟩
  · rw [← Packed.length_toBytes]
    omega
  · rw [Packed.toBytes_slice, Bytes.getElem?_slice (by omega) (by omega) (by omega)]

/-- How much a read of less than nothing gives: nothing, unless the place it is to end at lies
below zero and, counted from the end, behind the one it begins at. -/
theorem size_read_of_neg {start : Int} (h : (load input path options).result = .ok m)
    (hfound : m.segmentAt? address = some s) (hstart : s.address = some start)
    (hread : (m.read address size).result = .ok data) (below : size < 0) :
    (data.size : Int) =
      if size < start - address then max (s.length.value + size) 0 else 0 := by
  obtain ⟨_, start', hstart', low, high⟩ := covers_of_segmentAt? hfound
  cases hstart.symm.trans hstart'
  obtain ⟨s', start', image, hfound', hstart', _, _, himage, rfl⟩ := read_eq_ok.mp hread
  cases hfound.symm.trans hfound'
  cases hstart.symm.trans hstart'
  have hlength := length_image h hfound himage
  rw [← Packed.length_toBytes, Packed.toBytes_slice]
  split
  · rw [Bytes.length_slice_of_neg (by omega) (by omega) (by omega)]
    omega
  · rw [Bytes.slice_eq_nil (by omega) (by omega) (by omega)]
    rfl

/-- **How much is read.** Whenever a read gives something, it gives what is asked for, except
where the amount is so far below zero that the read ends before the segment, but not by all that
the segment has: then it gives so many bytes fewer than the segment has. -/
theorem read_as_asked_iff (h : (load input path options).result = .ok m)
    (hread : (m.read address size).result = .ok data) :
    ∃ s start, m.segmentAt? address = some s ∧ s.address = some start ∧
      (m.IsAsAsked address size data ↔
        ¬ (-s.length.value < size ∧ size < start - address)) ∧
      (-s.length.value < size → size < start - address →
        0 < data.size ∧ (data.size : Int) = s.length.value + size) := by
  obtain ⟨s, start, image, hfound, hstart, before, _, _, _⟩ := read_eq_ok.mp hread
  have hsize := size_read_of_neg h hfound hstart hread
  refine ⟨s, start, hfound, hstart, ⟨fun asked => ?_, fun outside => ?_⟩, fun low high => ?_⟩
  · intro ⟨low, high⟩
    have hcount := asked.count
    rw [hsize (by omega), if_pos high] at hcount
    omega
  · rcases Int.lt_or_le size 0 with below | low
    · apply IsAsAsked.of_none hread (by omega)
      have hnone := hsize below
      split at hnone <;> omega
    · exact isAsAsked_of_nonneg h hread low
  · rw [if_pos high] at hsize
    have hcount := hsize (by omega)
    omega

/-- A definition of four bytes, and data for all of them. -/
def fourGiven : Bytes :=
  [0x98, 7, 0, 0x28, 4, 0, 0, 0, 0, 0, 0xA0, 8, 0, 1, 0, 0, 1, 2, 3, 4, 0, 0x8A, 2, 0, 0, 0]

end

open scoped CommonMachine

/-- From the third byte on, two bytes less than nothing are none. -/
theorem read_as_asked_two_back :
    ∃ m data, (load fourGiven "" {}).result = .ok m ∧ (m.read 2 (-2)).result = .ok data ∧
      m.IsAsAsked 2 (-2) data ∧ data.size = 0 := by
  have facts : (load fourGiven "" {}).result.toOption.map (fun m =>
      (m.segmentAt? 2).map (fun s => (s.length.value, s.address)) == some (4, some 0) &&
        (m.read 2 (-2)).result.toOption.map (·.size) == some 0) = some true := by
    decide +kernel
  obtain ⟨m, hload, hfacts⟩ := Outcome.exists_of_toOption_map facts
  rw [Bool.and_eq_true, beq_iff_eq, beq_iff_eq] at hfacts
  obtain ⟨data, hread, hsize⟩ := Outcome.exists_of_toOption_map hfacts.2
  obtain ⟨s, start, hfound, hstart, hiff, _⟩ := read_as_asked_iff hload hread
  have hplaced := hfacts.1
  simp only [hfound, hstart, Option.map_some, Option.some.injEq, Prod.mk.injEq] at hplaced
  exact ⟨m, data, hload, hread, hiff.mpr (by omega), hsize⟩

/-- From the first byte on, one byte less than nothing is all but the last. -/
theorem read_gives_unasked :
    ∃ m data, (load fourGiven "" {}).result = .ok m ∧ (m.read 0 (-1)).result = .ok data ∧
      data.toBytes = [1, 2, 3] ∧ ¬ m.IsAsAsked 0 (-1) data := by
  have facts : (load fourGiven "" {}).result.toOption.map (fun m =>
      (m.read 0 (-1)).result.toOption.map (·.toBytes)) = some (some [1, 2, 3]) := by
    decide +kernel
  obtain ⟨m, hload, hfacts⟩ := Outcome.exists_of_toOption_map facts
  obtain ⟨data, hread, hbytes⟩ := Outcome.exists_of_toOption_map hfacts
  refine ⟨m, data, hload, hread, hbytes, fun asked => ?_⟩
  have hcount := asked.count
  rw [← Packed.length_toBytes, hbytes] at hcount
  exact absurd hcount (by decide)

end Module
end ObjectModule
