import Mathlib.Data.Int.Bitwise
import ObjectModule.CommonMachine
import ObjectModule.Proofs.Module.Endings
import ObjectModule.Proofs.Module.Placement
import ObjectModule.Proofs.Segment.Life

/-! Relocating a segment.

A segment is relocated if it has no place yet and the alignment code that counts names a
boundary. It is put at the least multiple of the boundary that is not below the address asked
for, which is what clearing the low bits gives on either side of zero (`roundUp_eq_land`), and is
frozen. Everything else is refused, and what is refused changes nothing
(`relocation_all_or_nothing`). So a segment that has a place keeps it for life, and one that is
absolute has its place from the record it was read from (`fixed_stays`). -/
namespace ObjectModule

namespace Alignment
variable {code : Int} {boundary : Nat}

/-- The alignment codes that name a boundary, each with the boundary. -/
def boundaries : List (Int × Nat) := [(1, 1), (2, 2), (3, 16), (4, 4096), (5, 4)]

theorem boundary?_eq_some : boundary? code = some boundary ↔ (code, boundary) ∈ boundaries := by
  unfold boundary?
  simp only [boundaries, List.mem_cons, Prod.mk.injEq, List.not_mem_nil, or_false]
  split_ifs <;> simp <;> omega

theorem isSome_boundary? : (boundary? code).isSome = true ↔ 1 ≤ code ∧ code ≤ 5 := by
  unfold boundary?
  split_ifs <;> simp <;> omega

theorem IsFirstFrom.unique {first address address' : Int} (h : IsFirstFrom boundary first address)
    (h' : IsFirstFrom boundary first address') : address' = address :=
  Int.le_antisymm (h'.least _ h.aligned h.low) (h.least _ h'.aligned h'.low)

/-! ### Clearing low bits -/

theorem land_lnot_zero (n : Int) : Int.land n (Int.lnot 0) = n := by
  cases n with
  | ofNat n =>
    show ((Nat.ldiff n 0 : Nat) : Int) = n
    simp [Nat.ldiff]
  | negSucc n =>
    show Int.negSucc (n ||| 0) = _
    rw [Nat.or_zero]

/-- One bit more is cleared. -/
theorem land_lnot_double {b : Int} (h : ∀ n, Int.land n (Int.lnot (b - 1)) = n / b * b) (n : Int) :
    Int.land n (Int.lnot (2 * b - 1)) = n / (2 * b) * (2 * b) := by
  have hmask : 2 * b - 1 = Int.bit true (b - 1) := by
    rw [Int.bit_val]
    show _ = 2 * (b - 1) + 1
    omega
  calc Int.land n (Int.lnot (2 * b - 1))
    _ = Int.land (Int.bit n.bodd n.div2) (Int.bit false (Int.lnot (b - 1))) := by
        rw [Int.bit_decomp, hmask, Int.lnot_bit, Bool.not_true]
    _ = Int.bit false (n.div2 / b * b) := by rw [Int.land_bit, Bool.and_false, h]
    _ = 2 * (n / 2 / b * b) := by
        rw [Int.bit_val, Int.div2_val]
        exact Int.add_zero _
    _ = n / (2 * b) * (2 * b) := by
        rw [Int.ediv_ediv_of_nonneg (by decide), Int.mul_left_comm]

/-- Clearing the low bits of a number, in two's complement without end, rounds it down. -/
theorem land_lnot_mask (bits : Nat) (n : Int) :
    Int.land n (Int.lnot (((1 <<< bits : Nat) : Int) - 1)) =
      n / (1 <<< bits : Nat) * (1 <<< bits : Nat) := by
  induction bits generalizing n with
  | zero =>
    show Int.land n (Int.lnot 0) = n / 1 * 1
    rw [land_lnot_zero, Int.ediv_one, Int.mul_one]
  | succ bits ih =>
    have hdouble : ((1 <<< (bits + 1) : Nat) : Int) = 2 * ((1 <<< bits : Nat) : Int) := by
      rw [Nat.shiftLeft_succ, Int.natCast_mul]
    rw [hdouble]
    exact land_lnot_double ih n

theorem exists_shift_of_mem (h : (code, boundary) ∈ boundaries) :
    ∃ bits, boundary = 1 <<< bits := by
  simp only [boundaries, List.mem_cons, Prod.mk.injEq, List.not_mem_nil, or_false] at h
  rcases h with ⟨_, rfl⟩ | ⟨_, rfl⟩ | ⟨_, rfl⟩ | ⟨_, rfl⟩ | ⟨_, rfl⟩
  · exact ⟨0, rfl⟩
  · exact ⟨1, rfl⟩
  · exact ⟨4, rfl⟩
  · exact ⟨12, rfl⟩
  · exact ⟨2, rfl⟩

/-- Rounding up to a boundary clears the low bits of an address just below the next. -/
theorem roundUp_eq_land (h : (code, boundary) ∈ boundaries) (first : Int) :
    roundUp boundary first = Int.land (first + boundary - 1) (Int.lnot ((boundary : Int) - 1)) := by
  obtain ⟨bits, rfl⟩ := exists_shift_of_mem h
  exact (land_lnot_mask bits _).symm

end Alignment

namespace Segment
variable {s t : Segment} {first next : Int} {override : Option Int}

/-! ### What relocating does -/

theorem effectiveAlignment_eq (s : Segment) (override : Option Int) :
    s.effectiveAlignment override =
      (override.filter (0 ≤ ·)).getD (s.attributes.alignment : Int) := by
  cases override with
  | none => rfl
  | some code =>
    rw [effectiveAlignment, Option.filter_some]
    by_cases low : 0 ≤ code <;> simp [low]

theorem effectiveAlignment_nonneg (s : Segment) (override : Option Int) :
    0 ≤ s.effectiveAlignment override := by
  unfold effectiveAlignment
  split
  · split
    · assumption
    · exact Int.natCast_nonneg _
  · exact Int.natCast_nonneg _

/-- A segment that has a place, or is given a code that names no boundary, is not relocated, and
stays as it is. It is the segment that is refused if the code is zero or names a boundary, and
otherwise the code. -/
theorem relocate_refused (first : Int)
    (h : s.address = none → Alignment.boundary? (s.effectiveAlignment override) = none) :
    ∃ e, (relocate first override).run s = .error e s ∧
      ((∃ cause, e = .relocation cause) ↔ s.effectiveAlignment override ≤ 5) ∧
      (5 < s.effectiveAlignment override → e = .format (.unsupportedAlignment
        (toString (s.effectiveAlignment override)) s.displayName)) := by
  have hlow := s.effectiveAlignment_nonneg override
  have hboundary : (Alignment.boundary? (s.effectiveAlignment override)).isSome = true ↔ _ :=
    Alignment.isSome_boundary?
  rw [run_relocate]
  by_cases zero : s.effectiveAlignment override = 0
  · rw [if_pos zero]
    exact ⟨_, rfl, iff_of_true ⟨_, rfl⟩ (by omega), fun high => by omega⟩
  · rw [if_neg zero]
    cases hb : Alignment.boundary? (s.effectiveAlignment override) with
    | none =>
      rw [hb] at hboundary
      have high : ¬ s.effectiveAlignment override ≤ 5 := fun low =>
        Bool.false_ne_true (hboundary.mpr ⟨by omega, low⟩)
      exact ⟨_, rfl, iff_of_false (by simp) high, fun _ => rfl⟩
    | some boundary =>
      rw [hb] at hboundary
      obtain ⟨_, high⟩ := hboundary.mp rfl
      cases ha : s.address with
      | none => cases hb.symm.trans (h ha)
      | some address =>
        exact ⟨_, rfl, iff_of_true ⟨_, rfl⟩ high, fun higher => absurd high (by omega)⟩

/-- **Relocation is all or nothing.** It succeeds if the code that counts, which is the one forced
on the segment unless that is negative, is one to five, and the segment has no address. Then the
segment is put at the least multiple of the boundary that is not below the address asked for, and
is frozen, and no other field changes; what is given is the first address behind it. Otherwise
relocation fails and leaves the segment as it was. -/
theorem relocation_all_or_nothing (s : Segment) (first : Int) (override : Option Int) :
    let code := (override.filter (0 ≤ ·)).getD (s.attributes.alignment : Int)
    ((∃ next t, (relocate first override).run s = .ok next t) ↔
      (1 ≤ code ∧ code ≤ 5) ∧ s.address = none) ∧
    (∀ next t, (relocate first override).run s = .ok next t ↔
      s.address = none ∧ ∃ boundary address, (code, boundary) ∈ Alignment.boundaries ∧
        Alignment.IsFirstFrom boundary first address ∧
        address = Int.land (first + boundary - 1) (Int.lnot ((boundary : Int) - 1)) ∧
        t = { s with address := some address, isFrozen := true } ∧
        next = address + s.length.value) ∧
    ((∃ e, (relocate first override).run s = .error e s) ↔
      ¬ ((1 ≤ code ∧ code ≤ 5) ∧ s.address = none)) := by
  intro code
  have hcode : s.effectiveAlignment override = code := s.effectiveAlignment_eq override
  have hplaced : (∃ next t, (relocate first override).run s = .ok next t) ↔
      (1 ≤ code ∧ code ≤ 5) ∧ s.address = none := by
    rw [← Alignment.isSome_boundary?, Option.isSome_iff_exists]
    simp only [relocate_eq_ok, hcode]
    constructor
    · rintro ⟨_, _, free, boundary, hb, _⟩
      exact ⟨⟨boundary, hb⟩, free⟩
    · rintro ⟨⟨boundary, hb⟩, free⟩
      exact ⟨_, _, free, boundary, hb, rfl, rfl⟩
  refine ⟨hplaced, fun next t => ?_, fun ⟨e, he⟩ placed => ?_, fun stays => ?_⟩
  · rw [relocate_eq_ok, hcode]
    refine and_congr_right fun _ => exists_congr fun boundary => ?_
    rw [Alignment.boundary?_eq_some]
    constructor
    · rintro ⟨hb, rfl, rfl⟩
      have hpos := Alignment.boundary_pos (Alignment.boundary?_eq_some.mpr hb)
      exact ⟨_, hb, Alignment.isFirstFrom_roundUp hpos first, Alignment.roundUp_eq_land hb first,
        rfl, rfl⟩
    · rintro ⟨address, hb, _, rfl, rfl, rfl⟩
      rw [Alignment.roundUp_eq_land hb]
      exact ⟨hb, rfl, rfl⟩
  · obtain ⟨next, t, ht⟩ := hplaced.mpr placed
    cases he.symm.trans ht
  · rw [← hcode, ← Alignment.isSome_boundary?] at stays
    have unforced (free : s.address = none) :
        Alignment.boundary? (s.effectiveAlignment override) = none :=
      Option.not_isSome_iff_eq_none.mp fun named => stays ⟨named, free⟩
    obtain ⟨e, he, _⟩ := relocate_refused first unforced
    exact ⟨e, he⟩

/-- A segment of four bytes from a page below zero on: the low bits of a negative address are
cleared upwards, and a code below zero is none. -/
theorem relocated_below_zero :
    (relocate (-0x0FFF) (some (-1))).run { Segment.holding 4 [] with attributes := ⟨0x60⟩ } =
      .ok (-0xFEC) { Segment.holding 4 [] with
        attributes := ⟨0x60⟩, address := some (-0xFF0), isFrozen := true } := by
  obtain ⟨_, hplaced, _⟩ := relocation_all_or_nothing
    { Segment.holding 4 [] with attributes := ⟨0x60⟩ } (-0x0FFF) (some (-1))
  have hfirst : Alignment.IsFirstFrom 16 (-0x0FFF) (-0xFF0) :=
    ⟨by decide, by decide, fun other ⟨k, hk⟩ low => by omega⟩
  exact (hplaced _ _).mpr ⟨rfl, 16, -0xFF0, by decide, hfirst, by decide, rfl, rfl⟩

/-! ### Segments that stay where they are -/

/-- Whether a segment has a place, or is not to be given one. -/
def IsFixed (s : Segment) : Prop := s.attributes.isAbsolute = true ∨ s.address.isSome = true

theorem Continues.isSome_address (h : s.Continues t) (placed : s.address.isSome = true) :
    t.address.isSome = true := by
  rcases h.address with same | ⟨free, _⟩
  · rw [same, placed]
  · rw [free] at placed
    cases placed

/-- A segment that is read and fixed has a place, which its record gave it. -/
theorem isSome_address_of_read {type : RecordType} {body : Bytes}
    (h : (read type).parse body = .ok s) (fixed : s.IsFixed) : s.address.isSome = true := by
  obtain ⟨isOpen, _⟩ := (gives_read_open type).parse h
  rcases fixed with absolute | placed
  · rw [isOpen.address, absolute]
  · exact placed

/-- **What is fixed stays where it is.** In every state of its life a segment that is absolute or
has a place is not relocated, to whatever address, and is left as it is: with the complaint that
it cannot be moved if the code that counts is at most five, and otherwise with one about the code.
This holds of every segment that is read, for then it has a place, and of one without a place for
codes that name no boundary. -/
theorem fixed_stays [Machine] (fixed : s.IsFixed) (ops : List Operation) (first : Int)
    (override : Option Int) :
    let t := s.afterAll ops
    let code := (override.filter (0 ≤ ·)).getD (t.attributes.alignment : Int)
    t.IsFixed ∧
    (∀ type body, (read type).parse body = .ok s → t.address.isSome = true) ∧
    ((t.address = none → ¬ (1 ≤ code ∧ code ≤ 5)) →
      ∃ e, (relocate first override).run t = .error e t ∧
        ((∃ cause, e = .relocation cause) ↔ code ≤ 5) ∧
        (5 < code → e = .format (.unsupportedAlignment (toString code) t.displayName))) := by
  intro t code
  have continues : s.Continues t := s.continues_afterAll ops
  have hcode : t.effectiveAlignment override = code := t.effectiveAlignment_eq override
  refine ⟨?_, fun type body hread => ?_, fun unforced => ?_⟩
  · rcases fixed with absolute | placed
    · exact .inl (by rw [continues.attributes, absolute])
    · exact .inr (continues.isSome_address placed)
  · exact continues.isSome_address (isSome_address_of_read hread fixed)
  · rw [← hcode]
    refine relocate_refused first fun free => Option.not_isSome_iff_eq_none.mp fun named => ?_
    rw [Alignment.isSome_boundary?, hcode] at named
    exact unforced free named

/-- Four bytes at address `0x1239`, as a record defines them. -/
def absoluteFour : Segment where
  attributes := ⟨0x00⟩
  length := ⟨2, 4⟩
  nameIndex := ⟨1, 0⟩
  classIndex := ⟨1, 0⟩
  overlayIndex := ⟨1, 0⟩
  frameNumber := 0x1234
  frameOffset := 5
  address := some 0x1239

open scoped CommonMachine

/-- An absolute segment is asked to move to words after much else was asked of it. -/
theorem absolute_stays :
    (read .segdef).parse [0x00, 0x34, 0x12, 5, 4, 0, 0, 0, 0] = .ok absoluteFour ∧
      absoluteFour.IsFixed ∧
      ∃ cause, (relocate 0x2001 (some 2)).run
          (absoluteFour.afterAll [.resolveNames #[], .relocate 0x1000 none, .freeze]) =
        .error (.relocation cause)
          (absoluteFour.afterAll [.resolveNames #[], .relocate 0x1000 none, .freeze]) := by
  have hread : (read .segdef).parse [0x00, 0x34, 0x12, 5, 4, 0, 0, 0, 0] = .ok absoluteFour := rfl
  have fixed : absoluteFour.IsFixed := .inl (by decide)
  obtain ⟨_, placed, refused⟩ := fixed_stays fixed
    [.resolveNames #[], .relocate 0x1000 none, .freeze] 0x2001 (some 2)
  have placed := placed _ _ hread
  obtain ⟨e, he, hcause, _⟩ := refused fun free => by
    rw [free] at placed
    cases placed
  obtain ⟨cause, rfl⟩ := hcause.mpr (by decide)
  exact ⟨hread, fixed, cause, he⟩

/-- An absolute segment that has a place is refused for its code if that names no boundary, and
one that has none is moved if the code names one. -/
theorem absolute_refused_otherwise :
    ((read .segdef).parse [0x00, 0x34, 0x12, 5, 4, 0, 0, 0, 0] = .ok absoluteFour ∧
      absoluteFour.IsFixed ∧
      ∃ cause, (relocate 0x1000 (some 6)).run absoluteFour = .error (.format cause) absoluteFour) ∧
    ∃ s : Segment, s.attributes.isAbsolute = true ∧ s.address = none ∧
      (relocate 0x1001 (some 3)).run s =
        .ok 0x1014 { s with address := some 0x1010, isFrozen := true } :=
  ⟨⟨rfl, .inl (by decide), _, rfl⟩,
    { Segment.holding 4 [] with attributes := ⟨0⟩ }, by decide, rfl, rfl⟩

end Segment
end ObjectModule
