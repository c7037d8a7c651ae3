import ObjectModule.CommonMachine
import ObjectModule.Proofs.ImageStream.Fates
import ObjectModule.Proofs.ImageStream.Following

/-! What an image is made of.

An image that could be read in full is told byte by byte, without a walk: some
fragments are accepted, no two of which hold the same position; the image has their
bytes at their offsets and zeros elsewhere; and a fragment is turned down exactly if
it starts inside an accepted one that comes before it (`Composes`, `image_composes`).
Between the two stands the walk: accepted are the fragments it lays. -/
namespace ObjectModule

/-- Whether a position lies in the range of a fragment, which is as long as its bytes are. -/
def Fragment.Covers (f : Fragment) (x : Int) : Prop :=
  f.offset ≤ x ∧ x < f.offset + f.bytes.length

/-- What an image is made of if some of the fragments are accepted. -/
structure Composes (fragments : Array Fragment) (length : Int) (accepted : Nat → Prop)
    (image : Bytes) : Prop where
  nonempty : ∀ i, accepted i → ∃ f, fragments[i]? = some f ∧ f.bytes ≠ []
  disjoint : ∀ i j f g x, accepted i → accepted j → fragments[i]? = some f →
    fragments[j]? = some g → f.Covers x → g.Covers x → i = j
  size : image.length = length.toNat
  covered : ∀ i f, ∀ x : Nat, x < length → accepted i → fragments[i]? = some f → f.Covers x →
    image[x]? = f.bytes[x - f.offset.toNat]?
  uncovered : ∀ x : Nat, x < length →
    (∀ i f, accepted i → fragments[i]? = some f → ¬ f.Covers x) → image[x]? = some 0
  /-- The earlier of two fragments wins, and the other contributes nothing. -/
  rejected : ∀ i f, fragments[i]? = some f → f.bytes ≠ [] → f.offset < length →
    (¬ accepted i ↔ ∃ j g, j < i ∧ accepted j ∧ fragments[j]? = some g ∧ g.Covers f.offset)

namespace Segment
variable {s : Segment} {maxFill : Int} {i j : Nat} {f g : Fragment} {p : Piece}

section
variable [Machine]

/-- Whether a walk lays bytes of the fragment at a place. -/
def Accepts (s : Segment) (maxFill : Int) (i : Nat) : Prop :=
  ∃ p ∈ (s.walk maxFill).pieces, p.source = some i ∧ p.bytes ≠ []

/-! ### Pieces and fragments -/

theorem exists_fragment (hp : p ∈ (s.walk maxFill).pieces) (hi : p.source = some i) :
    ∃ f, s.fragments[i]? = some f ∧ f.offset = p.start ∧ f.bytes = p.bytes := by
  have hfrom := (Walk.sound s maxFill).sources p hp
  rw [Piece.IsFrom, hi] at hfrom
  obtain ⟨f, hf, hplace⟩ := hfrom
  exact ⟨f, Array.getElem?_toList.symm.trans hf, hplace⟩

/-- A piece of a fragment has its place and its bytes. -/
theorem eq_of_source (hp : p ∈ (s.walk maxFill).pieces) (hi : p.source = some i)
    (hf : s.fragments[i]? = some f) : f.offset = p.start ∧ f.bytes = p.bytes := by
  obtain ⟨g, hg, hplace⟩ := exists_fragment hp hi
  cases hf.symm.trans hg
  exact hplace

theorem covers_iff (hp : p ∈ (s.walk maxFill).pieces) (hi : p.source = some i)
    (hf : s.fragments[i]? = some f) {x : Nat} : f.Covers x ↔ p.Covers x := by
  obtain ⟨hoffset, hbytes⟩ := eq_of_source hp hi hf
  unfold Fragment.Covers Piece.Covers Piece.finish
  rw [hoffset, hbytes]
  omega

theorem accepts_of_lays (h : (s.walk maxFill).Lays i) (hf : s.fragments[i]? = some f)
    (nonempty : f.bytes ≠ []) : s.Accepts maxFill i := by
  obtain ⟨p, hp, hi⟩ := h
  exact ⟨p, hp, hi, (eq_of_source hp hi hf).2 ▸ nonempty⟩

theorem lays_of_accepts (h : s.Accepts maxFill i) : (s.walk maxFill).Lays i := by
  obtain ⟨p, hp, hi, _⟩ := h
  exact ⟨p, hp, hi⟩

/-- Two fragments laid do not share a position. -/
theorem eq_of_covers {x : Int} (hi : (s.walk maxFill).Lays i) (hj : (s.walk maxFill).Lays j)
    (hf : s.fragments[i]? = some f) (hg : s.fragments[j]? = some g) (hfx : f.Covers x)
    (hgx : g.Covers x) : i = j := by
  obtain ⟨p, hp, hi⟩ := hi
  obtain ⟨q, hq, hj⟩ := hj
  obtain ⟨hoffset, _⟩ := eq_of_source hp hi hf
  have low := hfx.1
  obtain ⟨n, rfl⟩ := Int.eq_ofNat_of_zero_le (show 0 ≤ x by omega)
  have same : p = q := (Walk.sound s maxFill).tiles.unique hp hq ((covers_iff hp hi hf).mp hfx)
    ((covers_iff hq hj hg).mp hgx)
  rw [same, hj] at hi
  exact (Option.some.inj hi).symm

/-! ### The bytes of a complete walk -/

theorem length_laid (complete : (s.walk maxFill).ending = .complete) :
    (s.laid maxFill).length = s.length.value.toNat := by
  have hreaches := (Walk.sound s maxFill).reaches complete
  rw [laid, List.length_take]
  omega

/-- The image below the declared length is what the pieces say. -/
theorem getElem?_laid (hp : p ∈ (s.walk maxFill).pieces) {x : Nat} (high : x < s.length.value)
    (hx : p.Covers x) : (s.laid maxFill)[x]? = p.bytes[x - p.start]? := by
  rw [laid, List.getElem?_take_of_lt (by omega)]
  exact (Walk.sound s maxFill).tiles.byte hp hx

/-- A fragment laid is found in the image at its own offset. -/
theorem getElem?_of_lays (hi : (s.walk maxFill).Lays i) (hf : s.fragments[i]? = some f) {x : Nat}
    (high : x < s.length.value) (hx : f.Covers x) :
    (s.laid maxFill)[x]? = f.bytes[x - f.offset.toNat]? := by
  obtain ⟨p, hp, hi⟩ := hi
  obtain ⟨hoffset, hbytes⟩ := eq_of_source hp hi hf
  rw [getElem?_laid hp high ((covers_iff hp hi hf).mp hx), hoffset, hbytes, Int.toNat_natCast]

/-- A position at which no accepted fragment lies holds zero. -/
theorem zero_of_uncovered (complete : (s.walk maxFill).ending = .complete) {x : Nat}
    (high : x < s.length.value)
    (free : ∀ i f, s.Accepts maxFill i → s.fragments[i]? = some f → ¬ f.Covers x) :
    (s.laid maxFill)[x]? = some 0 := by
  have hsound := Walk.sound s maxFill
  have hreaches := hsound.reaches complete
  obtain ⟨p, hp, hx⟩ := hsound.tiles.exists_piece (Nat.zero_le x) (by
    show x < 0 + (s.walk maxFill).bytes.length
    omega)
  have hlt : x - p.start < p.bytes.length := by
    have := hx.1
    have := hx.2
    unfold Piece.finish at this
    omega
  rw [getElem?_laid hp high hx, List.getElem?_eq_getElem hlt]
  cases hi : p.source with
  | none =>
    have hzeros := hsound.sources p hp
    rw [Piece.IsFrom, hi] at hzeros
    exact congrArg some (hzeros _ (List.getElem_mem hlt))
  | some i =>
    obtain ⟨f, hf, _⟩ := exists_fragment hp hi
    have nonempty : p.bytes ≠ [] := List.ne_nil_of_length_pos (by omega)
    exact absurd ((covers_iff hp hi hf).mpr hx) (free i f ⟨p, hp, hi, nonempty⟩ hf)

/-! ### Fragments turned down -/

/-- The fate of a fragment on the walk along the whole segment. -/
theorem fate (complete : (s.walk maxFill).ending = .complete)
    (sorted : Fragment.Sorted s.fragments.toList) (hf : s.fragments[i]? = some f)
    (high : f.offset < s.length.value) :
    (s.walk maxFill).Fate s.length.value 0 i f.offset :=
  Walk.along_fate rfl complete sorted (Nat.zero_le i) (Array.getElem?_toList.trans hf) high

/-- What is taken before a fragment is taken by one accepted before it. -/
theorem exists_of_isTakenAt {offset : Int} (h : (s.walk maxFill).IsTakenAt offset i) :
    ∃ j g, j < i ∧ s.Accepts maxFill j ∧ s.fragments[j]? = some g ∧ g.Covers offset := by
  obtain ⟨p, hp, ⟨j, hj, hsource⟩, low, high⟩ := h
  obtain ⟨g, hg, hoffset, hbytes⟩ := exists_fragment hp hsource
  unfold Piece.finish at high
  refine ⟨j, g, hj, ⟨p, hp, hsource, List.ne_nil_of_length_pos (by omega)⟩, hg, ?_⟩
  rw [Fragment.Covers, hoffset, hbytes]
  exact ⟨low, by omega⟩

/-- A fragment behind which the image is complete takes every offset not before it. -/
theorem isTakenAt_of_isFullAt (sorted : Fragment.Sorted s.fragments.toList)
    (h : (s.walk maxFill).IsFullAt s.length.value i) (hf : s.fragments[i]? = some f)
    (high : f.offset < s.length.value) : (s.walk maxFill).IsTakenAt f.offset i := by
  obtain ⟨p, hp, ⟨j, hj, hsource⟩, hfull⟩ := h
  obtain ⟨g, hg, hoffset, _⟩ := exists_fragment hp hsource
  have hle : g.offset ≤ f.offset :=
    sorted.le (Nat.le_of_lt hj) (Array.getElem?_toList.trans hg) (Array.getElem?_toList.trans hf)
  exact ⟨p, hp, ⟨j, hj, hsource⟩, by omega, by omega⟩

theorem rejected_iff (complete : (s.walk maxFill).ending = .complete)
    (sorted : Fragment.Sorted s.fragments.toList) (hf : s.fragments[i]? = some f)
    (nonempty : f.bytes ≠ []) (low : 0 ≤ f.offset) (high : f.offset < s.length.value) :
    ¬ s.Accepts maxFill i ↔
      ∃ j g, j < i ∧ s.Accepts maxFill j ∧ s.fragments[j]? = some g ∧ g.Covers f.offset := by
  constructor
  · intro rejected
    cases fate complete sorted hf high with
    | laid lays _ _ => exact absurd (accepts_of_lays lays hf nonempty) rejected
    | skipped _ _ _ taken =>
      rcases taken with behind | taken
      · omega
      · exact exists_of_isTakenAt taken
    | unexamined _ _ full =>
      rcases full with full | full
      · omega
      · exact exists_of_isTakenAt (isTakenAt_of_isFullAt sorted full hf high)
  · rintro ⟨j, g, hj, haccepts, hg, hcovers⟩ accepts
    have self : f.Covers f.offset := ⟨Int.le_refl _, by
      have := List.length_pos_iff.mpr nonempty
      omega⟩
    have := eq_of_covers (lays_of_accepts haccepts) (lays_of_accepts accepts) hg hf hcovers self
    omega

/-! ### Images that can be read -/

theorem laid_composes (complete : (s.walk maxFill).ending = .complete)
    (sorted : Fragment.Sorted s.fragments.toList) (low : ∀ f ∈ s.fragments, 0 ≤ f.offset) :
    Composes s.fragments s.length.value (s.Accepts maxFill) (s.laid maxFill) where
  nonempty i := by
    rintro ⟨p, hp, hi, nonempty⟩
    obtain ⟨f, hf, _, hbytes⟩ := exists_fragment hp hi
    exact ⟨f, hf, hbytes ▸ nonempty⟩
  disjoint i j f g x hi hj hf hg hfx hgx :=
    eq_of_covers (lays_of_accepts hi) (lays_of_accepts hj) hf hg hfx hgx
  size := length_laid complete
  covered i f x high hi hf hx := getElem?_of_lays (lays_of_accepts hi) hf high hx
  uncovered x high free := zero_of_uncovered complete high free
  rejected i f hf nonempty high :=
    rejected_iff complete sorted hf nonempty (low f (Array.mem_of_getElem? hf)) high

/-- **An image that can be read is composed of the fragments accepted**, where of two
fragments that overlap the earlier is. -/
theorem image_composes (s after : Segment) (maxFill : Int) (image : Packed)
    (sorted : Fragment.Sorted s.fragments.toList) (low : ∀ f ∈ s.fragments, 0 ≤ f.offset)
    (h : (readImage maxFill).run s = .ok image after) :
    ∃ accepted : Nat → Prop, Composes s.fragments s.length.value accepted image.toBytes := by
  obtain ⟨complete, hbytes⟩ := complete_of_readImage h
  exact ⟨s.Accepts maxFill, hbytes ▸ laid_composes complete sorted low⟩

end

open scoped CommonMachine

/-- A fragment that starts inside the one before it. -/
theorem overlap_composes :
    ∃ image accepted,
      (readImage 2).run (holding 8 [(0, [1, 2, 3, 4]), (2, [5, 5]), (4, [6, 7])]) =
        .ok image
          { holding 8 [(0, [1, 2, 3, 4]), (2, [5, 5]), (4, [6, 7])] with isFrozen := true } ∧
      Composes (holding 8 [(0, [1, 2, 3, 4]), (2, [5, 5]), (4, [6, 7])]).fragments 8 accepted
        image.toBytes := by
  have complete :
      ((holding 8 [(0, [1, 2, 3, 4]), (2, [5, 5]), (4, [6, 7])]).walk 2).ending = .complete := by
    decide
  obtain ⟨image, h⟩ := readImage_of_complete complete
  obtain ⟨accepted, hcomposes⟩ := image_composes _ _ 2 image (by decide) (by decide) h
  exact ⟨image, accepted, h, hcomposes⟩

end Segment
end ObjectModule
