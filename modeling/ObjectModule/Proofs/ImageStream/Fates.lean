import ObjectModule.Proofs.ImageStream.Tiling

/-! What becomes of a fragment.

If the fragments are sorted and a walk is complete, a fragment that starts below the
declared length has one of three fates: its bytes are laid; or it is recorded as
skipped, once, because it starts inside a fragment laid before it; or the image was
complete before the walk came to it, in which case nothing is heard of it. The last
happens exactly if a fragment laid before it reaches the declared length
(`Walk.fate`). The proof follows a walk from any position, and what is asked of a piece
laid on the way is only that it comes from an earlier fragment or fills a gap that
ends before the one in question (`Fate.lay`). -/
namespace ObjectModule

/-- Whether fragments come in the order of their offsets. -/
def Fragment.Sorted (fragments : List Fragment) : Prop :=
  fragments.Pairwise fun f g => f.offset ≤ g.offset

instance (fragments : List Fragment) : Decidable (Fragment.Sorted fragments) :=
  inferInstanceAs (Decidable (fragments.Pairwise fun f g => f.offset ≤ g.offset))

theorem Fragment.Sorted.le {fragments : List Fragment} {f g : Fragment} {i j : Nat}
    (h : Sorted fragments) (hij : i ≤ j) (hf : fragments[i]? = some f)
    (hg : fragments[j]? = some g) : f.offset ≤ g.offset := by
  obtain ⟨hi, rfl⟩ := List.getElem?_eq_some_iff.mp hf
  obtain ⟨hj, rfl⟩ := List.getElem?_eq_some_iff.mp hg
  rcases Nat.lt_or_eq_of_le hij with hlt | rfl
  · exact List.pairwise_iff_getElem.mp h i j hi hj hlt
  · exact Int.le_refl _

/-- How often the fragment at a place is recorded as skipped. -/
def timesRecorded (i : Nat) (skipped : List SkippedFragment) : Nat :=
  skipped.countP (·.index == i)

/-- Whether a piece comes from a fragment before a place. -/
def Piece.IsBefore (i : Nat) (p : Piece) : Prop := ∃ j < i, p.source = some j

namespace Walk

/-- Whether the bytes of the fragment at a place are laid. -/
def Lays (w : Walk) (i : Nat) : Prop := ∃ p ∈ w.pieces, p.source = some i

/-- Whether the image is complete with what is laid before a place. -/
def IsFullAt (w : Walk) (length : Int) (i : Nat) : Prop :=
  ∃ p ∈ w.pieces, p.IsBefore i ∧ length ≤ p.finish

/-- Whether an offset lies in what is laid before a place. -/
def IsTakenAt (w : Walk) (offset : Int) (i : Nat) : Prop :=
  ∃ p ∈ w.pieces, p.IsBefore i ∧ p.start ≤ offset ∧ offset < p.finish

/-- What becomes of the fragment at a place, on a walk from a position. -/
inductive Fate (w : Walk) (length : Int) (position i : Nat) (offset : Int) : Prop where
  | laid (lays : w.Lays i) (records : timesRecorded i w.skipped = 0)
      (room : ¬ (length ≤ position ∨ w.IsFullAt length i))
  | skipped (lays : ¬ w.Lays i) (records : timesRecorded i w.skipped = 1)
      (room : ¬ (length ≤ position ∨ w.IsFullAt length i))
      (taken : offset < position ∨ w.IsTakenAt offset i)
  | unexamined (lays : ¬ w.Lays i) (records : timesRecorded i w.skipped = 0)
      (full : length ≤ position ∨ w.IsFullAt length i)

variable {w : Walk} {p : Piece} {length offset : Int} {i index position : Nat}
  {fragments : List Fragment}

theorem lays_lay : (w.lay p).Lays i ↔ p.source = some i ∨ w.Lays i := by
  simp only [Lays, lay, List.mem_cons, exists_eq_or_imp]

theorem isFullAt_lay :
    (w.lay p).IsFullAt length i ↔ (p.IsBefore i ∧ length ≤ p.finish) ∨ w.IsFullAt length i := by
  simp only [IsFullAt, lay, List.mem_cons, exists_eq_or_imp]

theorem isTakenAt_lay :
    (w.lay p).IsTakenAt offset i ↔
      (p.IsBefore i ∧ p.start ≤ offset ∧ offset < p.finish) ∨ w.IsTakenAt offset i := by
  simp only [IsTakenAt, lay, List.mem_cons, exists_eq_or_imp]

theorem timesRecorded_skip (record : SkippedFragment) :
    timesRecorded i (w.skip record).skipped =
      timesRecorded i w.skipped + if record.index == i then 1 else 0 :=
  List.countP_cons

/-! ### What lies before the place a walk starts at -/

namespace Sound

theorem not_lays (h : Sound fragments length index position w) (hi : i < index) : ¬ w.Lays i := by
  rintro ⟨p, hp, hsource⟩
  exact absurd (h.later p hp i hsource) (Nat.not_le.mpr hi)

theorem not_isFullAt (h : Sound fragments length index position w) (hi : i ≤ index) :
    ¬ w.IsFullAt length i := by
  rintro ⟨p, hp, ⟨j, hj, hsource⟩, _⟩
  have := h.later p hp j hsource
  omega

theorem timesRecorded_eq_zero (h : Sound fragments length index position w) (hi : i < index) :
    timesRecorded i w.skipped = 0 := by
  refine List.countP_eq_zero.mpr fun r hr same => ?_
  have := (h.recorded r hr).1
  rw [beq_iff_eq] at same
  omega

end Sound

/-! ### Fates on the way -/

namespace Fate

/-- Where the image is complete nothing more is examined. -/
theorem stop {ending : Ending} (full : length ≤ position) :
    Fate (stop ending) length position i offset :=
  .unexamined (fun ⟨_, hp, _⟩ => nomatch hp) rfl (.inl full)

/-- Skipping another fragment changes nothing. -/
theorem skip {record : SkippedFragment} (h : Fate w length position i offset)
    (other : record.index ≠ i) : Fate (w.skip record) length position i offset := by
  have same : timesRecorded i (w.skip record).skipped = timesRecorded i w.skipped := by
    rw [timesRecorded_skip, if_neg (by rwa [beq_iff_eq]), Nat.add_zero]
  cases h with
  | laid lays records room => exact .laid lays (same.trans records) room
  | skipped lays records room taken => exact .skipped lays (same.trans records) room taken
  | unexamined lays records full => exact .unexamined lays (same.trans records) full

/-- The fate of a fragment is the same seen from before a piece of an earlier fragment, or
a gap that ends before the fragment. -/
theorem lay (h : Fate w length p.finish i offset) (high : offset < length)
    (hp : p.IsBefore i ∨ (p.source = none ∧ p.finish ≤ offset)) :
    Fate (w.lay p) length p.start i offset := by
  have hother : p.source ≠ some i := by
    intro hi
    rcases hp with ⟨j, hj, hsource⟩ | ⟨hsource, _⟩
    · exact absurd (Option.some.inj (hsource.symm.trans hi)) (Nat.ne_of_lt hj)
    · cases hsource.symm.trans hi
  have hlays : (w.lay p).Lays i ↔ w.Lays i := by
    rw [lays_lay]
    exact or_iff_right hother
  -- A gap before the fragment cannot fill the image: the fragment is below the length.
  have hfull : length ≤ p.finish ∨ w.IsFullAt length i ↔
      length ≤ p.start ∨ (w.lay p).IsFullAt length i := by
    rw [isFullAt_lay]
    have hle : p.start ≤ p.finish := Nat.le_add_right ..
    constructor
    · rintro (full | full)
      · rcases hp with before | ⟨_, hend⟩
        · exact .inr (.inl ⟨before, full⟩)
        · omega
      · exact .inr (.inr full)
    · rintro (full | ⟨_, full⟩ | full)
      · exact .inl (by omega)
      · exact .inl full
      · exact .inr full
  cases h with
  | laid lays records room => exact .laid (hlays.mpr lays) records ((not_congr hfull).mp room)
  | skipped lays records room taken =>
    refine .skipped ((not_congr hlays).mpr lays) records ((not_congr hfull).mp room) ?_
    rw [isTakenAt_lay]
    rcases taken with behind | taken
    · by_cases here : offset < p.start
      · exact .inl here
      · rcases hp with before | ⟨_, hend⟩
        · exact .inr (.inl ⟨before, by omega, behind⟩)
        · omega
    · exact .inr (.inr taken)
  | unexamined lays records full =>
    exact .unexamined ((not_congr hlays).mpr lays) records (hfull.mp full)

end Fate

/-! ### The fate of every fragment -/

/-- The fate of the fragments from one on that starts behind the walk. -/
theorem skip_fate {record : SkippedFragment} {g f : Fragment} (more : position < length)
    (hg : fragments[index]? = some g) (hf : fragments[i]? = some f) (hi : index ≤ i)
    (behind : g.offset < position) (hrecord : record.index = index)
    (sound : Sound fragments length (index + 1) position w)
    (rest : index < i → Fate w length position i f.offset) :
    Fate (w.skip record) length position i f.offset := by
  by_cases here : i = index
  · subst here
    obtain rfl : g = f := Option.some.inj (hg.symm.trans hf)
    have none : timesRecorded i w.skipped = 0 := sound.timesRecorded_eq_zero (Nat.lt_succ_self i)
    refine .skipped (sound.not_lays (Nat.lt_succ_self i)) ?_ ?_ (.inl behind)
    · rw [timesRecorded_skip, none, hrecord, beq_self_eq_true]
      rfl
    · rintro (full | full)
      · omega
      · exact sound.not_isFullAt (Nat.le_succ i) full
  · have hlt : index < i := by omega
    exact (rest hlt).skip fun same => here (same.symm.trans hrecord)

variable [Machine]

/-- The fate of a fragment that starts behind a gap. -/
theorem fill_fate {maxFill : Int} {width : Nat} {hole : Hole} (high : offset < length)
    (hend : (position + width : Nat) ≤ offset)
    (complete : (fill maxFill position width hole w).ending = .complete)
    (h : w.ending = .complete → Fate w length (position + width) i offset) :
    Fate (fill maxFill position width hole w) length position i offset := by
  rw [fill] at complete ⊢
  split at complete
  · cases complete
  · next narrow =>
    rw [if_neg narrow]
    split at complete
    · cases complete
    · let gap : Piece := ⟨position, List.replicate width 0, none⟩
      have hfinish : gap.finish = position + width := by
        rw [Piece.finish, List.length_replicate]
      show Fate (w.lay gap) length gap.start i offset
      refine Fate.lay ?_ high (.inr ⟨rfl, ?_⟩)
      · rw [hfinish]
        exact h complete
      · rwa [hfinish]

/-- The fate of the fragments from one on that starts where the walk is. -/
theorem land_fate {g : Fragment} {onward : Nat → Walk} (more : position < length)
    (high : offset < length) (hi : index ≤ i)
    (complete : (land length g index position onward).ending = .complete)
    (sound : ∀ after, Sound fragments length (index + 1) after (onward after))
    (rest : ∀ after, index < i → (onward after).ending = .complete →
      Fate (onward after) length after i offset) :
    Fate (land length g index position onward) length position i offset := by
  rw [land, if_neg (by omega)] at complete ⊢
  cases hc : g.contents with
  | error cause =>
    rw [hc] at complete
    cases complete
  | ok content =>
    rw [hc] at complete
    let next := onward (position + content.size)
    have hsound : Sound fragments length (index + 1) (position + content.size) next := sound _
    show Fate (next.lay ⟨position, content.toBytes, some index⟩) length position i offset
    by_cases here : i = index
    · subst here
      refine .laid (lays_lay.mpr (.inl rfl)) (hsound.timesRecorded_eq_zero (Nat.lt_succ_self i)) ?_
      rw [isFullAt_lay]
      rintro (full | ⟨⟨j, hj, hsource⟩, _⟩ | full)
      · omega
      · exact absurd (Option.some.inj hsource) (Nat.ne_of_gt hj)
      · exact hsound.not_isFullAt (Nat.le_succ i) full
    · have hlt : index < i := by omega
      exact (rest _ hlt complete).lay high (.inl ⟨index, hlt, rfl⟩)

theorem along_fate {s : Segment} {maxFill : Int} {ahead : List Fragment} {f : Fragment}
    (hahead : fragments.drop index = ahead)
    (complete : (along s maxFill length ahead index position).ending = .complete)
    (sorted : Fragment.Sorted fragments) (hi : index ≤ i) (hf : fragments[i]? = some f)
    (high : f.offset < length) :
    Fate (along s maxFill length ahead index position) length position i f.offset := by
  induction ahead generalizing index position with
  | nil =>
    have := List.drop_eq_nil_iff.mp hahead
    have := (List.getElem?_eq_some_iff.mp hf).1
    omega
  | cons g rest ih =>
    obtain ⟨hg, hrest⟩ := getElem?_of_drop hahead
    have hle : g.offset ≤ f.offset := sorted.le hi hg hf
    have hnext (after : Nat) (hlt : index < i)
        (complete : (along s maxFill length rest (index + 1) after).ending = .complete) :
        Fate (along s maxFill length rest (index + 1) after) length after i f.offset :=
      ih hrest complete hlt
    have hsound := along_sound s maxFill length hrest
    rw [along] at complete ⊢
    by_cases full : length ≤ position
    · rw [if_pos full]
      exact .stop full
    · rw [if_neg full] at complete ⊢
      by_cases behind : g.offset < position
      · rw [if_pos behind] at complete ⊢
        exact skip_fate (by omega) hg hf hi behind rfl (hsound position)
          fun hlt => hnext position hlt complete
      · rw [if_neg behind] at complete ⊢
        by_cases here : g.offset = position
        · rw [if_pos here] at complete ⊢
          exact land_fate (by omega) high hi complete hsound hnext
        · have place : position + (g.offset - position).toNat = g.offset.toNat := by omega
          rw [if_neg here] at complete ⊢
          refine fill_fate high (by omega) complete fun landed => ?_
          rw [place]
          exact land_fate (by omega) high hi landed hsound hnext

end Walk
end ObjectModule
