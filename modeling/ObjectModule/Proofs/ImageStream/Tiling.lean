import ObjectModule.Proofs.ImageStream.Walk

/-! What the pieces of a walk are.

The pieces of a walk lie end to end (`Tiles`), so a position within them lies in
exactly one, and the byte of the image there is the byte of that piece. Each is
either zeros or the bytes of a fragment at the offset of that fragment
(`Piece.IsFrom`), fragments come in the order of the list, and a walk that is
complete reaches the declared length. `Walk.Sound` says all of that of a walk from any
position along any rest of the list, and every walk is sound (`Walk.along_sound`). -/
namespace ObjectModule

/-- The bytes a fragment stands for. -/
def Fragment.bytes (f : Fragment) : Bytes := f.payload.expand.toBytes

theorem Fragment.toBytes_of_contents [Machine] {f : Fragment} {content : Packed}
    (h : f.contents = .ok content) : content.toBytes = f.bytes := by
  rw [contents] at h
  cases hc : f.check with
  | error cause =>
    rw [hc] at h
    cases h
  | ok _ =>
    rw [hc] at h
    cases h
    rfl

/-! ### Pieces end to end -/

/-- Whether a position lies in a piece. -/
def Piece.Covers (p : Piece) (x : Nat) : Prop := p.start ≤ x ∧ x < p.finish

/-- The pieces lie end to end from a position on. -/
def Tiles : Nat → List Piece → Prop
  | _, [] => True
  | position, p :: rest => p.start = position ∧ Tiles p.finish rest

namespace Tiles
variable {position x : Nat} {pieces : List Piece} {p q : Piece}

theorem le_start (h : Tiles position pieces) (hp : p ∈ pieces) : position ≤ p.start := by
  induction pieces generalizing position with
  | nil => cases hp
  | cons q rest ih =>
    obtain ⟨hstart, hrest⟩ := h
    rcases List.mem_cons.mp hp with rfl | hp
    · exact Nat.le_of_eq hstart.symm
    · have := ih hrest hp
      unfold Piece.finish at this
      omega

/-- Every position within the pieces lies in one of them. -/
theorem exists_piece (h : Tiles position pieces) (low : position ≤ x)
    (high : x < position + (pieces.flatMap Piece.bytes).length) : ∃ p ∈ pieces, p.Covers x := by
  induction pieces generalizing position with
  | nil => exact absurd high (Nat.not_lt.mpr low)
  | cons q rest ih =>
    obtain ⟨hstart, hrest⟩ := h
    rw [List.flatMap_cons, List.length_append] at high
    by_cases here : x < q.finish
    · exact ⟨q, List.mem_cons_self, Nat.le_trans (Nat.le_of_eq hstart) low, here⟩
    · obtain ⟨p, hp, hx⟩ := ih hrest (Nat.not_lt.mp here) (by
        unfold Piece.finish
        omega)
      exact ⟨p, List.mem_cons_of_mem _ hp, hx⟩

/-- No position lies in two pieces. -/
theorem unique (h : Tiles position pieces) (hp : p ∈ pieces) (hq : q ∈ pieces)
    (hpx : p.Covers x) (hqx : q.Covers x) : p = q := by
  induction pieces generalizing position with
  | nil => cases hp
  | cons first rest ih =>
    rcases List.mem_cons.mp hp with rfl | hp' <;> rcases List.mem_cons.mp hq with rfl | hq'
    · rfl
    · exact absurd (h.2.le_start hq') (Nat.not_le.mpr (Nat.lt_of_le_of_lt hqx.1 hpx.2))
    · exact absurd (h.2.le_start hp') (Nat.not_le.mpr (Nat.lt_of_le_of_lt hpx.1 hqx.2))
    · exact ih h.2 hp' hq'

/-- The byte at a position is the byte of the piece it lies in. -/
theorem byte (h : Tiles position pieces) (hp : p ∈ pieces) (hx : p.Covers x) :
    (pieces.flatMap Piece.bytes)[x - position]? = p.bytes[x - p.start]? := by
  induction pieces generalizing position with
  | nil => cases hp
  | cons q rest ih =>
    obtain ⟨hstart, hrest⟩ := h
    have hfinish : q.finish = position + q.bytes.length := by rw [← hstart, Piece.finish]
    rw [List.flatMap_cons]
    rcases List.mem_cons.mp hp with rfl | hp
    · obtain ⟨low, high⟩ := hx
      rw [List.getElem?_append_left (by omega), hstart]
    · have hbehind := hrest.le_start hp
      have low := hx.1
      rw [List.getElem?_append_right (by omega), ← ih hrest hp, hfinish, Nat.sub_sub]

end Tiles

/-! ### Sound walks -/

/-- Zeros, or the bytes of one of the fragments at its offset. -/
def Piece.IsFrom (fragments : List Fragment) (p : Piece) : Prop :=
  match p.source with
  | none => ∀ byte ∈ p.bytes, byte = 0
  | some i => ∃ f, fragments[i]? = some f ∧ f.offset = p.start ∧ f.bytes = p.bytes

namespace Walk

/-- What holds of every walk from a position along the fragments from a place on. -/
structure Sound (fragments : List Fragment) (length : Int) (index position : Nat) (w : Walk) :
    Prop where
  tiles : Tiles position w.pieces
  below : ∀ p ∈ w.pieces, p.start < length
  sources : ∀ p ∈ w.pieces, p.IsFrom fragments
  /-- Fragments before the place are not laid any more. -/
  later : ∀ p ∈ w.pieces, ∀ i, p.source = some i → index ≤ i
  recorded : ∀ r ∈ w.skipped, index ≤ r.index ∧
    ∃ f, fragments[r.index]? = some f ∧ f.offset = r.offset
  reaches : w.ending = .complete → length ≤ position + w.bytes.length

namespace Sound
variable {fragments : List Fragment} {length : Int} {index position : Nat} {w : Walk}

theorem stop {ending : Ending} (h : ending = .complete → length ≤ position) :
    Sound fragments length index position (stop ending) where
  tiles := trivial
  below _ hp := nomatch hp
  sources _ hp := nomatch hp
  later _ hp := nomatch hp
  recorded _ hr := nomatch hr
  reaches := h

theorem skip {record : SkippedFragment} {f : Fragment}
    (h : Sound fragments length (index + 1) position w) (hf : fragments[index]? = some f)
    (hindex : record.index = index) (hoffset : record.offset = f.offset) :
    Sound fragments length index position (w.skip record) where
  tiles := h.tiles
  below := h.below
  sources := h.sources
  later p hp i hi := Nat.le_of_succ_le (h.later p hp i hi)
  recorded r hr := by
    rcases List.mem_cons.mp hr with rfl | hr
    · exact ⟨Nat.le_of_eq hindex.symm, f, hindex ▸ hf, hoffset.symm⟩
    · obtain ⟨hlater, hfragment⟩ := h.recorded r hr
      exact ⟨Nat.le_of_succ_le hlater, hfragment⟩
  reaches := h.reaches

/-- A piece, zeros or the bytes of the next fragment, before a sound walk. -/
theorem lay {p : Piece} {next : Nat} (h : Sound fragments length next p.finish w)
    (hnext : index ≤ next) (hstart : p.start = position) (hbelow : p.start < length)
    (hfrom : p.IsFrom fragments) (hsource : ∀ i, p.source = some i → index ≤ i) :
    Sound fragments length index position (w.lay p) where
  tiles := ⟨hstart, h.tiles⟩
  below q hq := by
    rcases List.mem_cons.mp hq with rfl | hq
    · exact hbelow
    · exact h.below q hq
  sources q hq := by
    rcases List.mem_cons.mp hq with rfl | hq
    · exact hfrom
    · exact h.sources q hq
  later q hq i hi := by
    rcases List.mem_cons.mp hq with rfl | hq
    · exact hsource i hi
    · exact Nat.le_trans hnext (h.later q hq i hi)
  recorded r hr := by
    obtain ⟨hlater, hfragment⟩ := h.recorded r hr
    exact ⟨Nat.le_trans hnext hlater, hfragment⟩
  reaches complete := by
    have := h.reaches complete
    have hbytes : (w.lay p).bytes = p.bytes ++ w.bytes := List.flatMap_cons
    rw [hbytes, List.length_append]
    unfold Piece.finish at this
    omega

variable [Machine]

theorem fill {maxFill : Int} {width : Nat} {hole : Hole}
    (h : Sound fragments length index (position + width) w) (more : position < length) :
    Sound fragments length index position (fill maxFill position width hole w) := by
  unfold Walk.fill
  split
  · exact stop (fun complete => nomatch complete)
  · split
    · exact stop (fun complete => nomatch complete)
    · refine lay ?_ (Nat.le_refl _) rfl more ?_ (fun i hi => nomatch hi)
      · rwa [Piece.finish, List.length_replicate]
      · exact fun byte hbyte => List.eq_of_mem_replicate hbyte

theorem land {f : Fragment} {onward : Nat → Walk} (hf : fragments[index]? = some f)
    (here : f.offset = position)
    (h : ∀ after, Sound fragments length (index + 1) after (onward after)) :
    Sound fragments length index position (land length f index position onward) := by
  unfold Walk.land
  split
  · next done => exact stop fun _ => done
  · next more =>
    split
    · exact stop (fun complete => nomatch complete)
    · next content hc =>
      refine lay (h _) (Nat.le_succ _) rfl (Int.not_le.mp more) ?_ ?_
      · exact ⟨f, hf, here, (Fragment.toBytes_of_contents hc).symm⟩
      · intro i hi
        exact Nat.le_of_eq (Option.some.inj hi)

end Sound

theorem getElem?_of_drop {fragments rest : List Fragment} {f : Fragment} {index : Nat}
    (h : fragments.drop index = f :: rest) :
    fragments[index]? = some f ∧ fragments.drop (index + 1) = rest := by
  have hhead : (fragments.drop index)[0]? = some f := by rw [h, List.getElem?_cons_zero]
  rw [List.getElem?_drop, Nat.add_zero] at hhead
  refine ⟨hhead, ?_⟩
  rw [← List.drop_drop, h, List.drop_one, List.tail_cons]

variable [Machine]

/-- **Every walk is sound**: its pieces lie end to end and are what they should be. -/
theorem along_sound (s : Segment) (maxFill length : Int) {fragments ahead : List Fragment}
    {index : Nat} (hahead : fragments.drop index = ahead) (position : Nat) :
    Sound fragments length index position (along s maxFill length ahead index position) := by
  induction ahead generalizing index position with
  | nil =>
    rw [along]
    split
    · next done => exact .stop fun _ => done
    · next more => exact .fill (.stop fun _ => by omega) (by omega)
  | cons f rest ih =>
    obtain ⟨hf, hrest⟩ := getElem?_of_drop hahead
    rw [along]
    split
    · next done => exact .stop fun _ => done
    · next more =>
      split
      · exact .skip (ih hrest position) hf rfl rfl
      · split
        · next here => exact .land hf here (ih hrest)
        · next there =>
          have place : position + (f.offset - position).toNat = f.offset.toNat := by omega
          refine .fill ?_ (by omega)
          rw [place]
          exact .land hf (by omega) (ih hrest)

theorem sound (s : Segment) (maxFill : Int) :
    (s.walk maxFill).Sound s.fragments.toList s.length.value 0 0 :=
  along_sound s maxFill s.length.value rfl 0

end Walk
end ObjectModule
