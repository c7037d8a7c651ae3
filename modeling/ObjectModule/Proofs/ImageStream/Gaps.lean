import ObjectModule.CommonMachine
import ObjectModule.Proofs.ImageStream.Fates
import ObjectModule.Proofs.ImageStream.Widening

/-! How long the gaps of an image can be.

Every time a stream fills a gap it asks whether the gap is wider than `maxFill`. Two fills
may meet, though, where a fragment starts that has no bytes to give: it is empty, or may not
be expanded. `Tracked` follows a stream through calls of any kind and says of every piece
that fills a gap which gap that is: it ends no more than `maxFill` behind a place where a
gap may open (`OpensAt`), and the one place of that kind inside a run of zeros is such a
fragment. Hence a run without one is no longer than `maxFill` (`filled_run_le`). -/
namespace ObjectModule

section
variable [Machine]

/-- Whether a fragment has no bytes to give: it is empty, or they cannot be had. -/
def Fragment.isVoid (f : Fragment) : Bool :=
  match f.contents with
  | .ok content => content.size == 0
  | .error _ => true

/-- Zeros, or some of the bytes of a fragment in their place. -/
def Piece.IsPartOf (fragments : List Fragment) (p : Piece) : Prop :=
  match p.source with
  | none => ∀ byte ∈ p.bytes, byte = 0
  | some i => ∃ f, fragments[i]? = some f ∧ f.offset ≤ p.start ∧
      p.bytes <+: f.bytes.drop (p.start - f.offset).toNat

instance (p : Piece) (x : Nat) : Decidable (p.Covers x) :=
  inferInstanceAs (Decidable (p.start ≤ x ∧ x < p.finish))

/-- Whether a position lies in a piece that fills a gap. -/
def FilledAt (pieces : List Piece) (x : Nat) : Prop := ∃ p ∈ pieces, p.source = none ∧ p.Covers x

instance (pieces : List Piece) (x : Nat) : Decidable (FilledAt pieces x) :=
  inferInstanceAs (Decidable (∃ p ∈ pieces, p.source = none ∧ p.Covers x))

/-- Whether all positions from one up to another lie in pieces that fill gaps. -/
def FilledFrom (pieces : List Piece) (first last : Nat) : Prop :=
  ∀ x < last, first ≤ x → FilledAt pieces x

instance (pieces : List Piece) (first last : Nat) : Decidable (FilledFrom pieces first last) :=
  inferInstanceAs (Decidable (∀ x < last, first ≤ x → FilledAt pieces x))

/-- Whether a fragment with no bytes to give starts between two positions. -/
def Segment.IsSplitWithin (s : Segment) (first last : Nat) : Prop :=
  ∃ f ∈ s.fragments, f.isVoid = true ∧ first < f.offset ∧ f.offset < last

instance (s : Segment) (first last : Nat) : Decidable (s.IsSplitWithin first last) :=
  inferInstanceAs (Decidable (∃ f ∈ s.fragments, f.isVoid = true ∧ first < f.offset ∧
    f.offset < last))

/-- Whether a gap may open at a position: at the start, behind anything but the zeros of
another gap, or where a fragment starts that has no bytes to give. -/
def OpensAt (s : Segment) (before : List Piece) (x : Nat) : Prop :=
  x = 0 ∨ ¬ FilledAt before (x - 1) ∨ ∃ f ∈ s.fragments, f.isVoid = true ∧ f.offset = x

theorem OpensAt.append {s : Segment} {before : List Piece} {p : Piece} {x : Nat}
    (h : OpensAt s before x) (hx : x ≤ p.start) : OpensAt s (before ++ [p]) x := by
  by_cases start : x = 0
  · exact .inl start
  · refine h.imp_right (Or.imp_left fun free filled => free ?_)
    obtain ⟨q, hq, hsource, hcovers⟩ := filled
    rcases List.mem_append.mp hq with hq | hq
    · exact ⟨q, hq, hsource, hcovers⟩
    · obtain rfl := List.mem_singleton.mp hq
      have := hcovers.1
      omega

end

namespace ImageStream

/-- Where zeros from the position on end. -/
def gapEnd (st : ImageStream) : Int :=
  match st.ahead with
  | [] => st.length
  | f :: _ => f.offset

/-- Whether the stream is delivering zeros. -/
def IsFilling (st : ImageStream) : Prop := ∃ n, 0 < n ∧ st.pending = .zeros n

/-- Whether all but the first `passed` bytes of a content are what is left, at the position,
of the fragment passed last. -/
def IsTaking (s : Segment) (st : ImageStream) (content : Packed) (passed : Nat) : Prop :=
  ∃ f, s.fragments.toList[st.passed - 1]? = some f ∧ f.offset + passed = st.position ∧
    f.bytes = content.toBytes

/-- What is known of the pieces that a stream has produced. -/
structure Produced [Machine] (s : Segment) (maxFill : Int) (before : List Piece)
    (st : ImageStream) : Prop where
  limit : st.maxFill = maxFill
  ahead : s.fragments.toList.drop st.passed = st.ahead
  behind : ∀ p ∈ before, p.finish ≤ st.position
  parts : ∀ p ∈ before, p.IsPartOf s.fragments.toList
  /-- A piece that fills a gap lies in one which was not too wide. -/
  bounded : ∀ p ∈ before, p.source = none → ∃ first last : Nat, first ≤ p.start ∧
    p.finish ≤ last ∧ (last : Int) - first ≤ maxFill ∧ OpensAt s before first

/-- What is known of a stream besides: what it is delivering, and where the gap opened in
which it stands, if it stands in one. -/
structure Tracked [Machine] (s : Segment) (maxFill : Int) (before : List Piece) (st : ImageStream) :
    Prop extends Produced s maxFill before st where
  taking : ∀ content passed, st.pending = .bytes content passed → passed < content.size →
    IsTaking s st content passed
  filling : ∀ n, st.pending = .zeros n → 0 < n → (st.position : Int) + n = st.gapEnd
  gap : ∃ first ≤ st.position, OpensAt s before first ∧
    (first < st.position ∨ st.IsFilling →
      st.position ≤ st.gapEnd ∧ st.gapEnd - first ≤ maxFill)

variable {s : Segment} {maxFill : Int} {before : List Piece} {st st' : ImageStream} {want : Nat}

theorem tracked_start [Machine] (s : Segment) (maxFill : Int) :
    Tracked s maxFill [] (ofSegment s maxFill) where
  limit := rfl
  ahead := rfl
  behind _ hp := nomatch hp
  parts _ hp := nomatch hp
  bounded _ hp := nomatch hp
  taking _ _ h := nomatch h
  filling n h hn := by
    cases h
    exact absurd hn (Nat.lt_irrefl 0)
  gap := by
    refine ⟨0, Nat.le_refl 0, .inl rfl, ?_⟩
    rintro (moved | ⟨n, hn, h⟩)
    · exact absurd moved (Nat.lt_irrefl 0)
    · cases h
      exact absurd hn (Nat.lt_irrefl 0)

/-! ### Delivering -/

theorem finish_piece (st : ImageStream) (run : Run) (limit : Nat) :
    (st.piece run limit).finish = st.position + (run.take limit).size := rfl

theorem not_isFilling_of_isEmpty (empty : st.pending.isEmpty = true) : ¬ st.IsFilling := by
  rintro ⟨n, hn, h⟩
  rw [h, Run.isEmpty, beq_iff_eq] at empty
  omega

section
variable [Machine]

theorem Produced.append {p : Piece} (h : Produced s maxFill before st)
    (hstart : p.start = st.position) (hpart : p.IsPartOf s.fragments.toList)
    (hgap : p.source = none → ∃ first last : Nat, first ≤ p.start ∧ p.finish ≤ last ∧
      (last : Int) - first ≤ maxFill ∧ OpensAt s before first) (run : Run) :
    Produced s maxFill (before ++ [p]) (st.deliver run p.bytes.length) where
  limit := h.limit
  ahead := h.ahead
  behind q hq := by
    show q.finish ≤ st.position + p.bytes.length
    rcases List.mem_append.mp hq with hq | hq
    · exact Nat.le_add_right_of_le (h.behind q hq)
    · rw [List.mem_singleton.mp hq]
      exact Nat.le_of_eq (congrArg (· + p.bytes.length) hstart)
  parts q hq := by
    rcases List.mem_append.mp hq with hq | hq
    · exact h.parts q hq
    · rwa [List.mem_singleton.mp hq]
  bounded q hq hsource := by
    have hopen : q.start ≤ p.start → ∀ first ≤ q.start, OpensAt s before first →
        OpensAt s (before ++ [p]) first :=
      fun hle first hfirst hopens => hopens.append (Nat.le_trans hfirst hle)
    rcases List.mem_append.mp hq with hq | hq
    · obtain ⟨first, last, hfirst, hlast, hwidth, hopens⟩ := h.bounded q hq hsource
      have hbehind := h.behind q hq
      unfold Piece.finish at hbehind
      exact ⟨first, last, hfirst, hlast, hwidth, hopen (by omega) first hfirst hopens⟩
    · obtain rfl := List.mem_singleton.mp hq
      obtain ⟨first, last, hfirst, hlast, hwidth, hopens⟩ := hgap hsource
      exact ⟨first, last, hfirst, hlast, hwidth, hopen (Nat.le_refl _) first hfirst hopens⟩

/-- Zeros delivered lie in the gap in which the stream stands. -/
theorem Tracked.fill {n : Nat} (h : Tracked s maxFill before { st with pending := .zeros n })
    (hn : 0 < n) (limit : Nat) :
    Tracked s maxFill (before ++ [st.piece (.zeros n) limit])
      (st.deliver (.zeros n) ((Run.zeros n).take limit).size) := by
  obtain ⟨first, hfirst, hopens, hgap⟩ := h.gap
  obtain ⟨_, hwidth⟩ := hgap (.inr ⟨n, hn, rfl⟩)
  have hend : (st.position : Int) + n = st.gapEnd := h.filling n rfl hn
  have hsize : ((Run.zeros n).take limit).size ≤ n := by
    have := Run.size_take (.zeros n) limit
    rw [Run.toBytes, List.length_replicate] at this
    omega
  have hfirst : first ≤ st.position := hfirst
  have hwidth : st.gapEnd - first ≤ maxFill := hwidth
  refine ⟨?_, (fun _ _ taking => by cases taking), ?_, ?_⟩
  · refine h.toProduced.append (p := st.piece (.zeros n) limit) rfl ?_ ?_ (.zeros n)
    · intro byte hbyte
      refine List.eq_of_mem_replicate (n := n) (List.mem_of_mem_take (i := limit) ?_)
      rwa [← show (Run.zeros n).toBytes = List.replicate n 0 from rfl, ← Run.toBytes_take]
    · intro _
      refine ⟨first, st.gapEnd.toNat, hfirst, ?_, by omega, hopens⟩
      rw [finish_piece]
      omega
  · intro m hm _
    have hm : n - ((Run.zeros n).take limit).size = m := Run.zeros.inj hm
    show ((st.position + ((Run.zeros n).take limit).size : Nat) : Int) + m = st.gapEnd
    omega
  · refine ⟨first, Nat.le_add_right_of_le hfirst, hopens.append hfirst, fun _ => ⟨?_, hwidth⟩⟩
    show ((st.position + ((Run.zeros n).take limit).size : Nat) : Int) ≤ st.gapEnd
    omega

/-- A gap may open behind bytes taken from a fragment. -/
theorem Produced.take {content : Packed} {passed : Nat} (h : Produced s maxFill before st)
    (taking : IsTaking s st content passed) (more : passed < content.size) {limit : Nat}
    (hlimit : 0 < limit) :
    Tracked s maxFill (before ++ [st.piece (.bytes content passed) limit])
      (st.deliver (.bytes content passed) ((Run.bytes content passed).take limit).size) := by
  obtain ⟨f, hf, hoffset, hbytes⟩ := taking
  have hsize : 0 < ((Run.bytes content passed).take limit).size :=
    Run.size_take_pos (by simpa [Run.isEmpty] using more) hlimit
  have hplace : (st.position - f.offset).toNat = passed := by omega
  refine ⟨?_, ?_, (fun _ filling => by cases filling), ?_⟩
  · refine h.append (p := st.piece (.bytes content passed) limit) rfl ?_
      (fun none => by cases none) _
    refine ⟨f, hf, show f.offset ≤ st.position by omega, ?_⟩
    show ((Run.bytes content passed).take limit).toBytes <+:
      f.bytes.drop (st.position - f.offset).toNat
    rw [hplace, hbytes, Run.toBytes_take]
    exact List.take_prefix ..
  · intro _ _ hpending _
    cases hpending
    refine ⟨f, hf, ?_, hbytes⟩
    show f.offset + ((passed + ((Run.bytes content passed).take limit).size : Nat) : Int) =
      ((st.position + ((Run.bytes content passed).take limit).size : Nat) : Int)
    omega
  · refine ⟨_, Nat.le_refl _, .inr (.inl ?_), ?_⟩
    · rintro ⟨p, hp, hsource, _, hcovers⟩
      have hcovers : st.position + ((Run.bytes content passed).take limit).size - 1 < p.finish :=
        hcovers
      rcases List.mem_append.mp hp with hp | hp
      · have := h.behind p hp
        omega
      · rw [List.mem_singleton.mp hp] at hsource
        cases hsource
    · rintro (moved | ⟨n, _, hn⟩)
      · exact absurd moved (Nat.lt_irrefl _)
      · cases hn

/-! ### Finding bytes -/

/-- What a stream may find when it needs bytes. -/
inductive Finds (s : Segment) (maxFill : Int) (before : List Piece) :
    ImageStream × Supply → Prop
  | zeros {st : ImageStream} {n : Nat} {nonempty : (Run.zeros n).isEmpty = false}
      (h : Tracked s maxFill before { st with pending := .zeros n }) :
      Finds s maxFill before (st, .run (.zeros n) nonempty)
  | bytes {st : ImageStream} {content : Packed} {passed : Nat}
      {nonempty : (Run.bytes content passed).isEmpty = false}
      (h : Produced s maxFill before st) (taking : IsTaking s st content passed) :
      Finds s maxFill before (st, .run (.bytes content passed) nonempty)
  | hole {st : ImageStream} {hole : Hole} (h : Tracked s maxFill before st) :
      Finds s maxFill before (st, .hole hole)
  | failed {st : ImageStream} {cause : Error} (h : Tracked s maxFill before st) :
      Finds s maxFill before (st, .failed cause)

/-- A gap filled from the position on is part of the one the stream stands in, if it stands
in one. -/
theorem Tracked.finds_fill (h : Tracked s maxFill before st') (hlimit : st.maxFill = maxFill)
    {width : Nat} (hw : 0 < width) (hend : (st'.position : Int) + width = st'.gapEnd)
    (hole : Hole) : Finds s maxFill before (st', st.fill width hw hole) := by
  unfold ImageStream.fill
  split
  · exact .hole h
  · next narrow =>
    rw [hlimit] at narrow
    split
    · exact .failed h
    · refine .zeros ⟨⟨h.limit, h.ahead, h.behind, h.parts, h.bounded⟩,
        (fun _ _ taking => by cases taking), ?_, ?_⟩
      · intro n hn _
        cases hn
        exact hend
      · obtain ⟨first, hfirst, hopens, hgap⟩ := h.gap
        refine ⟨first, hfirst, hopens, fun _ => ?_⟩
        show (st'.position : Int) ≤ st'.gapEnd ∧ st'.gapEnd - first ≤ maxFill
        by_cases inside : first < st'.position
        · exact hgap (.inl inside)
        · omega

/-- Behind a fragment passed a gap may open. -/
theorem Tracked.pass {f : Fragment} {rest : List Fragment}
    (h : Tracked s maxFill before { st with ahead := f :: rest })
    (empty : st.pending.isEmpty = true) (nowhere : f.offset ≤ st.position)
    (void : f.offset = st.position → f.isVoid = true) (skipped : List SkippedFragment) :
    Tracked s maxFill before
      { st with ahead := rest, passed := st.passed + 1, skippedBefore := skipped } := by
  have hahead := Walk.getElem?_of_drop h.ahead
  have hmem : f ∈ s.fragments := by
    rw [← Array.mem_toList_iff]
    exact List.mem_of_getElem? hahead.1
  refine ⟨⟨h.limit, hahead.2, h.behind, h.parts, h.bounded⟩, ?_, ?_, st.position,
    Nat.le_refl _, ?_, ?_⟩
  · intro content passed hpending more
    have hpending : st.pending = .bytes content passed := hpending
    rw [hpending, Run.isEmpty, decide_eq_true_iff] at empty
    omega
  · intro n hn hpos
    exact absurd ⟨n, hpos, hn⟩ (not_isFilling_of_isEmpty empty)
  · by_cases here : f.offset = st.position
    · exact .inr (.inr ⟨f, hmem, void here, here⟩)
    · obtain ⟨first, hfirst, hopens, hgap⟩ := h.gap
      have hfirst : first ≤ st.position := hfirst
      -- A gap in which the stream stands ends where the next fragment starts, not before.
      have : first = st.position := by
        by_cases inside : first < st.position
        · have hend : (st.position : Int) ≤ f.offset := (hgap (.inl inside)).1
          omega
        · omega
      exact this ▸ hopens
  · rintro (moved | filling)
    · exact absurd moved (Nat.lt_irrefl _)
    · exact absurd filling (not_isFilling_of_isEmpty empty)

theorem Tracked.finds_advance {ahead : List Fragment} (hl : 0 < st.left)
    (h : Tracked s maxFill before { st with ahead }) (empty : st.pending.isEmpty = true) :
    Finds s maxFill before (advance s ahead st hl) := by
  fun_induction advance s ahead st hl with
  | case1 st hl =>
    have hlimit : st.maxFill = maxFill := h.limit
    have hend : (st.position : Int) + st.left = st.length := by
      unfold left at hl ⊢
      omega
    exact h.finds_fill hlimit hl hend .atEnd
  | case2 f ahead st hl gap =>
    have hlimit : st.maxFill = maxFill := h.limit
    have hwidth : 0 < (f.offset - st.position).toNat := by omega
    have hend : (st.position : Int) + (f.offset - st.position).toNat = f.offset := by omega
    exact h.finds_fill hlimit hwidth hend .between
  | case3 f ahead st hl gap here content hc none ih =>
    have hvoid : f.isVoid = true := by
      simpa [Fragment.isVoid, hc, Run.ofPacked, Run.isEmpty] using none
    exact ih (h.pass empty (Int.not_lt.mp gap) (fun _ => hvoid) _) empty
  | case4 f ahead st hl gap here content hc more =>
    have hf := (Walk.getElem?_of_drop h.ahead).1
    refine .bytes ⟨h.limit, (Walk.getElem?_of_drop h.ahead).2, h.behind, h.parts, h.bounded⟩ ?_
    refine ⟨f, hf, ?_, (Fragment.toBytes_of_contents hc).symm⟩
    show f.offset + (0 : Nat) = st.position
    omega
  | case5 f ahead st hl gap here cause hc =>
    have hvoid : f.isVoid = true := by simp [Fragment.isVoid, hc]
    exact .failed (h.pass empty (Int.not_lt.mp gap) (fun _ => hvoid) _)
  | case6 f ahead st hl gap other ih =>
    exact ih (h.pass empty (Int.not_lt.mp gap) (fun here => absurd here other) _) empty

theorem Tracked.finds_supply (h : Tracked s maxFill before st) (hl : 0 < st.left) :
    Finds s maxFill before (st.supply s hl) := by
  unfold supply
  split
  · next more =>
    generalize hp : st.pending = pending at more
    cases pending with
    | zeros n => exact .zeros (hp ▸ h)
    | bytes content passed =>
      have hmore : passed < content.size := by simpa [Run.isEmpty] using more
      exact .bytes h.toProduced (h.taking content passed hp hmore)
  · next none => exact h.finds_advance hl none

/-! ### Calls -/

theorem Tracked.withError (h : Tracked s maxFill before st) (e : ReconstructionError) :
    Tracked s maxFill before { st with error := some e } :=
  ⟨⟨h.limit, h.ahead, h.behind, h.parts, h.bounded⟩, h.taking, h.filling, h.gap⟩

theorem Tracked.close (h : Tracked s maxFill before st) : Tracked s maxFill before st.close := by
  refine ⟨⟨h.limit, h.ahead, h.behind, h.parts, h.bounded⟩,
    (fun _ _ taking => by cases taking), ?_, ?_⟩
  · intro n hn hpos
    cases hn
    exact absurd hpos (Nat.lt_irrefl 0)
  · obtain ⟨first, hfirst, hopens, hgap⟩ := h.gap
    refine ⟨first, hfirst, hopens, ?_⟩
    rintro (inside | ⟨n, hpos, hn⟩)
    · exact hgap (.inl inside)
    · cases hn
      exact absurd hpos (Nat.lt_irrefl 0)

theorem Tracked.course (h : Tracked s maxFill before st) (want : Nat) :
    Tracked s maxFill (before ++ (st.course s want).pieces) (st.course s want).final := by
  revert before
  fun_induction ImageStream.course s want st with
  | case1 want st ready st' run nonempty hs pos count =>
    rename_i ih
    intro before h
    have hfinds := h.finds_supply ready.2.2
    rw [hs] at hfinds
    have hlimit : 0 < min want st.left := by omega
    have hnext : Tracked s maxFill (before ++ [st'.piece run (min want st.left)])
        (st'.deliver run count) := by
      cases hfinds with
      | zeros h =>
        refine h.fill ?_ _
        simpa [Run.isEmpty, Nat.pos_iff_ne_zero] using nonempty
      | bytes h taking =>
        refine h.take taking ?_ hlimit
        simpa [Run.isEmpty] using nonempty
    have hrest := ih hnext
    rwa [List.append_assoc] at hrest
  | case2 want st ready st' hole hs =>
    intro before h
    have hfinds := h.finds_supply ready.2.2
    rw [hs] at hfinds
    rw [List.append_nil]
    cases hfinds with
    | hole h => exact h.withError _
  | case3 want st ready st' cause hs =>
    intro before h
    have hfinds := h.finds_supply ready.2.2
    rw [hs] at hfinds
    rw [List.append_nil]
    cases hfinds with
    | failed h => exact h
  | case4 want st stopped =>
    intro before h
    rwa [List.append_nil]

theorem Tracked.call (h : Tracked s maxFill before st) (c : Call) :
    Tracked s maxFill (before ++ (st.call s c).pieces) (st.call s c).final := by
  cases c with
  | close =>
    rw [ImageStream.call, List.append_nil]
    exact h.close
  | request request =>
    rw [ImageStream.call]
    cases request.room with
    | ok _ => exact h.course _
    | error cause => rwa [List.append_nil]

/-- Behind calls of any kinds all pieces that came of them have been produced. -/
theorem Tracked.serve (h : Tracked s maxFill before st) (calls : List Call) :
    ∃ produced, Tracked s maxFill produced (st.serve s calls).final ∧
      ∀ p ∈ before ++ st.delivered s calls, p ∈ produced := by
  induction calls generalizing before st with
  | nil =>
    refine ⟨before, h, fun p hp => ?_⟩
    rwa [delivered, List.append_nil] at hp
  | cons c rest ih =>
    obtain ⟨produced, htracked, hall⟩ := ih (h.call c)
    rw [serve_cons, delivered_cons]
    refine ⟨produced, htracked, fun p hp => hall p ?_⟩
    have hdelivered : ∀ p ∈ (st.call s c).delivered, p ∈ (st.call s c).pieces := by
      unfold Course.delivered
      split <;> simp
    simp only [List.mem_append] at hp ⊢
    rcases hp with hp | hp | hp
    · exact .inl (.inl hp)
    · exact .inl (.inr (hdelivered p hp))
    · exact .inr hp

/-! ### Runs of zeros -/

/-- The gap in which a run of zeros ends reaches back to its start, unless it opened at a
fragment inside the run. -/
theorem Produced.run_le {produced : List Piece} (h : Produced s maxFill produced st)
    {first last : Nat} (filled : FilledFrom produced first last)
    (whole : ¬ s.IsSplitWithin first last) : (last : Int) - first ≤ max maxFill 0 := by
  by_cases empty : last ≤ first
  · omega
  · obtain ⟨p, hp, hsource, hlow, hhigh⟩ := filled (last - 1) (by omega) (by omega)
    obtain ⟨start, stop, hstart, hstop, hwidth, hopens⟩ := h.bounded p hp hsource
    have hback : start ≤ first := by
      refine Nat.le_of_not_lt fun inside => ?_
      rcases hopens with zero | free | ⟨f, hf, hvoid, hoffset⟩
      · omega
      · exact free (filled (start - 1) (by omega) (by omega))
      · exact whole ⟨f, hf, hvoid, by omega, by omega⟩
    omega

/-- **A run of zeros that fill gaps is no longer than `maxFill`**, unless a fragment with no
bytes to give starts inside it, in whatever calls a stream is read. The pieces that came of
the calls are made of the bytes these gave, and what does not fill a gap is taken from a
fragment. If the same calls of a stream that may fill more give a longer run, this stream
ends with an error instead. -/
theorem filled_run_le (s : Segment) (maxFill : Int) (calls : List Call) :
    (deliveredOf s maxFill calls).flatMap Piece.bytes = (serveOf s maxFill calls).bytes ∧
    (∀ p ∈ deliveredOf s maxFill calls, p.IsPartOf s.fragments.toList) ∧
    (∀ first last : Nat, FilledFrom (deliveredOf s maxFill calls) first last →
      ¬ s.IsSplitWithin first last → (last : Int) - first ≤ max maxFill 0) ∧
    ∀ more : Int, maxFill ≤ more → ∀ first last : Nat,
      FilledFrom (deliveredOf s more calls) first last → ¬ s.IsSplitWithin first last →
      max maxFill 0 < (last : Int) - first → (serveOf s maxFill calls).final.HasFailed := by
  obtain ⟨produced, htracked, hall⟩ := (tracked_start s maxFill).serve calls
  have hrun (first last : Nat) (filled : FilledFrom (deliveredOf s maxFill calls) first last)
      (whole : ¬ s.IsSplitWithin first last) : (last : Int) - first ≤ max maxFill 0 := by
    refine htracked.run_le (fun x high low => ?_) whole
    obtain ⟨p, hp, hfilled⟩ := filled x high low
    exact ⟨p, hall p hp, hfilled⟩
  refine ⟨bytes_delivered s _ calls, fun p hp => htracked.parts p (hall p hp), hrun, ?_⟩
  intro more hmore first last filled whole long
  have hnarrower : IsNarrower (ofSegment s maxFill) (ofSegment s more) := ⟨more, hmore, rfl⟩
  rcases (lockstep_widened s).serve hnarrower calls with ⟨_, hsame, _⟩ | failed
  · have hsame : deliveredOf s maxFill calls = deliveredOf s more calls := hsame
    have := hrun first last (hsame ▸ filled) whole
    omega
  · exact failed

end

open scoped CommonMachine

/-- An empty fragment in the middle of a gap twice as wide as may be filled. -/
theorem filled_beyond_maxFill :
    Fragment.Sorted (Segment.holding 10 [(5, [])]).fragments.toList ∧
    (serveOf (.holding 10 [(5, [])]) 5 [.request .readAll]).Returned ∧
    ¬ (serveOf (.holding 10 [(5, [])]) 5 [.request .readAll]).final.HasFailed ∧
    (serveOf (.holding 10 [(5, [])]) 5 [.request .readAll]).bytes = List.replicate 10 0 ∧
    FilledFrom (deliveredOf (.holding 10 [(5, [])]) 5 [.request .readAll]) 0 10 := by
  decide +kernel

/-- Runs before and behind empty fragments, read with a pause, and a run too long. -/
theorem filled_run_of_two :
    ((9 : Nat) : Int) - (7 : Nat) ≤ max 2 0 ∧
    (serveOf (.holding 6 [(0, [7]), (1, [])]) 2 [.request .readAll]).final.HasFailed :=
  ⟨(filled_run_le (.holding 9 [(1, [7, 7]), (4, []), (5, [7]), (7, [])]) 2
      [.request (.read 8), .close, .request .readAll]).2.2.1 7 9 (by decide +kernel)
      (by decide +kernel),
    (filled_run_le (.holding 6 [(0, [7]), (1, [])]) 2 [.request .readAll]).2.2.2 5 (by decide) 1 6
      (by decide +kernel) (by decide +kernel) (by decide)⟩

end ImageStream
end ObjectModule
