import ObjectModule.CommonMachine
import ObjectModule.Proofs.Record.Entry

/-! What expanding iterated data builds.

Blocks are expanded inside out: what stands inside a block is written and put together before
it is repeated. `nested` lists the blocks at every depth, each with the number of times the
blocks around it write it. The sizes of all of them, taken so many times, are parts of the size
that is told for a record (`times_mul_length_le`), and that is held to the limit. So every block
that is written at all stays within the limit, and the whole can be had; a block that is written
never is expanded all the same, and nothing limits its size, nor that of the unit that a block
repeats never. -/
namespace ObjectModule

/-- Whether a machine can build what the data of a record may write: the limit fits in its
memory, and it follows blocks as deep as they are read. -/
structure Machine.HoldsRecords [Machine] : Prop where
  memory : (expansionLimit : Int) < Machine.memory
  levels : Block.maxDepth ≤ Machine.levels

namespace Capacity
variable [Machine] {bound : Int}

/-- Whether strings of as many bytes as a bound, and of fewer, can be had. -/
structure Holds (bound : Int) : Prop where
  countable : bound + stringRecord < countBound
  fits : bound < Machine.memory

theorem holds_limit (h : (expansionLimit : Int) < Machine.memory) : Holds expansionLimit :=
  ⟨by decide, h⟩

theorem Holds.string (h : Holds bound) {size : Nat} (hle : size ≤ bound) :
    string size = .ok () :=
  string_eq_ok (Int.lt_of_le_of_lt (Int.add_le_add_right hle _) h.countable)
    (Int.lt_of_le_of_lt hle h.fits)

theorem Holds.joined (h : Holds bound) {size : Nat} (hle : size ≤ bound) :
    joined size = .ok size := by
  simp only [Capacity.joined, h.string hle]
  rfl

theorem Holds.repeated (h : Holds bound) {size : Nat} {n : Int} (low : 0 ≤ n)
    (high : n < countBound) (hle : size * n ≤ bound) :
    repeated size n = .ok (size * n.toNat) := by
  have hcountable := h.countable
  have hrecord : stringRecord = 33 := rfl
  have hroom : room (size * n.toNat : Nat) = .ok () := by
    refine room_eq_ok (Int.natCast_nonneg _) ?_ ?_
    · rw [Int.natCast_mul, Int.toNat_of_nonneg low]
      omega
    · rw [Int.natCast_mul, Int.toNat_of_nonneg low]
      exact Int.lt_of_le_of_lt hle h.fits
  simp only [Capacity.repeated, count_eq_ok low high, hroom]
  rfl

end Capacity

namespace Reader
variable {α : Type} {P Q : α → Prop}

theorem Gives.and {reader : Reader α} (h : reader.Gives P) (h' : reader.Gives Q) :
    reader.Gives fun a => P a ∧ Q a :=
  fun c a c' hrun => ⟨h c a c' hrun, h' c a c' hrun⟩

theorem gives_number (width : Nat) : (number width).Gives (· < .pow 256 width) := by
  refine gives_bind fun digits => ?_
  split
  · exact (gives_throw _).bind fun _ => False.elim
  · next hlength =>
    refine gives_pure ?_
    rw [← Decidable.not_not.mp hlength]
    exact Bytes.littleEndian_lt digits

theorem gives_u16or32 (wide : Bool) : (u16or32 wide).Gives (· < 0x100000000) := by
  cases wide with
  | false => exact fun c n c' hrun => Nat.lt_trans (gives_number 2 c n c' hrun) (by decide)
  | true => exact gives_number 4

end Reader

namespace Block

mutual

/-- A block and the blocks inside it, at any depth, each with the number of times the blocks
around it write it. -/
def nested : Block → List (Int × Block)
  | mk n bytes blocks =>
    (1, mk n bytes blocks) :: (nestedInAll blocks).map fun (times, b) => (n * times, b)

/-- The blocks of a list and those inside them. -/
def nestedInAll : List Block → List (Int × Block)
  | [] => []
  | b :: rest => b.nested ++ nestedInAll rest

end

variable {b : Block} {blocks : List Block}

theorem forall_nestedInAll {P : Int × Block → Prop} :
    (∀ p ∈ nestedInAll blocks, P p) ↔ ∀ b ∈ blocks, ∀ p ∈ b.nested, P p := by
  induction blocks with
  | nil => simp [nestedInAll]
  | cons b rest ih => rw [nestedInAll, List.forall_mem_append, List.forall_mem_cons, ih]

theorem forall_nested {P : Int × Block → Prop} {n : Int} {bytes : Packed} :
    (∀ p ∈ (mk n bytes blocks).nested, P p) ↔
      P (1, mk n bytes blocks) ∧ ∀ p ∈ nestedInAll blocks, P (n * p.1, p.2) := by
  rw [nested, List.forall_mem_cons, List.forall_mem_map]

theorem mem_nested {p : Int × Block} {n : Int} {bytes : Packed} :
    p ∈ (mk n bytes blocks).nested ↔
      p = (1, mk n bytes blocks) ∨ ∃ q ∈ nestedInAll blocks, (n * q.1, q.2) = p := by
  rw [nested, List.mem_cons, List.mem_map]

theorem mem_nestedInAll {p : Int × Block} :
    p ∈ nestedInAll blocks ↔ ∃ b ∈ blocks, p ∈ b.nested := by
  induction blocks with
  | nil => simp [nestedInAll]
  | cons b rest ih => rw [nestedInAll, List.mem_append, ih, List.exists_mem_cons_iff]

theorem self_mem_nested (b : Block) : (1, b) ∈ b.nested := by
  obtain ⟨n, bytes, blocks⟩ := b
  exact mem_nested.mpr (.inl rfl)

mutual

/-- What a block writes so many times, it is written itself as often, and as often as it repeats
that. -/
theorem inner_mem_nested : ∀ {b : Block}, ∀ p ∈ b.nested, ∀ c ∈ p.2.inner,
    (p.1 * p.2.repeats, c) ∈ b.nested
  | mk n bytes blocks, p, hp, c, hc => by
    rcases mem_nested.mp hp with rfl | ⟨q, hq, rfl⟩
    · have hself : (1, c) ∈ nestedInAll blocks := mem_nestedInAll.mpr ⟨c, hc, self_mem_nested c⟩
      refine mem_nested.mpr (.inr ⟨(1, c), hself, ?_⟩)
      show (n * 1, c) = (1 * n, c)
      rw [Int.mul_comm]
    · refine mem_nested.mpr (.inr ⟨_, inner_mem_nestedInAll q hq c hc, ?_⟩)
      show (n * (q.1 * q.2.repeats), c) = (n * q.1 * q.2.repeats, c)
      rw [Int.mul_assoc]

theorem inner_mem_nestedInAll : ∀ {blocks : List Block}, ∀ p ∈ nestedInAll blocks,
    ∀ c ∈ p.2.inner, (p.1 * p.2.repeats, c) ∈ nestedInAll blocks
  | [], _, hp, _, _ => by simp [nestedInAll] at hp
  | b :: rest, p, hp, c, hc => by
    rw [nestedInAll] at hp ⊢
    rcases List.mem_append.mp hp with hp | hp
    · exact List.mem_append_left _ (inner_mem_nested p hp c hc)
    · exact List.mem_append_right _ (inner_mem_nestedInAll p hp c hc)

end

mutual

/-- A nested block is the outermost or stands in another. -/
theorem exists_around : ∀ {b : Block}, ∀ p ∈ b.nested,
    p = (1, b) ∨ ∃ q ∈ b.nested, p.1 = q.1 * q.2.repeats ∧ p.2 ∈ q.2.inner
  | mk n bytes blocks, p, hp => by
    rcases mem_nested.mp hp with rfl | ⟨q, hq, rfl⟩
    · exact .inl rfl
    · right
      rcases exists_around_inAll q hq with ⟨one, hmem⟩ | ⟨around, haround, htimes, hmem⟩
      · refine ⟨_, self_mem_nested _, ?_, hmem⟩
        rw [one, Int.mul_comm]
        rfl
      · refine ⟨_, mem_nested.mpr (.inr ⟨around, haround, rfl⟩), ?_, hmem⟩
        rw [htimes, Int.mul_assoc]

theorem exists_around_inAll : ∀ {blocks : List Block}, ∀ p ∈ nestedInAll blocks,
    p.1 = 1 ∧ p.2 ∈ blocks ∨
      ∃ q ∈ nestedInAll blocks, p.1 = q.1 * q.2.repeats ∧ p.2 ∈ q.2.inner
  | [], _, hp => by simp [nestedInAll] at hp
  | b :: rest, p, hp => by
    rw [nestedInAll] at hp ⊢
    rcases List.mem_append.mp hp with hp | hp
    · rcases exists_around p hp with rfl | ⟨q, hq, h⟩
      · exact .inl ⟨rfl, List.mem_cons_self⟩
      · exact .inr ⟨q, List.mem_append_left _ hq, h⟩
    · rcases exists_around_inAll p hp with ⟨one, hmem⟩ | ⟨q, hq, h⟩
      · exact .inl ⟨one, List.mem_cons_of_mem b hmem⟩
      · exact .inr ⟨q, List.mem_append_right _ hq, h⟩

end

/-! ### Sizes of nested blocks -/

mutual

/-- The blocks inside a counted block are counted. -/
theorem IsCounted.of_nested : ∀ {b : Block}, b.IsCounted →
    ∀ p ∈ b.nested, 0 ≤ p.1 ∧ p.2.IsCounted
  | mk n bytes blocks, h => by
    refine forall_nested.mpr ⟨⟨Int.one_nonneg, h⟩, fun p hp => ?_⟩
    obtain ⟨htimes, hp⟩ := AllCounted.of_nested h.2 p hp
    exact ⟨Int.mul_nonneg h.1 htimes, hp⟩

theorem AllCounted.of_nested : ∀ {blocks : List Block}, AllCounted blocks →
    ∀ p ∈ nestedInAll blocks, 0 ≤ p.1 ∧ p.2.IsCounted
  | [], _ => by simp [nestedInAll]
  | b :: rest, h => by
    rw [nestedInAll]
    exact List.forall_mem_append.mpr ⟨IsCounted.of_nested h.1, AllCounted.of_nested h.2⟩

end

theorem IsCounted.repeats_nonneg (h : b.IsCounted) : 0 ≤ b.repeats := by
  obtain ⟨n, bytes, blocks⟩ := b
  exact h.1

theorem IsCounted.length_nonneg (h : b.IsCounted) : 0 ≤ b.length := by
  rw [length_eq_size h]
  exact Int.natCast_nonneg _

theorem IsCounted.inner (h : b.IsCounted) : AllCounted b.inner := by
  obtain ⟨n, bytes, blocks⟩ := b
  exact h.2

theorem AllCounted.length_nonneg (h : AllCounted blocks) : 0 ≤ totalLength blocks := by
  rw [totalLength_eq_size h]
  exact Int.natCast_nonneg _

/-- One of several blocks writes no more than all of them. -/
theorem length_le_totalLength (h : AllCounted blocks) (hb : b ∈ blocks) :
    b.length ≤ totalLength blocks := by
  induction blocks with
  | nil => cases hb
  | cons first rest ih =>
    have hfirst := h.1.length_nonneg
    have hrest := AllCounted.length_nonneg h.2
    rw [totalLength]
    rcases List.mem_cons.mp hb with rfl | hb
    · omega
    · have := ih h.2 hb
      omega

/-- A unit made of blocks that is repeated at all is a part of what is written. -/
theorem totalLength_inner_le (h : b.IsCounted) (repeated : b.repeats ≠ 0) :
    totalLength b.inner ≤ b.length := by
  obtain ⟨n, bytes, blocks⟩ := b
  have hn : 0 ≤ n := h.1
  have hone : n ≠ 0 := repeated
  have htotal := AllCounted.length_nonneg h.2
  show totalLength blocks ≤ (mk n bytes blocks).length
  cases blocks with
  | nil => exact IsCounted.length_nonneg h
  | cons first rest =>
    show _ ≤ n * totalLength (first :: rest)
    calc
      totalLength (first :: rest) = 1 * totalLength (first :: rest) := (Int.one_mul _).symm
      _ ≤ n * totalLength (first :: rest) := Int.mul_le_mul_of_nonneg_right (by omega) htotal

mutual

/-- A block that is written so many times is so many times a part of the whole. -/
theorem times_mul_length_le : ∀ {b : Block}, b.IsCounted →
    ∀ p ∈ b.nested, p.1 * p.2.length ≤ b.length
  | mk n bytes blocks, h => by
    refine forall_nested.mpr ⟨Int.le_of_eq (Int.one_mul _), fun p hp => ?_⟩
    have inside := times_mul_length_le_total h.2 p hp
    have hlength : (mk n bytes blocks).length = n * totalLength blocks := by
      have : blocks.isEmpty = false := by
        cases blocks with
        | nil => simp [nestedInAll] at hp
        | cons b rest => rfl
      rw [length, this]
      rfl
    rw [hlength, Int.mul_assoc]
    exact Int.mul_le_mul_of_nonneg_left inside h.1

theorem times_mul_length_le_total : ∀ {blocks : List Block}, AllCounted blocks →
    ∀ p ∈ nestedInAll blocks, p.1 * p.2.length ≤ totalLength blocks
  | [], _ => by simp [nestedInAll]
  | b :: rest, h => by
    rw [nestedInAll, totalLength]
    have hb := h.1.length_nonneg
    have hrest := AllCounted.length_nonneg h.2
    refine List.forall_mem_append.mpr ⟨fun p hp => ?_, fun p hp => ?_⟩
    · have := times_mul_length_le h.1 p hp
      omega
    · have := times_mul_length_le_total h.2 p hp
      omega

end

/-! ### Amounts that can be had -/

/-- Whether every block, at any depth, is within a bound, and so is the unit it repeats if that
is made of blocks; and no repeat count is too large to be a count. -/
def AllFit (bound : Int) (nested : List (Int × Block)) : Prop :=
  ∀ p ∈ nested, p.2.length ≤ bound ∧ totalLength p.2.inner ≤ bound ∧
    p.2.repeats < Capacity.countBound

section
variable [Machine] {bound : Int}

mutual

/-- All amounts on the way to an expansion can be had if each of them fits. -/
theorem exists_written (room : Capacity.Holds bound) :
    ∀ {b : Block}, b.IsCounted → AllFit bound b.nested → ∃ size, b.written = .ok size
  | mk n bytes blocks, h, hall => by
    obtain ⟨⟨hfits, hunit, hcountable⟩, hinside⟩ := forall_nested.mp hall
    rw [length] at hfits
    rw [written]
    cases blocks with
    | nil =>
      refine ⟨_, room.repeated h.1 hcountable ?_⟩
      rw [Int.mul_comm]
      exact hfits
    | cons b rest =>
      have hfits : n * totalLength (b :: rest) ≤ bound := hfits
      obtain ⟨unit, hwritten⟩ := exists_writtenByAll room h.2 hinside
      have hsize : (unit : Int) = totalLength (b :: rest) := by
        rw [totalLength_eq_length h.2, length_flatMap_expand hwritten]
      have htotal : (unit : Int) ≤ bound := hsize ▸ hunit
      refine ⟨unit * n.toNat, ?_⟩
      have nonempty : ¬ (b :: rest).isEmpty = true := Bool.false_ne_true
      rw [if_neg nonempty, hwritten, Outcome.ok_bind, room.joined htotal, Outcome.ok_bind]
      exact room.repeated h.1 hcountable (by rwa [hsize, Int.mul_comm])

theorem exists_writtenByAll (room : Capacity.Holds bound) :
    ∀ {blocks : List Block}, AllCounted blocks → AllFit bound (nestedInAll blocks) →
      ∃ size, writtenByAll blocks = .ok size
  | [], _, _ => ⟨0, rfl⟩
  | b :: rest, h, hall => by
    rw [nestedInAll] at hall
    obtain ⟨hfirst, hothers⟩ := List.forall_mem_append.mp hall
    obtain ⟨first, hf⟩ := exists_written room h.1 hfirst
    obtain ⟨others, ho⟩ := exists_writtenByAll room h.2 hothers
    refine ⟨first + others, ?_⟩
    rw [writtenByAll, hf, ho]
    rfl

end

/-- And so can the whole, if it is within the bound. -/
theorem exists_writtenTogether (room : Capacity.Holds bound) (h : AllCounted blocks)
    (hall : AllFit bound (nestedInAll blocks)) (within : totalLength blocks ≤ bound) :
    ∃ size, writtenTogether blocks = .ok size := by
  obtain ⟨size, hwritten⟩ := exists_writtenByAll room h hall
  rw [totalLength_eq_length h, length_flatMap_expand hwritten] at within
  refine ⟨size, ?_⟩
  rw [writtenTogether, hwritten, Outcome.ok_bind]
  exact room.joined within

end

/-! ### Blocks that are read -/

/-- No repeat count that is read is too large to be a count. -/
theorem gives_read_countable (wide : Bool) (levels : Nat) :
    (read wide levels).Gives fun b => ∀ p ∈ b.nested, p.2.repeats < Capacity.countBound := by
  induction levels with
  | zero => exact Reader.gives_throw _
  | succ levels ih =>
    refine (Reader.gives_u16or32 wide).bind fun repeats hrepeats => ?_
    refine Reader.gives_bind fun count => ?_
    have countable : (repeats : Int) < Capacity.countBound :=
      Int.lt_trans (Int.ofNat_lt.mpr hrepeats) (by decide)
    split
    · refine Reader.gives_bind fun size => Reader.gives_bind fun bytes => Reader.gives_pure ?_
      exact forall_nested.mpr ⟨countable, by simp [nestedInAll]⟩
    · refine (Reader.gives_times ih count).bind fun blocks hblocks => Reader.gives_pure ?_
      exact forall_nested.mpr ⟨countable, forall_nestedInAll.mpr hblocks⟩

end Block

namespace Fragment
variable {f : Fragment} {r : Record}

/-- The blocks of iterated data. -/
def blocks (f : Fragment) : List Block :=
  match f.payload with
  | .enumerated _ => []
  | .iterated blocks => blocks

/-- What is known of iterated data that is read. -/
structure IsIterated (f : Fragment) : Prop where
  payload : f.payload = .iterated f.blocks
  counted : Block.AllCounted f.blocks
  countable : ∀ p ∈ Block.nestedInAll f.blocks, p.2.repeats < Capacity.countBound
  within : Block.totalLength f.blocks ≤ expansionLimit

theorem isIterated_of_ofIterated (h : ofIterated r = .ok f) : f.IsIterated := by
  unfold ofIterated at h
  split at h
  · cases h
  · obtain ⟨g, hread, hsized⟩ := Outcome.bind_eq_ok.mp h
    obtain rfl := eq_of_sized hsized
    have small : ∀ {blocks}, f.payload = .iterated blocks →
        Block.totalLength blocks ≤ expansionLimit := by
      intro blocks hpayload
      unfold sized at hsized
      rw [hpayload] at hsized
      dsimp only at hsized
      split at hsized
      · cases hsized
      · next small => exact Int.not_lt.mp small
    refine Reader.Gives.parse (P := fun f => (∀ {blocks}, f.payload = .iterated blocks →
      Block.totalLength blocks ≤ expansionLimit) → f.IsIterated) ?_ hread small
    refine Reader.gives_bind fun head => ?_
    refine (Reader.gives_untilEnd ((Block.gives_read _ _).and
      (Block.gives_read_countable _ _))).bind fun blocks hblocks => ?_
    refine Reader.gives_pure fun small => ?_
    exact ⟨rfl, Block.allCounted_iff.mpr fun b hb => (hblocks b hb).1,
      Block.forall_nestedInAll.mpr fun b hb => (hblocks b hb).2, small rfl⟩

/-- A block inside, at any depth, is written as a part of the whole. -/
theorem IsIterated.length_le (h : f.IsIterated) {p : Int × Block}
    (hp : p ∈ Block.nestedInAll f.blocks) (written : p.1 ≠ 0) : p.2.length ≤ expansionLimit := by
  obtain ⟨htimes, hcounted⟩ := Block.AllCounted.of_nested h.counted p hp
  calc
    p.2.length = 1 * p.2.length := (Int.one_mul _).symm
    _ ≤ p.1 * p.2.length := Int.mul_le_mul_of_nonneg_right (by omega) hcounted.length_nonneg
    _ ≤ Block.totalLength f.blocks := Block.times_mul_length_le_total h.counted p hp
    _ ≤ expansionLimit := h.within

theorem IsIterated.size_le (h : f.IsIterated) {p : Int × Block}
    (hp : p ∈ Block.nestedInAll f.blocks) (written : p.1 ≠ 0) :
    p.2.expand.size ≤ expansionLimit := by
  obtain ⟨_, hcounted⟩ := Block.AllCounted.of_nested h.counted p hp
  have hlength := h.length_le hp written
  rw [Block.length_eq_size hcounted] at hlength
  exact Int.ofNat_le.mp hlength

/-- A pattern that is repeated at all is no longer than what is written. -/
theorem length_pattern_le {b : Block} (hcounted : b.IsCounted) (repeated : b.repeats ≠ 0) :
    b.pattern.length ≤ b.expand.size := by
  have hrepeats := hcounted.repeats_nonneg
  rw [← Packed.length_toBytes, Block.toBytes_expand, List.length_flatten, List.map_replicate,
    List.sum_replicate_nat]
  exact Nat.le_mul_of_pos_left _ (by omega)

/-- Whether the units that zeros keep from being written are within the limit too: what the
blocks inside a block write in all, if it or a block around it is repeated never. -/
def HidesNothing (f : Fragment) : Prop :=
  ∀ p ∈ Block.nestedInAll f.blocks, p.1 * p.2.repeats = 0 →
    Block.totalLength p.2.inner ≤ expansionLimit

instance (f : Fragment) : Decidable f.HidesNothing :=
  inferInstanceAs (Decidable (∀ p ∈ Block.nestedInAll f.blocks, p.1 * p.2.repeats = 0 → _))

/-- Nothing is hidden if no block stands in one that is repeated never. -/
theorem hidesNothing_of_written (written : ∀ p ∈ Block.nestedInAll f.blocks, p.1 ≠ 0) :
    f.HidesNothing := by
  intro p hp zero
  cases hinner : p.2.inner with
  | nil => exact Int.natCast_nonneg _
  | cons b rest =>
    have hb := Block.inner_mem_nestedInAll p hp b (hinner ▸ List.mem_cons_self)
    exact absurd zero (written _ hb)

/-- If nothing is hidden, all that is built on the way is within the limit. -/
theorem IsIterated.allFit (h : f.IsIterated) (hidden : f.HidesNothing) :
    Block.AllFit expansionLimit (Block.nestedInAll f.blocks) := by
  intro p hp
  obtain ⟨_, hcounted⟩ := Block.AllCounted.of_nested h.counted p hp
  have hlength : p.2.length ≤ expansionLimit := by
    by_cases never : p.1 = 0
    · rcases Block.exists_around_inAll p hp with ⟨one, _⟩ | ⟨q, hq, htimes, hmem⟩
      · rw [one] at never
        cases never
      · have haround := (Block.AllCounted.of_nested h.counted q hq).2.inner
        exact Int.le_trans (Block.length_le_totalLength haround hmem)
          (hidden q hq (htimes ▸ never))
    · exact h.length_le hp never
  refine ⟨hlength, ?_, h.countable p hp⟩
  by_cases zero : p.1 * p.2.repeats = 0
  · exact hidden p hp zero
  · have repeated : p.2.repeats ≠ 0 := fun h => zero (by rw [h, Int.mul_zero])
    exact Int.le_trans (Block.totalLength_inner_le hcounted repeated) hlength

/-- Whether the blocks of a fragment can be followed to the innermost. -/
def IsShallow [Machine] (f : Fragment) : Prop := Block.depthOfAll f.blocks ≤ Machine.levels

instance [Machine] (f : Fragment) : Decidable f.IsShallow := Nat.decLe _ _

/-- The bytes can be had if the blocks can be followed, no zero hides what is beyond the limit,
and there is room for as much as the limit. -/
theorem IsIterated.contents_of_hidesNothing [Machine] (h : f.IsIterated) (shallow : f.IsShallow)
    (room : (expansionLimit : Int) < Machine.memory) (hidden : f.HidesNothing) :
    f.contents = .ok f.payload.expand := by
  have hsized : f.sized = .ok f := by
    unfold sized
    rw [h.payload]
    exact if_neg (Int.not_lt.mpr h.within)
  obtain ⟨size, hsize⟩ := Block.exists_writtenTogether (Capacity.holds_limit room) h.counted
    (h.allFit hidden) h.within
  have hdepth : Capacity.depth (Block.depthOfAll f.blocks) = .ok () :=
    Capacity.depth_eq_ok shallow
  have hcheck : f.check = .ok () := by
    rw [check, h.payload]
    dsimp only
    rw [hdepth, hsized, hsize]
    rfl
  rw [Fragment.contents, hcheck]
  rfl

/-- Iterated data that is read can be followed. -/
theorem isShallow_of_ofIterated [Machine] (h : ofIterated r = .ok f)
    (levels : Block.maxDepth ≤ Machine.levels) : f.IsShallow := by
  refine Nat.le_trans ?_ levels
  unfold ofIterated at h
  split at h
  · cases h
  · obtain ⟨g, hread, hsized⟩ := Outcome.bind_eq_ok.mp h
    obtain rfl := eq_of_sized hsized
    refine Reader.Gives.parse (P := fun f => Block.depthOfAll f.blocks ≤ Block.maxDepth) ?_ hread
    refine Reader.gives_bind fun head => ?_
    refine (Reader.gives_untilEnd (Block.gives_read_depth _ _)).bind fun blocks hblocks => ?_
    refine Reader.gives_pure (Nat.le_of_lt_succ ?_)
    exact (Block.depthOfAll_lt_iff (Nat.succ_pos _)).mpr hblocks

/-- **What is written stays within the limit.** Of iterated data that is read, what the whole
writes is within the limit, and so is what any block inside it writes, and repeats, unless a
block around that one is repeated never. If there is no such block, all of it can be had on a
machine that can build as much as the limit. -/
theorem expansions_le [Machine] (h : ofIterated r = .ok f) :
    f.payload = .iterated f.blocks ∧ f.payload.expand.size ≤ expansionLimit ∧
      (∀ p ∈ Block.nestedInAll f.blocks, p.1 ≠ 0 → p.2.expand.size ≤ expansionLimit ∧
        (p.2.repeats ≠ 0 → p.2.pattern.length ≤ expansionLimit)) ∧
      (Machine.HoldsRecords → (∀ p ∈ Block.nestedInAll f.blocks, p.1 ≠ 0) →
        f.contents = .ok f.payload.expand) := by
  have hiterated := isIterated_of_ofIterated h
  refine ⟨hiterated.payload, ?_, fun p hp written => ?_, fun holds written => ?_⟩
  · have := hiterated.within
    rw [Block.totalLength_eq_size hiterated.counted] at this
    rw [hiterated.payload]
    exact Int.ofNat_le.mp this
  · have hsize := hiterated.size_le hp written
    obtain ⟨_, hcounted⟩ := Block.AllCounted.of_nested hiterated.counted p hp
    exact ⟨hsize, fun repeated => Nat.le_trans (length_pattern_le hcounted repeated) hsize⟩
  · exact hiterated.contents_of_hidesNothing (isShallow_of_ofIterated h holds.levels)
      holds.memory (hidesNothing_of_written written)

open scoped CommonMachine

theorem holdsRecords_common : Machine.HoldsRecords := ⟨by decide, by decide⟩

/-- Twice three times two bytes, for segment 1. -/
def nestedTwice : Record where
  type := .lidata
  offset := 0
  body := [1, 0, 0, 2, 0, 1, 0, 3, 0, 0, 0, 2, 0x41, 0x42]
  checksum := 0

theorem expansions_le_of_nestedTwice :
    ∃ f, ofIterated nestedTwice = .ok f ∧
      (Block.nestedInAll f.blocks).map (fun p => (p.1, p.2.length)) = [(1, 12), (2, 6)] ∧
      f.payload.expand.size ≤ expansionLimit ∧ f.contents = .ok f.payload.expand := by
  have h : ofIterated nestedTwice =
      .ok ⟨1, 0, .iterated [.mk 2 .empty [.mk 3 (.ofBytes [0x41, 0x42]) []]]⟩ := rfl
  obtain ⟨_, hsize, _, hcontents⟩ := expansions_le h
  exact ⟨_, h, by decide, hsize, hcontents holdsRecords_common (by decide)⟩

/-- A megabyte, repeated as often as four bytes can say, and that never, for segment 1. -/
def nestedNever : Record where
  type := .lidata32
  offset := 0
  body :=
    [1, 0, 0, 0, 0, 0, 0, 0, 0, 1, 0, 0xFF, 0xFF, 0xFF, 0xFF, 1, 0, 0, 0, 0x10, 0, 0, 0, 1, 0x41]
  checksum := 0

/-- What is repeated never is built all the same, whatever its size. -/
theorem expansion_beyond_limit :
    ∃ f, ofIterated nestedNever = .ok f ∧
      (∃ p ∈ Block.nestedInAll f.blocks, expansionLimit < p.2.expand.size) ∧
      f.contents = .error (.capacity .outOfMemory) := by
  have h : ofIterated nestedNever = .ok ⟨1, 0, .iterated
      [.mk 0 .empty [.mk 0xFFFFFFFF .empty [.mk 0x100000 (.ofBytes [0x41]) []]]]⟩ := rfl
  refine ⟨_, h, ⟨(0, .mk 0xFFFFFFFF .empty [.mk 0x100000 (.ofBytes [0x41]) []]), ?_, ?_⟩, ?_⟩
  · exact .tail _ (.head _)
  · have hlength := Block.length_eq_size
      (b := .mk 0xFFFFFFFF .empty [.mk 0x100000 (.ofBytes [0x41]) []])
      ⟨by decide, ⟨by decide, trivial⟩, trivial⟩
    have : (expansionLimit : Int) <
        (Block.mk 0xFFFFFFFF .empty [.mk 0x100000 (.ofBytes [0x41]) []]).length := by decide
    rw [hlength] at this
    exact Int.ofNat_lt.mp this
  · rfl

end Fragment
end ObjectModule
