import ObjectModule.Block
import ObjectModule.Field

/-! What readers give.

A reader `Gives` a property if every value it gives has it, wherever it reads. Readers are
made of others by `bind`, so what one gives follows from what its parts give, and nothing
has to be known of the input: numbers are not below zero, and neither are the indices,
lengths and repeat counts made of them. -/
namespace ObjectModule

namespace Reader
variable {α β : Type} {P : α → Prop} {Q : β → Prop}

/-- Every value that the reader gives has a property. -/
def Gives (reader : Reader α) (P : α → Prop) : Prop := ∀ c a c', reader c = .ok a c' → P a

theorem Gives.parse {reader : Reader α} {input : Bytes} {a : α} (h : reader.Gives P)
    (ha : reader.parse input = .ok a) : P a := by
  unfold Reader.parse at ha
  split at ha
  · next hrun =>
    cases ha
    exact h _ _ _ hrun
  · cases ha

theorem gives_any (reader : Reader α) : reader.Gives fun _ => True := fun _ _ _ _ => trivial

theorem gives_pure {a : α} (h : P a) : Gives (pure a) P := by
  intro c b c' hrun
  cases hrun
  exact h

theorem gives_throw (e : FormatError) : Gives (throw e : Reader α) P := by
  intro c b c' hrun
  cases hrun

/-- What the last of two readers gives when the first gave something of a kind. -/
theorem Gives.bind {reader : Reader α} {next : α → Reader β} (h : reader.Gives P)
    (hnext : ∀ a, P a → (next a).Gives Q) : (reader >>= next).Gives Q := by
  intro c b c' hrun
  obtain ⟨a, middle, hfirst, hlast⟩ := bind_eq_ok.mp hrun
  exact hnext a (h _ _ _ hfirst) _ _ _ hlast

theorem gives_bind {reader : Reader α} {next : α → Reader β} (h : ∀ a, (next a).Gives Q) :
    (reader >>= next).Gives Q := (gives_any reader).bind fun a _ => h a

theorem gives_timesAfter {item : Reader α} (h : item.Gives P) (count : Nat) {done : List α}
    (hdone : ∀ a ∈ done, P a) : (timesAfter item count done).Gives fun all => ∀ a ∈ all, P a := by
  induction count generalizing done with
  | zero => exact gives_pure (by simpa using hdone)
  | succ count ih => exact h.bind fun a ha => ih (List.forall_mem_cons.mpr ⟨ha, hdone⟩)

theorem gives_times {item : Reader α} (h : item.Gives P) (count : Nat) :
    (times count item).Gives fun all => ∀ a ∈ all, P a :=
  gives_timesAfter h count (by simp)

theorem gives_untilEndAfter {item : Reader α} (h : item.Gives P) (limit : Nat) {done : List α}
    (hdone : ∀ a ∈ done, P a) :
    (untilEndAfter item limit done).Gives fun all => ∀ a ∈ all, P a := by
  induction limit generalizing done with
  | zero => exact gives_pure (by simpa using hdone)
  | succ limit ih =>
    refine gives_bind fun c => ?_
    split
    · exact gives_pure (by simpa using hdone)
    · exact h.bind fun a ha => ih (List.forall_mem_cons.mpr ⟨ha, hdone⟩)

theorem gives_untilEnd {item : Reader α} (h : item.Gives P) :
    (untilEnd item).Gives fun all => ∀ a ∈ all, P a :=
  gives_bind fun c => gives_untilEndAfter h c.rest.length (by simp)

/-! ### Fields -/

theorem gives_index : index.Gives (0 ≤ ·.value) := by
  refine gives_bind fun first => ?_
  split
  · exact gives_pure (Int.natCast_nonneg first)
  · next long =>
    refine gives_bind fun second => gives_pure ?_
    show 0 ≤ ((first : Int) - 0x80) * 0x100 + second
    omega

theorem gives_sizedInt (wide : Bool) : (sizedInt wide).Gives (0 ≤ ·.value) :=
  gives_bind fun value => gives_pure (Int.natCast_nonneg value)

end Reader

namespace Block

mutual

/-- Whether no pattern, at any depth, is to be written less than never. -/
def IsCounted : Block → Prop
  | mk n _ blocks => 0 ≤ n ∧ AllCounted blocks

/-- Whether all blocks of a list are counted. -/
def AllCounted : List Block → Prop
  | [] => True
  | b :: rest => b.IsCounted ∧ AllCounted rest

end

theorem allCounted_iff {blocks : List Block} : AllCounted blocks ↔ ∀ b ∈ blocks, b.IsCounted := by
  induction blocks with
  | nil => simp [AllCounted]
  | cons b rest ih => simp [AllCounted, ih]

theorem depthOfAll_lt_iff {blocks : List Block} {levels : Nat} (hlevels : 0 < levels) :
    depthOfAll blocks < levels ↔ ∀ b ∈ blocks, b.depth < levels := by
  induction blocks with
  | nil => simpa [depthOfAll] using hlevels
  | cons b rest ih => rw [depthOfAll, Nat.max_lt, ih, List.forall_mem_cons]

/-! ### The size told is the size written -/

mutual

/-- A counted block writes as many bytes as its `length` says. -/
theorem length_eq_size : ∀ {b : Block}, b.IsCounted → b.length = b.expand.size
  | mk n bytes blocks, h => by
    obtain ⟨hn, hblocks⟩ := h
    have hpattern : (if blocks.isEmpty then (bytes.size : Int) else totalLength blocks) =
        (mk n bytes blocks).pattern.length := by
      rw [pattern]
      split
      · rfl
      · exact totalLength_eq_length hblocks
    rw [length, hpattern, ← Packed.length_toBytes, toBytes_expand, repeats]
    simp [Int.toNat_of_nonneg hn]

theorem totalLength_eq_length :
    ∀ {blocks : List Block}, AllCounted blocks →
      totalLength blocks = (blocks.flatMap (·.expand.toBytes)).length
  | [], _ => rfl
  | b :: rest, h => by
    rw [totalLength, length_eq_size h.1, totalLength_eq_length h.2, List.flatMap_cons,
      List.length_append, Packed.length_toBytes, Int.natCast_add]

end

/-- Counted blocks write as many bytes as their `totalLength` says. -/
theorem totalLength_eq_size {blocks : List Block} (h : AllCounted blocks) :
    totalLength blocks = (expandAll blocks).size := by
  rw [totalLength_eq_length h, ← Packed.length_toBytes, toBytes_expandAll]

/-! ### Blocks that are read -/

/-- A block stands no deeper in others than may be read. -/
theorem gives_read_depth (wide : Bool) (levels : Nat) :
    (read wide levels).Gives (·.depth < levels) := by
  induction levels with
  | zero => exact Reader.gives_throw _
  | succ levels ih =>
    refine Reader.gives_bind fun repeats => Reader.gives_bind fun count => ?_
    split
    · refine Reader.gives_bind fun size => Reader.gives_bind fun bytes => Reader.gives_pure ?_
      exact Nat.succ_pos levels
    · refine (Reader.gives_times ih count).bind fun blocks hblocks => Reader.gives_pure ?_
      rw [depth]
      split
      · exact Nat.succ_pos levels
      · next inner =>
        obtain ⟨b, hb⟩ := List.exists_mem_of_ne_nil blocks fun h => inner (by rw [h]; rfl)
        have hlevels : 0 < levels := Nat.zero_lt_of_lt (hblocks b hb)
        exact Nat.succ_lt_succ ((depthOfAll_lt_iff hlevels).mpr hblocks)

theorem gives_read (wide : Bool) (levels : Nat) : (read wide levels).Gives IsCounted := by
  induction levels with
  | zero => exact Reader.gives_throw _
  | succ levels ih =>
    refine Reader.gives_bind fun repeats => Reader.gives_bind fun count => ?_
    split
    · refine Reader.gives_bind fun size => Reader.gives_bind fun bytes => Reader.gives_pure ?_
      exact ⟨Int.natCast_nonneg repeats, trivial⟩
    · refine (Reader.gives_times ih count).bind fun blocks hblocks => Reader.gives_pure ?_
      exact ⟨Int.natCast_nonneg repeats, allCounted_iff.mpr hblocks⟩

end Block
end ObjectModule
