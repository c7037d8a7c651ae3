import ObjectModule.Cursor
import ObjectModule.Packed

/-! Iterated data blocks.

A block is a pattern and how often to write it. The pattern is either literal
content or the blocks inside, one after the other; a block with blocks inside has
no content of its own to write. The size of what a block writes can be told
without writing it, which is what keeps a small record from claiming memory it has
no right to. A size that is small as a sum may still be made of amounts that are not:
`written` follows the expansion and says whether each of them can be had, and what they
are put together to. -/
namespace ObjectModule

/-- A pattern and how often to write it. -/
inductive Block where
  | mk (repeats : Int) (content : Packed) (inner : List Block)
deriving Repr

namespace Block

/-- How often the pattern is written; below zero counts as never. -/
def repeats : Block → Int
  | mk n _ _ => n

/-- The literal content. -/
def content : Block → Packed
  | mk _ bytes _ => bytes

/-- The blocks inside. -/
def inner : Block → List Block
  | mk _ _ blocks => blocks

/-! ### Size -/

mutual

/-- How many bytes a block writes, by arithmetic alone. -/
def length : Block → Int
  | mk n bytes blocks => n * if blocks.isEmpty then (bytes.size : Int) else totalLength blocks

/-- How many bytes a list of blocks writes. -/
def totalLength : List Block → Int
  | [] => 0
  | b :: rest => b.length + totalLength rest

end

/-! ### Expansion -/

mutual

/-- What a block writes. -/
def expand : Block → Packed
  | mk n bytes blocks =>
    if n ≤ 0 then .empty
    else Packed.replicated n.toNat
      (if blocks.isEmpty then bytes else expandOnto .empty blocks)

/-- What a list of blocks writes, behind something already written. -/
def expandOnto (done : Packed) : List Block → Packed
  | [] => done
  | b :: rest => expandOnto (done ++ b.expand) rest

end

/-- What a list of blocks writes. -/
def expandAll (blocks : List Block) : Packed := expandOnto .empty blocks

theorem toBytes_expandOnto (done : Packed) (blocks : List Block) :
    (expandOnto done blocks).toBytes = done.toBytes ++ blocks.flatMap (·.expand.toBytes) := by
  induction blocks generalizing done with
  | nil => simp [expandOnto]
  | cons b rest ih =>
    rw [expandOnto, ih, Packed.toBytes_append, List.append_assoc, List.flatMap_cons]

/-- Blocks write one behind the other. -/
theorem toBytes_expandAll (blocks : List Block) :
    (expandAll blocks).toBytes = blocks.flatMap (·.expand.toBytes) := by
  rw [expandAll, toBytes_expandOnto, Packed.toBytes_empty, List.nil_append]

/-- The pattern of a block: its content, or what the blocks inside write. -/
def pattern : Block → Bytes
  | mk _ bytes blocks => if blocks.isEmpty then bytes.toBytes else blocks.flatMap (·.expand.toBytes)

/-- A block writes its pattern as often as it says. -/
theorem toBytes_expand (b : Block) :
    b.expand.toBytes = (List.replicate b.repeats.toNat b.pattern).flatten := by
  obtain ⟨n, bytes, blocks⟩ := b
  rw [expand]
  split
  · next h => simp [repeats, Int.toNat_of_nonpos h]
  · rw [Packed.toBytes_replicated, repeats, pattern]
    split
    · rfl
    · rw [toBytes_expandOnto, Packed.toBytes_empty, List.nil_append]

/-! ### Zeros -/

mutual

/-- Whether a block writes nothing but zeros. -/
def writesZeros : Block → Bool
  | mk n bytes blocks =>
    n ≤ 0 || if blocks.isEmpty then bytes.allZero else allWriteZeros blocks

/-- Whether a list of blocks writes nothing but zeros. -/
def allWriteZeros : List Block → Bool
  | [] => true
  | b :: rest => b.writesZeros && allWriteZeros rest

end

mutual

theorem writesZeros_eq : ∀ b : Block, b.writesZeros = Bytes.allZero b.expand.toBytes
  | mk n bytes blocks => by
    have hp : (if blocks.isEmpty then bytes.allZero else allWriteZeros blocks) =
        Bytes.allZero (mk n bytes blocks).pattern := by
      rw [pattern]
      split
      · exact bytes.allZero_eq
      · exact allWriteZeros_eq blocks
    rw [writesZeros, hp, toBytes_expand, repeats]
    by_cases h : n ≤ 0
    · simp [h, Int.toNat_of_nonpos h, Bytes.allZero]
    · obtain ⟨k, hk⟩ : ∃ k, n.toNat = k + 1 := ⟨n.toNat - 1, by omega⟩
      rw [hk, decide_eq_false h, Bool.false_or]
      simp only [Bytes.allZero, List.replicate_succ, List.flatten_cons, List.all_append,
        List.all_flatten, List.all_replicate]
      split <;> simp

theorem allWriteZeros_eq :
    ∀ blocks : List Block,
      allWriteZeros blocks = Bytes.allZero (blocks.flatMap (·.expand.toBytes))
  | [] => rfl
  | b :: rest => by
    rw [allWriteZeros, writesZeros_eq b, allWriteZeros_eq rest, List.flatMap_cons]
    simp [Bytes.allZero]

end

/-! ### Room -/

mutual

/-- The most blocks that stand around a block inside this one. -/
def depth : Block → Nat
  | mk _ _ blocks => if blocks.isEmpty then 0 else depthOfAll blocks + 1

/-- The most blocks that stand around a block inside one of these. -/
def depthOfAll : List Block → Nat
  | [] => 0
  | b :: rest => max b.depth (depthOfAll rest)

end

mutual

/-- How many bytes a block writes, found in the order of expansion: the blocks inside
come first and are put together, even if they are written never. -/
def written [Machine] : Block → Except CapacityError Nat
  | mk n bytes blocks =>
    if blocks.isEmpty then Capacity.repeated bytes.size n
    else do Capacity.repeated (← Capacity.joined (← writtenByAll blocks)) n

/-- How many bytes the blocks of a list write one by one, found in the order of
expansion. -/
def writtenByAll [Machine] : List Block → Except CapacityError Nat
  | [] => pure 0
  | b :: rest => do
    let first ← b.written
    return first + (← writtenByAll rest)

end

/-- How many bytes a list of blocks writes, found in the order of expansion: what each
of them writes is put together at the end. -/
def writtenTogether [Machine] (blocks : List Block) : Except CapacityError Nat := do
  Capacity.joined (← writtenByAll blocks)

mutual

/-- What a block writes is as long as `written` says. -/
theorem size_expand [Machine] :
    ∀ {b : Block} {size : Nat}, b.written = .ok size → b.expand.size = size
  | mk n bytes blocks, size, h => by
    have hs : size = (mk n bytes blocks).pattern.length * n.toNat := by
      rw [written] at h
      rw [pattern]
      split at h
      · next empty =>
        rw [if_pos empty]
        exact Capacity.eq_mul_of_repeated h
      · next inner =>
        obtain ⟨unit, hu, h⟩ := Capacity.exists_of_bind_eq_ok h
        obtain ⟨joined, hj, h⟩ := Capacity.exists_of_bind_eq_ok h
        rw [if_neg inner, length_flatMap_expand hu, ← Capacity.eq_of_joined hj]
        exact Capacity.eq_mul_of_repeated h
    rw [← Packed.length_toBytes, toBytes_expand, hs]
    simp [repeats, Nat.mul_comm]

theorem length_flatMap_expand [Machine] :
    ∀ {blocks : List Block} {size : Nat}, writtenByAll blocks = .ok size →
      (blocks.flatMap (·.expand.toBytes)).length = size
  | [], size, h => by
    rw [writtenByAll] at h
    cases h
    rfl
  | b :: rest, size, h => by
    rw [writtenByAll] at h
    obtain ⟨first, hf, h⟩ := Capacity.exists_of_bind_eq_ok h
    obtain ⟨others, ho, h⟩ := Capacity.exists_of_bind_eq_ok h
    cases h
    rw [List.flatMap_cons, List.length_append, Packed.length_toBytes, size_expand hf,
      length_flatMap_expand ho]

end

/-! ### Reading -/

/-- How deep blocks may stand in one another: the outermost and this many levels
inside it. -/
def maxDepth : Nat := 32

/-- Reads a block with at most `levels` levels: a repeat count, the number of
blocks inside, and those blocks or, if there are none, a counted content. -/
def read (wide : Bool) : (levels : Nat) → Reader Block
  | 0 => throw .nestedTooDeeply
  | levels + 1 => do
    let repeats ← Reader.u16or32 wide
    let count ← Reader.u16
    if count = 0 then
      let size ← Reader.u8
      return mk repeats (.ofBytes (← Reader.bytes size)) []
    return mk repeats .empty (← Reader.times count (read wide levels))

/-- Reads an outermost block. -/
def readOutermost (wide : Bool) : Reader Block := read wide (maxDepth + 1)

end Block
end ObjectModule
