import ObjectModule.Proofs.Record.Entry
import ObjectModule.Proofs.Record.Taken

/-! Bodies of data records as they are written.

The body of a data record is a head, the segment and the offset its data belongs to, and behind
it the data or the blocks that expand to it. Blocks have no end marks: each is told from the next
by its counts alone. A body is accepted exactly if it is written so, and what is read is what was
written (`ofEnumerated_eq_ok`, `ofIterated_eq_ok`). -/
namespace ObjectModule

/-! ### Fields -/

/-- Whether a number can be written in so many bytes. -/
def FitsBytes (width : Nat) (n : Int) : Prop := 0 ≤ n ∧ n < (Nat.pow 256 width : Nat)

instance (width : Nat) (n : Int) : Decidable (FitsBytes width n) :=
  inferInstanceAs (Decidable (_ ∧ _))

/-- How many bytes a field takes that is wider in wide records. -/
def fieldWidth (wide : Bool) : Nat := if wide then 4 else 2

theorem fitsBytes_iff {width : Nat} {n : Int} :
    FitsBytes width n ↔ ∃ k : Nat, n = k ∧ k < .pow 256 width := by
  constructor
  · rintro ⟨low, high⟩
    exact ⟨n.toNat, (Int.toNat_of_nonneg low).symm, (Int.toNat_lt low).mpr high⟩
  · rintro ⟨k, rfl, hk⟩
    exact ⟨Int.natCast_nonneg k, Int.ofNat_lt.mpr hk⟩

namespace Index

/-- An index as it is written: in one byte, or in two, the first of which is marked and holds the
higher part. -/
def toBytes (i : Index) : Bytes :=
  if i.width = 1 then [UInt8.ofNat i.value.toNat]
  else [UInt8.ofNat (0x80 + i.value.toNat / 0x100), UInt8.ofNat i.value.toNat]

/-- Whether an index can be written in its width. -/
def Fits (i : Index) : Prop :=
  0 ≤ i.value ∧ (i.width = 1 ∧ i.value < 0x80 ∨ i.width = 2 ∧ i.value < 0x8000)

instance (i : Index) : Decidable i.Fits := inferInstanceAs (Decidable (_ ∧ _))

theorem reads_index {i : Index} (h : i.Fits) : Reader.index.Reads i.toBytes i := by
  obtain ⟨width, value⟩ := i
  obtain ⟨hvalue, hwidth⟩ := h
  obtain ⟨n, rfl⟩ : ∃ n : Nat, value = n := Int.eq_ofNat_of_zero_le hvalue
  rcases hwidth with ⟨rfl, hsmall⟩ | ⟨rfl, hlarge⟩
  · have hn : n < 0x80 := Int.ofNat_lt.mp hsmall
    have hbyte : (UInt8.ofNat n).toNat = n := UInt8.toNat_ofNat_of_lt (show n < 256 by omega)
    have hread : Reader.index.Reads ([UInt8.ofNat n] ++ []) ⟨1, n⟩ := by
      refine (Reader.reads_u8 (UInt8.ofNat n)).bind ?_
      rw [hbyte, if_pos hn]
      exact Reader.reads_pure _
    exact hread
  · have hn : n < 0x8000 := Int.ofNat_lt.mp hlarge
    have hfirst : (UInt8.ofNat (0x80 + n / 0x100)).toNat = 0x80 + n / 0x100 :=
      UInt8.toNat_ofNat_of_lt (show 0x80 + n / 0x100 < 256 by omega)
    have hsecond : (UInt8.ofNat n).toNat = n % 0x100 := UInt8.toNat_ofNat'
    have hvalue : (((0x80 + n / 0x100 : Nat) : Int) - 0x80) * 0x100 + (n % 0x100 : Nat) = n := by
      omega
    have hread :
        Reader.index.Reads ([UInt8.ofNat (0x80 + n / 0x100)] ++ [UInt8.ofNat n]) ⟨2, n⟩ := by
      refine (Reader.reads_u8 (UInt8.ofNat (0x80 + n / 0x100))).bind ?_
      rw [hfirst, if_neg (by omega), ← hvalue, ← hsecond]
      exact (Reader.reads_u8 (UInt8.ofNat n)).bind_pure
    exact hread

theorem takes_index : Reader.index.Takes fun front i => front = i.toBytes ∧ i.Fits := by
  refine Reader.takes_u8.bind fun first front hfirst => ?_
  obtain ⟨first, rfl, rfl⟩ := hfirst
  have hbound := first.toNat_lt
  split
  · next hsmall =>
    refine Reader.takes_pure ⟨?_, Int.natCast_nonneg _, .inl ⟨rfl, Int.ofNat_lt.mpr hsmall⟩⟩
    simp [toBytes]
  · next hlarge =>
    refine Reader.takes_u8.bind fun second front hsecond => ?_
    obtain ⟨second, rfl, rfl⟩ := hsecond
    have hbound' := second.toNat_lt
    obtain ⟨n, hn⟩ : ∃ n : Nat, n = (first.toNat - 0x80) * 0x100 + second.toNat := ⟨_, rfl⟩
    have hvalue : ((first.toNat : Int) - 0x80) * 0x100 + second.toNat = n := by omega
    have hbelow : (n : Int) < 0x8000 := by omega
    rw [hvalue]
    refine Reader.takes_pure ⟨?_, Int.natCast_nonneg _, .inr ⟨rfl, hbelow⟩⟩
    have hhigh : UInt8.ofNat (0x80 + n / 0x100) = first := by
      apply UInt8.toNat_inj.mp
      rw [UInt8.toNat_ofNat']
      omega
    have hlow : UInt8.ofNat n = second := by
      apply UInt8.toNat_inj.mp
      rw [UInt8.toNat_ofNat']
      omega
    simp [toBytes, hhigh, hlow]

end Index

namespace SizedInt

/-- A sized integer as it is written. -/
def toBytes (field : SizedInt) : Bytes := Bytes.ofNat field.width.toNat field.value.toNat

/-- Whether a sized integer is as wide as the fields of a record, and fits. -/
def Fits (wide : Bool) (field : SizedInt) : Prop :=
  field.width = fieldWidth wide ∧ FitsBytes (fieldWidth wide) field.value

instance (wide : Bool) (field : SizedInt) : Decidable (field.Fits wide) :=
  inferInstanceAs (Decidable (_ ∧ _))

end SizedInt

namespace Reader

theorem u16or32_eq (wide : Bool) : u16or32 wide = number (fieldWidth wide) := by
  cases wide <;> rfl

theorem reads_sizedInt {wide : Bool} {field : SizedInt} (h : field.Fits wide) :
    (sizedInt wide).Reads field.toBytes field := by
  obtain ⟨width, value⟩ := field
  obtain ⟨rfl, hvalue⟩ := h
  obtain ⟨n, rfl, hn⟩ := fitsBytes_iff.mp hvalue
  have hwidth : (if wide then 4 else 2 : Int) = fieldWidth wide := by cases wide <;> rfl
  rw [sizedInt, u16or32_eq, hwidth]
  exact (reads_number_ofNat hn).bind_pure

theorem takes_sizedInt (wide : Bool) :
    (sizedInt wide).Takes fun front field => front = field.toBytes ∧ field.Fits wide := by
  have hwidth : (if wide then 4 else 2 : Int) = fieldWidth wide := by cases wide <;> rfl
  rw [sizedInt, u16or32_eq, hwidth]
  refine (takes_number _).bind fun n front hn => takes_pure ?_
  obtain ⟨rfl, hn⟩ := hn
  exact ⟨List.append_nil _, rfl, fitsBytes_iff.mpr ⟨n, rfl, hn⟩⟩

end Reader

/-! ### Blocks -/

namespace Block

mutual

/-- A block as it is written: how often it is repeated, how many blocks are inside it, and these
blocks or, if there are none, its counted content. -/
def toBytes (wide : Bool) : Block → Bytes
  | mk n bytes blocks =>
    Bytes.ofNat (fieldWidth wide) n.toNat ++ (Bytes.ofNat 2 blocks.length ++
      if blocks.isEmpty then Bytes.ofNat 1 bytes.size ++ bytes.toBytes
      else allToBytes wide blocks)

/-- Blocks as they are written, one behind the other. -/
def allToBytes (wide : Bool) : List Block → Bytes
  | [] => []
  | b :: rest => b.toBytes wide ++ allToBytes wide rest

end

mutual

/-- Whether every count in a block, at any depth, can be written in its field, and no block that
has blocks inside has content of its own. -/
def IsWritable (wide : Bool) : Block → Prop
  | mk n bytes blocks =>
    FitsBytes (fieldWidth wide) n ∧
      if blocks.isEmpty then bytes.size < 0x100
      else bytes = .empty ∧ blocks.length < 0x10000 ∧ AllWritable wide blocks

/-- Whether all blocks of a list can be written. -/
def AllWritable (wide : Bool) : List Block → Prop
  | [] => True
  | b :: rest => b.IsWritable wide ∧ AllWritable wide rest

end

variable {wide : Bool} {b : Block} {blocks : List Block} {levels : Nat}

theorem allToBytes_eq (blocks : List Block) :
    allToBytes wide blocks = blocks.flatMap (toBytes wide) := by
  induction blocks with
  | nil => rfl
  | cons b rest ih => rw [allToBytes, ih, List.flatMap_cons]

theorem allWritable_iff : AllWritable wide blocks ↔ ∀ b ∈ blocks, b.IsWritable wide := by
  induction blocks with
  | nil => simp [AllWritable]
  | cons b rest ih => simp [AllWritable, ih]

theorem toBytes_ne_nil (b : Block) : b.toBytes wide ≠ [] := by
  obtain ⟨n, bytes, blocks⟩ := b
  rw [toBytes]
  cases wide <;> nofun

mutual

/-- A block is read as it was written, whatever stands behind it. -/
theorem reads_read : ∀ {b : Block} {levels : Nat}, b.IsWritable wide → b.depth < levels →
    (read wide levels).Reads (b.toBytes wide) b
  | mk n bytes blocks, levels, hwritable, hdepth => by
    obtain ⟨levels, rfl⟩ : ∃ l, levels = l + 1 :=
      Nat.exists_eq_add_one.mpr (Nat.zero_lt_of_lt hdepth)
    obtain ⟨hn, hpattern⟩ := hwritable
    obtain ⟨k, rfl, hk⟩ := fitsBytes_iff.mp hn
    rw [read, toBytes, Reader.u16or32_eq]
    refine (Reader.reads_number_ofNat hk).bind ?_
    split at hpattern
    · next hempty =>
      obtain rfl := List.isEmpty_iff.mp hempty
      have hcontent : Packed.ofBytes bytes.toBytes = bytes :=
        Packed.eq_of_toBytes_eq (Packed.toBytes_ofBytes _)
      refine (Reader.reads_number_ofNat (show 0 < Nat.pow 256 2 by decide)).bind ?_
      rw [if_pos rfl, if_pos hempty]
      refine (Reader.reads_number_ofNat (show bytes.size < .pow 256 1 from hpattern)).bind ?_
      have hread := (Reader.reads_bytes bytes.toBytes).bind_pure (f := fun content =>
        mk k (.ofBytes content) [])
      rwa [hcontent] at hread
    · next hinner =>
      obtain ⟨rfl, hcount, hblocks⟩ := hpattern
      have hne : blocks.length ≠ 0 := by simpa using hinner
      rw [depth, if_neg hinner, Nat.add_lt_add_iff_right] at hdepth
      refine (Reader.reads_number_ofNat (show blocks.length < .pow 256 2 from hcount)).bind ?_
      rw [if_neg hne, if_neg hinner, allToBytes_eq]
      exact (Reader.reads_times (reads_inside hblocks hdepth)).bind_pure

theorem reads_inside : ∀ {blocks : List Block} {levels : Nat}, AllWritable wide blocks →
    depthOfAll blocks < levels → ∀ b ∈ blocks, (read wide levels).Reads (b.toBytes wide) b
  | [], _, _, _ => by simp
  | b :: rest, levels, hwritable, hdepth => by
    rw [depthOfAll, Nat.max_lt] at hdepth
    exact List.forall_mem_cons.mpr
      ⟨reads_read hwritable.1 hdepth.1, reads_inside hwritable.2 hdepth.2⟩

end

/-- A block is taken from what it is written as, and so are the blocks inside it. -/
theorem takes_read (wide : Bool) (levels : Nat) : (read wide levels).Takes fun front b =>
    front = b.toBytes wide ∧ b.IsWritable wide ∧ b.depth < levels := by
  induction levels with
  | zero => exact Reader.takes_throw _
  | succ levels ih =>
    rw [read, Reader.u16or32_eq]
    refine (Reader.takes_number _).bind fun n front hn => ?_
    obtain ⟨rfl, hn⟩ := hn
    refine (Reader.takes_number 2).bind fun count front hcount => ?_
    obtain ⟨rfl, hcount⟩ := hcount
    split
    · next hzero =>
      subst hzero
      refine (Reader.takes_number 1).bind fun size front hsize => ?_
      obtain ⟨rfl, hsize⟩ := hsize
      refine (Reader.takes_bytes _).bind fun content front hcontent => Reader.takes_pure ?_
      obtain ⟨rfl, hlength⟩ := hcontent
      obtain rfl : content.length = size := Int.ofNat_inj.mp hlength
      have hcontent : (Packed.ofBytes content).size = content.length := by
        rw [← Packed.length_toBytes, Packed.toBytes_ofBytes]
      refine ⟨?_, ⟨fitsBytes_iff.mpr ⟨n, rfl, hn⟩, ?_⟩, Nat.succ_pos _⟩
      · simp [toBytes, hcontent]
      · rw [if_pos List.isEmpty_nil, hcontent]
        exact hsize
    · next hne =>
      refine (Reader.takes_times ih count).bind fun blocks front hblocks => Reader.takes_pure ?_
      obtain ⟨rfl, rfl, hblocks⟩ := hblocks
      have hinner : ¬ blocks.isEmpty := by simpa using hne
      -- One block at least was read inside, so there was a level left for it.
      have hlevels : 0 < levels := by
        obtain ⟨b, hb⟩ := List.exists_mem_of_length_pos (Nat.pos_of_ne_zero hne)
        exact Nat.zero_lt_of_lt (hblocks b hb).2
      refine ⟨?_, ⟨fitsBytes_iff.mpr ⟨n, rfl, hn⟩, ?_⟩, ?_⟩
      · simp [toBytes, hinner, allToBytes_eq]
      · rw [if_neg hinner]
        exact ⟨rfl, hcount, allWritable_iff.mpr fun b hb => (hblocks b hb).1⟩
      · rw [depth, if_neg hinner, Nat.add_lt_add_iff_right, depthOfAll_lt_iff hlevels]
        exact fun b hb => (hblocks b hb).2

end Block

/-! ### Records -/

/-- The head of a data record: the segment and the offset its data belongs to. -/
structure Head where
  segment : Index
  offset : SizedInt

namespace Head

/-- A head as it is written. -/
def toBytes (head : Head) : Bytes := head.segment.toBytes ++ head.offset.toBytes

/-- Whether a head can be written in a record. -/
def Fits (wide : Bool) (head : Head) : Prop := head.segment.Fits ∧ head.offset.Fits wide

instance (wide : Bool) (head : Head) : Decidable (head.Fits wide) :=
  inferInstanceAs (Decidable (_ ∧ _))

/-- The data that stands behind a head, as a fragment. -/
def fragment (head : Head) (payload : Payload) : Fragment :=
  ⟨head.segment.value, head.offset.value, payload⟩

end Head

/-- Whether blocks can be held by a record of iterated data: their counts can be written, and
neither their depth nor the size they expand to is beyond its limit. -/
structure Block.AllHeld (wide : Bool) (blocks : List Block) : Prop where
  writable : AllWritable wide blocks
  depth : depthOfAll blocks ≤ maxDepth
  size : totalLength blocks ≤ expansionLimit

namespace Fragment
variable {r r' : Record} {f f' : Fragment} {wide : Bool} {head head' : Head} {area area' : Bytes}

theorem reads_readHead (h : head.Fits wide) :
    (readHead wide).Reads head.toBytes (head.segment.value, head.offset.value) :=
  (Index.reads_index h.1).bind (Reader.reads_sizedInt h.2).bind_pure

theorem takes_readHead (wide : Bool) : (readHead wide).Takes fun front place =>
    ∃ head : Head, head.Fits wide ∧ front = head.toBytes ∧
      place = (head.segment.value, head.offset.value) := by
  refine Index.takes_index.bind fun segment front hsegment => ?_
  obtain ⟨rfl, hsegment⟩ := hsegment
  refine (Reader.takes_sizedInt wide).bind fun offset front hoffset => Reader.takes_pure ?_
  obtain ⟨rfl, hoffset⟩ := hoffset
  exact ⟨⟨segment, offset⟩, ⟨hsegment, hoffset⟩, by rw [List.append_nil]; rfl, rfl⟩

/-- **The body of an enumerated record is its head and its data.** -/
theorem ofEnumerated_eq_ok (hkind : r.type.kind = .enumerated) :
    ofEnumerated r = .ok f ↔ ∃ (head : Head) (data : Bytes), head.Fits r.type.isWide ∧
      r.body = head.toBytes ++ data ∧ f = head.fragment (.enumerated (.ofBytes data)) := by
  unfold ofEnumerated
  rw [if_neg (not_not.mpr hkind)]
  constructor
  · intro h
    refine Reader.TakesAll.parse (P := fun body f => ∃ (head : Head) (data : Bytes),
      head.Fits r.type.isWide ∧ body = head.toBytes ++ data ∧
        f = head.fragment (.enumerated (.ofBytes data))) ?_ h
    refine (takes_readHead _).bind_all fun place front hplace => ?_
    obtain ⟨head, hhead, rfl, rfl⟩ := hplace
    refine (Reader.takesAll_remainder.mono fun rest data hdata => ?_).bind_pure
    exact ⟨head, data, hhead, congrArg (head.toBytes ++ ·) hdata.symm, rfl⟩
  · rintro ⟨head, data, hhead, hbody, rfl⟩
    rw [hbody]
    exact ((reads_readHead hhead).bind_all (Reader.readsAll_remainder data).bind_pure).parse

theorem sized_iterated {blocks : List Block} :
    (head.fragment (.iterated blocks)).sized = .ok f ↔
      Block.totalLength blocks ≤ expansionLimit ∧ f = head.fragment (.iterated blocks) := by
  show (if (expansionLimit : Int) < Block.totalLength blocks then _ else _) = _ ↔ _
  split
  · next high => simp [Int.not_le.mpr high]
  · next low => simp [Int.not_lt.mp low, eq_comm]

/-- Reads the body of an iterated record, whatever its blocks expand to. -/
def readIterated (wide : Bool) : Reader Fragment := do
  let (segment, offset) ← readHead wide
  let blocks ← Reader.untilEnd (Block.readOutermost wide)
  return ⟨segment, offset, .iterated blocks⟩

theorem readsAll_readIterated {blocks : List Block} (hhead : head.Fits wide)
    (hwritable : Block.AllWritable wide blocks)
    (hdepth : Block.depthOfAll blocks ≤ Block.maxDepth) :
    (readIterated wide).ReadsAll (head.toBytes ++ Block.allToBytes wide blocks)
      (head.fragment (.iterated blocks)) := by
  have hinside := Block.reads_inside hwritable (Nat.lt_succ_of_le hdepth)
  have hblocks := Reader.readsAll_untilEnd fun b hb => ⟨hinside b hb, Block.toBytes_ne_nil b⟩
  rw [Block.allToBytes_eq]
  exact (reads_readHead hhead).bind_all hblocks.bind_pure

theorem takesAll_readIterated (wide : Bool) : (readIterated wide).TakesAll fun body f =>
    ∃ (head : Head) (blocks : List Block), head.Fits wide ∧ Block.AllWritable wide blocks ∧
      Block.depthOfAll blocks ≤ Block.maxDepth ∧
      body = head.toBytes ++ Block.allToBytes wide blocks ∧
      f = head.fragment (.iterated blocks) := by
  refine (takes_readHead wide).bind_all fun place front hplace => ?_
  obtain ⟨head, hhead, rfl, rfl⟩ := hplace
  have htakes := Reader.takesAll_untilEnd (Block.takes_read wide (Block.maxDepth + 1))
    Block.toBytes_ne_nil
  refine (htakes.mono fun rest blocks hblocks => ?_).bind_pure
  obtain ⟨rfl, hblocks⟩ := hblocks
  have hdepth : Block.depthOfAll blocks < Block.maxDepth + 1 :=
    (Block.depthOfAll_lt_iff (Nat.succ_pos _)).mpr fun b hb => (hblocks b hb).2
  rw [← Block.allToBytes_eq]
  exact ⟨head, blocks, hhead, Block.allWritable_iff.mpr fun b hb => (hblocks b hb).1,
    Nat.le_of_lt_succ hdepth, rfl, rfl⟩

/-- Iterated data is read before its size is judged. -/
theorem ofIterated_eq_bind (hkind : r.type.kind = .iterated) :
    ofIterated r = (readIterated r.type.isWide).parse r.body >>= sized := by
  unfold ofIterated
  rw [if_neg (not_not.mpr hkind)]
  rfl

/-- **The body of an iterated record is its head and its blocks**, and these are within all
limits. -/
theorem ofIterated_eq_ok (hkind : r.type.kind = .iterated) :
    ofIterated r = .ok f ↔ ∃ (head : Head) (blocks : List Block), head.Fits r.type.isWide ∧
      Block.AllHeld r.type.isWide blocks ∧
      r.body = head.toBytes ++ Block.allToBytes r.type.isWide blocks ∧
      f = head.fragment (.iterated blocks) := by
  rw [ofIterated_eq_bind hkind, Outcome.bind_eq_ok]
  constructor
  · rintro ⟨g, hread, hsized⟩
    obtain ⟨head, blocks, hhead, hwritable, hdepth, hbody, rfl⟩ :=
      (takesAll_readIterated _).parse hread
    obtain ⟨hsize, rfl⟩ := sized_iterated.mp hsized
    exact ⟨head, blocks, hhead, ⟨hwritable, hdepth, hsize⟩, hbody, rfl⟩
  · rintro ⟨head, blocks, hhead, hblocks, hbody, rfl⟩
    refine ⟨_, ?_, sized_iterated.mpr ⟨hblocks.size, rfl⟩⟩
    rw [hbody]
    exact (readsAll_readIterated hhead hblocks.writable hblocks.depth).parse

/-- However the body of an iterated record is parted into a head and what is behind it, that is
the writing of its blocks. -/
theorem area_eq {blocks : List Block} (hkind : r.type.kind = .iterated)
    (hread : ofIterated r = .ok f) (hblocks : f.payload = .iterated blocks)
    (hhead : head.Fits r.type.isWide) (hbody : r.body = head.toBytes ++ area) :
    area = Block.allToBytes r.type.isWide blocks := by
  obtain ⟨head', blocks', hhead', _, hbody', rfl⟩ := (ofIterated_eq_ok hkind).mp hread
  cases hblocks
  have hsame := reads_readHead hhead 0 area
  rw [← hbody, hbody', reads_readHead hhead' 0] at hsame
  exact (Cursor.mk.inj (EStateM.Result.ok.inj hsame).2).2.1.symm

/-- **Bodies of data records are read as they were written, and nothing else is.** What stands
behind the head of an accepted record of iterated data is told by its blocks, so nothing of it
is passed over. -/
theorem body_round_trip :
    (∀ r f, r.type.kind = .enumerated →
      (ofEnumerated r = .ok f ↔ ∃ (head : Head) (data : Bytes), head.Fits r.type.isWide ∧
        r.body = head.toBytes ++ data ∧ f = head.fragment (.enumerated (.ofBytes data)))) ∧
    (∀ r f, r.type.kind = .iterated →
      (ofIterated r = .ok f ↔ ∃ (head : Head) (blocks : List Block), head.Fits r.type.isWide ∧
        Block.AllHeld r.type.isWide blocks ∧
        r.body = head.toBytes ++ Block.allToBytes r.type.isWide blocks ∧
        f = head.fragment (.iterated blocks))) ∧
    ∀ r r' f f' (head head' : Head) area area', r.type.kind = .iterated → r'.type.kind = .iterated →
      r.type.isWide = r'.type.isWide → head.Fits r.type.isWide → head'.Fits r'.type.isWide →
      r.body = head.toBytes ++ area → r'.body = head'.toBytes ++ area' →
      ofIterated r = .ok f → ofIterated r' = .ok f' → f.payload = f'.payload → area = area' := by
  refine ⟨fun r f => ofEnumerated_eq_ok, fun r f => ofIterated_eq_ok, ?_⟩
  intro r r' f f' head head' area area' hkind hkind' hwide hhead hhead' hbody hbody' hread hread'
    hsame
  obtain ⟨_, blocks, _, _, _, rfl⟩ := (ofIterated_eq_ok hkind).mp hread
  rw [area_eq hkind hread rfl hhead hbody, area_eq hkind' hread' hsame.symm hhead' hbody', hwide]

/-- A block inside another. -/
def twiceThrice : Block := .mk 2 .empty [.mk 3 (.ofBytes [0x41, 0x42]) []]

theorem allHeld_twiceThrice : Block.AllHeld false [twiceThrice] where
  writable := by
    have hsize : (Packed.ofBytes [0x41, 0x42]).size < 0x100 := by decide
    exact ⟨⟨by decide, rfl, by decide, ⟨by decide, hsize⟩, trivial⟩, trivial⟩
  depth := by decide
  size := by decide

/-- One byte behind a head with wide fields. -/
def wideByte : Record := ⟨.ledata32, 0, [0x85, 3, 7, 0, 1, 0, 0x61], 0⟩

/-- Blocks behind a segment index of one byte. -/
def blocksAtSeven : Record :=
  ⟨.lidata, 0, [1, 7, 0, 2, 0, 1, 0, 3, 0, 0, 0, 2, 0x41, 0x42], 0⟩

/-- The same blocks behind a segment index of two bytes. -/
def blocksAtNine : Record :=
  ⟨.lidata, 0, [0x80, 1, 9, 0, 2, 0, 1, 0, 3, 0, 0, 0, 2, 0x41, 0x42], 0⟩

theorem body_twiceThrice :
    ofEnumerated wideByte = .ok ⟨0x503, 0x10007, .enumerated (.ofBytes [0x61])⟩ ∧
      ofIterated blocksAtSeven = .ok ⟨1, 7, .iterated [twiceThrice]⟩ ∧
      ofIterated blocksAtNine = .ok ⟨1, 9, .iterated [twiceThrice]⟩ ∧
      [2, 0, 1, 0, 3, 0, 0, 0, 2, 0x41, 0x42] = Block.allToBytes false [twiceThrice] := by
  have hseven : Head.Fits blocksAtSeven.type.isWide ⟨⟨1, 1⟩, ⟨2, 7⟩⟩ := by decide
  have hnine : Head.Fits blocksAtNine.type.isWide ⟨⟨2, 1⟩, ⟨2, 9⟩⟩ := by decide
  have hdata := (body_round_trip.1 wideByte ⟨0x503, 0x10007, .enumerated (.ofBytes [0x61])⟩ rfl).mpr
    ⟨⟨⟨2, 0x503⟩, ⟨4, 0x10007⟩⟩, [0x61], by decide, by decide, rfl⟩
  have hfirst := (body_round_trip.2.1 blocksAtSeven ⟨1, 7, .iterated [twiceThrice]⟩ rfl).mpr
    ⟨_, [twiceThrice], hseven, allHeld_twiceThrice, by decide, rfl⟩
  have hsecond := (body_round_trip.2.1 blocksAtNine ⟨1, 9, .iterated [twiceThrice]⟩ rfl).mpr
    ⟨_, [twiceThrice], hnine, allHeld_twiceThrice, by decide, rfl⟩
  exact ⟨hdata, hfirst, hsecond, body_round_trip.2.2 blocksAtSeven blocksAtNine _ _ _ _ _ _
    rfl rfl rfl hseven hnine (by decide) (by decide) hfirst hsecond rfl⟩

end Fragment
end ObjectModule
