import ObjectModule.Proofs.Record.Expansion

/-! How large what a record says can be.

A body is counted by two bytes, a reader takes no more bytes than are left
(`Reader.GivesWithin`), and a number in a record has at most four bytes. So no definition
declares more than a big one, data starts at an offset of at most four bytes, and what it
writes stays within the limit (`Record.isBounded_entry`). All of that is small against what
most machines have room for. -/
namespace ObjectModule

theorem Bytes.length_slice_le (bytes : Bytes) (first : Int) {size : Int} (h : 0 ≤ size) :
    (bytes.slice first (first + size)).length ≤ size.toNat := by
  rw [slice, List.length_drop, List.length_take, place, place]
  split <;> split <;> omega

namespace Reader
variable {α β : Type} {reader : Reader α} {next : α → Reader β} {P : α → Prop} {Q : β → Prop}
  {n : Int}

/-- Where at most so many bytes are left, no more are left behind the reader, and what it gives
has a property. -/
def GivesWithin (n : Int) (reader : Reader α) (P : α → Prop) : Prop :=
  ∀ c a after, c.remaining ≤ n → reader c = .ok a after → after.remaining ≤ n ∧ P a

theorem GivesWithin.parse {input : Bytes} {a : α} (h : reader.GivesWithin input.length P)
    (ha : reader.parse input = .ok a) : P a := by
  unfold Reader.parse at ha
  split at ha
  · next hrun =>
    cases ha
    exact (h _ _ _ (by simp [Cursor.start, Cursor.remaining]) hrun).2
  · cases ha

theorem givesWithin_pure {a : α} (h : P a) : GivesWithin n (pure a) P := by
  intro c b after hc hrun
  cases hrun
  exact ⟨hc, h⟩

theorem givesWithin_throw (e : FormatError) : GivesWithin n (throw e : Reader α) P := by
  intro c b after hc hrun
  cases hrun

theorem GivesWithin.bind (h : reader.GivesWithin n P)
    (hnext : ∀ a, P a → (next a).GivesWithin n Q) : (reader >>= next).GivesWithin n Q := by
  intro c b after hc hrun
  obtain ⟨a, middle, hfirst, hlast⟩ := bind_eq_ok.mp hrun
  obtain ⟨hmiddle, ha⟩ := h _ _ _ hc hfirst
  exact hnext a ha _ _ _ hmiddle hlast

theorem GivesWithin.gives (h : ∀ n, reader.GivesWithin n P) : reader.Gives P :=
  fun c a after hrun => (h c.remaining c a after (Int.le_refl _) hrun).2

/-- What a reader gives wherever it reads, it gives there too. -/
theorem GivesWithin.and_gives {P' : α → Prop} (h : reader.GivesWithin n P)
    (h' : reader.Gives P') : reader.GivesWithin n P' := by
  intro c a after hc hrun
  exact ⟨(h c a after hc hrun).1, h' c a after hrun⟩

/-! ### Fields -/

/-- What is taken is no longer left, and there is no more of it than was asked for. -/
theorem remaining_bytes {size : Int} {c after : Cursor} {front : Bytes}
    (h : bytes size c = .ok front after) :
    0 ≤ size ∧ after.remaining = c.remaining - size ∧ front.length ≤ size.toNat := by
  obtain ⟨offset, rest, outside⟩ := c
  by_cases inside : outside = 0
  · rw [inside, bytes_eq] at h
    split at h
    · next fits =>
      cases h
      simp only [Cursor.remaining, List.length_drop, List.length_take, inside]
      omega
    · cases h
  · unfold bytes at h
    rw [if_neg inside] at h
    split at h
    · next fits =>
      cases h
      refine ⟨fits.1, ?_, Bytes.length_slice_le _ _ fits.1⟩
      simp only [Cursor.remaining, Cursor.start, List.length_drop]
      omega
    · cases h

theorem givesWithin_bytes (size : Int) :
    (bytes size).GivesWithin n (·.length ≤ size.toNat) := by
  intro c front after hc hrun
  obtain ⟨hsize, hafter, hfront⟩ := remaining_bytes hrun
  exact ⟨by omega, hfront⟩

theorem gives_bytes (size : Int) : (bytes size).Gives (·.length ≤ size.toNat) :=
  fun _ _ _ hrun => (remaining_bytes hrun).2.2

theorem givesWithin_number (width : Nat) : (number width).GivesWithin n fun _ => True := by
  refine (givesWithin_bytes width).bind fun digits _ => ?_
  split
  · exact (givesWithin_throw _).bind fun _ => False.elim
  · exact givesWithin_pure trivial

theorem givesWithin_index : index.GivesWithin n fun _ => True := by
  refine (givesWithin_number 1).bind fun first _ => ?_
  split
  · exact givesWithin_pure trivial
  · exact (givesWithin_number 1).bind fun _ _ => givesWithin_pure trivial

theorem givesWithin_sizedInt (wide : Bool) :
    (sizedInt wide).GivesWithin n (·.value < 0x100000000) := by
  have hnumber : (u16or32 wide).GivesWithin n fun _ => True := by
    cases wide <;> exact givesWithin_number _
  exact (hnumber.and_gives (gives_u16or32 wide)).bind fun _ hvalue =>
    givesWithin_pure (Int.ofNat_lt.mpr hvalue)

/-- What is left is at most as much as may be left. -/
theorem givesWithin_remainder : remainder.GivesWithin n (·.length ≤ n.toNat) := by
  intro c front after hc hrun
  have taken : bytes c.remaining c = .ok front after := hrun
  obtain ⟨hsize, hafter, hfront⟩ := remaining_bytes taken
  exact ⟨by omega, by omega⟩

end Reader

/-! ### Definitions and data -/

/-- Whether a segment declares no more than a definition can. -/
def Segment.IsBounded (s : Segment) : Prop := s.length.value ≤ Segment.bigLengthWide

theorem Segment.isBounded_of_read {type : RecordType} {body : Bytes} {s : Segment}
    (h : (read type).parse body = .ok s) : s.IsBounded := by
  refine Reader.GivesWithin.parse ?_ h
  refine (Reader.givesWithin_number 1).bind fun raw _ => ?_
  have hframe : (readFrame (.ofInt raw)).GivesWithin body.length fun _ => True := by
    unfold readFrame
    split
    · exact (Reader.givesWithin_number 2).bind fun _ _ =>
        (Reader.givesWithin_number 1).bind fun _ _ => Reader.givesWithin_pure trivial
    · exact Reader.givesWithin_pure trivial
  refine hframe.bind fun frame _ => (Reader.givesWithin_sizedInt _).bind fun length hlength => ?_
  refine Reader.givesWithin_index.bind fun _ _ => Reader.givesWithin_index.bind fun _ _ =>
    Reader.givesWithin_index.bind fun _ _ => Reader.givesWithin_pure ?_
  show SizedInt.value (if (Attributes.ofInt raw).isBig then _ else length) ≤ _
  split
  · -- A big segment declares one byte more than the widest length field can say.
    have narrow : (bigLength : Int) ≤ bigLengthWide := by decide
    split
    · exact narrow
    · exact Int.le_refl _
  · exact Int.le_of_lt hlength

namespace Fragment
variable {f : Fragment} {r : Record} {n : Int}

/-- How far data can reach, and when its bytes can be had. -/
structure IsBounded (f : Fragment) : Prop where
  offset : f.offset < 0x100000000
  length : f.length ≤ expansionLimit
  contents : ∀ [Machine], Machine.HoldsRecords → f.HidesNothing →
    f.contents = .ok f.payload.expand

theorem givesWithin_readHead (wide : Bool) :
    (readHead wide).GivesWithin n (·.2 < 0x100000000) :=
  Reader.givesWithin_index.bind fun _ _ =>
    (Reader.givesWithin_sizedInt wide).bind fun _ hoffset => Reader.givesWithin_pure hoffset

theorem isBounded_of_enumerated (h : ofEnumerated r = .ok f) (hbody : r.body.length < 0x10000) :
    f.IsBounded := by
  unfold ofEnumerated at h
  split at h
  · cases h
  · refine Reader.GivesWithin.parse ?_ h
    refine (givesWithin_readHead _).bind fun head hoffset => ?_
    refine Reader.givesWithin_remainder.bind fun data hdata => ?_
    refine Reader.givesWithin_pure ⟨hoffset, ?_, fun _ _ => rfl⟩
    show ((Packed.ofBytes data).size : Int) ≤ expansionLimit
    rw [← Packed.length_toBytes, Packed.toBytes_ofBytes]
    have : expansionLimit = 0x1000000 := rfl
    omega

theorem isBounded_of_iterated (h : ofIterated r = .ok f) : f.IsBounded := by
  have hiterated := isIterated_of_ofIterated h
  refine ⟨?_, ?_, fun holds => hiterated.contents_of_hidesNothing
    (isShallow_of_ofIterated h holds.levels) holds.memory⟩
  · unfold ofIterated at h
    split at h
    · cases h
    · obtain ⟨g, hread, hsized⟩ := Outcome.bind_eq_ok.mp h
      rw [eq_of_sized hsized]
      refine Reader.Gives.parse (P := fun g => g.offset < 0x100000000) ?_ hread
      refine (Reader.GivesWithin.gives fun _ => givesWithin_readHead _).bind fun head hoffset => ?_
      exact Reader.gives_bind fun blocks => Reader.gives_pure hoffset
  · rw [length, hiterated.payload]
    exact hiterated.within

end Fragment

/-- Whether what an entry holds is no larger than a record can say. -/
def Entry.IsBounded : Entry → Prop
  | definition s => s.IsBounded
  | data f => f.IsBounded
  | moduleName _ | names _ | other => True

namespace Record
variable {r : Record} {e : Entry}

/-- **What a record says is bounded.** -/
theorem isBounded_entry (h : r.entry = .ok e) (hbody : r.body.length < 0x10000) :
    e.IsBounded := by
  unfold entry at h
  cases hkind : r.type.kind with
  | header | names =>
    simp only [hkind, Outcome.map_eq_ok] at h
    obtain ⟨_, _, rfl⟩ := h
    trivial
  | definition =>
    simp only [hkind, Outcome.map_eq_ok] at h
    obtain ⟨s, hread, rfl⟩ := h
    exact Segment.isBounded_of_read hread
  | enumerated =>
    simp only [hkind, Outcome.map_eq_ok] at h
    obtain ⟨f, hread, rfl⟩ := h
    exact Fragment.isBounded_of_enumerated hread hbody
  | iterated =>
    simp only [hkind, Outcome.map_eq_ok] at h
    obtain ⟨f, hread, rfl⟩ := h
    exact Fragment.isBounded_of_iterated hread
  | other =>
    simp only [hkind] at h
    cases h
    trivial

/-- Two bytes count the body of a record. -/
theorem gives_read_body : read.Gives (·.body.length < 0x10000) := by
  refine Reader.gives_bind fun c => Reader.gives_bind fun type => ?_
  refine (Reader.gives_number 2).bind fun length hlength => ?_
  have hrest : Reader.Gives (do
      let body ← Reader.bytes (length - 1)
      let checksum ← Reader.u8
      return (⟨⟨type⟩, c.offset, body, UInt8.ofNat checksum⟩ : Record))
      (·.body.length < 0x10000) := by
    refine (Reader.gives_bytes _).bind fun body hbody => Reader.gives_bind fun _ =>
      Reader.gives_pure ?_
    have hlength : length < 0x10000 := hlength
    show body.length < 0x10000
    omega
  split
  · exact Reader.gives_bind fun _ => hrest
  · exact hrest

theorem length_body_splitAfter {limit : Nat} {done : List Record} {c : Cursor}
    (hdone : ∀ r ∈ done, r.body.length < 0x10000) :
    ∀ r ∈ (splitAfter limit done c).records, r.body.length < 0x10000 := by
  induction limit generalizing done c with
  | zero => simpa [splitAfter] using hdone
  | succ limit ih =>
    unfold splitAfter
    split
    · simpa using hdone
    · split
      · simpa using hdone
      · next r after hread =>
        have hall : ∀ x ∈ r :: done, x.body.length < 0x10000 :=
          List.forall_mem_cons.mpr ⟨gives_read_body _ _ _ hread, hdone⟩
        split
        · exact fun x hx => hall x (List.mem_reverse.mp hx)
        · exact ih hall

theorem length_body_split {input : Bytes} : ∀ r ∈ (split input).records, r.body.length < 0x10000 :=
  length_body_splitAfter (by simp)

end Record
end ObjectModule
