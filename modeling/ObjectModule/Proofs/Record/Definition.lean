import ObjectModule.Proofs.Record.Bodies

/-! Bodies of definitions as they are written.

The body of a definition is its attribute byte, the frame if the segment is absolute, its length
and three indices, in the order of `Segment.layout`; what stands behind them is not read. A
definition is taken from exactly these bytes (`Definition.read_eq_ok`), and the segment keeps all
it takes to write them again, at the widths they had (`Definition.toBytes_eq_bodyWith`). Only the
length field of a big segment is lost, as another length is put in its place. -/
namespace ObjectModule

/-- The fields of a definition, as its record has them. -/
structure Definition where
  attributes : Attributes
  /-- The frame number and offset, if the segment is absolute. -/
  frame : Option (Nat × Nat)
  length : SizedInt
  nameIndex : Index
  classIndex : Index
  overlayIndex : Index
deriving DecidableEq, Repr

/-! ### The layout of a body -/

/-- How many bytes fields take, one behind the other. -/
def LayoutField.totalSize : List LayoutField → Int
  | [] => 0
  | field :: rest => field.size + totalSize rest

namespace Segment

/-- The fields of the body of a definition: those between the length of its record and the
checksum. -/
def bodyLayout (s : Segment) : List LayoutField := (s.layout.drop 2).dropLast

/-- What a segment writes into a field of its definition, where the bytes of the length are
given. -/
def fieldBytes (s : Segment) (length : Bytes) (field : LayoutField) : Bytes :=
  match field.name with
  | "segment_attr" => [s.attributes.raw]
  | "frame_number" => Bytes.ofNat 2 s.frameNumber
  | "offset" => Bytes.ofNat 1 s.frameOffset
  | "segment_length" => length
  | "segment_name_index" => s.nameIndex.toBytes
  | "class_name_index" => s.classIndex.toBytes
  | "overlay_name_index" => s.overlayIndex.toBytes
  | _ => []

/-- The body of a segment's definition, field by field in the order of the layout. -/
def bodyWith (s : Segment) (length : Bytes) : Bytes := s.bodyLayout.flatMap (s.fieldBytes length)

end Segment

/-- Attributes are told by their byte. -/
theorem Attributes.ofInt_toNat (byte : UInt8) : ofInt byte.toNat = ⟨byte⟩ := by
  have hbound := byte.toNat_lt
  have hbyte : UInt8.ofInt byte.toNat = byte := by
    apply UInt8.toNat_inj.mp
    rw [UInt8.ofInt, UInt8.toNat_ofNat']
    omega
  exact congrArg Attributes.mk hbyte

theorem Index.length_toBytes {i : Index} (h : i.Fits) : (i.toBytes.length : Int) = i.width := by
  obtain ⟨_, ⟨hwidth, _⟩ | ⟨hwidth, _⟩⟩ := h <;> simp [Index.toBytes, hwidth]

theorem SizedInt.length_toBytes {wide : Bool} {field : SizedInt} (h : field.Fits wide) :
    (field.toBytes.length : Int) = field.width := by
  have hwidth := h.1
  rw [SizedInt.toBytes, Bytes.length_ofNat]
  omega

namespace Definition

/-! ### Writing and reading -/

/-- A frame as it is written. -/
def frameBytes : Option (Nat × Nat) → Bytes
  | none => []
  | some (number, offset) => Bytes.ofNat 2 number ++ Bytes.ofNat 1 offset

/-- A definition as it is written. -/
def toBytes (d : Definition) : Bytes :=
  [d.attributes.raw] ++ (frameBytes d.frame ++ (d.length.toBytes ++
    (d.nameIndex.toBytes ++ (d.classIndex.toBytes ++ d.overlayIndex.toBytes))))

/-- Whether a frame stands in a definition with given attributes, and fits its fields. -/
def FrameFits (attributes : Attributes) : Option (Nat × Nat) → Prop
  | none => attributes.isAbsolute = false
  | some (number, offset) => attributes.isAbsolute = true ∧ number < 0x10000 ∧ offset < 0x100

instance (attributes : Attributes) (frame : Option (Nat × Nat)) :
    Decidable (FrameFits attributes frame) :=
  match frame with
  | none => inferInstanceAs (Decidable (_ = _))
  | some _ => inferInstanceAs (Decidable (_ ∧ _ ∧ _))

/-- Whether a definition can be written in a record. -/
structure Fits (wide : Bool) (d : Definition) : Prop where
  frame : FrameFits d.attributes d.frame
  length : d.length.Fits wide
  nameIndex : d.nameIndex.Fits
  classIndex : d.classIndex.Fits
  overlayIndex : d.overlayIndex.Fits

/-- The length a definition declares in a record of some type: what its field says, or in place of
that the length of big segments. -/
def declared (type : RecordType) (d : Definition) : SizedInt :=
  if d.attributes.isBig then
    d.length.withValue (if type = .segdef then 0x10000 else 0x100000000)
  else d.length

/-- The segment that is defined in a record of some type. -/
def segment (type : RecordType) (d : Definition) : Segment where
  attributes := d.attributes
  length := d.declared type
  nameIndex := d.nameIndex
  classIndex := d.classIndex
  overlayIndex := d.overlayIndex
  recordType := type
  frameNumber := (d.frame.map Prod.fst).getD 0
  frameOffset := (d.frame.map Prod.snd).getD 0
  address := d.frame.map fun (number, offset) => (number : Int) + offset

variable {type : RecordType} {d : Definition} {s : Segment} {offset : Nat} {rest : Bytes}
  {after : Cursor}

theorem reads_readFrame {attributes : Attributes} {frame : Option (Nat × Nat)}
    (h : FrameFits attributes frame) :
    (Segment.readFrame attributes).Reads (frameBytes frame) frame := by
  unfold Segment.readFrame
  cases frame with
  | none =>
    have relocatable : attributes.isAbsolute = false := h
    rw [relocatable]
    exact Reader.reads_pure none
  | some frame =>
    obtain ⟨number, offset⟩ := frame
    obtain ⟨absolute, hnumber, hoffset⟩ := h
    rw [if_pos absolute]
    exact (Reader.reads_number_ofNat (show number < .pow 256 2 from hnumber)).bind
      (Reader.reads_number_ofNat (show offset < .pow 256 1 from hoffset)).bind_pure

theorem takes_readFrame (attributes : Attributes) :
    (Segment.readFrame attributes).Takes fun front frame =>
      front = frameBytes frame ∧ FrameFits attributes frame := by
  unfold Segment.readFrame
  split
  · next absolute =>
    refine (Reader.takes_number 2).bind fun number front hnumber => ?_
    obtain ⟨rfl, hnumber⟩ := hnumber
    refine (Reader.takes_number 1).bind fun offset front hoffset => Reader.takes_pure ?_
    obtain ⟨rfl, hoffset⟩ := hoffset
    exact ⟨by rw [List.append_nil]; rfl, absolute, hnumber, hoffset⟩
  · next relocatable => exact Reader.takes_pure ⟨rfl, Bool.eq_false_iff.mpr relocatable⟩

/-- A definition is read as it was written, whatever stands behind it. -/
theorem reads_read (h : d.Fits type.isWide) :
    (Segment.read type).Reads d.toBytes (d.segment type) := by
  refine (Reader.reads_u8 d.attributes.raw).bind ?_
  rw [Attributes.ofInt_toNat]
  refine (reads_readFrame h.frame).bind ?_
  refine (Reader.reads_sizedInt h.length).bind ?_
  refine (Index.reads_index h.nameIndex).bind ?_
  refine (Index.reads_index h.classIndex).bind ?_
  exact (Index.reads_index h.overlayIndex).bind_pure

/-- A definition is taken from what it is written as. -/
theorem takes_read (type : RecordType) : (Segment.read type).Takes fun front s =>
    ∃ d : Definition, d.Fits type.isWide ∧ front = d.toBytes ∧ s = d.segment type := by
  refine Reader.takes_u8.bind fun attributes front hattributes => ?_
  obtain ⟨byte, rfl, rfl⟩ := hattributes
  rw [Attributes.ofInt_toNat]
  refine (takes_readFrame _).bind fun frame front hframe => ?_
  obtain ⟨rfl, hframe⟩ := hframe
  refine (Reader.takes_sizedInt _).bind fun length front hlength => ?_
  obtain ⟨rfl, hlength⟩ := hlength
  refine Index.takes_index.bind fun nameIndex front hname => ?_
  obtain ⟨rfl, hname⟩ := hname
  refine Index.takes_index.bind fun classIndex front hclass => ?_
  obtain ⟨rfl, hclass⟩ := hclass
  refine Index.takes_index.bind fun overlayIndex front hoverlay => Reader.takes_pure ?_
  obtain ⟨rfl, hoverlay⟩ := hoverlay
  refine ⟨⟨⟨byte⟩, frame, length, nameIndex, classIndex, overlayIndex⟩,
    ⟨hframe, hlength, hname, hclass, hoverlay⟩, ?_, rfl⟩
  rw [List.append_nil]
  rfl

/-- **A definition is read exactly where one is written.** -/
theorem read_eq_ok :
    Segment.read type ⟨offset, rest, 0⟩ = .ok s after ↔
      ∃ (d : Definition) (back : Bytes), d.Fits type.isWide ∧ rest = d.toBytes ++ back ∧
        s = d.segment type ∧ after = ⟨offset + d.toBytes.length, back, 0⟩ := by
  constructor
  · intro h
    obtain ⟨_, back, hrest, hafter, d, hfits, rfl, hs⟩ := takes_read type _ _ _ _ h
    exact ⟨d, back, hfits, hrest, hs, hafter⟩
  · rintro ⟨d, back, hfits, rfl, rfl, rfl⟩
    exact reads_read hfits offset back

/-! ### Agreement with the layout -/

theorem width_declared (type : RecordType) (d : Definition) :
    (d.declared type).width = d.length.width := by
  unfold declared
  split <;> rfl

/-- A definition is written in the order of the layout of its segment. -/
theorem toBytes_eq_bodyWith (h : FrameFits d.attributes d.frame) (type : RecordType) :
    d.toBytes = (d.segment type).bodyWith d.length.toBytes := by
  obtain ⟨attributes, frame, length, nameIndex, classIndex, overlayIndex⟩ := d
  cases frame with
  | none =>
    have relocatable : attributes.isAbsolute = false := h
    simp [toBytes, frameBytes, segment, Segment.bodyWith, Segment.bodyLayout, Segment.layout,
      Segment.fieldBytes, relocatable]
  | some frame =>
    obtain ⟨absolute, _⟩ := h
    simp [toBytes, frameBytes, segment, Segment.bodyWith, Segment.bodyLayout, Segment.layout,
      Segment.fieldBytes, absolute]

/-- The sizes of the fields of a body, all together. -/
theorem totalSize_bodyLayout (s : Segment) :
    LayoutField.totalSize s.bodyLayout =
      1 + (if s.attributes.isAbsolute then 3 else 0) + s.length.width + s.nameIndex.width +
        s.classIndex.width + s.overlayIndex.width := by
  unfold Segment.bodyLayout Segment.layout
  cases s.attributes.isAbsolute with
  | false => simp [LayoutField.totalSize, Int.add_assoc]
  | true =>
    simp [LayoutField.totalSize]
    omega

theorem length_frameBytes {attributes : Attributes} {frame : Option (Nat × Nat)}
    (h : FrameFits attributes frame) :
    (frameBytes frame).length = if attributes.isAbsolute then 3 else 0 := by
  cases frame with
  | none =>
    have relocatable : attributes.isAbsolute = false := h
    rw [relocatable]
    rfl
  | some frame =>
    rw [if_pos h.1, frameBytes, List.length_append, Bytes.length_ofNat, Bytes.length_ofNat]

/-- A definition is written in as many bytes as the layout of its segment tells. -/
theorem length_toBytes (h : d.Fits type.isWide) :
    (d.toBytes.length : Int) = LayoutField.totalSize (d.segment type).bodyLayout := by
  have hlength := SizedInt.length_toBytes h.length
  have hname := Index.length_toBytes h.nameIndex
  have hclass := Index.length_toBytes h.classIndex
  have hoverlay := Index.length_toBytes h.overlayIndex
  have hwidth := width_declared type d
  simp only [totalSize_bodyLayout, toBytes, List.length_append, List.length_singleton,
    length_frameBytes h.frame, segment]
  split <;> omega

/-- **Definitions are read as they were written, and layouts tell how.** Of any input only the
bytes that the layout tells the sizes of are taken, and the segment writes them again, but for the
length field if it is big. What is written is read as it was, with the length of big segments put
in place of a field that says otherwise. -/
theorem definition_round_trip :
    (∀ type offset rest s after, Segment.read type ⟨offset, rest, 0⟩ = .ok s after →
      ∃ front back length, rest = front ++ back ∧ after = ⟨offset + front.length, back, 0⟩ ∧
        LayoutField.totalSize s.bodyLayout = front.length ∧ front = s.bodyWith length ∧
        (length.length : Int) = s.length.width ∧
        (s.attributes.isBig = false → length = s.length.toBytes)) ∧
    ∀ type (d : Definition), d.Fits type.isWide →
      d.toBytes = (d.segment type).bodyWith d.length.toBytes ∧
        (Segment.read type).Reads d.toBytes (d.segment type) := by
  refine ⟨fun type offset rest s after hread => ?_, fun type d hfits =>
    ⟨toBytes_eq_bodyWith hfits.frame type, reads_read hfits⟩⟩
  obtain ⟨d, back, hfits, rfl, rfl, rfl⟩ := read_eq_ok.mp hread
  refine ⟨d.toBytes, back, d.length.toBytes, rfl, rfl, (length_toBytes hfits).symm,
    toBytes_eq_bodyWith hfits.frame type, ?_, fun small => ?_⟩
  · rw [SizedInt.length_toBytes hfits.length]
    exact (width_declared type d).symm
  · have small : d.attributes.isBig = false := small
    simp [segment, declared, small]

/-- An absolute and big segment, with an index of two bytes that would fit into one. -/
def bigAtFrame : Definition where
  attributes := ⟨0x02⟩
  frame := some (0x1234, 5)
  length := ⟨4, 0x01020304⟩
  nameIndex := ⟨2, 1⟩
  classIndex := ⟨1, 3⟩
  overlayIndex := ⟨2, 0x100⟩

theorem definition_round_trip_of_bigAtFrame :
    let body : Bytes := [0x02, 0x34, 0x12, 5, 4, 3, 2, 1, 0x80, 1, 3, 0x81, 0]
    ∃ s, Segment.read .segdef32 ⟨0, body ++ [0xFF], 0⟩ = .ok s ⟨13, [0xFF], 0⟩ ∧
      s.length = ⟨4, 0x100000000⟩ ∧ s.address = some 0x1239 ∧
      LayoutField.totalSize s.bodyLayout = 13 ∧
      ∃ length, body = s.bodyWith length ∧ length.length = 4 := by
  have hfits : bigAtFrame.Fits RecordType.segdef32.isWide :=
    ⟨by decide, by decide, by decide, by decide, by decide⟩
  have hread := (definition_round_trip.2 .segdef32 bigAtFrame hfits).2 0 [0xFF]
  obtain ⟨front, back, length, hrest, hafter, hsum, hfront, hwidth, _⟩ :=
    definition_round_trip.1 _ _ _ _ _ hread
  have hbytes : bigAtFrame.toBytes =
      [0x02, 0x34, 0x12, 5, 4, 3, 2, 1, 0x80, 1, 3, 0x81, 0] := by decide
  have hback : back = [0xFF] := (Cursor.mk.inj hafter).2.1.symm
  have hbody : front = bigAtFrame.toBytes := by
    rw [hback] at hrest
    exact (List.append_cancel_right hrest).symm
  rw [hbody, hbytes] at hsum hfront
  rw [hbytes] at hread
  exact ⟨_, hread, rfl, rfl, hsum, length, hfront, Int.ofNat_inj.mp hwidth⟩

end Definition
end ObjectModule
