import UniversalNetwork.Bitstream.Codec

/-!
# Records of typed fields

A record is any list of fields, each with the write operation of its kind; it is read back as a
list of field types, each with the read operation of the same kind. `writeFields` and `readFields`
note the offset after every field.

* `writeFields_eq`, `readFields_eq`: the bytes a record puts on the wire and takes from it.
* `fields_roundTrip`: the values and the offsets agree, whatever the mixture of kinds.
-/

namespace UniversalNetwork

open Lib

inductive Field
  | uint8 (src : UInt32)
  | uint16 (src : UInt32)
  | uint16Endian (src : UInt32)
  | uint32 (src : UInt32)
  | uint32Endian (src : UInt32)
  | uint64 (src : UInt64)
  | bytes (src : List UInt8)
  /-- The characters before the terminating null. -/
  | str (src : List UInt8)

inductive FieldType
  | uint8
  | uint16
  | uint16Endian
  | uint32
  | uint32Endian
  | uint64
  | bytes {n : Nat} (dest : Vector UInt8 n) (length : Nat)
  | str {n : Nat} (dest : Vector UInt8 n) (maxlength : Nat)

/-- What a read gives; for blocks and strings the number it returns and what it stored. -/
inductive Value
  | uint (dest : UInt32)
  | uint64 (dest : UInt64)
  | bytes (returned : Nat) (dest : List UInt8)
deriving DecidableEq

/-! ## Writing and reading -/

def writeField : Field → BitM Unit
  | .uint8 src => bitstreamWriteUint8 src
  | .uint16 src => bitstreamWriteUint16 src
  | .uint16Endian src => bitstreamWriteUint16Endian src
  | .uint32 src => bitstreamWriteUint32 src
  | .uint32Endian src => bitstreamWriteUint32Endian src
  | .uint64 src => bitstreamWriteUint64 src
  | .bytes src => do
    let _ ← bitstreamWriteBytes src src.length
    return ()
  | .str src => do
    let _ ← bitstreamWriteStr (src ++ [0])
    return ()

def readField : FieldType → BitM Value
  | .uint8 => do return .uint (← bitstreamReadUint8)
  | .uint16 => do return .uint (← bitstreamReadUint16)
  | .uint16Endian => do return .uint (← bitstreamReadUint16Endian)
  | .uint32 => do return .uint (← bitstreamReadUint32)
  | .uint32Endian => do return .uint (← bitstreamReadUint32Endian)
  | .uint64 => do return .uint64 (← bitstreamReadUint64)
  | .bytes dest length => do
    let x ← bitstreamReadBytes dest length
    return .bytes x.1 (x.2.toList.take length)
  | .str dest maxlength => do
    let x ← bitstreamReadStr dest maxlength
    return .bytes x.1 (cstr x.2)

/-- The fields in order, with the offset after each. -/
def writeFields : List Field → BitM (List Nat)
  | [] => return []
  | field :: fields => do
    writeField field
    let stream ← get
    let offsets ← writeFields fields
    return stream.offset :: offsets

def readFields : List FieldType → BitM (List (Value × Nat))
  | [] => return []
  | type :: types => do
    let value ← readField type
    let stream ← get
    let values ← readFields types
    return (value, stream.offset) :: values

/-! ## Layout -/

/-- The encoded size. -/
def Field.size : Field → Nat
  | .uint8 _ => 1
  | .uint16 _ | .uint16Endian _ => 2
  | .uint32 _ | .uint32Endian _ => 4
  | .uint64 _ => 8
  | .bytes src => src.length
  | .str src => 1 + src.length

/-- Blocks are indexed by an `int`, strings have a length byte and no null. -/
def Field.Valid : Field → Prop
  | .bytes src => src.length < 2 ^ 31
  | .str src => 0 ∉ src ∧ src.length ≤ 255
  | _ => True

/-- What is to be read back: integers modulo the width of the field. -/
def Field.value : Field → Value
  | .uint8 src => .uint (src % 256)
  | .uint16 src | .uint16Endian src => .uint (src % 65536)
  | .uint32 src | .uint32Endian src => .uint src
  | .uint64 src => .uint64 src
  | .bytes src | .str src => .bytes src.length src

/-- The type reads fields of this kind, into memory that is large enough. -/
inductive ReadAs : Field → FieldType → Prop
  | uint8 {src : UInt32} : ReadAs (.uint8 src) .uint8
  | uint16 {src : UInt32} : ReadAs (.uint16 src) .uint16
  | uint16Endian {src : UInt32} : ReadAs (.uint16Endian src) .uint16Endian
  | uint32 {src : UInt32} : ReadAs (.uint32 src) .uint32
  | uint32Endian {src : UInt32} : ReadAs (.uint32Endian src) .uint32Endian
  | uint64 {src : UInt64} : ReadAs (.uint64 src) .uint64
  | bytes {src : List UInt8} {n : Nat} {dest : Vector UInt8 n} (hdest : src.length ≤ n) :
    ReadAs (.bytes src) (.bytes dest src.length)
  | str {src : List UInt8} {n maxlength : Nat} {dest : Vector UInt8 n}
    (hmax : src.length < maxlength) (hdest : maxlength ≤ n) : ReadAs (.str src) (.str dest maxlength)

def Field.wire : Field → List UInt8
  | .uint8 src => wire8 src
  | .uint16 src => wire16 src
  | .uint16Endian src => (wire16 src).reverse
  | .uint32 src => wire32 src
  | .uint32Endian src => (wire32 src).reverse
  | .uint64 src => wire64 src
  | .bytes src => src.reverse
  | .str src => wireStr src

theorem Field.length_wire (field : Field) : field.wire.length = field.size := by
  cases field <;> simp [Field.wire, Field.size, wireStr, wire8, wire16, wire32, wire64]
  omega

/-! ## One field -/

theorem toUInt8_toUInt32 (x : UInt32) : x.toUInt8.toUInt32 = x % 256 := by
  apply UInt32.toNat_inj.1
  simp

theorem toUInt16_toUInt32 (x : UInt32) : x.toUInt16.toUInt32 = x % 65536 := by
  apply UInt32.toNat_inj.1
  simp

theorem writes_field {field : Field} (h : field.Valid) : Writes (writeField field) field.wire () := by
  cases field with
  | uint8 src => exact writes_uint8 src
  | uint16 src => exact writes_uint16 src
  | uint16Endian src => exact writes_uint16Endian src
  | uint32 src => exact writes_uint32 src
  | uint32Endian src => exact writes_uint32Endian src
  | uint64 src => exact writes_uint64 src
  | bytes src =>
    have hbytes := @writes_writeBytes src src.length (Nat.le_refl _)
    rw [List.take_length] at hbytes
    exact hbytes.map _
  | str src =>
    have hstring : CString (n := src.length + 1) ⟨(src ++ [0]).toArray, by simp⟩ src :=
      ⟨by simp [Vector.toList], h.1⟩
    exact (writes_str hstring).map _

theorem reads_field {field : Field} {type : FieldType} (h : field.Valid) (htype : ReadAs field type) :
    Reads (readField type) field.wire field.value := by
  cases htype with
  | uint8 =>
    rw [Field.value, ← toUInt8_toUInt32]
    exact (reads_uint8 _).map _
  | uint16 =>
    rw [Field.value, ← toUInt16_toUInt32]
    exact (reads_uint16 _).map _
  | uint16Endian =>
    rw [Field.value, ← toUInt16_toUInt32]
    exact (reads_uint16Endian _).map _
  | uint32 => exact (reads_uint32 _).map _
  | uint32Endian => exact (reads_uint32Endian _).map _
  | uint64 => exact (reads_uint64 _).map _
  | @bytes src n dest hdest =>
    have hread := (reads_readBytes dest src hdest).map fun x =>
      Value.bytes x.1 (x.2.toList.take src.length)
    rw [toList_patch _ _ hdest, List.take_left] at hread
    exact hread
  | @str src n maxlength dest hmax hdest =>
    have hlen : src.length < n := by omega
    have hread := (reads_str dest hlen (Nat.lt_succ_of_le h.2) hmax).map fun x =>
      Value.bytes x.1 (cstr x.2)
    rw [(cstring_patch dest hlen h.1).cstr_eq] at hread
    exact hread

/-- A field that does not fit is not written at all. -/
theorem writeField_skip {field : Field} (h : field.Valid) {stream : Bitstream}
    (hfit : ¬ stream.bytesDoFit field.size) : writeField field stream = some ((), stream) := by
  cases field with
  | uint8 src => exact putAll_skip hfit
  | uint16 src => exact putAll_skip hfit
  | uint16Endian src => exact putAll_skip hfit
  | uint32 src => exact putAll_skip hfit
  | uint32Endian src => exact putAll_skip hfit
  | uint64 src => exact putAll_skip hfit
  | bytes src =>
    have hskip : bitstreamWriteBytes src src.length stream = some (0, stream) :=
      writeBytes_skip src hfit
    rw [writeField, bind_run hskip]
    rfl
  | str src =>
    have hstring : CString (n := src.length + 1) ⟨(src ++ [0]).toArray, by simp⟩ src :=
      ⟨by simp [Vector.toList], h.1⟩
    rw [Field.size, Nat.add_comm] at hfit
    have hskip : bitstreamWriteStr (src ++ [0]) stream = some (0, stream) :=
      writeStr_skip hstring.strlen hfit
    rw [writeField, bind_run hskip]
    rfl

/-! ## Records -/

def wireFields (fields : List Field) : List UInt8 := fields.flatMap Field.wire

theorem length_wireFields (fields : List Field) :
    (wireFields fields).length = (fields.map Field.size).sum := by
  simp [wireFields, List.length_flatMap, Field.length_wire]

/-- The offset after each field of a record that starts at `offset`. -/
def offsetsFrom (offset : Nat) : List Field → List Nat
  | [] => []
  | field :: fields => (offset + field.size) :: offsetsFrom (offset + field.size) fields

theorem writeFields_eq {fields : List Field} (h : ∀ field ∈ fields, field.Valid) :
    ∀ stream : Bitstream, stream.Sized → stream.offset + (wireFields fields).length ≤ stream.bound →
      writeFields fields stream =
        some (offsetsFrom stream.offset fields, stream.emit (wireFields fields)) := by
  induction fields with
  | nil =>
    intro stream hs hfit
    exact writes_pure stream hs hfit
  | cons field fields ih =>
    intro stream hs hfit
    obtain ⟨hfield, hfields⟩ := List.forall_mem_cons.1 h
    have hfit' := hfit
    rw [wireFields, List.flatMap_cons, List.length_append] at hfit'
    have hwrite := writes_field hfield stream hs (by omega)
    have hrest := ih hfields (stream.emit field.wire) (hs.emit (by omega)) (by
      show stream.offset + field.wire.length + (wireFields fields).length ≤ stream.bound
      rw [wireFields]
      omega)
    have hoffset : (stream.emit field.wire).offset = stream.offset + field.size :=
      congrArg (stream.offset + ·) field.length_wire
    rw [hoffset, Bitstream.emit_append (hs.bound ▸ hfit)] at hrest
    rw [writeFields, bind_run hwrite, get_run, bind_run hrest, hoffset]
    rfl

theorem readFields_eq {fields : List Field} {types : List FieldType}
    (h : ∀ field ∈ fields, field.Valid) (htypes : List.Forall₂ ReadAs fields types) :
    ∀ stream : Bitstream, stream.Sized → stream.offset ≤ stream.bound →
      HasAt stream.data stream.offset (wireFields fields) →
      readFields types stream = some ((fields.map Field.value).zip (offsetsFrom stream.offset fields),
        stream.advance (wireFields fields).length) := by
  induction htypes with
  | nil =>
    intro stream hs hoff hat
    rfl
  | @cons field type fields types htype htypes ih =>
    intro stream hs hoff hat
    obtain ⟨hfield, hfields⟩ := List.forall_mem_cons.1 h
    obtain ⟨hhead, htail⟩ := hasAt_append.1 hat
    have hlen := hhead.le_length (hs.bound ▸ hoff)
    have hread := reads_field hfield htype stream hs hoff hhead
    have hrest := ih hfields (stream.advance field.wire.length) ⟨hs.bound, hs.size⟩
      (hs.bound ▸ hlen) htail
    have hoffset : (stream.advance field.wire.length).offset = stream.offset + field.size :=
      congrArg (stream.offset + ·) field.length_wire
    rw [hoffset] at hrest
    rw [readFields, bind_run hread, get_run, bind_run hrest, hoffset]
    show some ((field.value, stream.offset + field.size) ::
      (fields.map Field.value).zip (offsetsFrom (stream.offset + field.size) fields), _) = _
    simp [offsetsFrom, Bitstream.advance, wireFields, Nat.add_assoc]

/-- **Any record reads back**: each value comes back, and the reader's offset is the writer's after
every field. -/
theorem fields_roundTrip {data : List UInt8} {bound : Nat} {fields : List Field}
    {types : List FieldType} (hdata : data.length = bound) (hbound : bound < 2 ^ 64)
    (hvalid : ∀ field ∈ fields, field.Valid) (hsize : (fields.map Field.size).sum ≤ bound)
    (htypes : List.Forall₂ ReadAs fields types) :
    ∃ offsets stream values, writeFields fields (bitstreamCreate data bound) =
        some (offsets, stream) ∧
      readFields types (bitstreamReset stream) = some (values, stream) ∧
      values.map Prod.fst = fields.map Field.value ∧ values.map Prod.snd = offsets := by
  have hs : (bitstreamCreate data bound).Sized := ⟨hdata.symm, hbound⟩
  have hfit : 0 + (wireFields fields).length ≤ bound := by
    rw [length_wireFields]
    omega
  have hwrite := writeFields_eq hvalid (bitstreamCreate data bound) hs hfit
  have hat : HasAt (overwrite data 0 (wireFields fields)) 0 (wireFields fields) :=
    hasAt_overwrite (hdata ▸ hfit)
  have hread := readFields_eq hvalid htypes
    (bitstreamReset ((bitstreamCreate data bound).emit (wireFields fields)))
    ⟨(hs.emit hfit).bound, hbound⟩ (Nat.zero_le _) hat
  have hlength : ∀ (offset : Nat) (fields : List Field),
      (offsetsFrom offset fields).length = fields.length := by
    intro offset fields
    induction fields generalizing offset with
    | nil => rfl
    | cons field fields ih => simp [offsetsFrom, ih]
  refine ⟨_, _, _, hwrite, hread, ?_, ?_⟩
  · exact List.map_fst_zip (by simp [hlength])
  · exact List.map_snd_zip (by simp [hlength, bitstreamReset, bitstreamCreate])

/-- Two of the integers are cut to their width. -/
def mixedFields : List Field :=
  [.uint8 300, .str [72, 105], .uint16Endian 0x12345, .bytes [7, 8, 9], .uint64 5]

theorem fields_roundTrip_mixed : ∃ offsets stream values,
    writeFields mixedFields (bitstreamCreate (List.replicate 20 0) 20) = some (offsets, stream) ∧
      readFields [.uint8, .str (Vector.replicate 8 1) 3, .uint16Endian,
        .bytes (Vector.replicate 3 0) 3, .uint64] (bitstreamReset stream) = some (values, stream) ∧
      values.map Prod.fst = [.uint 44, .bytes 2 [72, 105], .uint 0x2345, .bytes 3 [7, 8, 9],
        .uint64 5] ∧ values.map Prod.snd = offsets := by
  refine @fields_roundTrip _ _ mixedFields _ (by decide) (by decide) ?_ (by decide) ?_
  · simp [mixedFields, Field.Valid]
  · exact .cons .uint8 (.cons (.str (by decide) (by decide)) (.cons .uint16Endian
      (.cons (.bytes (by decide)) (.cons .uint64 .nil))))

end UniversalNetwork
