import UniversalNetwork.Bitstream.Fields
import UniversalNetwork.Bitstream.Locality

/-!
# The two builds of the bit stream

With `__LITTLE_ENDIAN__` the codecs swap the bytes of an integer and of a block, without it they do
not. Both are written with shifts of the value, which do not depend on the host, so the build that
does not swap puts the low byte first. `BigEndianBuild` holds the functions of `bitstream.c` that
have a second variant; the others are those of the first build.

* `one_format_iff`: the builds agree on a record, and read each other's, exactly when every value of
  it is the same in both byte orders (and no string has to be read on a big-endian host).
-/

namespace UniversalNetwork

open Lib

/-! ## The build without `__LITTLE_ENDIAN__` -/

/-- How the host stores an integer. -/
inductive HostOrder
  | little
  | big
deriving DecidableEq, Repr

/-- A `size_t` of 8 bytes that was 0, after a store through `(unsigned int *)`. -/
def HostOrder.sizeT (host : HostOrder) (x : UInt32) : Nat :=
  match host with
  | .little => x.toNat
  | .big => x.toNat * 2 ^ 32

namespace BigEndianBuild

/-- `memcpy(&data[offset], src, length)` -/
def copyIn (data : List UInt8) (offset : Nat) (src : List UInt8) (length : Nat) :
    Option (List UInt8) :=
  if length ≤ src.length ∧ offset + length ≤ data.length then
    some (overwrite data offset (src.take length))
  else none

def bitstreamWriteBytes (src : List UInt8) (length : Nat) : BitM Nat := fun stream =>
  if stream.bytesDoFit length then do
    let data ← copyIn stream.data stream.offset src length
    some (length, { stream with data, offset := stream.offset + length })
  else some (0, stream)

/-- `memcpy(dest, &data[offset], length)` -/
def copyOut {m : Nat} (dest : Vector UInt8 m) (data : List UInt8) (offset length : Nat) :
    Option (Vector UInt8 m) :=
  if offset + length ≤ data.length then storeAll dest 0 ((data.drop offset).take length) else none

def bitstreamReadBytes {m : Nat} (dest : Vector UInt8 m) (length : Nat) :
    BitM (Nat × Vector UInt8 m) := fun stream =>
  if stream.bytesDoFit length then do
    let dest ← copyOut dest stream.data stream.offset length
    some ((length, dest), { stream with offset := stream.offset + length })
  else some ((0, dest), stream)

def bitstreamWriteUint16 (src : UInt32) : BitM Unit :=
  bitstreamPutAll [(src &&& 0xFF).toUInt8, ((src >>> 8) &&& 0xFF).toUInt8]

def bitstreamReadUint16 : BitM UInt32 := do
  let b0 ← bitstreamTake
  let b1 ← bitstreamTake
  return b0.toUInt32 ||| (b1.toUInt32 <<< 8)

def bitstreamWriteUint32 (src : UInt32) : BitM Unit :=
  bitstreamPutAll [(src &&& 0xFF).toUInt8, ((src >>> 8) &&& 0xFF).toUInt8,
    ((src >>> 16) &&& 0xFF).toUInt8, (src >>> 24).toUInt8]

def bitstreamReadUint32 : BitM UInt32 := do
  let b0 ← bitstreamTake
  let b1 ← bitstreamTake
  let b2 ← bitstreamTake
  let b3 ← bitstreamTake
  return b0.toUInt32 ||| (b1.toUInt32 <<< 8) ||| (b2.toUInt32 <<< 16) ||| (b3.toUInt32 <<< 24)

def bitstreamWriteUint64 (src : UInt64) : BitM Unit :=
  bitstreamPutAll [(src &&& 0xFF).toUInt8, ((src >>> 8) &&& 0xFF).toUInt8,
    ((src >>> 16) &&& 0xFF).toUInt8, (src >>> 24).toUInt8, (src >>> 32).toUInt8,
    (src >>> 40).toUInt8, (src >>> 48).toUInt8, (src >>> 56).toUInt8]

def bitstreamReadUint64 : BitM UInt64 := do
  let b0 ← bitstreamTake
  let b1 ← bitstreamTake
  let b2 ← bitstreamTake
  let b3 ← bitstreamTake
  let b4 ← bitstreamTake
  let b5 ← bitstreamTake
  let b6 ← bitstreamTake
  let b7 ← bitstreamTake
  return b0.toUInt64 ||| (b1.toUInt64 <<< 8) ||| (b2.toUInt64 <<< 16) ||| (b3.toUInt64 <<< 24) |||
    (b4.toUInt64 <<< 32) ||| (b5.toUInt64 <<< 40) ||| (b6.toUInt64 <<< 48) |||
    (b7.toUInt64 <<< 56)

def bitstreamWriteStr (src : List UInt8) : BitM Nat := do
  let strlength ← BitM.access (strlen src)
  if (← get).bytesDoFit (strlength + 1) then
    bitstreamWriteUint8 (UInt32.ofNat strlength)
    let _ ← bitstreamWriteBytes src strlength
    return strlength
  else return 0

/-- On a big-endian host the length byte lands in the upper half of `strlength`. -/
def bitstreamReadStr {m : Nat} (host : HostOrder) (dest : Vector UInt8 m) (maxlength : Nat) :
    BitM (Nat × Vector UInt8 m) := do
  let strlength := host.sizeT (← bitstreamReadUint8)
  if strlength + 1 > maxlength then
    return (0, dest)
  let (_, dest) ← bitstreamReadBytes dest strlength
  let dest ← BitM.access (store dest strlength 0)
  return (strlength, dest)

def writeField : Field → BitM Unit
  | .uint8 src => bitstreamWriteUint8 src
  | .uint16 src => bitstreamWriteUint16 src
  | .uint16Endian src => bitstreamWriteUint16Endian src
  | .uint32 src => bitstreamWriteUint32 src
  | .uint32Endian src => bitstreamWriteUint32Endian src
  | .uint64 src => bitstreamWriteUint64 src
  | .bytes src => do
    let _ ← bitstreamWriteBytes src src.length
    return ()
  | .str src => do
    let _ ← bitstreamWriteStr (src ++ [0])
    return ()

def readField (host : HostOrder) : FieldType → BitM Value
  | .uint8 => do return .uint (← bitstreamReadUint8)
  | .uint16 => do return .uint (← bitstreamReadUint16)
  | .uint16Endian => do return .uint (← bitstreamReadUint16Endian)
  | .uint32 => do return .uint (← bitstreamReadUint32)
  | .uint32Endian => do return .uint (← bitstreamReadUint32Endian)
  | .uint64 => do return .uint64 (← bitstreamReadUint64)
  | .bytes dest length => do
    let x ← bitstreamReadBytes dest length
    return .bytes x.1 (x.2.toList.take length)
  | .str dest maxlength => do
    let x ← bitstreamReadStr host dest maxlength
    return .bytes x.1 (cstr x.2)

end BigEndianBuild

/-! ## Records -/

/-- How a build writes and reads one field. -/
structure Build where
  write : Field → BitM Unit
  read : FieldType → BitM Value

namespace Build

def littleEndian : Build := ⟨writeField, readField⟩

def bigEndian (host : HostOrder) : Build := ⟨BigEndianBuild.writeField, BigEndianBuild.readField host⟩

def writeAll (build : Build) : List Field → BitM Unit
  | [] => pure ()
  | field :: fields => do
    build.write field
    build.writeAll fields

def readAll (build : Build) : List FieldType → BitM (List Value)
  | [] => return []
  | type :: types => do
    let value ← build.read type
    let values ← build.readAll types
    return value :: values

/-- The stream after the record was written from its start. -/
def written (build : Build) (data : List UInt8) (fields : List Field) : Option Bitstream :=
  (build.writeAll fields (bitstreamCreate data data.length)).map Prod.snd

/-- What is read from the start of a stream. -/
def values (build : Build) (stream : Bitstream) (types : List FieldType) : Option (List Value) :=
  (build.readAll types (bitstreamReset stream)).map Prod.fst

end Build

/-- Both builds write the same bytes, and each reads the record that the other wrote. -/
structure OneFormat (host : HostOrder) (data : List UInt8) (fields : List Field)
    (types : List FieldType) : Prop where
  bytes : ∃ stream, Build.littleEndian.written data fields = some stream ∧
    (Build.bigEndian host).written data fields = some stream
  readLittle : ∃ stream, (Build.bigEndian host).written data fields = some stream ∧
    Build.littleEndian.values stream types = some (fields.map Field.value)
  readBig : ∃ stream, Build.littleEndian.written data fields = some stream ∧
    (Build.bigEndian host).values stream types = some (fields.map Field.value)

/-- The bytes of the value are the same in both orders. -/
def Field.Mirrored : Field → Prop
  | .uint16 src => (wire16 src).reverse = wire16 src
  | .uint32 src => (wire32 src).reverse = wire32 src
  | .uint64 src => (wire64 src).reverse = wire64 src
  | .bytes src | .str src => src.reverse = src
  | .uint8 _ | .uint16Endian _ | .uint32Endian _ => True

/-- The build without `__LITTLE_ENDIAN__` gets the length of the string right. -/
def Field.Legible (host : HostOrder) (field : Field) : Prop :=
  host = .big → ∀ src, field = .str src → src = []

/-! ## What the second build writes and reads -/

def Field.plainWire : Field → List UInt8
  | .uint8 src => wire8 src
  | .uint16 src | .uint16Endian src => (wire16 src).reverse
  | .uint32 src | .uint32Endian src => (wire32 src).reverse
  | .uint64 src => (wire64 src).reverse
  | .bytes src => src
  | .str src => wire8 (UInt32.ofNat src.length) ++ src

theorem Field.length_plainWire (field : Field) : field.plainWire.length = field.wire.length := by
  cases field <;> simp [Field.wire, Field.plainWire, wireStr]

theorem Field.plainWire_eq_iff (field : Field) : field.wire = field.plainWire ↔ field.Mirrored := by
  cases field with
  | uint8 src => exact iff_of_true rfl trivial
  | uint16 src => exact eq_comm
  | uint16Endian src => exact iff_of_true rfl trivial
  | uint32 src => exact eq_comm
  | uint32Endian src => exact iff_of_true rfl trivial
  | uint64 src => exact eq_comm
  | bytes src => exact Iff.rfl
  | str src =>
    rw [Field.wire, Field.plainWire, wireStr, List.append_cancel_left_eq]
    exact Iff.rfl

namespace BigEndianBuild

theorem writes_writeBytes {src : List UInt8} {length : Nat} (h : length ≤ src.length) :
    Writes (bitstreamWriteBytes src length) (src.take length) length := by
  intro stream hs hfit
  have hlen : (src.take length).length = length := by
    rw [List.length_take]
    omega
  rw [hlen] at hfit
  have hcopy : copyIn stream.data stream.offset src length =
      some (overwrite stream.data stream.offset (src.take length)) :=
    if_pos ⟨h, hs.bound ▸ hfit⟩
  simp [bitstreamWriteBytes, hs.bytesDoFit hfit, hcopy, Bitstream.emit, hlen]

theorem reads_readBytes {m : Nat} (dest : Vector UInt8 m) (bs : List UInt8) (h : bs.length ≤ m) :
    Reads (bitstreamReadBytes dest bs.length) bs (bs.length, patch dest bs) := by
  intro stream hs hoff hat
  have hfit := hat.le_length (hs.bound ▸ hoff)
  have htake : (stream.data.drop stream.offset).take bs.length = bs := by
    obtain ⟨r, hr⟩ := hat
    rw [← hr, List.take_left]
  have hstore : storeAll dest 0 bs = some (patch dest bs) := by
    have hcopy := storeAll_patch dest [] bs (by simpa using h)
    rwa [patch_nil] at hcopy
  have hcopy : copyOut dest stream.data stream.offset bs.length = some (patch dest bs) := by
    rw [copyOut, if_pos hfit, htake, hstore]
  rw [← hs.bound] at hfit
  simp [bitstreamReadBytes, hs.bytesDoFit hfit, hcopy, Bitstream.advance]

theorem writes_uint64 (x : UInt64) : Writes (bitstreamWriteUint64 x) (wire64 x).reverse () := by
  rw [bitstreamWriteUint64, and_mask64, and_mask64, and_mask64]
  exact writes_putAll _

theorem or_reverse (a b c d e f g h : UInt64) :
    a ||| b ||| c ||| d ||| e ||| f ||| g ||| h = h ||| g ||| f ||| e ||| d ||| c ||| b ||| a := by
  ac_rfl

theorem reads_uint64 (x : UInt64) : Reads bitstreamReadUint64 (wire64 x).reverse x := by
  have h : Reads bitstreamReadUint64 (wire64 x).reverse _ :=
    (reads_take _).bind ((reads_take _).bind ((reads_take _).bind ((reads_take _).bind
      ((reads_take _).bind ((reads_take _).bind ((reads_take _).bind ((reads_take _).map _)))))))
  rw [or_reverse, word64] at h
  exact h

theorem writes_str {s : List UInt8} (h : 0 ∉ s) :
    Writes (bitstreamWriteStr (s ++ [0])) (wire8 (UInt32.ofNat s.length) ++ s) s.length := by
  have hstring : CString (n := s.length + 1) ⟨(s ++ [0]).toArray, by simp⟩ s :=
    ⟨by simp [Vector.toList], h⟩
  have hbytes : Writes (bitstreamWriteBytes (s ++ [0]) s.length) s s.length := by
    have hlength : s.length ≤ (s ++ [0]).length := by simp
    have hb := writes_writeBytes hlength
    rwa [List.take_left] at hb
  refine writes_access hstring.strlen (writes_ifFits ?_ ?_)
  · rw [wire8, List.length_append, List.length_singleton]
    omega
  · exact (writes_uint8 _).bind (hbytes.map _)

theorem writes_field {field : Field} (h : field.Valid) :
    Writes (writeField field) field.plainWire () := by
  cases field with
  | uint8 src => exact writes_uint8 src
  | uint16 src => exact writes_uint16Endian src
  | uint16Endian src => exact writes_uint16Endian src
  | uint32 src => exact writes_uint32Endian src
  | uint32Endian src => exact writes_uint32Endian src
  | uint64 src => exact writes_uint64 src
  | bytes src =>
    have hbytes := writes_writeBytes (Nat.le_refl src.length)
    rw [List.take_length] at hbytes
    exact hbytes.map _
  | str src => exact (writes_str h.1).map _

theorem lengthByte {s : List UInt8} (h : s.length ≤ 255) :
    (UInt32.ofNat s.length).toUInt8.toUInt32.toNat = s.length := by
  simp
  omega

theorem reads_str {n : Nat} (host : HostOrder) (dest : Vector UInt8 n) {s : List UInt8}
    (hlen : s.length < n) (hbyte : s.length ≤ 255) {maxlength : Nat} (hmax : s.length < maxlength)
    (hhost : host = .big → s = []) :
    Reads (bitstreamReadStr host dest maxlength) (wire8 (UInt32.ofNat s.length) ++ s)
      (s.length, patch dest (s ++ [0])) := by
  have hsize : host.sizeT (UInt32.ofNat s.length).toUInt8.toUInt32 = s.length := by
    cases host with
    | little => exact lengthByte hbyte
    | big =>
      rw [hhost rfl]
      rfl
  have hread : Reads (do
      let x ← bitstreamReadBytes dest s.length
      let dest ← BitM.access (store x.2 s.length 0)
      return (s.length, dest)) (s ++ []) (s.length, patch dest (s ++ [0])) :=
    (reads_readBytes dest s (by omega)).bind
      (reads_access (store_patch dest s 0 hlen) reads_pure)
  rw [List.append_nil] at hread
  refine (reads_uint8 _).bind ?_
  rw [hsize, if_neg (by omega)]
  exact hread

theorem reads_field {host : HostOrder} {field : Field} {type : FieldType} (h : field.Valid)
    (htype : ReadAs field type) (hlegible : field.Legible host) :
    Reads (readField host type) field.plainWire field.value := by
  cases htype with
  | uint8 =>
    rw [Field.value, ← toUInt8_toUInt32]
    exact (reads_uint8 _).map _
  | uint16 =>
    rw [Field.value, ← toUInt16_toUInt32]
    exact (reads_uint16Endian _).map _
  | uint16Endian =>
    rw [Field.value, ← toUInt16_toUInt32]
    exact (reads_uint16Endian _).map _
  | uint32 => exact (reads_uint32Endian _).map _
  | uint32Endian => exact (reads_uint32Endian _).map _
  | uint64 => exact (reads_uint64 _).map _
  | @bytes src n dest hdest =>
    have hread := (reads_readBytes dest src hdest).map fun x =>
      Value.bytes x.1 (x.2.toList.take src.length)
    rw [toList_patch _ _ hdest, List.take_left] at hread
    exact hread
  | @str src n maxlength dest hmax hdest =>
    have hlen : src.length < n := by omega
    have hread := (reads_str host dest hlen h.2 hmax fun hhost => hlegible hhost src rfl).map
      fun x => Value.bytes x.1 (cstr x.2)
    rw [(cstring_patch dest hlen h.1).cstr_eq] at hread
    exact hread

/-- On a big-endian host the length of a string with characters comes back wrong. -/
theorem readField_str_big {n maxlength : Nat} {dest : Vector UInt8 n} {s : List UInt8}
    (hbyte : s.length ≤ 255) (hs : s ≠ []) {stream stream' : Bitstream} (hsized : stream.Sized)
    (hoff : stream.offset ≤ stream.bound)
    (hat : HasAt stream.data stream.offset (wire8 (UInt32.ofNat s.length))) {value : Value}
    (h : readField .big (.str dest maxlength) stream = some (value, stream')) :
    value ≠ .bytes s.length s := by
  have hpos : 0 < s.length := List.length_pos_iff.2 hs
  have hlength := reads_uint8 _ stream hsized hoff hat
  obtain ⟨x, s₁, hstr, hvalue⟩ := bind_eq_some h
  cases hvalue
  obtain ⟨length, s₂, hbyte', hrest⟩ := bind_eq_some hstr
  rw [hlength] at hbyte'
  cases hbyte'
  have hsize : HostOrder.big.sizeT (UInt32.ofNat s.length).toUInt8.toUInt32 =
      s.length * 2 ^ 32 := by
    rw [HostOrder.sizeT, lengthByte hbyte]
  rw [hsize] at hrest
  intro hvalue
  have hx : x.1 = s.length := (Value.bytes.inj hvalue).1
  by_cases hmax : s.length * 2 ^ 32 + 1 > maxlength
  · simp only [if_pos hmax] at hrest
    cases hrest
    exact absurd hx (Nat.ne_of_lt hpos)
  · simp only [if_neg hmax] at hrest
    obtain ⟨y, s₃, -, hrest⟩ := bind_eq_some hrest
    obtain ⟨z, s₄, -, hrest⟩ := bind_eq_some hrest
    cases hrest
    simp only at hx
    omega

end BigEndianBuild

/-! ## Whole records -/

namespace Build

def plainWireFields (fields : List Field) : List UInt8 := fields.flatMap Field.plainWire

theorem writes_writeAll (build : Build) (wire : Field → List UInt8) {fields : List Field}
    (h : ∀ field ∈ fields, Writes (build.write field) (wire field) ()) :
    Writes (build.writeAll fields) (fields.flatMap wire) () := by
  induction fields with
  | nil => exact writes_pure
  | cons field fields ih =>
    obtain ⟨hfield, hfields⟩ := List.forall_mem_cons.1 h
    exact hfield.bind (f := fun _ => build.writeAll fields) (ih hfields)

theorem reads_readAll {build : Build} (wire : Field → List UInt8) {fields : List Field}
    {types : List FieldType}
    (h : List.Forall₂ (fun field type => Reads (build.read type) (wire field) field.value)
      fields types) :
    Reads (build.readAll types) (fields.flatMap wire) (fields.map Field.value) := by
  induction h with
  | nil => exact reads_pure
  | cons hfield _ ih => exact hfield.bind (ih.map _)

/-- A build that reads the values of a record from its bytes got every string length right. -/
theorem legible_of_readAll {host : HostOrder} {fields : List Field} {types : List FieldType}
    (hvalid : ∀ field ∈ fields, field.Valid) (htypes : List.Forall₂ ReadAs fields types) :
    ∀ stream : Bitstream, stream.Sized → stream.offset ≤ stream.bound →
      HasAt stream.data stream.offset (plainWireFields fields) →
      ∀ stream', (bigEndian host).readAll types stream = some (fields.map Field.value, stream') →
      ∀ field ∈ fields, field.Legible host := by
  induction htypes with
  | nil =>
    intro _ _ _ _ _ _ field hfield
    cases hfield
  | @cons field type fields types htype htypes ih =>
    intro stream hs hoff hat stream' hread
    obtain ⟨hfield, hfields⟩ := List.forall_mem_cons.1 hvalid
    rw [plainWireFields, List.flatMap_cons] at hat
    obtain ⟨hhead, htail⟩ := hasAt_append.1 hat
    obtain ⟨value, s₁, hvalue, hrest⟩ := bind_eq_some hread
    obtain ⟨values, s₂, hvalues, hpure⟩ := bind_eq_some hrest
    have hcons := congrArg Prod.fst (Option.some.inj hpure)
    obtain ⟨rfl, rfl⟩ := List.cons.inj hcons
    have hlegible : field.Legible host := by
      rintro rfl src rfl
      by_contra hne
      cases htype with
      | str hmax hdest =>
        exact BigEndianBuild.readField_str_big hfield.2 hne hs hoff
          (hasAt_append.1 hhead).1 hvalue rfl
    refine List.forall_mem_cons.2 ⟨hlegible, ?_⟩
    have hadvance := BigEndianBuild.reads_field hfield htype hlegible stream hs hoff hhead
    rw [show (bigEndian host).read type stream = _ from hadvance] at hvalue
    cases hvalue
    have hle := hhead.le_length (hs.bound ▸ hoff)
    rw [← hs.bound] at hle
    exact ih hfields (stream.advance field.plainWire.length) ⟨hs.bound, hs.size⟩ hle htail _
      hvalues

end Build

/-- Records of one layout are equal when their fields are. -/
theorem wireFields_eq_iff (fields : List Field) :
    wireFields fields = Build.plainWireFields fields ↔ ∀ field ∈ fields, field.Mirrored := by
  induction fields with
  | nil => simp [wireFields, Build.plainWireFields]
  | cons field fields ih =>
    rw [wireFields, Build.plainWireFields, List.flatMap_cons, List.flatMap_cons,
      List.forall_mem_cons, ← ih, ← field.plainWire_eq_iff]
    constructor
    · intro h
      exact List.append_inj h field.length_plainWire.symm
    · rintro ⟨h₁, h₂⟩
      rw [h₁]
      exact congrArg _ h₂

/-- A record at the start of a block. -/
def Bitstream.holding (data record : List UInt8) : Bitstream :=
  (bitstreamCreate data data.length).emit record

section Holding

variable {data record record' : List UInt8} (hdata : data.length < 2 ^ 64)
  (hfit : record.length ≤ data.length)

include hdata hfit in
theorem holding_reset :
    (bitstreamReset (Bitstream.holding data record)).Sized ∧
      HasAt (Bitstream.holding data record).data 0 record := by
  have hs : (bitstreamCreate data data.length).Sized := ⟨rfl, hdata⟩
  have hzero : 0 + record.length ≤ data.length := by omega
  exact ⟨⟨(hs.emit hzero).bound, hdata⟩, hasAt_overwrite hzero⟩

include hfit in
theorem holding_inj (hlength : record'.length = record.length)
    (h : Bitstream.holding data record = Bitstream.holding data record') : record = record' := by
  have hzero : 0 + record.length ≤ data.length := by omega
  have hzero' : 0 + record'.length ≤ data.length := by omega
  have hat : HasAt (overwrite data 0 record) 0 record := hasAt_overwrite hzero
  have hat' : HasAt (overwrite data 0 record') 0 record' := hasAt_overwrite hzero'
  rw [show overwrite data 0 record = overwrite data 0 record' from
    congrArg Bitstream.data h] at hat
  exact List.prefix_of_prefix_length_le hat hat' hlength.symm.le |>.eq_of_length hlength.symm

theorem Build.values_holding {build : Build} {types : List FieldType} {values : List Value}
    (hdata : data.length < 2 ^ 64) (hfit : record.length ≤ data.length)
    (h : Reads (build.readAll types) record values) :
    build.values (.holding data record) types = some values := by
  obtain ⟨hs, hat⟩ := holding_reset hdata hfit
  rw [Build.values, h _ hs (Nat.zero_le _) hat]
  rfl

end Holding

section Builds

variable {host : HostOrder} {data : List UInt8} {fields : List Field} {types : List FieldType}
  (hdata : data.length < 2 ^ 64) (hvalid : ∀ field ∈ fields, field.Valid)
  (hsize : (fields.map Field.size).sum ≤ data.length)

include hdata hvalid hsize in
theorem written_littleEndian :
    Build.littleEndian.written data fields = some (.holding data (wireFields fields)) := by
  have hwrites := Build.writes_writeAll .littleEndian Field.wire
    fun f hf => writes_field (hvalid f hf)
  rw [Build.written, hwrites (bitstreamCreate data data.length) ⟨rfl, hdata⟩
    ((Nat.zero_add _).trans_le (length_wireFields fields ▸ hsize))]
  rfl

theorem length_plainWireFields (fields : List Field) :
    (Build.plainWireFields fields).length = (wireFields fields).length := by
  simp [Build.plainWireFields, wireFields, List.length_flatMap, Field.length_plainWire]

include hdata hvalid hsize in
theorem written_bigEndian (host : HostOrder) :
    (Build.bigEndian host).written data fields =
      some (.holding data (Build.plainWireFields fields)) := by
  have hwrites := Build.writes_writeAll (.bigEndian host) Field.plainWire
    fun f hf => BigEndianBuild.writes_field (hvalid f hf)
  rw [← length_wireFields, ← length_plainWireFields] at hsize
  rw [Build.written, hwrites (bitstreamCreate data data.length) ⟨rfl, hdata⟩
    ((Nat.zero_add _).trans_le hsize)]
  rfl

theorem reads_littleEndian (hvalid : ∀ field ∈ fields, field.Valid)
    (htypes : List.Forall₂ ReadAs fields types) :
    Reads (Build.littleEndian.readAll types) (wireFields fields) (fields.map Field.value) := by
  refine Build.reads_readAll Field.wire ?_
  induction htypes with
  | nil => exact .nil
  | cons htype _ ih =>
    obtain ⟨hfield, hfields⟩ := List.forall_mem_cons.1 hvalid
    exact .cons (reads_field hfield htype) (ih hfields)

theorem reads_bigEndian (hvalid : ∀ field ∈ fields, field.Valid)
    (htypes : List.Forall₂ ReadAs fields types) (h : ∀ field ∈ fields, field.Legible host) :
    Reads ((Build.bigEndian host).readAll types) (Build.plainWireFields fields)
      (fields.map Field.value) := by
  refine Build.reads_readAll Field.plainWire ?_
  induction htypes with
  | nil => exact .nil
  | cons htype _ ih =>
    obtain ⟨hfield, hfields⟩ := List.forall_mem_cons.1 hvalid
    obtain ⟨hlegible, hrest⟩ := List.forall_mem_cons.1 h
    exact .cons (BigEndianBuild.reads_field hfield htype hlegible) (ih hfields hrest)

end Builds

open Build in
/-- **The builds have one format for a record exactly when it is the same in both byte orders**, and
the second build reads its strings. -/
theorem one_format_iff (host : HostOrder) (data : List UInt8) (hdata : data.length < 2 ^ 64)
    (fields : List Field) (types : List FieldType) (hvalid : ∀ field ∈ fields, field.Valid)
    (hsize : (fields.map Field.size).sum ≤ data.length)
    (htypes : List.Forall₂ ReadAs fields types) :
    OneFormat host data fields types ↔
      ∀ field ∈ fields, field.Mirrored ∧ field.Legible host := by
  have hlittle := written_littleEndian hdata hvalid hsize
  have hbig := written_bigEndian hdata hvalid hsize host
  have hfit : (wireFields fields).length ≤ data.length := length_wireFields fields ▸ hsize
  have hfit' : (plainWireFields fields).length ≤ data.length :=
    length_plainWireFields fields ▸ hfit
  constructor
  · rintro ⟨⟨stream, hwl, hwb⟩, -, ⟨stream', hwl', hread⟩⟩
    rw [hlittle] at hwl hwl'
    rw [hbig] at hwb
    cases hwl'
    have hwire : wireFields fields = plainWireFields fields :=
      holding_inj hfit (length_plainWireFields fields) (Option.some.inj (hwl.trans hwb.symm))
    rw [hwire] at hread
    obtain ⟨⟨values, s⟩, hvalues, rfl⟩ := Option.map_eq_some_iff.1 hread
    obtain ⟨hs, hat⟩ := holding_reset hdata hfit'
    have hlegible := legible_of_readAll hvalid htypes _ hs (Nat.zero_le _) hat _ hvalues
    intro field hfield
    exact ⟨(wireFields_eq_iff fields).1 hwire field hfield, hlegible field hfield⟩
  · intro h
    have hwire : wireFields fields = plainWireFields fields :=
      (wireFields_eq_iff fields).2 fun f hf => (h f hf).1
    have hreadLittle := values_holding hdata hfit (reads_littleEndian hvalid htypes)
    have hreadBig := values_holding hdata hfit'
      (reads_bigEndian hvalid htypes fun f hf => (h f hf).2)
    refine ⟨⟨_, hlittle, ?_⟩, ⟨_, hbig, ?_⟩, ⟨_, hlittle, ?_⟩⟩
    · rw [hbig, hwire]
    · rw [← hwire]
      exact hreadLittle
    · rw [hwire]
      exact hreadBig

/-- A byte, a 16-bit value with equal bytes, a block and a name that read the same backwards. -/
def mirroredFields : List Field := [.uint8 7, .uint16 0x4242, .bytes [1, 2, 1], .str [97, 98, 97]]

theorem one_format_mirrored :
    OneFormat .little (List.replicate 16 0) mirroredFields
      [.uint8, .uint16, .bytes (Vector.replicate 3 0) 3, .str (Vector.replicate 8 1) 8] := by
  refine (one_format_iff .little _ (by decide) mirroredFields _ ?_ (by decide) ?_).2 ?_
  · simp [mirroredFields, Field.Valid]
  · exact .cons .uint8 (.cons .uint16 (.cons (.bytes (by decide)) (.cons
      (.str (by decide) (by decide)) .nil)))
  · intro field hfield
    refine ⟨?_, fun h => by cases h⟩
    simp only [mirroredFields, List.mem_cons, List.not_mem_nil, or_false] at hfield
    rcases hfield with rfl | rfl | rfl | rfl
    · trivial
    · show (wire16 0x4242).reverse = wire16 0x4242
      decide
    · rfl
    · rfl

/-- The number 1 in two bytes is written `00 01` by one build and `01 00` by the other. -/
theorem one_format_uint16 :
    Build.littleEndian.written [0, 0] [.uint16 1] = some ⟨[0, 1], 2, 2⟩ ∧
      (Build.bigEndian .little).written [0, 0] [.uint16 1] = some ⟨[1, 0], 2, 2⟩ ∧
      ¬ OneFormat .little [0, 0] [.uint16 1] [.uint16] := by
  have hlittle : Build.littleEndian.written [0, 0] [.uint16 1] = some ⟨[0, 1], 2, 2⟩ := by
    decide +kernel
  have hbig : (Build.bigEndian .little).written [0, 0] [.uint16 1] = some ⟨[1, 0], 2, 2⟩ := by
    decide +kernel
  refine ⟨hlittle, hbig, fun h => ?_⟩
  obtain ⟨stream, hwl, hwb⟩ := h.bytes
  rw [hlittle] at hwl
  rw [hbig] at hwb
  exact absurd (hwl.trans hwb.symm) (by decide)

end UniversalNetwork
