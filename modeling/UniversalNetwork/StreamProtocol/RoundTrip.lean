import UniversalNetwork.Bitstream.Codec
import UniversalNetwork.StreamProtocol

/-!
# Round trip of a stream packet

An object is built by offering it chunks of data; those that no longer fit are left out. A full
object has 231 bytes, which with the headers of 3 + 12 bytes and the 10 bytes of tag and length
fill a packet to its last byte.

* `copyChunks_eq`: what the object holds after any sequence of `streamObjectCopyData`.
* `stream_roundTrip`: header and data through one packet.
-/

namespace UniversalNetwork

open Lib

/-! ## Building an object -/

/-- `streamObjectCopyData` for each chunk in order. -/
def copyChunks (object : StreamObject) : List (List UInt8) → Option StreamObject
  | [] => some object
  | chunk :: chunks =>
    (streamObjectCopyData object chunk (UInt32.ofNat chunk.length)).bind (copyChunks · chunks)

/-- The chunks that fit when they are offered to an object that holds `held` bytes, joined. -/
def fittingBytes (held : Nat) : List (List UInt8) → List UInt8
  | [] => []
  | chunk :: chunks =>
    if held + chunk.length ≤ kStreamObjectDataMaxLength then
      chunk ++ fittingBytes (held + chunk.length) chunks
    else fittingBytes held chunks

/-- The object holds `bytes`, in an array whose rest comes from `memory`. -/
structure ObjectHolds (memory : Vector UInt8 kStreamObjectDataMaxLength) (bytes : List UInt8)
    (object : StreamObject) : Prop where
  data : object.data = patch memory bytes
  length : object.length.toNat = bytes.length
  fits : bytes.length ≤ kStreamObjectDataMaxLength

section Build

variable {memory : Vector UInt8 kStreamObjectDataMaxLength} {bytes : List UInt8}
  {object : StreamObject}

/-- Without wrap-around the test is the one on the numbers. -/
theorem copyData_test (h : ObjectHolds memory bytes object) {n : Nat} (hn : n < 2 ^ 32 - 231) :
    object.length + UInt32.ofNat n ≤ UInt32.ofNat kStreamObjectDataMaxLength ↔
      bytes.length + n ≤ kStreamObjectDataMaxLength := by
  have hfits := h.fits
  have hlength := h.length
  have hmax : kStreamObjectDataMaxLength = 231 := rfl
  rw [hmax] at hfits
  rw [UInt32.le_iff_toNat_le, UInt32.toNat_add, UInt32.toNat_ofNat', hlength, hmax]
  show (bytes.length + n % 2 ^ 32) % 2 ^ 32 ≤ 231 ↔ _
  omega

theorem ObjectHolds.copyData (h : ObjectHolds memory bytes object) {chunk : List UInt8}
    (hchunk : chunk.length < 2 ^ 32 - 231) :
    ∃ object', streamObjectCopyData object chunk (UInt32.ofNat chunk.length) = some object' ∧
      object'.tag = object.tag ∧ ObjectHolds memory
        (if bytes.length + chunk.length ≤ kStreamObjectDataMaxLength then bytes ++ chunk else bytes)
        object' := by
  have hcast : (UInt32.ofNat chunk.length).toNat = chunk.length := by
    rw [UInt32.toNat_ofNat']
    omega
  have hmax : kStreamObjectDataMaxLength = 231 := rfl
  unfold streamObjectCopyData
  by_cases hfit : bytes.length + chunk.length ≤ kStreamObjectDataMaxLength
  · rw [if_pos ((copyData_test h hchunk).2 hfit), hcast, if_pos (Nat.le_refl _), List.take_length,
      h.data, h.length, storeAll_patch _ _ _ hfit, if_pos hfit]
    refine ⟨_, rfl, rfl, rfl, ?_, by simpa using hfit⟩
    have hlength := h.length
    rw [List.length_append, UInt32.toNat_add, hcast, hlength]
    omega
  · rw [if_neg (fun htest => hfit ((copyData_test h hchunk).1 htest)), if_neg hfit]
    exact ⟨object, rfl, rfl, h⟩

theorem ObjectHolds.copyChunks {chunks : List (List UInt8)}
    (hchunks : ∀ chunk ∈ chunks, chunk.length < 2 ^ 32 - 231) :
    ∀ {bytes : List UInt8} {object : StreamObject}, ObjectHolds memory bytes object →
      ∃ object', copyChunks object chunks = some object' ∧ object'.tag = object.tag ∧
        ObjectHolds memory (bytes ++ fittingBytes bytes.length chunks) object' := by
  induction chunks with
  | nil =>
    intro bytes object h
    exact ⟨object, rfl, rfl, by simpa [fittingBytes] using h⟩
  | cons chunk chunks ih =>
    intro bytes object h
    obtain ⟨hchunk, hrest⟩ := List.forall_mem_cons.1 hchunks
    obtain ⟨object₁, hcopy, htag, hholds⟩ := h.copyData hchunk
    simp only [UniversalNetwork.copyChunks, hcopy, Option.bind_some, fittingBytes]
    by_cases hfit : bytes.length + chunk.length ≤ kStreamObjectDataMaxLength
    · rw [if_pos hfit] at hholds
      obtain ⟨object₂, hcopies, htags, hholds₂⟩ := ih hrest hholds
      refine ⟨object₂, hcopies, htags.trans htag, ?_⟩
      rwa [if_pos hfit, ← List.append_assoc, ← List.length_append]
    · rw [if_neg hfit] at hholds
      obtain ⟨object₂, hcopies, htags, hholds₂⟩ := ih hrest hholds
      refine ⟨object₂, hcopies, htags.trans htag, ?_⟩
      rwa [if_neg hfit]

end Build

theorem copyChunks_eq (memory : StreamObject) {chunks : List (List UInt8)}
    (hchunks : ∀ chunk ∈ chunks, chunk.length < 2 ^ 32 - 231) :
    ∃ object, copyChunks (streamObjectSetup memory) chunks = some object ∧
      ObjectHolds memory.data (fittingBytes 0 chunks) object := by
  have hsetup : ObjectHolds memory.data [] (streamObjectSetup memory) :=
    ⟨(patch_nil _).symm, rfl, Nat.zero_le _⟩
  obtain ⟨object, hcopies, -, hholds⟩ := hsetup.copyChunks hchunks
  exact ⟨object, hcopies, hholds⟩

/-! ## The packet -/

def wireStreamHeader (sequence ack ackBitField : UInt32) : List UInt8 :=
  wireProtocol .stream ++ (wire32 sequence ++ (wire32 ack ++ wire32 ackBitField))

def wireData (tag : UInt64) (bytes : List UInt8) : List UInt8 :=
  wire64 tag ++ (wire16 (UInt32.ofNat bytes.length) ++ bytes.reverse)

theorem length_wireStream (sequence ack ackBitField : UInt32) (tag : UInt64) (bytes : List UInt8) :
    (wireStreamHeader sequence ack ackBitField ++ wireData tag bytes).length =
      25 + bytes.length := by
  simp [wireStreamHeader, wireData, wireProtocol, wire8, wire16, wire32, wire64]
  omega

theorem writes_streamHeader (sequence ack ackBitField : UInt32) :
    Writes (streamProtocolPackHeader sequence ack ackBitField)
      (wireStreamHeader sequence ack ackBitField) () :=
  (writes_protocolHeader .stream).bind
    ((writes_uint32 _).bind ((writes_uint32 _).bind (writes_uint32 _)))

theorem reads_streamHeader (dest dest' dest'' sequence ack ackBitField : UInt32) :
    Reads (streamProtocolUnpackHeader dest dest' dest'')
      (wireStreamHeader sequence ack ackBitField) (.valid, sequence, ack, ackBitField) :=
  (reads_protocolHeader .stream).bind
    ((reads_uint32 _).bind ((reads_uint32 _).bind ((reads_uint32 _).map _)))

section Data

variable {memory : Vector UInt8 kStreamObjectDataMaxLength} {bytes : List UInt8}
  {object : StreamObject}

theorem ObjectHolds.length_eq (h : ObjectHolds memory bytes object) :
    object.length = UInt32.ofNat bytes.length := by
  apply UInt32.toNat_inj.1
  rw [h.length, UInt32.toNat_ofNat']
  have hfits := h.fits
  have hmax : kStreamObjectDataMaxLength = 231 := rfl
  omega

theorem ObjectHolds.take_data (h : ObjectHolds memory bytes object) :
    object.data.toList.take object.length.toNat = bytes := by
  rw [h.data, h.length, toList_patch _ _ h.fits, List.take_left]

theorem ObjectHolds.writes_data (h : ObjectHolds memory bytes object) :
    Writes (streamProtocolPackData object) (wireData object.tag bytes) () := by
  have hroom : object.length.toNat ≤ object.data.toList.length := by
    rw [h.length, Vector.length_toList]
    exact h.fits
  have hbytes := writes_writeBytes hroom
  rw [h.take_data] at hbytes
  rw [wireData, ← h.length_eq]
  exact (writes_uint64 _).bind ((writes_uint16 _).bind (hbytes.map _))

theorem ObjectHolds.reads_data (h : ObjectHolds memory bytes object) (dest : StreamObject) :
    Reads (streamProtocolUnpackData dest) (wireData object.tag bytes)
      (.valid, ⟨patch dest.data bytes, object.length, object.tag⟩) := by
  have hword : (UInt32.ofNat bytes.length).toUInt16.toUInt32 = object.length := by
    rw [← h.length_eq]
    apply UInt32.toNat_inj.1
    have hlength := h.length
    have hfits := h.fits
    have hmax : kStreamObjectDataMaxLength = 231 := rfl
    simp
    omega
  have hread := reads_readBytes dest.data bytes h.fits
  refine (reads_uint64 _).bind ((reads_uint16 _).bind ?_)
  rw [hword, h.length]
  exact hread.map _

end Data

/-- **Round trip of a stream packet**: whatever chunks were offered to the object. -/
theorem stream_roundTrip {data : List UInt8} (hdata : data.length = kNetPacketMaxLen)
    (sequence ack ackBitField dest dest' dest'' : UInt32) (tag : UInt64)
    (memory destObject : StreamObject) {chunks : List (List UInt8)}
    (hchunks : ∀ chunk ∈ chunks, chunk.length < 2 ^ 32 - 231) :
    ∃ built packed decoded, copyChunks (streamObjectSetup memory) chunks = some built ∧
      built.data.toList.take built.length.toNat = fittingBytes 0 chunks ∧
      built.length.toNat = (fittingBytes 0 chunks).length ∧ built.length.toNat ≤ 231 ∧
      (do
        streamProtocolPackHeader sequence ack ackBitField
        streamProtocolPackData { built with tag }) (bitstreamCreate data kNetPacketMaxLen) =
          some ((), packed) ∧
      packed.offset = 3 + 12 + 10 + built.length.toNat ∧
      (do
        let header ← streamProtocolUnpackHeader dest dest' dest''
        let data ← streamProtocolUnpackData destObject
        return (header, data)) (bitstreamReset packed) =
          some (((.valid, sequence, ack, ackBitField), .valid, decoded), packed) ∧
      decoded.tag = tag ∧ decoded.length = built.length ∧
      decoded.data.toList.take decoded.length.toNat =
        built.data.toList.take built.length.toNat := by
  obtain ⟨built, hbuilt, hholds⟩ := copyChunks_eq memory hchunks
  have htagged : ObjectHolds memory.data (fittingBytes 0 chunks) { built with tag } :=
    ⟨hholds.data, hholds.length, hholds.fits⟩
  have hwrite := (writes_streamHeader sequence ack ackBitField).bind
    (f := fun _ => streamProtocolPackData { built with tag }) htagged.writes_data
  have hread := (reads_streamHeader dest dest' dest'' sequence ack ackBitField).bind
    (f := fun header => do
      let data ← streamProtocolUnpackData destObject
      return (header, data)) ((htagged.reads_data destObject).map _)
  have hlength := length_wireStream sequence ack ackBitField tag (fittingBytes 0 chunks)
  have hfits := hholds.fits
  have hmax : kStreamObjectDataMaxLength = 231 := rfl
  have hbound : kNetPacketMaxLen = 256 := rfl
  obtain ⟨packed, hpack, hunpack, hoffset⟩ := hwrite.roundTrip hread hdata (by decide) (by
    rw [hlength]
    omega)
  refine ⟨built, packed, _, hbuilt, hholds.take_data, hholds.length, ?_, hpack, ?_, hunpack, rfl,
    rfl, ?_⟩
  · rw [hholds.length]
    omega
  · rw [hoffset, hlength, hholds.length]
  · rw [hholds.take_data]
    show (patch destObject.data (fittingBytes 0 chunks)).toList.take built.length.toNat = _
    rw [hholds.length, toList_patch _ _ hfits, List.take_left]

/-- The second chunk no longer fits, the third fills the object. -/
def fullChunks : List (List UInt8) :=
  [List.replicate 200 1, List.replicate 32 2, List.replicate 31 3]

theorem stream_roundTrip_full : ∃ built packed,
    copyChunks (streamObjectSetup ⟨Vector.replicate _ 0, 7, 7⟩) fullChunks = some built ∧
      built.length.toNat = 231 ∧
      (do
        streamProtocolPackHeader 1 2 3
        streamProtocolPackData { built with tag := 4 })
          (bitstreamCreate (List.replicate 256 0) kNetPacketMaxLen) = some ((), packed) ∧
      packed.offset = 256 := by
  obtain ⟨built, packed, -, hbuilt, -, hlength, -, hpack, hoffset, -⟩ :=
    @stream_roundTrip (List.replicate 256 0) List.length_replicate 1 2 3 0 0 0 4
      ⟨Vector.replicate _ 0, 7, 7⟩ ⟨Vector.replicate _ 0, 0, 0⟩ fullChunks (by decide +kernel)
  have hfull : (fittingBytes 0 fullChunks).length = 231 := by decide +kernel
  rw [hfull] at hlength
  rw [hlength] at hoffset
  exact ⟨built, packed, hbuilt, hlength, hpack, hoffset⟩

end UniversalNetwork
