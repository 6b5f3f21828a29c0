import UniversalNetwork.Bitstream.Bounds
import UniversalNetwork.Bitstream.Fields
import UniversalNetwork.TransactionProtocol.RoundTrip

/-!
# Truncated requests

The packer of a request is a sequence of bit stream writes (`packRequest_eq_writes`). A write that
does not fit is skipped and the next one is tried, so a packet is the complete encoding exactly when
every write succeeds.

* `allSucceed_iff`: all writes succeed exactly when the whole record fits.
* `request_complete_iff`: within the declared limits of its fields, every request but a peer list
  fits in a packet, and a peer list does exactly when its peers do.
-/

namespace UniversalNetwork

open Lib

/-! ## Writes in sequence -/

def runWrites : List Field → BitM Unit
  | [] => pure ()
  | field :: fields => do
    writeField field
    runWrites fields

/-- The write puts its whole encoding. -/
def Field.Succeeds (field : Field) (stream : Bitstream) : Prop :=
  writeField field stream = some ((), stream.emit field.wire)

/-- Each write succeeds where the one before it left the stream. -/
def AllSucceed : List Field → Bitstream → Prop
  | [], _ => True
  | field :: fields, stream => field.Succeeds stream ∧
      ∀ stream', writeField field stream = some ((), stream') → AllSucceed fields stream'

theorem runWrites_append (fields fields' : List Field) :
    runWrites (fields ++ fields') = runWrites fields >>= fun _ => runWrites fields' := by
  induction fields with
  | nil => simp [runWrites]
  | cons field fields ih => simp [runWrites, ih]

theorem Field.succeeds_iff {field : Field} (hvalid : field.Valid) {bound : Nat}
    {stream : Bitstream} (h : stream.Inside bound) :
    field.Succeeds stream ↔ stream.offset + field.size ≤ bound := by
  constructor
  · intro hs
    by_cases hfit : stream.bytesDoFit field.size
    · exact h.bytesDoFit_iff.1 hfit
    · -- a skipped write leaves the offset, so it was one of no bytes
      have hskip := (writeField_skip hvalid hfit).symm.trans hs
      have hoffset := congrArg (fun x => x.map fun y => y.2.offset) hskip
      simp only [Option.map_some, Bitstream.emit, Field.length_wire, Option.some.injEq] at hoffset
      have := h.offset_le
      omega
  · intro hle
    refine writes_field hvalid stream h.sized ?_
    rwa [Field.length_wire, h.bound_eq]

/-- **All writes of a record succeed exactly when the record fits.** -/
theorem allSucceed_iff {fields : List Field} (hvalid : ∀ field ∈ fields, field.Valid) {bound : Nat}
    {stream : Bitstream} (h : stream.Inside bound) :
    AllSucceed fields stream ↔ stream.offset + (fields.map Field.size).sum ≤ bound := by
  induction fields generalizing stream with
  | nil => simpa [AllSucceed] using h.offset_le
  | cons field fields ih =>
    obtain ⟨hfield, hfields⟩ := List.forall_mem_cons.1 hvalid
    rw [AllSucceed, List.map_cons, List.sum_cons, Field.succeeds_iff hfield h]
    constructor
    · rintro ⟨hfit, hrest⟩
      have hwrite := (Field.succeeds_iff hfield h).2 hfit
      rw [← Field.length_wire] at hfit ⊢
      have hsum := (ih hfields (h.emit hfit)).1 (hrest _ hwrite)
      simp only [Bitstream.emit] at hsum
      omega
    · intro hsum
      have hfit : stream.offset + field.size ≤ bound := by omega
      refine ⟨hfit, fun stream' hwrite => ?_⟩
      have hsucceeds := (Field.succeeds_iff hfield h).2 hfit
      rw [Field.Succeeds, hwrite] at hsucceeds
      cases hsucceeds
      rw [← Field.length_wire] at hfit hsum
      refine (ih hfields (h.emit hfit)).2 ?_
      simp only [Bitstream.emit]
      omega

theorem writes_runWrites {fields : List Field} (hvalid : ∀ field ∈ fields, field.Valid) :
    Writes (runWrites fields) (wireFields fields) () := by
  induction fields with
  | nil => exact writes_pure
  | cons field fields ih =>
    obtain ⟨hfield, hfields⟩ := List.forall_mem_cons.1 hvalid
    exact (writes_field hfield).bind (f := fun _ => runWrites fields) (ih hfields)

/-! ## The writes of a request -/

def stringFields {n : Nat} (string : Vector UInt8 n) : List Field :=
  [.uint8 TransactionAttributeType.string.code,
    .uint8 (UInt32.ofNat (2 + (cstr string).length)), .str (cstr string)]

def addressFields (address : NetAddr) : List Field :=
  [.uint8 TransactionAttributeType.address.code, .uint8 kTransactionAttributeLengthAddress,
    .uint16Endian address.sinPort.toUInt32, .uint32Endian address.sAddr]

def secondsFields (seconds : Int) : List Field :=
  [.uint8 TransactionAttributeType.seconds.code, .uint8 kTransactionAttributeLengthSeconds,
    .uint32 (secondsWord seconds)]

def countFields (count : UInt32) : List Field :=
  [.uint8 TransactionAttributeType.count.code, .uint8 kTransactionAttributeLengthCount,
    .uint16 count]

def peerFields (peer : TransactionObjectPeer) : List Field :=
  stringFields peer.peerId ++ (addressFields peer.localAddress ++ addressFields peer.mappedAddress)

def objectFields : TransactionObject → List Field
  | .userCreate o => .uint64 o.uid :: (stringFields o.name ++ stringFields o.email)
  | .resourceCreate o =>
    [.uint64 o.rid, .uint64 o.uid, .uint8 o.length, .bytes (o.data.toList.take o.length.toNat)]
  | .online o => .uint64 o.uid :: (addressFields o.localAddress ++
      (addressFields o.mappedAddress ++ secondsFields o.expireSeconds))
  | .offline o | .connectRefuse o | .disconnect o => stringFields o.peerId
  | .peerList o => countFields o.count ++
      (o.list.toList.take o.count.toNat).flatMap peerFields
  | .connect o | .connectAccept o => stringFields o.peerId ++ addressFields o.streamAddress
  | .plain _ _ => []

/-- The writes of the header and of the request, in order. -/
def requestFields (transactionId : UInt32) (object : TransactionObject) : List Field :=
  [.uint8 kProtocolDefaultId, .uint8 kProtocolDefaultVersion, .uint8 ProtocolType.transaction.code,
    .uint8 transactionId, .uint8 TransactionType.request.code, .uint8 object.type] ++
    objectFields object

/-- The declared limits of the fields. -/
def TransactionObject.Limited : TransactionObject → Prop
  | .userCreate o => Terminated o.name ∧ Terminated o.email
  | .resourceCreate o => o.length.toNat ≤ kUniversalResourceDataMaxLength
  | .offline o | .connectRefuse o | .disconnect o => Terminated o.peerId
  | .peerList o => o.count.toNat ≤ 10 ∧
      ∀ peer ∈ o.list.toList.take o.count.toNat, Terminated peer.peerId
  | .connect o | .connectAccept o => Terminated o.peerId
  | .online _ | .plain _ _ => True

/-! ## The packer makes these writes -/

theorem writeBytesLoop_congr {src src' data : List UInt8} {offset length : Nat} :
    ∀ n, (∀ b < n, src[b]? = src'[b]?) →
      writeBytesLoop src data offset length n = writeBytesLoop src' data offset length n := by
  intro n
  induction n with
  | zero => exact fun _ => rfl
  | succ n ih =>
    intro h
    rw [writeBytesLoop, writeBytesLoop, ih fun b hb => h b (by omega), h n (by omega)]

/-- Only the first `length` bytes of the source count. -/
theorem writeBytes_congr {src src' : List UInt8} {length : Nat}
    (h : src.take length = src'.take length) :
    bitstreamWriteBytes src length = bitstreamWriteBytes src' length := by
  have hbytes : ∀ b < length, src[b]? = src'[b]? := by
    intro b hb
    rw [← List.getElem?_take_of_lt hb, h, List.getElem?_take_of_lt hb]
  funext stream
  simp only [bitstreamWriteBytes, writeBytesLoop_congr length hbytes]

theorem writeStr_congr {src src' : List UInt8} {length : Nat} (hlen : strlen src = some length)
    (hlen' : strlen src' = some length) (h : src.take length = src'.take length) :
    bitstreamWriteStr src = bitstreamWriteStr src' := by
  rw [bitstreamWriteStr, bitstreamWriteStr, access_bind hlen, access_bind hlen',
    writeBytes_congr h]

theorem packString_eq {n : Nat} {string : Vector UInt8 n} (h : Terminated string) :
    transactionProtocolPackAttributeString string = runWrites (stringFields string) := by
  have hlength : mTransactionAttributeLengthString string.toList =
      some (UInt32.ofNat (2 + (cstr string).length)) := by
    rw [mTransactionAttributeLengthString, h.cstring.strlen]
    rfl
  have hstring : CString (n := (cstr string).length + 1)
      ⟨(cstr string ++ [0]).toArray, by simp⟩ (cstr string) :=
    ⟨by simp [Vector.toList], h.cstring.noNull⟩
  have hstr : bitstreamWriteStr string.toList = bitstreamWriteStr (cstr string ++ [0]) := by
    refine writeStr_congr h.cstring.strlen hstring.strlen ?_
    rw [h.cstring.take, List.take_left]
  rw [transactionProtocolPackAttributeString, access_bind hlength, hstr]
  simp [stringFields, runWrites, writeField]

theorem packAddress_eq (address : NetAddr) :
    transactionProtocolPackAttributeAddress address = runWrites (addressFields address) := by
  simp [transactionProtocolPackAttributeAddress, addressFields, runWrites, writeField]

theorem packSeconds_eq (seconds : Int) :
    transactionProtocolPackAttributeSeconds seconds = runWrites (secondsFields seconds) := by
  simp [transactionProtocolPackAttributeSeconds, secondsFields, runWrites, writeField]

theorem packCount_eq (count : UInt32) :
    transactionProtocolPackAttributeCount count = runWrites (countFields count) := by
  simp [transactionProtocolPackAttributeCount, countFields, runWrites, writeField]

theorem packPeers_eq (list : Vector TransactionObjectPeer 10) (n i : Nat) (hn : i + n ≤ 10)
    (h : ∀ peer ∈ (list.toList.drop i).take n, Terminated peer.peerId) :
    packPeers list n i = runWrites (((list.toList.drop i).take n).flatMap peerFields) := by
  induction n generalizing i with
  | zero => simp [packPeers, runWrites]
  | succ n ih =>
    have hi : i < list.toList.length := by simp; omega
    have hpeer : list[i]? = some list.toList[i] := by simp
    rw [List.drop_eq_getElem_cons hi, List.take_succ_cons] at h ⊢
    obtain ⟨hid, hrest⟩ := List.forall_mem_cons.1 h
    rw [packPeers, access_bind hpeer, packString_eq hid, packAddress_eq, packAddress_eq,
      ih (i + 1) (by omega) hrest, List.flatMap_cons, peerFields]
    simp only [runWrites_append, bind_assoc]

theorem packObject_eq {object : TransactionObject} (h : object.Limited) :
    transactionProtocolPackRequest object =
      bitstreamWriteUint8 object.type >>= fun _ => runWrites (objectFields object) := by
  unfold transactionProtocolPackRequest
  congr 1
  funext _
  cases object with
  | userCreate o =>
    show transactionProtocolPackObjectUserCreate o = _
    rw [transactionProtocolPackObjectUserCreate, packString_eq h.1, packString_eq h.2, objectFields,
      runWrites, runWrites_append]
    rfl
  | resourceCreate o =>
    have hlen : (o.data.toList.take o.length.toNat).length = o.length.toNat := by
      rw [List.length_take, Vector.length_toList]
      exact Nat.min_eq_left h
    have hbytes : bitstreamWriteBytes o.data.toList o.length.toNat =
        bitstreamWriteBytes (o.data.toList.take o.length.toNat) o.length.toNat :=
      writeBytes_congr (by rw [List.take_take, Nat.min_self])
    show transactionProtocolPackObjectResourceCreate o = _
    rw [transactionProtocolPackObjectResourceCreate, hbytes]
    simp [objectFields, runWrites, writeField, hlen]
  | online o =>
    show transactionProtocolPackObjectOnline o = _
    rw [transactionProtocolPackObjectOnline, packAddress_eq, packAddress_eq, packSeconds_eq,
      objectFields, runWrites, runWrites_append, runWrites_append]
    rfl
  | offline o => exact packString_eq h
  | peerList o =>
    have hpeers := packPeers_eq o.list o.count.toNat 0 (by have := h.1; omega)
      (by simpa using h.2)
    show transactionProtocolPackObjectPeerList o = _
    rw [transactionProtocolPackObjectPeerList, packCount_eq, hpeers, objectFields,
      runWrites_append, List.drop_zero]
  | connect o =>
    show packObjectPeerAddress o = _
    rw [packObjectPeerAddress, packString_eq h, packAddress_eq, objectFields, runWrites_append]
  | connectAccept o =>
    show packObjectPeerAddress o = _
    rw [packObjectPeerAddress, packString_eq h, packAddress_eq, objectFields, runWrites_append]
  | connectRefuse o => exact packString_eq h
  | disconnect o => exact packString_eq h
  | plain type _ => rfl

/-- What `transactionRequest` packs. -/
def packWhole (transactionId : UInt32) (object : TransactionObject) : BitM Unit := do
  transactionProtocolPackHeader transactionId .request
  transactionProtocolPackRequest object

/-- **The packer is a sequence of writes.** -/
theorem packWhole_eq (transactionId : UInt32) {object : TransactionObject} (h : object.Limited) :
    packWhole transactionId object = runWrites (requestFields transactionId object) := by
  rw [packWhole, packObject_eq h]
  simp [transactionProtocolPackHeader, protocolPackHeader, requestFields, runWrites, writeField]

/-! ## Sizes -/

def fieldsSize (fields : List Field) : Nat := (fields.map Field.size).sum

theorem fieldsSize_append (fields fields' : List Field) :
    fieldsSize (fields ++ fields') = fieldsSize fields + fieldsSize fields' := by
  simp [fieldsSize]

theorem size_stringFields {n : Nat} (string : Vector UInt8 n) :
    fieldsSize (stringFields string) = 3 + (cstr string).length := by
  simp [fieldsSize, stringFields, Field.size]
  omega

/-- The arrays for strings have at most 40 bytes. -/
theorem size_stringFields_le {n : Nat} {string : Vector UInt8 n} (h : Terminated string)
    (hn : n ≤ 40) : fieldsSize (stringFields string) ≤ 42 := by
  have := h.cstring.length_lt
  rw [size_stringFields]
  omega

theorem size_addressFields (address : NetAddr) : fieldsSize (addressFields address) = 8 := rfl

/-- The encoded size of a peer. -/
def peerSize (peer : TransactionObjectPeer) : Nat := 19 + (cstr peer.peerId).length

theorem size_peerFields (peer : TransactionObjectPeer) :
    fieldsSize (peerFields peer) = peerSize peer := by
  rw [peerFields, fieldsSize_append, fieldsSize_append, size_stringFields, size_addressFields,
    size_addressFields, peerSize]
  omega

theorem size_peers (peers : List TransactionObjectPeer) :
    fieldsSize (peers.flatMap peerFields) = (peers.map peerSize).sum := by
  induction peers with
  | nil => rfl
  | cons peer peers ih =>
    rw [List.flatMap_cons, fieldsSize_append, size_peerFields, ih, List.map_cons, List.sum_cons]

theorem valid_stringFields {n : Nat} {string : Vector UInt8 n} (h : Terminated string)
    (hn : n ≤ 256) : ∀ field ∈ stringFields string, field.Valid := by
  have hlen := h.cstring.length_lt
  have hstr : (Field.str (cstr string)).Valid := ⟨h.cstring.noNull, by omega⟩
  simp only [stringFields, List.forall_mem_cons]
  exact ⟨trivial, trivial, hstr, by simp⟩

theorem valid_addressFields (address : NetAddr) :
    ∀ field ∈ addressFields address, field.Valid := by
  simp [addressFields, Field.Valid]

theorem valid_peerFields {peer : TransactionObjectPeer} (h : Terminated peer.peerId) :
    ∀ field ∈ peerFields peer, field.Valid := by
  simp only [peerFields, List.forall_mem_append]
  exact ⟨valid_stringFields h (by decide), valid_addressFields _, valid_addressFields _⟩

theorem valid_objectFields {object : TransactionObject} (h : object.Limited) :
    ∀ field ∈ objectFields object, field.Valid := by
  cases object with
  | userCreate o =>
    simp only [objectFields, List.forall_mem_cons, List.forall_mem_append]
    exact ⟨trivial, valid_stringFields h.1 (by decide), valid_stringFields h.2 (by decide)⟩
  | resourceCreate o =>
    have hle : o.length.toNat ≤ 128 := h
    have hbytes : (Field.bytes (o.data.toList.take o.length.toNat)).Valid := by
      show (o.data.toList.take o.length.toNat).length < 2 ^ 31
      rw [List.length_take]
      omega
    simp only [objectFields, List.forall_mem_cons]
    exact ⟨trivial, trivial, trivial, hbytes, by simp⟩
  | online o =>
    simp only [objectFields, List.forall_mem_cons, List.forall_mem_append]
    exact ⟨trivial, valid_addressFields _, valid_addressFields _,
      by simp [secondsFields, Field.Valid]⟩
  | offline o => exact valid_stringFields h (by decide)
  | peerList o =>
    simp only [objectFields, List.forall_mem_append]
    refine ⟨by simp [countFields, Field.Valid], fun field hfield => ?_⟩
    obtain ⟨peer, hpeer, hmem⟩ := List.mem_flatMap.1 hfield
    exact valid_peerFields (h.2 peer hpeer) field hmem
  | connect o =>
    simp only [objectFields, List.forall_mem_append]
    exact ⟨valid_stringFields h (by decide), valid_addressFields _⟩
  | connectAccept o =>
    simp only [objectFields, List.forall_mem_append]
    exact ⟨valid_stringFields h (by decide), valid_addressFields _⟩
  | connectRefuse o => exact valid_stringFields h (by decide)
  | disconnect o => exact valid_stringFields h (by decide)
  | plain type _ => simp [objectFields]

theorem valid_requestFields (transactionId : UInt32) {object : TransactionObject}
    (h : object.Limited) : ∀ field ∈ requestFields transactionId object, field.Valid := by
  simp only [requestFields, List.forall_mem_append]
  exact ⟨by simp [Field.Valid], valid_objectFields h⟩

/-- The peers of a list, behind ten bytes of header, type and count, fit in a packet. -/
def TransactionObject.PeersFit : TransactionObject → Prop
  | .peerList o =>
    10 + ((o.list.toList.take o.count.toNat).map peerSize).sum ≤ kNetPacketMaxLen
  | _ => True

theorem size_requestFields_le (transactionId : UInt32) {object : TransactionObject}
    (h : object.Limited) :
    fieldsSize (requestFields transactionId object) ≤ kNetPacketMaxLen ↔ object.PeersFit := by
  have hhead : fieldsSize (requestFields transactionId object) =
      6 + fieldsSize (objectFields object) := by
    rw [requestFields, fieldsSize_append]
    rfl
  have hcons : ∀ (field : Field) (fields : List Field),
      fieldsSize (field :: fields) = field.size + fieldsSize fields := by
    intro field fields
    simp [fieldsSize]
  rw [hhead]
  cases object with
  | userCreate o =>
    have hname := size_stringFields_le h.1 (by decide)
    have hemail := size_stringFields_le h.2 (by decide)
    refine iff_of_true ?_ trivial
    simp only [objectFields, hcons, fieldsSize_append, Field.size, kNetPacketMaxLen]
    omega
  | resourceCreate o =>
    have hle : o.length.toNat ≤ 128 := h
    refine iff_of_true ?_ trivial
    simp only [objectFields, fieldsSize, List.map_cons, List.map_nil, List.sum_cons, List.sum_nil,
      Field.size, List.length_take, kNetPacketMaxLen]
    omega
  | online o =>
    refine iff_of_true ?_ trivial
    have hseconds : fieldsSize (secondsFields o.expireSeconds) = 6 := rfl
    simp only [objectFields, hcons, fieldsSize_append, size_addressFields, hseconds, Field.size,
      kNetPacketMaxLen]
    omega
  | offline o =>
    have hid := size_stringFields_le h (by decide)
    refine iff_of_true ?_ trivial
    simp only [objectFields, kNetPacketMaxLen]
    omega
  | peerList o =>
    have hcount : fieldsSize (countFields o.count) = 4 := rfl
    simp only [objectFields, fieldsSize_append, hcount, size_peers, TransactionObject.PeersFit]
    omega
  | connect o =>
    have hid := size_stringFields_le h (by decide)
    refine iff_of_true ?_ trivial
    simp only [objectFields, fieldsSize_append, size_addressFields, kNetPacketMaxLen]
    omega
  | connectAccept o =>
    have hid := size_stringFields_le h (by decide)
    refine iff_of_true ?_ trivial
    simp only [objectFields, fieldsSize_append, size_addressFields, kNetPacketMaxLen]
    omega
  | connectRefuse o =>
    have hid := size_stringFields_le h (by decide)
    refine iff_of_true ?_ trivial
    simp only [objectFields, kNetPacketMaxLen]
    omega
  | disconnect o =>
    have hid := size_stringFields_le h (by decide)
    refine iff_of_true ?_ trivial
    simp only [objectFields, kNetPacketMaxLen]
    omega
  | plain type _ =>
    refine iff_of_true ?_ trivial
    simp [objectFields, fieldsSize, kNetPacketMaxLen]

/-- **A request is packed completely exactly when its peers fit**: then the packet holds the
encoding of header and request, otherwise some write of the packer was skipped. -/
theorem request_complete_iff (transactionId : UInt32) (object : TransactionObject)
    (hlimits : object.Limited) (data : List UInt8) (hdata : data.length = kNetPacketMaxLen) :
    packWhole transactionId object = runWrites (requestFields transactionId object) ∧
      (AllSucceed (requestFields transactionId object) (bitstreamCreate data kNetPacketMaxLen) ↔
        object.PeersFit) ∧
      (object.PeersFit →
        packWhole transactionId object (bitstreamCreate data kNetPacketMaxLen) =
          some ((), (bitstreamCreate data kNetPacketMaxLen).emit
            (wireFields (requestFields transactionId object)))) := by
  have hin : (bitstreamCreate data kNetPacketMaxLen).Inside kNetPacketMaxLen :=
    ⟨⟨hdata.symm, (by decide : kNetPacketMaxLen < 2 ^ 64)⟩, rfl, Nat.zero_le _⟩
  have hvalid := valid_requestFields transactionId hlimits
  have hsize := size_requestFields_le transactionId hlimits
  have hpack := packWhole_eq transactionId hlimits
  refine ⟨hpack, ?_, fun hfit => ?_⟩
  · rw [allSucceed_iff hvalid hin, ← hsize, fieldsSize]
    exact Iff.of_eq (congrArg (· ≤ kNetPacketMaxLen) (Nat.zero_add _))
  · rw [hpack]
    refine writes_runWrites hvalid _ hin.sized ?_
    rw [length_wireFields]
    exact (Nat.zero_add _).trans_le (hsize.2 hfit)

/-- A peer with an id of 31 characters. -/
def longPeer : TransactionObjectPeer where
  peerId := Vector.ofFn fun i => if i.val < 31 then 0x61 else 0
  localAddress := .zeroed
  mappedAddress := .zeroed

/-- A list of `count` such peers. -/
def longPeers (count : UInt32) : TransactionObjectPeerList where
  count
  list := Vector.replicate 10 longPeer

theorem limited_longPeers (count : UInt32) (h : count.toNat ≤ 10) :
    (TransactionObject.peerList (longPeers count)).Limited := by
  refine ⟨h, fun peer hpeer => ?_⟩
  have hmem := List.mem_of_mem_take hpeer
  simp only [longPeers, Vector.toList_replicate, List.mem_replicate] at hmem
  rw [hmem.2]
  decide +kernel

/-- Four long peers still fit. -/
theorem request_complete_four :
    packWhole 7 (.peerList (longPeers 4)) = runWrites (requestFields 7 (.peerList (longPeers 4))) ∧
      (AllSucceed (requestFields 7 (.peerList (longPeers 4)))
          (bitstreamCreate (List.replicate 256 0) kNetPacketMaxLen) ↔
        TransactionObject.PeersFit (.peerList (longPeers 4))) ∧
      (TransactionObject.PeersFit (.peerList (longPeers 4)) →
        packWhole 7 (.peerList (longPeers 4))
            (bitstreamCreate (List.replicate 256 0) kNetPacketMaxLen) =
          some ((), (bitstreamCreate (List.replicate 256 0) kNetPacketMaxLen).emit
            (wireFields (requestFields 7 (.peerList (longPeers 4)))))) :=
  request_complete_iff 7 _ (limited_longPeers 4 (by decide)) _ List.length_replicate

/-- Five long peers are within the limits and take 260 bytes. -/
theorem request_truncated_five :
    (TransactionObject.peerList (longPeers 5)).Limited ∧
      ¬ AllSucceed (requestFields 7 (.peerList (longPeers 5)))
        (bitstreamCreate (List.replicate 256 0) kNetPacketMaxLen) := by
  have hlimits := limited_longPeers 5 (by decide)
  refine ⟨hlimits, ?_⟩
  have hin : (bitstreamCreate (List.replicate 256 0) kNetPacketMaxLen).Inside kNetPacketMaxLen :=
    ⟨⟨List.length_replicate.symm, by decide⟩, rfl, Nat.zero_le _⟩
  rw [allSucceed_iff (valid_requestFields 7 hlimits) hin]
  decide +kernel

end UniversalNetwork
