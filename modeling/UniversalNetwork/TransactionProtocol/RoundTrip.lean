import UniversalNetwork.Bitstream.Codec
import UniversalNetwork.TransactionProtocol

/-!
# Round trip of a request

`wireRequest object` is the encoding of an object. For a well-formed object the packer writes it
(`writes_request`) and the unpacker, run on it, gives back the same object (`reads_request`): the
two are in step on every attribute, on the byte order of the integers and of the strings, and on
each turn of the peer loop.

* `WellFormed`: the declared limits of the fields.
* `SameObject`: equality field by field, strings up to their null, data up to its length, peers up
  to the count.
* `request_roundTrip`: header and request through one packet.
-/

namespace UniversalNetwork

open Lib

/-! ## Encodings -/

def wireString (s : List UInt8) : List UInt8 :=
  wire8 TransactionAttributeType.string.code ++ (wire8 (UInt32.ofNat (2 + s.length)) ++ wireStr s)

def wireAddress (address : NetAddr) : List UInt8 :=
  wire8 TransactionAttributeType.address.code ++ (wire8 kTransactionAttributeLengthAddress ++
    ((wire16 address.sinPort.toUInt32).reverse ++ (wire32 address.sAddr).reverse))

def wireSeconds (seconds : Int) : List UInt8 :=
  wire8 TransactionAttributeType.seconds.code ++ (wire8 kTransactionAttributeLengthSeconds ++
    wire32 (secondsWord seconds))

def wireCount (count : UInt32) : List UInt8 :=
  wire8 TransactionAttributeType.count.code ++ (wire8 kTransactionAttributeLengthCount ++
    wire16 count)

def wireUserCreate (o : TransactionObjectUserCreate) : List UInt8 :=
  wire64 o.uid ++ (wireString (cstr o.name) ++ wireString (cstr o.email))

def wireResourceCreate (o : TransactionObjectResourceCreate) : List UInt8 :=
  wire64 o.rid ++ (wire64 o.uid ++
    (wire8 o.length ++ (o.data.toList.take o.length.toNat).reverse))

def wireOnline (o : TransactionObjectOnline) : List UInt8 :=
  wire64 o.uid ++ (wireAddress o.localAddress ++
    (wireAddress o.mappedAddress ++ wireSeconds o.expireSeconds))

def wirePeerId (o : TransactionObjectPeerId) : List UInt8 := wireString (cstr o.peerId)

def wirePeerAddress (o : TransactionObjectPeerAddress) : List UInt8 :=
  wireString (cstr o.peerId) ++ wireAddress o.streamAddress

/-- Peers `i`, …, `i + n - 1`. -/
def wirePeers (list : Vector TransactionObjectPeer 10) : (n i : Nat) → List UInt8
  | 0, _ => []
  | n + 1, i =>
    match list[i]? with
    | some peer => wireString (cstr peer.peerId) ++ (wireAddress peer.localAddress ++
        (wireAddress peer.mappedAddress ++ wirePeers list n (i + 1)))
    | none => []

def wirePeerList (o : TransactionObjectPeerList) : List UInt8 :=
  wireCount o.count ++ wirePeers o.list o.count.toNat 0

def wireObject : TransactionObject → List UInt8
  | .userCreate o => wireUserCreate o
  | .resourceCreate o => wireResourceCreate o
  | .online o => wireOnline o
  | .offline o | .connectRefuse o | .disconnect o => wirePeerId o
  | .peerList o => wirePeerList o
  | .connect o | .connectAccept o => wirePeerAddress o
  | .plain _ _ => []

def wireRequest (object : TransactionObject) : List UInt8 :=
  wire8 object.type ++ wireObject object

def wireHeader (transactionId : UInt32) (transactionType : TransactionType) : List UInt8 :=
  (wire8 kProtocolDefaultId ++ (wire8 kProtocolDefaultVersion ++
    wire8 ProtocolType.transaction.code)) ++
    (wire8 transactionId ++ wire8 transactionType.code)

def wireResponse (responseType : TransactionResponseType) : List UInt8 := wire8 responseType.code

/-! ## Limits and equality of objects -/

structure TransactionObjectPeer.WellFormed (peer : TransactionObjectPeer) : Prop where
  peerId : Terminated peer.peerId
  localAddress : peer.localAddress.sinFamily = afInet
  mappedAddress : peer.mappedAddress.sinFamily = afInet

/-- One of the ten types the unpacker knows, with its fields inside their limits. -/
def TransactionObject.WellFormed : TransactionObject → Prop
  | .userCreate o => Terminated o.name ∧ Terminated o.email
  | .resourceCreate o => o.length.toNat ≤ kUniversalResourceDataMaxLength
  | .online o => o.localAddress.sinFamily = afInet ∧ o.mappedAddress.sinFamily = afInet ∧
      0 ≤ o.expireSeconds ∧ o.expireSeconds < 2 ^ 32
  | .offline o | .connectRefuse o | .disconnect o => Terminated o.peerId
  | .peerList o => o.count.toNat ≤ 10 ∧
      ∀ i < o.count.toNat, ∀ peer, o.list[i]? = some peer → peer.WellFormed
  | .connect o | .connectAccept o => Terminated o.peerId ∧ o.streamAddress.sinFamily = afInet
  | .plain type _ => type = TransactionRequestType.empty.code

instance : DecidablePred TransactionObjectPeer.WellFormed := fun peer =>
  decidable_of_iff (Terminated peer.peerId ∧ peer.localAddress.sinFamily = afInet ∧
    peer.mappedAddress.sinFamily = afInet)
    ⟨fun h => ⟨h.1, h.2.1, h.2.2⟩, fun h => ⟨h.peerId, h.localAddress, h.mappedAddress⟩⟩

instance : DecidablePred TransactionObject.WellFormed
  | .userCreate o => inferInstanceAs (Decidable (Terminated o.name ∧ Terminated o.email))
  | .resourceCreate o =>
    inferInstanceAs (Decidable (o.length.toNat ≤ kUniversalResourceDataMaxLength))
  | .online o => inferInstanceAs (Decidable (o.localAddress.sinFamily = afInet ∧
      o.mappedAddress.sinFamily = afInet ∧ 0 ≤ o.expireSeconds ∧ o.expireSeconds < 2 ^ 32))
  | .offline o | .connectRefuse o | .disconnect o => inferInstanceAs (Decidable (Terminated o.peerId))
  | .peerList o => inferInstanceAs (Decidable (o.count.toNat ≤ 10 ∧
      ∀ i < o.count.toNat, ∀ peer ∈ o.list[i]?, peer.WellFormed))
  | .connect o | .connectAccept o =>
    inferInstanceAs (Decidable (Terminated o.peerId ∧ o.streamAddress.sinFamily = afInet))
  | .plain type _ => inferInstanceAs (Decidable (type = TransactionRequestType.empty.code))

/-- The bytes of the struct that a decoder may write (LP64 layout). -/
def TransactionObject.bytes : TransactionObject → Nat
  | .userCreate _ => 96
  | .resourceCreate _ => 160
  | .online _ => 56
  | .offline _ | .connectRefuse _ | .disconnect _ => 36
  | .peerList o => peerOffset o.count.toNat
  | .connect _ | .connectAccept _ => 52
  | .plain _ _ => 4

structure SamePeer (p q : TransactionObjectPeer) : Prop where
  peerId : cstr q.peerId = cstr p.peerId
  localAddress : q.localAddress = p.localAddress
  mappedAddress : q.mappedAddress = p.mappedAddress

def SameObject : TransactionObject → TransactionObject → Prop
  | .userCreate o, .userCreate d =>
    d.uid = o.uid ∧ cstr d.name = cstr o.name ∧ cstr d.email = cstr o.email
  | .resourceCreate o, .resourceCreate d =>
    d.rid = o.rid ∧ d.uid = o.uid ∧ d.length = o.length ∧
      d.data.toList.take o.length.toNat = o.data.toList.take o.length.toNat
  | .online o, .online d => d = o
  | .offline o, .offline d | .connectRefuse o, .connectRefuse d
  | .disconnect o, .disconnect d => cstr d.peerId = cstr o.peerId
  | .peerList o, .peerList d => d.count = o.count ∧
      ∀ i < o.count.toNat, ∃ p q, o.list[i]? = some p ∧ d.list[i]? = some q ∧ SamePeer p q
  | .connect o, .connect d | .connectAccept o, .connectAccept d =>
    cstr d.peerId = cstr o.peerId ∧ d.streamAddress = o.streamAddress
  | .plain type _, .plain type' _ => type' = type
  | _, _ => False

/-! ## Attributes -/

theorem writes_string {n : Nat} {v : Vector UInt8 n} {s : List UInt8} (h : CString v s) :
    Writes (transactionProtocolPackAttributeString v) (wireString s) () := by
  have hlength : mTransactionAttributeLengthString v.toList =
      some (UInt32.ofNat (2 + s.length)) := by
    rw [mTransactionAttributeLengthString, h.strlen]
    rfl
  exact (writes_uint8 _).bind (writes_access hlength ((writes_uint8 _).bind ((writes_str h).map _)))

theorem reads_string {n : Nat} (dest : Vector UInt8 n) {s : List UInt8} (hlen : s.length < n)
    (hbyte : s.length < 256) :
    Reads (transactionProtocolUnpackAttributeString dest n) (wireString s)
      (.valid, patch dest (s ++ [0])) :=
  (reads_uint8 _).bind ((reads_uint8 _).bind ((reads_str dest hlen hbyte hlen).map _))

theorem writes_address (address : NetAddr) :
    Writes (transactionProtocolPackAttributeAddress address) (wireAddress address) () :=
  (writes_uint8 _).bind ((writes_uint8 _).bind
    ((writes_uint16Endian _).bind (writes_uint32Endian _)))

theorem reads_address (dest : NetAddr) {address : NetAddr} (h : address.sinFamily = afInet) :
    Reads (transactionProtocolUnpackAttributeAddress dest) (wireAddress address)
      (.valid, address) := by
  have haddr : netAddrSet address.sAddr
      address.sinPort.toUInt32.toUInt16.toUInt32.toUInt16 false = address := by
    cases address
    simp_all [netAddrSet]
  have hread : Reads (transactionProtocolUnpackAttributeAddress dest) (wireAddress address)
      (.valid, netAddrSet address.sAddr address.sinPort.toUInt32.toUInt16.toUInt32.toUInt16 false) :=
    (reads_uint8 _).bind ((reads_uint8 _).bind
      ((reads_uint16Endian _).bind ((reads_uint32Endian _).map _)))
  rwa [haddr] at hread

theorem writes_seconds (seconds : Int) :
    Writes (transactionProtocolPackAttributeSeconds seconds) (wireSeconds seconds) () :=
  (writes_uint8 _).bind ((writes_uint8 _).bind (writes_uint32 _))

theorem reads_seconds (dest : Int) {seconds : Int} (h₀ : 0 ≤ seconds) (h₁ : seconds < 2 ^ 32) :
    Reads (transactionProtocolUnpackAttributeSeconds dest) (wireSeconds seconds)
      (.valid, seconds) := by
  have hword : ((secondsWord seconds).toNat : Int) = seconds := by
    rw [secondsWord, Int.emod_eq_of_lt h₀ h₁, UInt32.toNat_ofNat']
    omega
  have hread : Reads (transactionProtocolUnpackAttributeSeconds dest) (wireSeconds seconds)
      (.valid, (secondsWord seconds).toNat) :=
    (reads_uint8 _).bind ((reads_uint8 _).bind ((reads_uint32 _).map _))
  rwa [hword] at hread

theorem writes_count (count : UInt32) :
    Writes (transactionProtocolPackAttributeCount count) (wireCount count) () :=
  (writes_uint8 _).bind ((writes_uint8 _).bind (writes_uint16 _))

theorem reads_count (dest count : UInt32) (h : count < 65536) :
    Reads (transactionProtocolUnpackAttributeCount dest) (wireCount count) (.valid, count) := by
  have hword : count.toUInt16.toUInt32 = count := by
    apply UInt32.toNat_inj.1
    rw [UInt16.toNat_toUInt32, UInt32.toNat_toUInt16]
    exact Nat.mod_eq_of_lt h
  have hread : Reads (transactionProtocolUnpackAttributeCount dest) (wireCount count)
      (.valid, count.toUInt16.toUInt32) :=
    (reads_uint8 _).bind ((reads_uint8 _).bind ((reads_uint16 _).map _))
  rwa [hword] at hread

/-- A terminated string through its attribute, into an array of the same size. -/
theorem reads_terminated {n : Nat} (dest : Vector UInt8 n) {v : Vector UInt8 n}
    (h : Terminated v) (hn : n ≤ 256) : ∃ v' : Vector UInt8 n, cstr v' = cstr v ∧
      Reads (transactionProtocolUnpackAttributeString dest n) (wireString (cstr v))
        (.valid, v') := by
  have hlen := h.cstring.length_lt
  exact ⟨_, (cstring_patch dest hlen h.cstring.noNull).cstr_eq,
    reads_string dest hlen (by omega)⟩

/-! ## Objects -/

theorem writes_userCreate {o : TransactionObjectUserCreate} (hname : Terminated o.name)
    (hemail : Terminated o.email) :
    Writes (transactionProtocolPackObjectUserCreate o) (wireUserCreate o) () :=
  (writes_uint64 _).bind ((writes_string hname.cstring).bind (writes_string hemail.cstring))

theorem reads_userCreate (dest : TransactionObjectUserCreate) {o : TransactionObjectUserCreate}
    (hname : Terminated o.name) (hemail : Terminated o.email) :
    ∃ d, SameObject (.userCreate o) (.userCreate d) ∧
      Reads (transactionProtocolUnpackObjectUserCreate dest) (wireUserCreate o) (.valid, d) := by
  obtain ⟨name, hname', hreadName⟩ := reads_terminated dest.name hname (by decide)
  obtain ⟨email, hemail', hreadEmail⟩ := reads_terminated dest.email hemail (by decide)
  exact ⟨⟨o.uid, name, email⟩, ⟨rfl, hname', hemail'⟩,
    (reads_uint64 _).bind (hreadName.bind (hreadEmail.map _))⟩

theorem writes_resourceCreate {o : TransactionObjectResourceCreate}
    (h : o.length.toNat ≤ kUniversalResourceDataMaxLength) :
    Writes (transactionProtocolPackObjectResourceCreate o) (wireResourceCreate o) () :=
  (writes_uint64 _).bind ((writes_uint64 _).bind ((writes_uint8 _).bind
    ((writes_writeBytes (by rwa [Vector.length_toList])).map _)))

theorem reads_resourceCreate (dest : TransactionObjectResourceCreate)
    {o : TransactionObjectResourceCreate}
    (h : o.length.toNat ≤ kUniversalResourceDataMaxLength) :
    ∃ d, SameObject (.resourceCreate o) (.resourceCreate d) ∧
      Reads (transactionProtocolUnpackObjectResourceCreate dest) (wireResourceCreate o)
        (.valid, d) := by
  have hlen : (o.data.toList.take o.length.toNat).length = o.length.toNat := by
    rw [List.length_take, Vector.length_toList]
    omega
  have hbyte : o.length.toUInt8.toUInt32 = o.length := by
    apply UInt32.toNat_inj.1
    rw [UInt8.toNat_toUInt32, UInt32.toNat_toUInt8]
    unfold kUniversalResourceDataMaxLength at h
    omega
  refine ⟨⟨o.rid, patch dest.data (o.data.toList.take o.length.toNat), o.length, o.uid⟩,
    ⟨rfl, rfl, rfl, ?_⟩, ?_⟩
  · rw [toList_patch _ _ (by omega)]
    nth_rewrite 1 [← hlen]
    rw [List.take_left]
  · have hread := reads_readBytes dest.data (o.data.toList.take o.length.toNat) (by omega)
    rw [hlen] at hread
    have hlast := hread.map fun x => ((if x.1 ≠ o.length.toNat then .invalid else .valid,
      ⟨o.rid, x.2, o.length, o.uid⟩) : UnpackResult × TransactionObjectResourceCreate)
    rw [if_neg (by simp)] at hlast
    refine (reads_uint64 _).bind ((reads_uint64 _).bind ((reads_uint8 _).bind ?_))
    rw [hbyte]
    exact hlast

theorem writes_online (o : TransactionObjectOnline) :
    Writes (transactionProtocolPackObjectOnline o) (wireOnline o) () :=
  (writes_uint64 _).bind ((writes_address _).bind ((writes_address _).bind (writes_seconds _)))

theorem reads_online (dest : TransactionObjectOnline) {o : TransactionObjectOnline}
    (h : (TransactionObject.online o).WellFormed) :
    Reads (transactionProtocolUnpackObjectOnline dest) (wireOnline o) (.valid, o) :=
  (reads_uint64 _).bind ((reads_address _ h.1).bind ((reads_address _ h.2.1).bind
    ((reads_seconds _ h.2.2.1 h.2.2.2).map _)))

theorem reads_peerId (dest : TransactionObjectPeerId) {o : TransactionObjectPeerId}
    (h : Terminated o.peerId) : ∃ d : TransactionObjectPeerId, cstr d.peerId = cstr o.peerId ∧
      Reads (unpackObjectPeerId dest) (wirePeerId o) (.valid, d) := by
  obtain ⟨peerId, hpeerId, hread⟩ := reads_terminated dest.peerId h (by decide)
  exact ⟨⟨peerId⟩, hpeerId, hread.map _⟩

theorem writes_peerAddress {o : TransactionObjectPeerAddress} (h : Terminated o.peerId) :
    Writes (packObjectPeerAddress o) (wirePeerAddress o) () :=
  (writes_string h.cstring).bind (writes_address _)

theorem reads_peerAddress (dest : TransactionObjectPeerAddress) {o : TransactionObjectPeerAddress}
    (h : Terminated o.peerId) (haddr : o.streamAddress.sinFamily = afInet) :
    ∃ d : TransactionObjectPeerAddress, cstr d.peerId = cstr o.peerId ∧
      d.streamAddress = o.streamAddress ∧
      Reads (unpackObjectPeerAddress dest) (wirePeerAddress o) (.valid, d) := by
  obtain ⟨peerId, hpeerId, hread⟩ := reads_terminated dest.peerId h (by decide)
  exact ⟨⟨peerId, o.streamAddress⟩, hpeerId, rfl, hread.bind ((reads_address _ haddr).map _)⟩

/-! ## The peer list -/

theorem writes_peers {list : Vector TransactionObjectPeer 10} (n i : Nat) (hn : i + n ≤ 10)
    (h : ∀ j, i ≤ j → j < i + n → ∀ peer, list[j]? = some peer → peer.WellFormed) :
    Writes (packPeers list n i) (wirePeers list n i) () := by
  induction n generalizing i with
  | zero => exact writes_pure
  | succ n ih =>
    obtain ⟨peer, hpeer⟩ : ∃ peer, list[i]? = some peer :=
      ⟨_, Vector.getElem?_eq_getElem (by omega)⟩
    have hwf := h i (by omega) (by omega) peer hpeer
    have hrest := ih (i + 1) (by omega) fun j hj hj' => h j (by omega) (by omega)
    rw [wirePeers, hpeer]
    exact writes_access hpeer ((writes_string hwf.peerId.cstring).bind
      ((writes_address _).bind ((writes_address _).bind hrest)))

theorem reads_peerIdInside {inside : Bool} (hin : inside = true)
    (dest : Vector UInt8 kUniversalPeerIdMaxLength) {v : Vector UInt8 kUniversalPeerIdMaxLength}
    (h : Terminated v) : ∃ v', cstr v' = cstr v ∧
      Reads (unpackPeerId inside dest) (wireString (cstr v)) (.valid, v') := by
  subst hin
  exact reads_terminated dest h (by decide)

theorem reads_addressInside {inside : Bool} (hin : inside = true) (dest : NetAddr)
    {address : NetAddr} (h : address.sinFamily = afInet) :
    Reads (unpackPeerAddress inside dest) (wireAddress address) (.valid, address) := by
  subst hin
  rw [← List.append_nil (wireAddress address)]
  exact (reads_address dest h).bind (reads_access rfl reads_pure)

/-- The loop fills peers `i`, …, `i + n - 1` and keeps those before. -/
theorem reads_peers {capacity : Nat} {list : Vector TransactionObjectPeer 10} (n i : Nat)
    (hn : i + n ≤ 10) (hcap : peerOffset (i + n) ≤ capacity)
    (h : ∀ j, i ≤ j → j < i + n → ∀ peer, list[j]? = some peer → peer.WellFormed)
    (dest : Vector TransactionObjectPeer 10) :
    ∃ d : Vector TransactionObjectPeer 10,
      Reads (unpackPeers capacity n i .valid dest) (wirePeers list n i) (.valid, d) ∧
      (∀ j, i ≤ j → j < i + n →
        ∃ p q, list[j]? = some p ∧ d[j]? = some q ∧ SamePeer p q) ∧
      ∀ j < i, d[j]? = dest[j]? := by
  induction n generalizing i dest with
  | zero => exact ⟨dest, reads_pure, fun j hj hj' => absurd hj' (by omega), fun _ _ => rfl⟩
  | succ n ih =>
    obtain ⟨peer, hpeer⟩ : ∃ peer, list[i]? = some peer :=
      ⟨_, Vector.getElem?_eq_getElem (by omega)⟩
    have hwf := h i (by omega) (by omega) peer hpeer
    have hinside : ∀ k ≤ 64, decide (i < 10 ∧ peerOffset i + k ≤ capacity) = true := by
      intro k hk
      unfold peerOffset at *
      exact decide_eq_true ⟨by omega, by omega⟩
    obtain ⟨peerId, hsame, hreadId⟩ := reads_peerIdInside (hinside 32 (by omega))
      (dest[i]?.getD .zeroed).peerId hwf.peerId
    obtain ⟨d, hread, hfilled, hkept⟩ := ih (i + 1) (by omega)
      (by rwa [Nat.add_assoc, Nat.add_comm 1]) (fun j hj hj' => h j (by omega) (by omega))
      (dest.setIfInBounds i ⟨peerId, peer.localAddress, peer.mappedAddress⟩)
    refine ⟨d, ?_, ?_, ?_⟩
    · rw [wirePeers, hpeer]
      exact hreadId.bind ((reads_addressInside (hinside 48 (by omega)) _ hwf.localAddress).bind
        ((reads_addressInside (hinside 64 (by omega)) _ hwf.mappedAddress).bind hread))
    · intro j hj hj'
      rcases Nat.eq_or_lt_of_le hj with rfl | hlt
      · refine ⟨peer, ⟨peerId, peer.localAddress, peer.mappedAddress⟩, hpeer, ?_, hsame, rfl, rfl⟩
        rw [hkept i (by omega), Vector.getElem?_setIfInBounds_self_of_lt (by omega)]
      · exact hfilled j hlt (by omega)
    · intro j hj
      rw [hkept j (by omega), Vector.getElem?_setIfInBounds_ne (by omega)]

theorem writes_peerList {o : TransactionObjectPeerList}
    (h : (TransactionObject.peerList o).WellFormed) :
    Writes (transactionProtocolPackObjectPeerList o) (wirePeerList o) () :=
  (writes_count _).bind (writes_peers _ 0 (by have := h.1; omega)
    fun j _ hj => h.2 j (by omega))

theorem reads_peerList {capacity : Nat} (dest : TransactionObjectPeerList)
    {o : TransactionObjectPeerList} (h : (TransactionObject.peerList o).WellFormed)
    (hcap : peerOffset o.count.toNat ≤ capacity) :
    ∃ d, SameObject (.peerList o) (.peerList d) ∧
      Reads (transactionProtocolUnpackObjectPeerList capacity dest) (wirePeerList o)
        (.valid, d) := by
  obtain ⟨hcount, hpeers⟩ := h
  obtain ⟨list, hread, hfilled, -⟩ := reads_peers o.count.toNat 0 (by omega)
    ((congrArg peerOffset (Nat.zero_add _)).trans_le hcap) (fun j _ hj => hpeers j (by omega)) dest.list
  have hsmall : o.count < 65536 := by
    apply UInt32.lt_iff_toNat_lt.2
    exact Nat.lt_of_le_of_lt hcount (by decide)
  exact ⟨⟨o.count, list⟩, ⟨rfl, fun i hi => hfilled i (by omega) (by omega)⟩,
    (reads_count _ _ hsmall).bind (hread.map _)⟩

/-! ## Requests -/

theorem writes_request {object : TransactionObject} (h : object.WellFormed) :
    Writes (transactionProtocolPackRequest object) (wireRequest object) () := by
  refine (writes_uint8 _).bind ?_
  cases object with
  | userCreate o => exact writes_userCreate h.1 h.2
  | resourceCreate o => exact writes_resourceCreate h
  | online o => exact writes_online o
  | offline o => exact writes_string (Terminated.cstring h)
  | peerList o => exact writes_peerList h
  | connect o => exact writes_peerAddress h.1
  | connectAccept o => exact writes_peerAddress h.1
  | connectRefuse o => exact writes_string (Terminated.cstring h)
  | disconnect o => exact writes_string (Terminated.cstring h)
  | plain type _ => exact writes_pure

theorem reads_request (memory : ObjectMemory) {object : TransactionObject} (h : object.WellFormed)
    (hmem : object.bytes ≤ memory.capacity) :
    ∃ decoded, SameObject object decoded ∧
      Reads (transactionProtocolUnpackRequest memory) (wireRequest object) (.valid, decoded) := by
  cases object with
  | userCreate o =>
    obtain ⟨d, hsame, hread⟩ := reads_userCreate memory.userCreate h.1 h.2
    exact ⟨.userCreate d, hsame, (reads_uint8 _).bind (hread.map _)⟩
  | resourceCreate o =>
    obtain ⟨d, hsame, hread⟩ := reads_resourceCreate memory.resourceCreate h
    exact ⟨.resourceCreate d, hsame, (reads_uint8 _).bind (hread.map _)⟩
  | online o => exact ⟨.online o, rfl, (reads_uint8 _).bind ((reads_online _ h).map _)⟩
  | offline o =>
    obtain ⟨d, hsame, hread⟩ := reads_peerId memory.peerId h
    exact ⟨.offline d, hsame, (reads_uint8 _).bind (hread.map _)⟩
  | peerList o =>
    obtain ⟨d, hsame, hread⟩ := reads_peerList memory.peerList h hmem
    exact ⟨.peerList d, hsame, (reads_uint8 _).bind (hread.map _)⟩
  | connect o =>
    obtain ⟨d, hsame, haddr, hread⟩ := reads_peerAddress memory.peerAddress h.1 h.2
    exact ⟨.connect d, ⟨hsame, haddr⟩, (reads_uint8 _).bind (hread.map _)⟩
  | connectAccept o =>
    obtain ⟨d, hsame, haddr, hread⟩ := reads_peerAddress memory.peerAddress h.1 h.2
    exact ⟨.connectAccept d, ⟨hsame, haddr⟩, (reads_uint8 _).bind (hread.map _)⟩
  | connectRefuse o =>
    obtain ⟨d, hsame, hread⟩ := reads_peerId memory.peerId h
    exact ⟨.connectRefuse d, hsame, (reads_uint8 _).bind (hread.map _)⟩
  | disconnect o =>
    obtain ⟨d, hsame, hread⟩ := reads_peerId memory.peerId h
    exact ⟨.disconnect d, hsame, (reads_uint8 _).bind (hread.map _)⟩
  | plain type hplain =>
    have htype : type = TransactionRequestType.empty.code := h
    subst htype
    exact ⟨.plain _ hplain, rfl, (reads_uint8 _).bind reads_pure⟩

theorem writes_header (id : UInt32) (type : TransactionType) :
    Writes (transactionProtocolPackHeader id type) (wireHeader id type) () :=
  (writes_protocolHeader .transaction).bind ((writes_uint8 _).bind (writes_uint8 _))

theorem reads_header (destId destType id : UInt32) (type : TransactionType) :
    Reads (transactionProtocolUnpackHeader destId destType) (wireHeader id type)
      (.valid, id % 256, type.code) := by
  have hid : id.toUInt8.toUInt32 = id % 256 := by
    apply UInt32.toNat_inj.1
    rw [UInt8.toNat_toUInt32, UInt32.toNat_toUInt8, UInt32.toNat_mod]
    rfl
  have htype : type.code.toUInt8.toUInt32 = type.code := by
    cases type <;> rfl
  have hread : Reads (transactionProtocolUnpackHeader destId destType) (wireHeader id type)
      (.valid, id.toUInt8.toUInt32, type.code.toUInt8.toUInt32) :=
    (reads_protocolHeader .transaction).bind ((reads_uint8 _).bind ((reads_uint8 _).map _))
  rwa [hid, htype] at hread

theorem writes_response (responseType : TransactionResponseType) :
    Writes (transactionProtocolPackResponse responseType) (wireResponse responseType) () :=
  writes_uint8 _

theorem reads_response (responseType : TransactionResponseType) :
    Reads transactionProtocolUnpackResponse (wireResponse responseType)
      (.valid, responseType.code) := by
  have hcode : responseType.code.toUInt8.toUInt32 = responseType.code := by
    cases responseType <;> rfl
  have hread : Reads transactionProtocolUnpackResponse (wireResponse responseType)
      (.valid, responseType.code.toUInt8.toUInt32) := (reads_uint8 _).map _
  rwa [hcode] at hread

/-- A buffer that starts with an encoded request is decoded, whatever follows. -/
theorem unpack_request (memory : ObjectMemory) {object : TransactionObject}
    (h : object.WellFormed) (hmem : object.bytes ≤ memory.capacity) (destId destType id : UInt32) :
    ∃ decoded, SameObject object decoded ∧
      Reads (do
        let header ← transactionProtocolUnpackHeader destId destType
        let request ← transactionProtocolUnpackRequest memory
        return (header, request)) (wireHeader id .request ++ wireRequest object)
        ((.valid, id % 256, TransactionType.request.code), .valid, decoded) := by
  obtain ⟨decoded, hsame, hread⟩ := reads_request memory h hmem
  exact ⟨decoded, hsame, (reads_header destId destType id .request).bind (hread.map _)⟩

/-- **Round trip of a request**: packed into any fresh packet that has room, then unpacked into
memory that has room. -/
theorem request_roundTrip {data : List UInt8} (hdata : data.length = kNetPacketMaxLen)
    (id : UInt32) {object : TransactionObject} (hwf : object.WellFormed)
    (hfit : (wireHeader id .request ++ wireRequest object).length ≤ kNetPacketMaxLen)
    (memory : ObjectMemory) (hmem : object.bytes ≤ memory.capacity) (destId destType : UInt32) :
    ∃ packed unpacked decoded,
      (do
        transactionProtocolPackHeader id .request
        transactionProtocolPackRequest object) (bitstreamCreate data kNetPacketMaxLen) =
          some ((), packed) ∧
      (do
        let header ← transactionProtocolUnpackHeader destId destType
        let request ← transactionProtocolUnpackRequest memory
        return (header, request)) (bitstreamReset packed) =
          some (((.valid, id % 256, TransactionType.request.code), .valid, decoded), unpacked) ∧
      SameObject object decoded ∧ unpacked.offset = packed.offset := by
  have hwrite := (writes_header id .request).bind (f := fun _ =>
    transactionProtocolPackRequest object) (writes_request hwf)
  obtain ⟨decoded, hsame, hread⟩ := unpack_request memory hwf hmem destId destType id
  obtain ⟨packed, hpack, hunpack, -⟩ := hwrite.roundTrip hread hdata (by decide) hfit
  exact ⟨packed, packed, decoded, hpack, hunpack, hsame, rfl⟩

/-- A user whose name and email fill their arrays. -/
def longUser : TransactionObjectUserCreate where
  uid := 29293299292
  name := Vector.ofFn fun i => if i.val < 39 then 0x61 else 0
  email := Vector.ofFn fun i => if i.val < 39 then 0x40 else 0

theorem longUser_wellFormed : (TransactionObject.userCreate longUser).WellFormed :=
  ⟨by decide +kernel, by decide +kernel⟩

theorem request_roundTrip_longUser : ∃ packed unpacked decoded,
    (do
      transactionProtocolPackHeader 300 .request
      transactionProtocolPackRequest (.userCreate longUser))
        (bitstreamCreate (List.replicate 256 0xFF) kNetPacketMaxLen) = some ((), packed) ∧
    (do
      let header ← transactionProtocolUnpackHeader 0 0
      let request ← transactionProtocolUnpackRequest (.calloc 256 (by decide))
      return (header, request)) (bitstreamReset packed) =
        some (((.valid, 44, TransactionType.request.code), .valid, decoded), unpacked) ∧
    SameObject (.userCreate longUser) decoded ∧ unpacked.offset = packed.offset :=
  request_roundTrip List.length_replicate 300 longUser_wellFormed (by decide +kernel) _
    (by decide) 0 0

end UniversalNetwork
