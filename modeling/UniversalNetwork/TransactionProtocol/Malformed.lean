import UniversalNetwork.TransactionProtocol.Attributes

/-!
# Malformed attributes and the result of a request

Each object decoder keeps the result of an attribute in one variable and overwrites it with the
next. The traced decoders are the decoders of `transaction_protocol.c` that also keep every result
(`tracedRequest_eq`). `requestPlaces` lists the attributes of a packet from its bytes, so a result
is known before anything is decoded (`tracedRequest_eq_some`).

* `malformed_reported_iff`: a malformed attribute keeps a request from being valid exactly when all
  attributes are well formed or the last one is not.
-/

namespace UniversalNetwork

open Lib

/-! ## The decoders with the results of their attributes -/

/-- The results of the attributes in order, the result of the object and the object. -/
abbrev Trace (α : Type) := List UnpackResult × UnpackResult × α

def tracedUserCreate (objectUserCreate : TransactionObjectUserCreate) :
    BitM (Trace TransactionObjectUserCreate) := do
  let uid ← bitstreamReadUint64
  let (nameResult, name) ← transactionProtocolUnpackAttributeString objectUserCreate.name
    kUniversalUserNameMaxLength
  let (unpackResult, email) ← transactionProtocolUnpackAttributeString objectUserCreate.email
    kUniversalUserEmailMaxLength
  return ([nameResult, unpackResult], unpackResult, { uid, name, email })

/-- The data is the one attribute. -/
def tracedResourceCreate (resourceObject : TransactionObjectResourceCreate) :
    BitM (Trace TransactionObjectResourceCreate) := do
  let (unpackResult, object) ← transactionProtocolUnpackObjectResourceCreate resourceObject
  return ([unpackResult], unpackResult, object)

def tracedOnline (objectOnline : TransactionObjectOnline) : BitM (Trace TransactionObjectOnline) := do
  let uid ← bitstreamReadUint64
  let (localResult, localAddress) ←
    transactionProtocolUnpackAttributeAddress objectOnline.localAddress
  let (mappedResult, mappedAddress) ←
    transactionProtocolUnpackAttributeAddress objectOnline.mappedAddress
  let (unpackResult, expireSeconds) ←
    transactionProtocolUnpackAttributeSeconds objectOnline.expireSeconds
  return ([localResult, mappedResult, unpackResult], unpackResult,
    { uid, localAddress, mappedAddress, expireSeconds })

def tracedPeerId (object : TransactionObjectPeerId) : BitM (Trace TransactionObjectPeerId) := do
  let (unpackResult, object) ← unpackObjectPeerId object
  return ([unpackResult], unpackResult, object)

def tracedPeerAddress (object : TransactionObjectPeerAddress) :
    BitM (Trace TransactionObjectPeerAddress) := do
  let (peerResult, peerId) ←
    transactionProtocolUnpackAttributeString object.peerId kUniversalPeerIdMaxLength
  let (unpackResult, streamAddress) ←
    transactionProtocolUnpackAttributeAddress object.streamAddress
  return ([peerResult, unpackResult], unpackResult, { peerId, streamAddress })

def tracedPeers (capacity : Nat) : (n i : Nat) → (unpackResult : UnpackResult) →
    (list : Vector TransactionObjectPeer 10) → BitM (Trace (Vector TransactionObjectPeer 10))
  | 0, _, unpackResult, list => pure ([], unpackResult, list)
  | n + 1, i, _, list => do
    let peer := list[i]?.getD .zeroed
    let (peerResult, peerId) ←
      unpackPeerId (i < 10 ∧ peerOffset i + 32 ≤ capacity) peer.peerId
    let (localResult, localAddress) ←
      unpackPeerAddress (i < 10 ∧ peerOffset i + 48 ≤ capacity) peer.localAddress
    let (unpackResult, mappedAddress) ←
      unpackPeerAddress (i < 10 ∧ peerOffset i + 64 ≤ capacity) peer.mappedAddress
    let (results, rest) ← tracedPeers capacity n (i + 1) unpackResult
      (list.setIfInBounds i { peerId, localAddress, mappedAddress })
    return (peerResult :: localResult :: unpackResult :: results, rest)

def tracedPeerList (capacity : Nat) (objectPeerList : TransactionObjectPeerList) :
    BitM (Trace TransactionObjectPeerList) := do
  let (countResult, count) ← transactionProtocolUnpackAttributeCount objectPeerList.count
  let (results, unpackResult, list) ←
    tracedPeers capacity count.toNat 0 countResult objectPeerList.list
  return (countResult :: results, unpackResult, { count, list })

def mapTrace {α β : Type} (d : BitM (Trace α)) (f : α → β) : BitM (Trace β) := do
  let (results, unpackResult, object) ← d
  return (results, unpackResult, f object)

/-- What follows the type byte. -/
def tracedBody (memory : ObjectMemory) (type : UInt32) : BitM (Trace TransactionObject) :=
  if h0 : type = TransactionRequestType.userCreate.code then
    mapTrace (tracedUserCreate memory.userCreate) .userCreate
  else if h1 : type = TransactionRequestType.resourceCreate.code then
    mapTrace (tracedResourceCreate memory.resourceCreate) .resourceCreate
  else if h2 : type = TransactionRequestType.online.code then
    mapTrace (tracedOnline memory.online) .online
  else if h3 : type = TransactionRequestType.offline.code then
    mapTrace (tracedPeerId memory.peerId) .offline
  else if h4 : type = TransactionRequestType.peerList.code then
    mapTrace (tracedPeerList memory.capacity memory.peerList) .peerList
  else if h5 : type = TransactionRequestType.connect.code then
    mapTrace (tracedPeerAddress memory.peerAddress) .connect
  else if h6 : type = TransactionRequestType.connectAccept.code then
    mapTrace (tracedPeerAddress memory.peerAddress) .connectAccept
  else if h7 : type = TransactionRequestType.connectRefuse.code then
    mapTrace (tracedPeerId memory.peerId) .connectRefuse
  else if h8 : type = TransactionRequestType.disconnect.code then
    mapTrace (tracedPeerId memory.peerId) .disconnect
  else
    pure ([], if type = TransactionRequestType.empty.code then .valid else .unexpected,
      .plain type (not_struct h0 h1 h2 h3 h4 h5 h6 h7 h8))

def tracedRequest (memory : ObjectMemory) : BitM (Trace TransactionObject) := do
  let type ← bitstreamReadUint8
  tracedBody memory type

/-! ## The trace is of the decoder -/

/-- The decoder without its trace. -/
def untraced {α : Type} (d : BitM (Trace α)) : BitM (UnpackResult × α) := do
  let x ← d
  return x.2

theorem untraced_map {α β : Type} (d : BitM (Trace α)) (f : α → β) :
    untraced (mapTrace d f) = do
      let (unpackResult, object) ← untraced d
      return (unpackResult, f object) := by
  simp [untraced, mapTrace]

theorem untraced_userCreate (o : TransactionObjectUserCreate) :
    untraced (tracedUserCreate o) = transactionProtocolUnpackObjectUserCreate o := by
  simp [untraced, tracedUserCreate, transactionProtocolUnpackObjectUserCreate]

theorem untraced_resourceCreate (o : TransactionObjectResourceCreate) :
    untraced (tracedResourceCreate o) = transactionProtocolUnpackObjectResourceCreate o := by
  simp [untraced, tracedResourceCreate]

theorem untraced_online (o : TransactionObjectOnline) :
    untraced (tracedOnline o) = transactionProtocolUnpackObjectOnline o := by
  simp [untraced, tracedOnline, transactionProtocolUnpackObjectOnline]

theorem untraced_peerId (o : TransactionObjectPeerId) :
    untraced (tracedPeerId o) = unpackObjectPeerId o := by
  simp [untraced, tracedPeerId]

theorem untraced_peerAddress (o : TransactionObjectPeerAddress) :
    untraced (tracedPeerAddress o) = unpackObjectPeerAddress o := by
  simp [untraced, tracedPeerAddress, unpackObjectPeerAddress]

theorem untraced_peers (capacity n i : Nat) (r : UnpackResult)
    (list : Vector TransactionObjectPeer 10) :
    untraced (tracedPeers capacity n i r list) = unpackPeers capacity n i r list := by
  induction n generalizing i r list with
  | zero => simp [untraced, tracedPeers, unpackPeers]
  | succ n ih =>
    simp only [untraced] at ih
    simp [untraced, tracedPeers, unpackPeers, ← ih]

theorem untraced_peerList (capacity : Nat) (o : TransactionObjectPeerList) :
    untraced (tracedPeerList capacity o) = transactionProtocolUnpackObjectPeerList capacity o := by
  simp [untraced, tracedPeerList, transactionProtocolUnpackObjectPeerList,
    ← untraced_peers]

theorem untraced_dite {α : Type} {p : Prop} [Decidable p] (d : p → BitM (Trace α))
    (d' : ¬ p → BitM (Trace α)) :
    untraced (if h : p then d h else d' h) = if h : p then untraced (d h) else untraced (d' h) := by
  split <;> rfl

/-- **The traced decoder of a request is the decoder with a trace.** -/
theorem untraced_request (memory : ObjectMemory) :
    untraced (tracedRequest memory) = transactionProtocolUnpackRequest memory := by
  have hbind : untraced (tracedRequest memory) = bitstreamReadUint8 >>= fun type =>
      untraced (tracedBody memory type) := by
    simp [untraced, tracedRequest]
  rw [hbind, transactionProtocolUnpackRequest]
  congr 1
  funext type
  simp only [tracedBody, untraced_dite, untraced_map, untraced_userCreate, untraced_resourceCreate,
    untraced_online, untraced_peerId, untraced_peerList, untraced_peerAddress]
  rfl

/-! ## The attributes of a request, from its bytes -/

/-- Attributes that follow each other from index `k` on, with where each starts. -/
def places (stream : Bitstream) : Nat → List Attribute → List (Attribute × Nat)
  | _, [] => []
  | k, a :: as => (a, k) :: places stream (a.next stream k) as

/-- Where the last of them ends. -/
def attributesEnd (stream : Bitstream) : Nat → List Attribute → Nat
  | k, [] => k
  | k, a :: as => attributesEnd stream (a.next stream k) as

def results (stream : Bitstream) (k : Nat) (as : List Attribute) : List UnpackResult :=
  (places stream k as).map fun p => p.1.result stream p.2

def peerAttributes : Nat → List Attribute
  | 0 => []
  | n + 1 => .string kUniversalPeerIdMaxLength :: .address :: .address :: peerAttributes n

/-- The attributes of an object and where they start, for a type byte before index `k` and memory
that held the count `held`. -/
def layout (stream : Bitstream) (k : Nat) (held type : UInt32) : Nat × List Attribute :=
  if type = TransactionRequestType.userCreate.code then
    (k + 8, [.string kUniversalUserNameMaxLength, .string kUniversalUserEmailMaxLength])
  else if type = TransactionRequestType.resourceCreate.code then (k + 16, [.data])
  else if type = TransactionRequestType.online.code then (k + 8, [.address, .address, .seconds])
  else if type = TransactionRequestType.offline.code then (k, [.string kUniversalPeerIdMaxLength])
  else if type = TransactionRequestType.peerList.code then
    (k, .count :: peerAttributes (peerCount stream k held).toNat)
  else if type = TransactionRequestType.connect.code then
    (k, [.string kUniversalPeerIdMaxLength, .address])
  else if type = TransactionRequestType.connectAccept.code then
    (k, [.string kUniversalPeerIdMaxLength, .address])
  else if type = TransactionRequestType.connectRefuse.code then
    (k, [.string kUniversalPeerIdMaxLength])
  else if type = TransactionRequestType.disconnect.code then
    (k, [.string kUniversalPeerIdMaxLength])
  else (k, [])

def requestPlaces (stream : Bitstream) (held : UInt32) : List (Attribute × Nat) :=
  let start := layout stream (stream.offset + 1) held (stream.word8 stream.offset)
  places stream start.1 start.2

/-- Where the decoder of a request stops. -/
def requestEnd (stream : Bitstream) (held : UInt32) : Nat :=
  let start := layout stream (stream.offset + 1) held (stream.word8 stream.offset)
  attributesEnd stream start.1 start.2

/-! ## Results of the decoders -/

section Results

variable {stream stream' : Bitstream} {k : Nat} {r : UnpackResult} {rs : List UnpackResult}

theorem mapTrace_eq_some {α β : Type} {d : BitM (Trace α)} {f : α → β} {y : β}
    (h : mapTrace d f stream = some ((rs, r, y), stream')) :
    ∃ x, d stream = some ((rs, r, x), stream') := by
  obtain ⟨⟨rs', r', x⟩, s, hd, h⟩ := bind_eq_some h
  cases h
  exact ⟨x, hd⟩

theorem tracedUserCreate_eq_some {o x : TransactionObjectUserCreate}
    (h : tracedUserCreate o (stream.moveTo k) = some ((rs, r, x), stream')) :
    rs = results stream (k + 8)
        [.string kUniversalUserNameMaxLength, .string kUniversalUserEmailMaxLength] ∧
      rs.getLast? = some r ∧ stream' = stream.moveTo (attributesEnd stream (k + 8)
        [.string kUniversalUserNameMaxLength, .string kUniversalUserEmailMaxLength]) := by
  obtain ⟨uid, s₁, huid, h⟩ := bind_eq_some h
  obtain ⟨⟨r₁, name⟩, s₂, hname, h⟩ := bind_eq_some h
  obtain ⟨⟨r₂, email⟩, s₃, hemail, h⟩ := bind_eq_some h
  obtain rfl := fixed_uint64.moves_to huid
  obtain ⟨rfl, rfl⟩ := string_eq_some hname
  obtain ⟨rfl, rfl⟩ := string_eq_some hemail
  cases h
  exact ⟨rfl, rfl, rfl⟩

theorem tracedResourceCreate_eq_some {o x : TransactionObjectResourceCreate}
    (h : tracedResourceCreate o (stream.moveTo k) = some ((rs, r, x), stream')) :
    rs = results stream (k + 16) [.data] ∧ rs.getLast? = some r ∧
      stream' = stream.moveTo (attributesEnd stream (k + 16) [.data]) := by
  obtain ⟨⟨r₁, object⟩, s₀, hobject, hpure⟩ := bind_eq_some h
  cases hpure
  obtain ⟨rid, s₁, hrid, hrest⟩ := bind_eq_some hobject
  obtain rfl := fixed_uint64.moves_to hrid
  obtain ⟨uid, s₂, huid, hrest'⟩ := bind_eq_some hrest
  obtain rfl := fixed_uint64.moves_to huid
  obtain ⟨length, s₃, hlength, hread⟩ := bind_eq_some hrest'
  obtain ⟨rfl, rfl⟩ := uint8_eq_some hlength
  obtain ⟨⟨n, data⟩, s₄, hdata, hend⟩ := bind_eq_some hread
  cases hend
  rw [attributesEnd, attributesEnd, Attribute.next]
  rcases readBytes_eq_some hdata with ⟨hfit, rfl, rfl⟩ | ⟨hfit, rfl, rfl⟩
  · refine ⟨?_, rfl, by rw [if_pos hfit]⟩
    have hresult : Attribute.data.result stream (k + 16) = .valid :=
      Attribute.result_of_formed (a := .data) hfit
    rw [results, places, List.map_cons, hresult, if_neg (by simp)]
    rfl
  · refine ⟨?_, rfl, by rw [if_neg hfit]⟩
    -- no length is too little for an empty block
    have hlength : (stream.word8 (k + 16)).toNat ≠ 0 := fun h0 =>
      hfit (show (stream.word8 (k + 16)).toNat ≤ _ from h0 ▸ Nat.zero_le _)
    have hresult : Attribute.data.result stream (k + 16) = .invalid :=
      Attribute.result_of_not_formed (a := .data) hfit
    rw [results, places, List.map_cons, hresult, if_pos hlength.symm]
    rfl

theorem tracedOnline_eq_some {o x : TransactionObjectOnline}
    (h : tracedOnline o (stream.moveTo k) = some ((rs, r, x), stream')) :
    rs = results stream (k + 8) [.address, .address, .seconds] ∧ rs.getLast? = some r ∧
      stream' = stream.moveTo (attributesEnd stream (k + 8) [.address, .address, .seconds]) := by
  obtain ⟨uid, s₁, huid, h⟩ := bind_eq_some h
  obtain ⟨⟨r₁, localAddress⟩, s₂, hlocal, h⟩ := bind_eq_some h
  obtain ⟨⟨r₂, mappedAddress⟩, s₃, hmapped, h⟩ := bind_eq_some h
  obtain ⟨⟨r₃, expireSeconds⟩, s₄, hexpire, h⟩ := bind_eq_some h
  obtain rfl := fixed_uint64.moves_to huid
  obtain ⟨rfl, rfl⟩ := address_eq_some hlocal
  obtain ⟨rfl, rfl⟩ := address_eq_some hmapped
  obtain ⟨rfl, rfl⟩ := seconds_eq_some hexpire
  cases h
  exact ⟨rfl, rfl, rfl⟩

theorem tracedPeerId_eq_some {o x : TransactionObjectPeerId}
    (h : tracedPeerId o (stream.moveTo k) = some ((rs, r, x), stream')) :
    rs = results stream k [.string kUniversalPeerIdMaxLength] ∧ rs.getLast? = some r ∧
      stream' = stream.moveTo (attributesEnd stream k [.string kUniversalPeerIdMaxLength]) := by
  obtain ⟨⟨r₁, object⟩, s₁, hobject, h⟩ := bind_eq_some h
  obtain ⟨⟨r₂, peerId⟩, s₂, hpeer, hobject⟩ := bind_eq_some hobject
  obtain ⟨rfl, rfl⟩ := string_eq_some hpeer
  cases hobject
  cases h
  exact ⟨rfl, rfl, rfl⟩

theorem tracedPeerAddress_eq_some {o x : TransactionObjectPeerAddress}
    (h : tracedPeerAddress o (stream.moveTo k) = some ((rs, r, x), stream')) :
    rs = results stream k [.string kUniversalPeerIdMaxLength, .address] ∧
      rs.getLast? = some r ∧ stream' = stream.moveTo (attributesEnd stream k
        [.string kUniversalPeerIdMaxLength, .address]) := by
  obtain ⟨⟨r₁, peerId⟩, s₁, hpeer, h⟩ := bind_eq_some h
  obtain ⟨⟨r₂, streamAddress⟩, s₂, haddress, h⟩ := bind_eq_some h
  obtain ⟨rfl, rfl⟩ := string_eq_some hpeer
  obtain ⟨rfl, rfl⟩ := address_eq_some haddress
  cases h
  exact ⟨rfl, rfl, rfl⟩

theorem peerId_eq_some {inside : Bool} {peerId peerId' : Vector UInt8 kUniversalPeerIdMaxLength}
    (h : unpackPeerId inside peerId (stream.moveTo k) = some ((r, peerId'), stream')) :
    r = (Attribute.string kUniversalPeerIdMaxLength).result stream k ∧
      stream' = stream.moveTo ((Attribute.string kUniversalPeerIdMaxLength).next stream k) := by
  rw [unpackPeerId] at h
  split at h
  · exact string_eq_some h
  · obtain ⟨x, s, hx, h⟩ := bind_eq_some h
    cases h
    exact string_eq_some hx

theorem peerAddress_eq_some {inside : Bool} {address address' : NetAddr}
    (h : unpackPeerAddress inside address (stream.moveTo k) = some ((r, address'), stream')) :
    r = Attribute.address.result stream k ∧
      stream' = stream.moveTo (Attribute.address.next stream k) := by
  obtain ⟨⟨r₁, a₁⟩, s₁, haddress, h⟩ := bind_eq_some h
  obtain ⟨a₂, s₂, haccess, h⟩ := bind_eq_some h
  obtain ⟨y, -, hy⟩ := Option.map_eq_some_iff.1 haccess
  cases hy
  cases h
  exact address_eq_some haddress

/-- The loop starts with the result of the count. -/
theorem tracedPeers_eq_some {capacity n i : Nat} {r₀ : UnpackResult}
    {list x : Vector TransactionObjectPeer 10}
    (h : tracedPeers capacity n i r₀ list (stream.moveTo k) = some ((rs, r, x), stream')) :
    rs = results stream k (peerAttributes n) ∧ (r₀ :: rs).getLast? = some r ∧
      stream' = stream.moveTo (attributesEnd stream k (peerAttributes n)) := by
  induction n generalizing k i r₀ list rs with
  | zero =>
    cases h
    exact ⟨rfl, rfl, rfl⟩
  | succ n ih =>
    obtain ⟨⟨r₁, peerId⟩, s₁, hpeer, h⟩ := bind_eq_some h
    obtain ⟨⟨r₂, localAddress⟩, s₂, hlocal, h⟩ := bind_eq_some h
    obtain ⟨⟨r₃, mappedAddress⟩, s₃, hmapped, h⟩ := bind_eq_some h
    obtain ⟨⟨rs', r', list'⟩, s₄, hrest, hpure⟩ := bind_eq_some h
    obtain ⟨rfl, rfl⟩ := peerId_eq_some hpeer
    obtain ⟨rfl, rfl⟩ := peerAddress_eq_some hlocal
    obtain ⟨rfl, rfl⟩ := peerAddress_eq_some hmapped
    cases hpure
    obtain ⟨rfl, hlast, rfl⟩ := ih hrest
    exact ⟨rfl, hlast, rfl⟩

theorem tracedPeerList_eq_some {capacity : Nat} {o x : TransactionObjectPeerList}
    (h : tracedPeerList capacity o (stream.moveTo k) = some ((rs, r, x), stream')) :
    rs = results stream k (.count :: peerAttributes (peerCount stream k o.count).toNat) ∧
      rs.getLast? = some r ∧ stream' = stream.moveTo (attributesEnd stream k
        (.count :: peerAttributes (peerCount stream k o.count).toNat)) := by
  obtain ⟨⟨r₁, count⟩, s₁, hcount, h⟩ := bind_eq_some h
  obtain ⟨⟨rs', r', list⟩, s₂, hpeers, h⟩ := bind_eq_some h
  obtain ⟨rfl, rfl, rfl⟩ := count_eq_some hcount
  obtain ⟨rfl, hlast, rfl⟩ := tracedPeers_eq_some hpeers
  cases h
  exact ⟨rfl, hlast, rfl⟩

/-- The case split on the type byte, for the decoder and for the layout. -/
theorem tracedBody_cases (memory : ObjectMemory) (stream : Bitstream) (k : Nat)
    (held type : UInt32) :
    (type = TransactionRequestType.userCreate.code ∧
        tracedBody memory type = mapTrace (tracedUserCreate memory.userCreate) .userCreate ∧
        layout stream k held type = (k + 8,
          [.string kUniversalUserNameMaxLength, .string kUniversalUserEmailMaxLength])) ∨
    (type = TransactionRequestType.resourceCreate.code ∧
        tracedBody memory type = mapTrace (tracedResourceCreate memory.resourceCreate) .resourceCreate ∧
        layout stream k held type = (k + 16, [.data])) ∨
    (type = TransactionRequestType.online.code ∧
        tracedBody memory type = mapTrace (tracedOnline memory.online) .online ∧
        layout stream k held type = (k + 8, [.address, .address, .seconds])) ∨
    (type = TransactionRequestType.offline.code ∧
        tracedBody memory type = mapTrace (tracedPeerId memory.peerId) .offline ∧
        layout stream k held type = (k, [.string kUniversalPeerIdMaxLength])) ∨
    (type = TransactionRequestType.peerList.code ∧
        tracedBody memory type = mapTrace (tracedPeerList memory.capacity memory.peerList) .peerList ∧
        layout stream k held type =
          (k, .count :: peerAttributes (peerCount stream k held).toNat)) ∨
    (type = TransactionRequestType.connect.code ∧
        tracedBody memory type = mapTrace (tracedPeerAddress memory.peerAddress) .connect ∧
        layout stream k held type = (k, [.string kUniversalPeerIdMaxLength, .address])) ∨
    (type = TransactionRequestType.connectAccept.code ∧
        tracedBody memory type = mapTrace (tracedPeerAddress memory.peerAddress) .connectAccept ∧
        layout stream k held type = (k, [.string kUniversalPeerIdMaxLength, .address])) ∨
    (type = TransactionRequestType.connectRefuse.code ∧
        tracedBody memory type = mapTrace (tracedPeerId memory.peerId) .connectRefuse ∧
        layout stream k held type = (k, [.string kUniversalPeerIdMaxLength])) ∨
    (type = TransactionRequestType.disconnect.code ∧
        tracedBody memory type = mapTrace (tracedPeerId memory.peerId) .disconnect ∧
        layout stream k held type = (k, [.string kUniversalPeerIdMaxLength])) ∨
    (∃ h : type ∉ structTypes, tracedBody memory type =
          pure ([], if type = TransactionRequestType.empty.code then .valid else .unexpected,
            .plain type h) ∧
        layout stream k held type = (k, [])) := by
  unfold tracedBody layout
  by_cases h0 : type = TransactionRequestType.userCreate.code
  · exact .inl ⟨h0, dif_pos h0, if_pos h0⟩
  rw [dif_neg h0, if_neg h0]
  right
  by_cases h1 : type = TransactionRequestType.resourceCreate.code
  · exact .inl ⟨h1, dif_pos h1, if_pos h1⟩
  rw [dif_neg h1, if_neg h1]
  right
  by_cases h2 : type = TransactionRequestType.online.code
  · exact .inl ⟨h2, dif_pos h2, if_pos h2⟩
  rw [dif_neg h2, if_neg h2]
  right
  by_cases h3 : type = TransactionRequestType.offline.code
  · exact .inl ⟨h3, dif_pos h3, if_pos h3⟩
  rw [dif_neg h3, if_neg h3]
  right
  by_cases h4 : type = TransactionRequestType.peerList.code
  · exact .inl ⟨h4, dif_pos h4, if_pos h4⟩
  rw [dif_neg h4, if_neg h4]
  right
  by_cases h5 : type = TransactionRequestType.connect.code
  · exact .inl ⟨h5, dif_pos h5, if_pos h5⟩
  rw [dif_neg h5, if_neg h5]
  right
  by_cases h6 : type = TransactionRequestType.connectAccept.code
  · exact .inl ⟨h6, dif_pos h6, if_pos h6⟩
  rw [dif_neg h6, if_neg h6]
  right
  by_cases h7 : type = TransactionRequestType.connectRefuse.code
  · exact .inl ⟨h7, dif_pos h7, if_pos h7⟩
  rw [dif_neg h7, if_neg h7]
  right
  by_cases h8 : type = TransactionRequestType.disconnect.code
  · exact .inl ⟨h8, dif_pos h8, if_pos h8⟩
  rw [dif_neg h8, if_neg h8]
  right
  exact ⟨not_struct h0 h1 h2 h3 h4 h5 h6 h7 h8, rfl, rfl⟩

/-- **The results of a request are those of its attributes**, and a request with attributes has the
result of the last. -/
theorem tracedRequest_eq_some {memory : ObjectMemory} {x : TransactionObject}
    (h : tracedRequest memory stream = some ((rs, r, x), stream')) :
    rs = (requestPlaces stream memory.peerList.count).map (fun p => p.1.result stream p.2) ∧
      (rs ≠ [] → rs.getLast? = some r) ∧
      stream' = stream.moveTo (requestEnd stream memory.peerList.count) := by
  obtain ⟨type, s₁, htype, hbody⟩ := bind_eq_some h
  rw [← Bitstream.moveTo_offset stream] at htype
  obtain ⟨rfl, rfl⟩ := uint8_eq_some htype
  have hmap : ∀ {α : Type} {d : BitM (Trace α)} {f : α → TransactionObject}
      {start : Nat × List Attribute},
      (∀ {rs r x s'}, d (stream.moveTo (stream.offset + 1)) = some ((rs, r, x), s') →
        rs = results stream start.1 start.2 ∧ rs.getLast? = some r ∧
          s' = stream.moveTo (attributesEnd stream start.1 start.2)) →
      mapTrace d f (stream.moveTo (stream.offset + 1)) = some ((rs, r, x), stream') →
      rs = results stream start.1 start.2 ∧ (rs ≠ [] → rs.getLast? = some r) ∧
        stream' = stream.moveTo (attributesEnd stream start.1 start.2) := by
    intro α d f start hd hx
    obtain ⟨y, hy⟩ := mapTrace_eq_some hx
    obtain ⟨hresults, hlast, hend⟩ := hd hy
    exact ⟨hresults, fun _ => hlast, hend⟩
  show rs = results stream (layout _ _ _ _).1 (layout _ _ _ _).2 ∧ _ ∧
    stream' = stream.moveTo (attributesEnd stream (layout _ _ _ _).1 (layout _ _ _ _).2)
  rcases tracedBody_cases memory stream (stream.offset + 1) memory.peerList.count
      (stream.word8 stream.offset) with
    ⟨-, hd, hl⟩ | ⟨-, hd, hl⟩ | ⟨-, hd, hl⟩ | ⟨-, hd, hl⟩ | ⟨-, hd, hl⟩ | ⟨-, hd, hl⟩ |
    ⟨-, hd, hl⟩ | ⟨-, hd, hl⟩ | ⟨-, hd, hl⟩ | ⟨_, hd, hl⟩ <;> rw [hd] at hbody <;> rw [hl]
  · exact hmap tracedUserCreate_eq_some hbody
  · exact hmap tracedResourceCreate_eq_some hbody
  · exact hmap tracedOnline_eq_some hbody
  · exact hmap tracedPeerId_eq_some hbody
  · exact hmap tracedPeerList_eq_some hbody
  · exact hmap tracedPeerAddress_eq_some hbody
  · exact hmap tracedPeerAddress_eq_some hbody
  · exact hmap tracedPeerId_eq_some hbody
  · exact hmap tracedPeerId_eq_some hbody
  · cases hbody
    exact ⟨rfl, fun hne => absurd rfl hne, rfl⟩

end Results

/-! ## Reporting -/

/-- All attributes are well formed where the decoders look for them, or the last is not. -/
def Attribute.LastTells (stream : Bitstream) (ps : List (Attribute × Nat)) : Prop :=
  (∀ p ∈ ps, p.1.formed stream p.2) ∨ ∃ p ∈ ps.getLast?, ¬ p.1.formed stream p.2

instance (stream : Bitstream) (ps : List (Attribute × Nat)) :
    Decidable (Attribute.LastTells stream ps) :=
  inferInstanceAs (Decidable ((∀ p ∈ ps, p.1.formed stream p.2) ∨
    ∃ p ∈ ps.getLast?, ¬ p.1.formed stream p.2))

theorem malformed_iff_lastTells {stream : Bitstream} {ps : List (Attribute × Nat)}
    {rs : List UnpackResult} {r : UnpackResult}
    (hrs : rs = ps.map fun p => p.1.result stream p.2) (hr : rs ≠ [] → rs.getLast? = some r) :
    ((∃ x ∈ rs, x ≠ .valid) → r ≠ .valid) ↔ Attribute.LastTells stream ps := by
  have hall : (∃ x ∈ rs, x ≠ .valid) ↔ ¬ ∀ p ∈ ps, p.1.formed stream p.2 := by
    simp [hrs, Attribute.result_eq_valid]
  rw [hall, Attribute.LastTells]
  by_cases hformed : ∀ p ∈ ps, p.1.formed stream p.2
  · exact iff_of_true (fun h => absurd hformed h) (.inl hformed)
  · have hne : ps ≠ [] := fun h => hformed (by simp [h])
    have hlast := hr (by simpa [hrs] using hne)
    rw [hrs, List.getLast?_map, List.getLast?_eq_some_getLast hne, Option.map_some,
      Option.some.injEq] at hlast
    simp only [hformed, not_false_eq_true, forall_true_left, false_or,
      List.getLast?_eq_some_getLast hne, Option.mem_def, Option.some.injEq, exists_eq_left']
    rw [← hlast, Ne, Attribute.result_eq_valid]

/-- **A malformed attribute keeps the request from being valid exactly when the last attribute
tells of it**: the result of every earlier one is overwritten. -/
theorem malformed_reported_iff (memory : ObjectMemory) (stream stream' : Bitstream)
    (r : UnpackResult) (object : TransactionObject)
    (h : transactionProtocolUnpackRequest memory stream = some ((r, object), stream')) :
    ∃ results, tracedRequest memory stream = some ((results, r, object), stream') ∧
      (((∃ x ∈ results, x ≠ .valid) → r ≠ .valid) ↔
        Attribute.LastTells stream (requestPlaces stream memory.peerList.count)) := by
  rw [← untraced_request] at h
  obtain ⟨⟨results, r', object'⟩, s, htrace, hpure⟩ := bind_eq_some h
  cases hpure
  obtain ⟨hresults, hlast, -⟩ := tracedRequest_eq_some htrace
  exact ⟨results, htrace, malformed_iff_lastTells hresults hlast⟩

/-- A request packet whose request starts at index 5 with these bytes. -/
def requestPacket (bytes : List UInt8) : Bitstream where
  data := overwrite (List.replicate kNetPacketMaxLen 0) 5 bytes
  offset := 5
  bound := kNetPacketMaxLen

/-- A connect request that is cut off after the tag of its address. -/
def cutConnect : Bitstream := requestPacket [0xc0, 1, 4, 2, 104, 105, 9]

/-- A user whose name has a wrong tag and whose email is well formed at the next byte. -/
def untaggedUser : Bitstream := requestPacket [0x50, 0, 0, 0, 0, 0, 0, 0, 7, 9, 1, 5, 1, 97]

theorem malformed_reported_cut :
    ∃ results, tracedRequest (.calloc 256 (Nat.le_refl _)) cutConnect =
        some ((results, .invalid, .connect
          { peerId := Vector.ofFn fun i => [105, 104].getD i.val 0, streamAddress := .zeroed }),
          cutConnect.moveTo 12) ∧
      (((∃ x ∈ results, x ≠ .valid) → UnpackResult.invalid ≠ .valid) ↔
        Attribute.LastTells cutConnect (requestPlaces cutConnect 0)) :=
  malformed_reported_iff (.calloc 256 (Nat.le_refl _)) cutConnect _ _ _ (by decide +kernel)

/-- The name is malformed, the request is valid. -/
theorem malformed_user_valid : ∃ object stream',
    tracedRequest (.calloc 256 (Nat.le_refl _)) untaggedUser =
        some (([.invalid, .valid], .valid, object), stream') ∧
      transactionProtocolUnpackRequest (.calloc 256 (Nat.le_refl _)) untaggedUser =
        some ((.valid, object), stream') := by
  refine ⟨.userCreate
    { uid := 7
      name := Vector.replicate _ 0
      email := Vector.ofFn fun i => [97].getD i.val 0 }, untaggedUser.moveTo 19, ?_, ?_⟩
  · decide +kernel
  · decide +kernel

end UniversalNetwork
