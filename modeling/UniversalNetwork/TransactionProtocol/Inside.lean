import UniversalNetwork.TransactionProtocol.Malformed

/-!
# Writes of the decoder of a request

`transactionDidReceiveRequest` decodes into `sizeof(TransactionObject)` bytes. A write outside that
memory, or outside the array of a field, is a fault. Reads are kept apart from it: behind the 256
bytes of a packet there is other memory, of any contents, that a decoder with a bad count runs on
into (`requestStream`).

* `tracedPeers_isSome`: the peer loop, peer by peer.
* `request_writes_inside_iff`: which packets are decoded without a write outside.
-/

namespace UniversalNetwork

open Lib

/-! ## Peers -/

/-- Where the attributes of a peer that start at index `k` end. -/
def peerNext (stream : Bitstream) (k : Nat) : Nat :=
  Attribute.address.next stream (Attribute.address.next stream
    ((Attribute.string kUniversalPeerIdMaxLength).next stream k))

/-- Where peer `i` starts, for a list that starts at index `k`. -/
def peerAt (stream : Bitstream) : (k i : Nat) → Nat
  | k, 0 => k
  | k, i + 1 => peerAt stream (peerNext stream k) i

/-- Four peer ids, four local addresses and three mapped addresses fit in the memory. Peer `i`
starts at index `k` of the packet. -/
structure PeerInside (stream : Bitstream) (k i : Nat) : Prop where
  peerId : Attribute.short stream k kUniversalPeerIdMaxLength → i < 4
  localAddress : Attribute.address.formed stream
    ((Attribute.string kUniversalPeerIdMaxLength).next stream k) → i < 4
  mappedAddress : Attribute.address.formed stream (Attribute.address.next stream
    ((Attribute.string kUniversalPeerIdMaxLength).next stream k)) → i < 3

theorem string_next_le (stream : Bitstream) (k max : Nat) :
    (Attribute.string max).next stream k ≤ k + 3 + max := by
  rw [Attribute.next]
  split
  · omega
  · split
    · omega
    · split <;> omega

theorem fixedNext_le (stream : Bitstream) (k : Nat) (tag length : UInt32) (bytes : Nat) :
    Attribute.fixedNext stream k tag length bytes ≤ k + 2 + bytes := by
  rw [Attribute.fixedNext]
  split
  · omega
  · split <;> omega

theorem address_next_le (stream : Bitstream) (k : Nat) :
    Attribute.address.next stream k ≤ k + 8 := fixedNext_le stream k _ _ 6

theorem peerNext_le (stream : Bitstream) (k : Nat) : peerNext stream k ≤ k + 51 := by
  have hid := string_next_le stream k kUniversalPeerIdMaxLength
  have hlocal := address_next_le stream
    ((Attribute.string kUniversalPeerIdMaxLength).next stream k)
  have hmapped := address_next_le stream (Attribute.address.next stream
    ((Attribute.string kUniversalPeerIdMaxLength).next stream k))
  unfold peerNext
  unfold kUniversalPeerIdMaxLength at hid hlocal hmapped ⊢
  omega

/-! ## Faults -/

section Faults

variable {stream : Bitstream} {k : Nat}

/-- A decoder that stops at a known place, followed by another. -/
theorem isSome_bind_moveTo {α β : Type} {r : BitM α} {f : α → BitM β} {l : Nat} {Q : Prop}
    (hr : ∀ {a stream'}, r (stream.moveTo k) = some (a, stream') → stream' = stream.moveTo l)
    (hf : ∀ a, (f a (stream.moveTo l)).isSome ↔ Q) :
    ((r >>= f) (stream.moveTo k)).isSome ↔ (r (stream.moveTo k)).isSome ∧ Q := by
  rw [isSome_bind, Option.isSome_iff_exists]
  constructor
  · rintro ⟨a, s, ha, hs⟩
    rw [hr ha] at hs
    exact ⟨⟨_, ha⟩, (hf a).1 hs⟩
  · rintro ⟨⟨x, hx⟩, hQ⟩
    refine ⟨x.1, x.2, hx, ?_⟩
    rw [hr hx]
    exact (hf x.1).2 hQ

theorem isSome_seq {α β : Type} {r : BitM α} {f : α → BitM β} {l : Nat}
    (hr : ∀ {a stream'}, r (stream.moveTo k) = some (a, stream') → stream' = stream.moveTo l)
    (hsome : (r (stream.moveTo k)).isSome) (hf : ∀ a, (f a (stream.moveTo l)).isSome) :
    ((r >>= f) (stream.moveTo k)).isSome :=
  (isSome_bind_moveTo hr fun a => iff_true_intro (hf a)).2 ⟨hsome, trivial⟩

theorem uint64_isSome (stream : Bitstream) (k : Nat) (hdata : k + 8 ≤ stream.data.length) :
    (bitstreamReadUint64 (stream.moveTo k)).isSome := (fixed_uint64.isSome _).2 hdata

theorem isSome_bind_pure {α β : Type} {r : BitM α} (f : α → β) :
    ((r >>= fun x => pure (f x)) stream).isSome ↔ (r stream).isSome := by
  rw [isSome_bind, Option.isSome_iff_exists]
  exact ⟨fun ⟨a, s, ha, _⟩ => ⟨_, ha⟩, fun ⟨x, hx⟩ => ⟨x.1, x.2, hx, rfl⟩⟩

/-- Into an array of `max` bytes a string attribute is decoded without a fault. -/
theorem string_isSome_array {max : Nat} (string : Vector UInt8 max)
    (hdata : k + 3 + max ≤ stream.data.length) :
    (transactionProtocolUnpackAttributeString string max (stream.moveTo k)).isSome :=
  (string_isSome string hdata).2 fun h => h.2

theorem unpackPeerId_isSome (inside : Bool) (peerId : Vector UInt8 kUniversalPeerIdMaxLength)
    (hdata : k + 35 ≤ stream.data.length) :
    (unpackPeerId inside peerId (stream.moveTo k)).isSome ↔
      (Attribute.short stream k kUniversalPeerIdMaxLength → inside = true) := by
  cases inside with
  | true => exact iff_of_true (string_isSome_array peerId hdata) fun _ => rfl
  | false =>
    have hroom : k + 3 + kUniversalPeerIdMaxLength ≤ stream.data.length := hdata
    have hnone := string_isSome (#v[] : Vector UInt8 0) hroom
    simp only [unpackPeerId, Bool.false_eq_true, if_false, isSome_bind_pure, hnone,
      Nat.not_lt_zero]

theorem unpackPeerAddress_isSome (inside : Bool) (address : NetAddr)
    (hdata : k + 8 ≤ stream.data.length) :
    (unpackPeerAddress inside address (stream.moveTo k)).isSome ↔
      (Attribute.address.formed stream k → inside = true) := by
  obtain ⟨⟨⟨r, address'⟩, s⟩, hx⟩ := Option.isSome_iff_exists.1 (address_isSome address hdata)
  obtain ⟨hr, rfl⟩ := address_eq_some hx
  rw [unpackPeerAddress, bind_run hx, ← Attribute.result_eq_valid, ← hr]
  cases inside with
  | true =>
    simp only [Bool.not_true, Bool.false_eq_true, and_false, if_false]
    exact iff_of_true rfl fun _ => trivial
  | false =>
    simp only [Bool.not_false, and_true, Bool.false_eq_true, imp_false]
    by_cases hvalid : r = .valid
    · simp only [if_pos hvalid]
      exact iff_of_false Bool.false_ne_true (not_not_intro hvalid)
    · simp only [if_neg hvalid]
      exact iff_of_true rfl hvalid

/-- The memory holds 36 bytes of peer 3 before its mapped address and none of peer 4. -/
theorem peerInside_iff (i : Nat) (peer : TransactionObjectPeer)
    (hdata : k + 51 ≤ stream.data.length) : PeerInside stream k i ↔
      (unpackPeerId (i < 10 ∧ peerOffset i + 32 ≤ kTransactionObjectSize) peer.peerId
        (stream.moveTo k)).isSome ∧
      (unpackPeerAddress (i < 10 ∧ peerOffset i + 48 ≤ kTransactionObjectSize) peer.localAddress
        (stream.moveTo ((Attribute.string kUniversalPeerIdMaxLength).next stream k))).isSome ∧
      (unpackPeerAddress (i < 10 ∧ peerOffset i + 64 ≤ kTransactionObjectSize) peer.mappedAddress
        (stream.moveTo (Attribute.address.next stream
          ((Attribute.string kUniversalPeerIdMaxLength).next stream k)))).isSome := by
  have hid := string_next_le stream k kUniversalPeerIdMaxLength
  have hlocal := address_next_le stream
    ((Attribute.string kUniversalPeerIdMaxLength).next stream k)
  unfold kUniversalPeerIdMaxLength at hid hlocal
  rw [unpackPeerId_isSome _ _ (by omega),
    unpackPeerAddress_isSome _ _ (by unfold kUniversalPeerIdMaxLength; omega),
    unpackPeerAddress_isSome _ _ (by unfold kUniversalPeerIdMaxLength; omega)]
  have hfour : ∀ bytes, bytes = 32 ∨ bytes = 48 →
      (decide (i < 10 ∧ peerOffset i + bytes ≤ kTransactionObjectSize) = true ↔ i < 4) := by
    intro bytes hbytes
    rw [decide_eq_true_iff, peerOffset, kTransactionObjectSize]
    omega
  have hthree : decide (i < 10 ∧ peerOffset i + 64 ≤ kTransactionObjectSize) = true ↔ i < 3 := by
    rw [decide_eq_true_iff, peerOffset, kTransactionObjectSize]
    omega
  rw [hfour 32 (.inl rfl), hfour 48 (.inr rfl), hthree]
  exact ⟨fun h => ⟨h.peerId, h.localAddress, h.mappedAddress⟩, fun h => ⟨h.1, h.2.1, h.2.2⟩⟩

/-- **The peer loop** writes inside exactly when each peer does. -/
theorem tracedPeers_isSome {n : Nat} (i : Nat) (r : UnpackResult)
    (list : Vector TransactionObjectPeer 10) (hdata : k + 51 * n ≤ stream.data.length) :
    (tracedPeers kTransactionObjectSize n i r list (stream.moveTo k)).isSome ↔
      ∀ j < n, PeerInside stream (peerAt stream k j) (i + j) := by
  induction n generalizing k i r list with
  | zero => exact iff_of_true rfl fun j hj => absurd hj (Nat.not_lt_zero j)
  | succ n ih =>
    have hnext := peerNext_le stream k
    have hrest := fun r list => ih (k := peerNext stream k) (i + 1) r list (by omega)
    simp only [show ∀ j, i + 1 + j = i + (j + 1) by omega] at hrest
    rw [Nat.forall_lt_succ_left, peerAt, show i + 0 = i from rfl,
      peerInside_iff i (list[i]?.getD .zeroed) (by omega), and_assoc, and_assoc, tracedPeers]
    refine isSome_bind_moveTo (fun h => (peerId_eq_some h).2) ?_
    rintro ⟨r₁, peerId⟩
    refine isSome_bind_moveTo (fun h => (peerAddress_eq_some h).2) ?_
    rintro ⟨r₂, localAddress⟩
    refine isSome_bind_moveTo (fun h => (peerAddress_eq_some h).2) ?_
    rintro ⟨r₃, mappedAddress⟩
    exact (isSome_bind_pure _).trans (hrest r₃ _)

theorem mapTrace_isSome {α β : Type} (d : BitM (Trace α)) (f : α → β) :
    (mapTrace d f stream).isSome ↔ (d stream).isSome := isSome_bind_pure _

theorem untraced_isSome {α : Type} (d : BitM (Trace α)) :
    (untraced d stream).isSome ↔ (d stream).isSome := isSome_bind_pure _

theorem tracedUserCreate_isSome (o : TransactionObjectUserCreate)
    (hdata : k + 94 ≤ stream.data.length) : (tracedUserCreate o (stream.moveTo k)).isSome := by
  have hname := string_next_le stream (k + 8) kUniversalUserNameMaxLength
  refine isSome_seq fixed_uint64.moves_to (uint64_isSome stream k (by omega)) fun uid => ?_
  refine isSome_seq (fun h => (string_eq_some h).2) (string_isSome_array o.name ?_) fun x => ?_
  · unfold kUniversalUserNameMaxLength
    omega
  · refine (isSome_bind_pure _).2 (string_isSome_array o.email ?_)
    unfold kUniversalUserNameMaxLength at hname
    unfold kUniversalUserEmailMaxLength kUniversalUserNameMaxLength
    omega

/-- The length byte of a resource can announce more than its array holds. -/
theorem tracedResourceCreate_isSome (o : TransactionObjectResourceCreate)
    (hdata : k + 272 ≤ stream.data.length) :
    (tracedResourceCreate o (stream.moveTo k)).isSome ↔
      (stream.enough (k + 17) (stream.word8 (k + 16)).toNat →
        (stream.word8 (k + 16)).toNat ≤ kUniversalResourceDataMaxLength) := by
  have hbyte := stream.word8_lt (k + 16)
  obtain ⟨⟨rid, s⟩, hrid⟩ := Option.isSome_iff_exists.1
    (uint64_isSome stream k (by omega))
  obtain rfl := fixed_uint64.moves_to hrid
  obtain ⟨⟨uid, s⟩, huid⟩ := Option.isSome_iff_exists.1
    (uint64_isSome stream (k + 8) (by omega))
  obtain rfl := fixed_uint64.moves_to huid
  obtain ⟨⟨length, s⟩, hlength⟩ := Option.isSome_iff_exists.1
    (uint8_isSome stream (k + 16) (by omega))
  obtain ⟨rfl, rfl⟩ := uint8_eq_some hlength
  refine (isSome_bind_pure _).trans ?_
  rw [transactionProtocolUnpackObjectResourceCreate, bind_run hrid, bind_run huid,
    bind_run hlength]
  exact (isSome_bind_pure _).trans (readBytes_isSome o.data (by omega))

theorem tracedOnline_isSome (o : TransactionObjectOnline)
    (hdata : k + 30 ≤ stream.data.length) : (tracedOnline o (stream.moveTo k)).isSome := by
  have hlocal := address_next_le stream (k + 8)
  have hmapped := address_next_le stream (Attribute.address.next stream (k + 8))
  refine isSome_seq fixed_uint64.moves_to (uint64_isSome stream k (by omega)) fun uid => ?_
  refine isSome_seq (fun h => (address_eq_some h).2) (address_isSome _ (by omega)) fun x => ?_
  refine isSome_seq (fun h => (address_eq_some h).2) (address_isSome _ (by omega)) fun y => ?_
  exact (isSome_bind_pure _).2 (seconds_isSome _ (by omega))

theorem tracedPeerId_isSome (o : TransactionObjectPeerId)
    (hdata : k + 35 ≤ stream.data.length) : (tracedPeerId o (stream.moveTo k)).isSome :=
  (isSome_bind_pure _).2 ((isSome_bind_pure _).2 (string_isSome_array o.peerId hdata))

theorem tracedPeerAddress_isSome (o : TransactionObjectPeerAddress)
    (hdata : k + 43 ≤ stream.data.length) :
    (tracedPeerAddress o (stream.moveTo k)).isSome := by
  have hid := string_next_le stream k kUniversalPeerIdMaxLength
  unfold kUniversalPeerIdMaxLength at hid
  refine isSome_seq (fun h => (string_eq_some h).2) (string_isSome_array o.peerId ?_) fun x => ?_
  · unfold kUniversalPeerIdMaxLength
    omega
  · refine (isSome_bind_pure _).2 (address_isSome _ ?_)
    unfold kUniversalPeerIdMaxLength
    omega

theorem tracedPeerList_isSome (o : TransactionObjectPeerList)
    (hdata : k + 4 + 51 * (peerCount stream k o.count).toNat ≤ stream.data.length) :
    (tracedPeerList kTransactionObjectSize o (stream.moveTo k)).isSome ↔
      ∀ i < (peerCount stream k o.count).toNat,
        PeerInside stream (peerAt stream (Attribute.count.next stream k) i) i := by
  have hnext : Attribute.count.next stream k ≤ k + 4 := fixedNext_le stream k _ _ 2
  obtain ⟨⟨⟨r, count⟩, s⟩, hcount⟩ := Option.isSome_iff_exists.1
    (count_isSome stream k o.count (by omega))
  obtain ⟨rfl, rfl, rfl⟩ := count_eq_some hcount
  rw [tracedPeerList, bind_run hcount]
  refine (isSome_bind_pure _).trans ?_
  rw [tracedPeers_isSome 0 _ _ (by omega)]
  simp only [Nat.zero_add]

end Faults

/-! ## Requests -/

/-- The bytes of a request, from its type byte at the offset on, that keep the decoder inside its
object: a resource whose length is at most 128 or more than the packet has, and a peer list none of
whose peers beyond the memory has an attribute that is stored. -/
structure RequestInside (stream : Bitstream) : Prop where
  resource : stream.word8 stream.offset = TransactionRequestType.resourceCreate.code →
    stream.enough (stream.offset + 18) (stream.word8 (stream.offset + 17)).toNat →
    (stream.word8 (stream.offset + 17)).toNat ≤ kUniversalResourceDataMaxLength
  peers : stream.word8 stream.offset = TransactionRequestType.peerList.code →
    ∀ i < (peerCount stream (stream.offset + 1) 0).toNat, PeerInside stream
      (peerAt stream (Attribute.count.next stream (stream.offset + 1)) i) i

theorem unpackRequest_isSome_iff {stream : Bitstream}
    (hdata : stream.offset + 2 ^ 22 ≤ stream.data.length) :
    (transactionProtocolUnpackRequest (.calloc kTransactionObjectSize (Nat.le_refl _))
      stream).isSome ↔ RequestInside stream := by
  have hcount : (peerCount stream (stream.offset + 1) 0).toNat ≤ 65535 := by
    unfold peerCount
    split
    · exact Nat.le_of_lt_succ (stream.word16_lt _)
    · decide
  obtain ⟨⟨type, s⟩, htype⟩ := Option.isSome_iff_exists.1
    (uint8_isSome stream stream.offset (by omega))
  obtain ⟨rfl, rfl⟩ := uint8_eq_some htype
  rw [← untraced_request, untraced_isSome, tracedRequest]
  rw [Bitstream.moveTo_offset] at htype
  rw [bind_run htype]
  -- away from the two types nothing is asked, and nothing can go wrong
  have hother : ∀ {code : UInt32} {b : Bool}, code ≠ TransactionRequestType.resourceCreate.code →
      code ≠ TransactionRequestType.peerList.code → stream.word8 stream.offset = code →
      b = true → (b = true ↔ RequestInside stream) := by
    intro code b hres hpeer ht hb
    refine iff_of_true hb ⟨fun h => absurd (ht.symm.trans h) hres, fun h => ?_⟩
    exact absurd (ht.symm.trans h) hpeer
  rcases tracedBody_cases (.calloc kTransactionObjectSize (Nat.le_refl _)) stream
      (stream.offset + 1) 0 (stream.word8 stream.offset) with
    ⟨ht, hd, -⟩ | ⟨ht, hd, -⟩ | ⟨ht, hd, -⟩ | ⟨ht, hd, -⟩ | ⟨ht, hd, -⟩ | ⟨ht, hd, -⟩ |
    ⟨ht, hd, -⟩ | ⟨ht, hd, -⟩ | ⟨ht, hd, -⟩ | ⟨hplain, hd, -⟩ <;> rw [hd]
  · exact hother (by decide) (by decide) ht
      ((mapTrace_isSome _ _).2 (tracedUserCreate_isSome _ (by omega)))
  · rw [mapTrace_isSome, tracedResourceCreate_isSome _ (by omega)]
    refine ⟨fun h => ⟨fun _ => h, fun h' => ?_⟩, fun h => h.resource ht⟩
    exact absurd (ht.symm.trans h') (by decide)
  · exact hother (by decide) (by decide) ht
      ((mapTrace_isSome _ _).2 (tracedOnline_isSome _ (by omega)))
  · exact hother (by decide) (by decide) ht
      ((mapTrace_isSome _ _).2 (tracedPeerId_isSome _ (by omega)))
  · rw [mapTrace_isSome]
    refine (tracedPeerList_isSome _ ?_).trans ⟨fun h => ⟨fun h' => ?_, fun _ => h⟩, fun h => h.peers ht⟩
    · show _ + 51 * (peerCount stream (stream.offset + 1) 0).toNat ≤ _
      omega
    · exact absurd (ht.symm.trans h') (by decide)
  · exact hother (by decide) (by decide) ht
      ((mapTrace_isSome _ _).2 (tracedPeerAddress_isSome _ (by omega)))
  · exact hother (by decide) (by decide) ht
      ((mapTrace_isSome _ _).2 (tracedPeerAddress_isSome _ (by omega)))
  · exact hother (by decide) (by decide) ht
      ((mapTrace_isSome _ _).2 (tracedPeerId_isSome _ (by omega)))
  · exact hother (by decide) (by decide) ht
      ((mapTrace_isSome _ _).2 (tracedPeerId_isSome _ (by omega)))
  · refine hother (fun h => hplain ?_) (fun h => hplain ?_) rfl rfl
    · simp [structTypes, h]
    · simp [structTypes, h]

/-- A received packet behind its header: `bytes` are the 256 bytes of its data, then the memory
after them. -/
def requestStream (bytes : Nat → UInt8) : Bitstream where
  data := (List.range (2 ^ 23)).map bytes
  offset := 5
  bound := kNetPacketMaxLen

theorem requestStream_readable (bytes : Nat → UInt8) :
    (requestStream bytes).offset + 2 ^ 22 ≤ (requestStream bytes).data.length := by
  have hlength : (requestStream bytes).data.length = 2 ^ 23 := by simp [requestStream]
  rw [hlength, show (requestStream bytes).offset = 5 from rfl]
  decide

/-- Decoding it into the memory of `transactionDidReceiveRequest` makes no write outside. -/
def WritesInside (bytes : Nat → UInt8) : Prop :=
  (transactionProtocolUnpackRequest (.calloc kTransactionObjectSize (Nat.le_refl _))
    (requestStream bytes)).isSome

/-- **A packet is decoded inside its object exactly when** its resource fits in the array or not in
the packet, and nothing of its peers falls beyond the memory. -/
theorem request_writes_inside_iff (bytes : Nat → UInt8) :
    WritesInside bytes ↔ RequestInside (requestStream bytes) :=
  unpackRequest_isSome_iff (requestStream_readable bytes)

theorem word8_requestStream (bytes : Nat → UInt8) {i : Nat} (h : i < 2 ^ 23) :
    (requestStream bytes).word8 i = (bytes i).toUInt32 := by
  simp only [Bitstream.word8, requestStream, List.getElem?_map, List.getElem?_range h,
    Option.map_some, Option.getD_some]

/-- A resource of 129 bytes. -/
def longResource : Nat → UInt8
  | 5 => 0x70
  | 22 => 129
  | _ => 0

/-- One byte is written behind the data array. -/
theorem longResource_outside : ¬ WritesInside longResource := by
  rw [WritesInside, unpackRequest_isSome_iff (requestStream_readable longResource)]
  intro h
  have htype : (requestStream longResource).word8 5 =
      TransactionRequestType.resourceCreate.code := by
    rw [word8_requestStream _ (by decide)]
    decide
  have hlength : ((requestStream longResource).word8 22).toNat = 129 := by
    rw [word8_requestStream _ (by decide)]
    decide
  have hle := h.resource htype (show ((requestStream longResource).word8 22).toNat ≤ _ by
    rw [hlength]
    decide)
  rw [show (requestStream longResource).offset + 17 = 22 from rfl, hlength] at hle
  exact absurd hle (by decide)

end UniversalNetwork
