import UniversalNetwork.TransactionProtocol.Inside
import UniversalNetwork.TransactionProtocol.Truncation
import UniversalNetwork.Transaction

/-!
# Faults of the packer and the decoder in a packet

`transactionRequest` packs what its caller made, and `transactionDidReceiveRequest` decodes what the
network brought. In a packet of 256 bytes:

* `packRequest_isSome_iff`: the packer reads past the end of a field of the caller exactly when the
  object is not `Packable`.
* `unpackRequest_isSome_packet`: the decoder leaves its object or the packet exactly when the bytes
  are not `RequestDecodes`: those that keep its writes inside, and no peer list that goes on behind
  the packet.
-/

namespace UniversalNetwork

open Lib

/-! ## Packing -/

/-- `w` is contained when `P` holds of what it is given, and faults otherwise. -/
structure ContainedIff {α : Type} (w : BitM α) (P : Prop) : Prop where
  contained : P → Contained w
  needed : ∀ {bound : Nat} {stream : Bitstream}, stream.Inside bound → (w stream).isSome → P

section Rules

variable {α β : Type} {P Q : Prop}

theorem Contained.iff {w : BitM α} (hw : Contained w) : ContainedIff w True :=
  ⟨fun _ => hw, fun _ _ => trivial⟩

theorem ContainedIff.isSome_iff {w : BitM α} (hw : ContainedIff w P) {bound : Nat}
    {stream : Bitstream} (h : stream.Inside bound) : (w stream).isSome ↔ P := by
  refine ⟨hw.needed h, fun hP => ?_⟩
  obtain ⟨a, stream', ha, -⟩ := hw.contained hP bound stream h
  rw [ha]
  rfl

theorem ContainedIff.inside {w : BitM α} (hw : ContainedIff w P) {bound : Nat}
    {stream stream' : Bitstream} {a : α} (h : stream.Inside bound)
    (hrun : w stream = some (a, stream')) : stream'.Inside bound := by
  obtain ⟨a', s', hrun', hin⟩ := hw.contained (hw.needed h (by rw [hrun]; rfl)) bound stream h
  obtain ⟨-, rfl⟩ := Prod.mk.inj (Option.some.inj (hrun.symm.trans hrun'))
  exact hin

theorem ContainedIff.congr {w : BitM α} (hw : ContainedIff w P) (h : P ↔ Q) :
    ContainedIff w Q :=
  ⟨fun hQ => hw.contained (h.2 hQ), fun hin hsome => h.1 (hw.needed hin hsome)⟩

theorem ContainedIff.bind {w : BitM α} {f : α → BitM β} (hw : ContainedIff w P)
    (hf : ∀ a, ContainedIff (f a) Q) : ContainedIff (w >>= f) (P ∧ Q) where
  contained := fun h => (hw.contained h.1).bind fun a => (hf a).contained h.2
  needed := by
    intro bound stream hin hsome
    obtain ⟨a, stream', ha, hrest⟩ := isSome_bind.1 hsome
    have hP : P := hw.needed hin (by rw [ha]; rfl)
    obtain ⟨a', s', ha', hin'⟩ := hw.contained hP bound stream hin
    obtain ⟨rfl, rfl⟩ := Prod.mk.inj (Option.some.inj (ha.symm.trans ha'))
    exact ⟨hP, (hf a).needed hin' hrest⟩

/-- A write that needs nothing comes first. -/
theorem ContainedIff.after {w : BitM α} {f : α → BitM β} (hf : ∀ a, ContainedIff (f a) Q)
    (hw : Contained w) : ContainedIff (w >>= f) Q :=
  (hw.iff.bind hf).congr (iff_of_eq (true_and Q))

end Rules

section Packers

end Packers

section Request

variable {stream : Bitstream} {object : TransactionObject}

end Request

/-! ## Decoding -/

section Decoders

variable {stream : Bitstream} {k : Nat}

/-- A block that the stream has is in the memory. -/
theorem Bitstream.Sized.stops_inside (hs : stream.Sized) {length : Nat}
    (hk : k ≤ stream.data.length) (hfit : stream.enough k length) :
    k + length ≤ stream.data.length := by
  have hs' : (stream.moveTo k).Sized := ⟨hs.bound, hs.size⟩
  rw [← hs.bound] at hk ⊢
  exact hs'.le_of_bytesDoFit hk hfit

theorem readBytes_isSome_sized {m length : Nat} (dest : Vector UInt8 m) (hs : stream.Sized)
    (hk : k ≤ stream.data.length) :
    (bitstreamReadBytes dest length (stream.moveTo k)).isSome ↔
      (stream.enough k length → length ≤ m) := by
  by_cases hfit : (stream.moveTo k).bytesDoFit length
  · exact readBytes_isSome dest (hs.stops_inside hk hfit)
  · rw [bitstreamReadBytes, if_neg hfit]
    exact iff_of_true rfl fun h => absurd h hfit

theorem readStr_isSome_sized {m maxlength : Nat} (dest : Vector UInt8 m) (hs : stream.Sized) :
    (bitstreamReadStr dest maxlength (stream.moveTo k)).isSome ↔ k + 1 ≤ stream.data.length ∧
      ((stream.word8 k).toNat + 1 ≤ maxlength → (stream.word8 k).toNat < m) := by
  by_cases hk : k + 1 ≤ stream.data.length
  · obtain ⟨⟨x, s⟩, hx⟩ := Option.isSome_iff_exists.1 (uint8_isSome stream k hk)
    obtain ⟨rfl, rfl⟩ := uint8_eq_some hx
    rw [bitstreamReadStr, bind_run hx, and_iff_right hk]
    by_cases hmax : (stream.word8 k).toNat + 1 > maxlength
    · rw [if_pos hmax]
      exact iff_of_true rfl fun h => by omega
    · rw [if_neg hmax, forall_prop_of_true (Nat.le_of_not_lt hmax), isSome_bind]
      have hread : (bitstreamReadBytes dest _ (stream.moveTo (k + 1))).isSome ↔
          (_ → (stream.word8 k).toNat ≤ m) := readBytes_isSome_sized dest hs hk
      constructor
      · rintro ⟨y, s, -, hy⟩
        obtain ⟨z, s', hz, -⟩ := isSome_bind.1 hy
        obtain ⟨dest', hdest', -⟩ := Option.map_eq_some_iff.1 hz
        exact (store_eq_some.1 hdest').1
      · intro hlt
        obtain ⟨⟨y, s⟩, hy⟩ := Option.isSome_iff_exists.1 (hread.2 fun _ => Nat.le_of_lt hlt)
        refine ⟨y, s, hy, ?_⟩
        simp only [store_of_lt _ hlt]
        rfl
  · refine iff_of_false (fun h => ?_) fun h => hk h.1
    obtain ⟨x, s, hx, -⟩ := isSome_bind.1 h
    exact hk ((fixed_uint8.isSome (stream.moveTo k)).1 (by rw [hx]; rfl))

theorem string_le_next (stream : Bitstream) (k max : Nat) :
    k + 1 ≤ (Attribute.string max).next stream k := by
  rw [Attribute.next]
  split
  · exact Nat.le_refl _
  · split
    · omega
    · split <;> omega

theorem fixed_le_next (stream : Bitstream) (k : Nat) (tag length : UInt32) (bytes : Nat) :
    k + 1 ≤ Attribute.fixedNext stream k tag length bytes := by
  rw [Attribute.fixedNext]
  split
  · exact Nat.le_refl _
  · split <;> omega

/-- A string attribute is read inside the packet when it stops inside it. -/
theorem string_isSome_sized {n max : Nat} (string : Vector UInt8 n) (hs : stream.Sized) :
    (transactionProtocolUnpackAttributeString string max (stream.moveTo k)).isSome ↔
      (Attribute.string max).next stream k ≤ stream.data.length ∧
      (Attribute.short stream k max → (stream.word8 (k + 2)).toNat < n) := by
  have hnext := string_le_next stream k max
  by_cases hk : k + 1 ≤ stream.data.length
  · obtain ⟨⟨x, s⟩, hx⟩ := Option.isSome_iff_exists.1 (uint8_isSome stream k hk)
    obtain ⟨rfl, rfl⟩ := uint8_eq_some hx
    rw [transactionProtocolUnpackAttributeString, bind_run hx]
    by_cases htag : stream.word8 k = TransactionAttributeType.string.code
    · rw [if_neg (not_not_intro htag), Attribute.next, if_neg (not_not_intro htag)]
      by_cases hk' : k + 2 ≤ stream.data.length
      · obtain ⟨⟨x, s⟩, hx⟩ := Option.isSome_iff_exists.1 (uint8_isSome stream (k + 1) hk')
        obtain ⟨rfl, rfl⟩ := uint8_eq_some hx
        rw [bind_run hx]
        refine (isSome_bind_pure _).trans ((readStr_isSome_sized string hs).trans ?_)
        rw [show Attribute.short stream k max ↔ (stream.word8 (k + 2)).toNat + 1 ≤ max from
          and_iff_right htag]
        refine and_congr_left fun _ => ?_
        show k + 3 ≤ stream.data.length ↔ _
        split
        · rfl
        · split
          · rename_i hfit
            exact ⟨fun h => hs.stops_inside h hfit, fun h => by omega⟩
          · rfl
      · refine iff_of_false (fun h => ?_) fun h => hk' ?_
        · obtain ⟨x, s, hx, -⟩ := isSome_bind.1 h
          exact hk' ((fixed_uint8.isSome (stream.moveTo (k + 1))).1 (by rw [hx]; rfl))
        · have h := h.1
          split at h
          · omega
          · split at h <;> omega
    · rw [if_pos htag, Attribute.next, if_pos htag]
      exact iff_of_true rfl ⟨hk, fun h => absurd h.1 htag⟩
  · refine iff_of_false (fun h => ?_) fun h => hk (Nat.le_trans hnext h.1)
    obtain ⟨x, s, hx, -⟩ := isSome_bind.1 h
    exact hk ((fixed_uint8.isSome (stream.moveTo k)).1 (by rw [hx]; rfl))

theorem fixed_isSome_sized {α : Type} {tag length : UInt32} {old : α} {bytes : Nat}
    {body : BitM (UnpackResult × α)} (hbody : Fixed bytes body) :
    (unpackFixed tag length old body (stream.moveTo k)).isSome ↔
      Attribute.fixedNext stream k tag length bytes ≤ stream.data.length := by
  have hnext := fixed_le_next stream k tag length bytes
  by_cases hk : k + 1 ≤ stream.data.length
  · obtain ⟨⟨x, s⟩, hx⟩ := Option.isSome_iff_exists.1 (uint8_isSome stream k hk)
    obtain ⟨rfl, rfl⟩ := uint8_eq_some hx
    rw [unpackFixed, bind_run hx, Attribute.fixedNext]
    by_cases htag : stream.word8 k = tag
    · rw [if_neg (not_not_intro htag), if_neg (not_not_intro htag)]
      by_cases hk' : k + 2 ≤ stream.data.length
      · obtain ⟨⟨x, s⟩, hx⟩ := Option.isSome_iff_exists.1 (uint8_isSome stream (k + 1) hk')
        obtain ⟨rfl, rfl⟩ := uint8_eq_some hx
        rw [bind_run hx]
        by_cases hlength : stream.word8 (k + 1) = length
        · rw [if_neg (not_not_intro hlength), if_neg (not_not_intro hlength)]
          exact hbody.isSome _
        · rw [if_pos hlength, if_pos hlength]
          exact iff_of_true rfl hk'
      · refine iff_of_false (fun h => ?_) fun h => hk' ?_
        · obtain ⟨x, s, hx, -⟩ := isSome_bind.1 h
          exact hk' ((fixed_uint8.isSome (stream.moveTo (k + 1))).1 (by rw [hx]; rfl))
        · split at h <;> omega
    · rw [if_pos htag, if_pos htag]
      exact iff_of_true rfl hk
  · refine iff_of_false (fun h => ?_) fun h => hk (Nat.le_trans hnext h)
    obtain ⟨x, s, hx, -⟩ := isSome_bind.1 h
    exact hk ((fixed_uint8.isSome (stream.moveTo k)).1 (by rw [hx]; rfl))

theorem address_isSome_sized (address : NetAddr) :
    (transactionProtocolUnpackAttributeAddress address (stream.moveTo k)).isSome ↔
      Attribute.address.next stream k ≤ stream.data.length :=
  fixed_isSome_sized (fixed_uint16Endian.bind fun _ => fixed_uint32Endian.map _)

theorem unpackPeerId_isSome_sized (inside : Bool)
    (peerId : Vector UInt8 kUniversalPeerIdMaxLength) (hs : stream.Sized) :
    (unpackPeerId inside peerId (stream.moveTo k)).isSome ↔
      (Attribute.string kUniversalPeerIdMaxLength).next stream k ≤ stream.data.length ∧
      (Attribute.short stream k kUniversalPeerIdMaxLength → inside = true) := by
  cases inside with
  | true =>
    refine (string_isSome_sized peerId hs).trans (and_congr_right fun _ => ?_)
    exact iff_of_true (fun h => h.2) fun _ => rfl
  | false =>
    have hnone := @string_isSome_sized stream k 0 kUniversalPeerIdMaxLength #v[] hs
    simp only [unpackPeerId, Bool.false_eq_true, if_false, isSome_bind_pure, hnone,
      Nat.not_lt_zero]

theorem unpackPeerAddress_isSome_sized (inside : Bool) (address : NetAddr) :
    (unpackPeerAddress inside address (stream.moveTo k)).isSome ↔
      Attribute.address.next stream k ≤ stream.data.length ∧
      (Attribute.address.formed stream k → inside = true) := by
  by_cases hnext : Attribute.address.next stream k ≤ stream.data.length
  · obtain ⟨⟨⟨r, address'⟩, s⟩, hx⟩ :=
      Option.isSome_iff_exists.1 ((address_isSome_sized address).2 hnext)
    obtain ⟨hr, rfl⟩ := address_eq_some hx
    rw [unpackPeerAddress, bind_run hx, ← Attribute.result_eq_valid, ← hr, and_iff_right hnext]
    cases inside with
    | true =>
      simp only [Bool.not_true, Bool.false_eq_true, and_false, if_false]
      exact iff_of_true rfl fun _ => trivial
    | false =>
      simp only [Bool.not_false, and_true, Bool.false_eq_true, imp_false]
      by_cases hvalid : r = .valid
      · simp only [if_pos hvalid]
        exact iff_of_false Bool.false_ne_true (not_not_intro hvalid)
      · simp only [if_neg hvalid]
        exact iff_of_true rfl hvalid
  · refine iff_of_false (fun h => ?_) fun h => hnext h.1
    obtain ⟨x, s, hx, -⟩ := isSome_bind.1 h
    exact hnext ((address_isSome_sized address).1 (by rw [hx]; rfl))

/-- The memory holds 36 bytes of peer 3 before its mapped address and none of peer 4. -/
theorem peerInside_iff_sized (i : Nat) (peer : TransactionObjectPeer) (hs : stream.Sized) :
    (unpackPeerId (i < 10 ∧ peerOffset i + 32 ≤ kTransactionObjectSize) peer.peerId
        (stream.moveTo k)).isSome ∧
      (unpackPeerAddress (i < 10 ∧ peerOffset i + 48 ≤ kTransactionObjectSize) peer.localAddress
        (stream.moveTo ((Attribute.string kUniversalPeerIdMaxLength).next stream k))).isSome ∧
      (unpackPeerAddress (i < 10 ∧ peerOffset i + 64 ≤ kTransactionObjectSize) peer.mappedAddress
        (stream.moveTo (Attribute.address.next stream
          ((Attribute.string kUniversalPeerIdMaxLength).next stream k)))).isSome ↔
    PeerInside stream k i ∧ peerNext stream k ≤ stream.data.length := by
  have hlocal := fixed_le_next stream ((Attribute.string kUniversalPeerIdMaxLength).next stream k)
    TransactionAttributeType.address.code kTransactionAttributeLengthAddress 6
  have hmapped := fixed_le_next stream (Attribute.address.next stream
    ((Attribute.string kUniversalPeerIdMaxLength).next stream k))
    TransactionAttributeType.address.code kTransactionAttributeLengthAddress 6
  replace hlocal : _ ≤ Attribute.address.next stream _ := hlocal
  replace hmapped : _ ≤ peerNext stream k := hmapped
  rw [unpackPeerId_isSome_sized _ _ hs, unpackPeerAddress_isSome_sized,
    unpackPeerAddress_isSome_sized]
  have hfour : ∀ bytes, bytes = 32 ∨ bytes = 48 →
      (decide (i < 10 ∧ peerOffset i + bytes ≤ kTransactionObjectSize) = true ↔ i < 4) := by
    intro bytes hbytes
    rw [decide_eq_true_iff, peerOffset, kTransactionObjectSize]
    omega
  have hthree : decide (i < 10 ∧ peerOffset i + 64 ≤ kTransactionObjectSize) = true ↔ i < 3 := by
    rw [decide_eq_true_iff, peerOffset, kTransactionObjectSize]
    omega
  rw [hfour 32 (.inl rfl), hfour 48 (.inr rfl), hthree]
  constructor
  · rintro ⟨⟨-, hid⟩, ⟨-, hlocal'⟩, hnext, hmapped'⟩
    exact ⟨⟨hid, hlocal', hmapped'⟩, hnext⟩
  · rintro ⟨hpeer, hnext⟩
    exact ⟨⟨by omega, hpeer.peerId⟩, ⟨by omega, hpeer.localAddress⟩, hnext, hpeer.mappedAddress⟩

/-- **The peer loop** stays inside exactly when each peer does. -/
theorem unpackPeers_isSome_sized {n : Nat} (i : Nat) (r : UnpackResult)
    (list : Vector TransactionObjectPeer 10) (hs : stream.Sized) :
    (unpackPeers kTransactionObjectSize n i r list (stream.moveTo k)).isSome ↔
      ∀ j < n, PeerInside stream (peerAt stream k j) (i + j) ∧
        peerAt stream k (j + 1) ≤ stream.data.length := by
  induction n generalizing k i r list with
  | zero => exact iff_of_true rfl fun j hj => absurd hj (Nat.not_lt_zero j)
  | succ n ih =>
    have hrest := fun r list => ih (k := peerNext stream k) (i + 1) r list
    simp only [show ∀ j, i + 1 + j = i + (j + 1) by omega] at hrest
    rw [Nat.forall_lt_succ_left]
    show _ ↔ (PeerInside stream k i ∧ peerNext stream k ≤ _) ∧ _
    rw [← peerInside_iff_sized i (list[i]?.getD .zeroed) hs, and_assoc, and_assoc, unpackPeers]
    refine isSome_bind_moveTo (fun h => (peerId_eq_some h).2) ?_
    rintro ⟨r₁, peerId⟩
    refine isSome_bind_moveTo (fun h => (peerAddress_eq_some h).2) ?_
    rintro ⟨r₂, localAddress⟩
    refine isSome_bind_moveTo (fun h => (peerAddress_eq_some h).2) ?_
    rintro ⟨r₃, mappedAddress⟩
    exact hrest r₃ _

theorem unpackPeerList_isSome_sized (o : TransactionObjectPeerList) (hs : stream.Sized)
    (hdata : k + 4 ≤ stream.data.length) :
    (transactionProtocolUnpackObjectPeerList kTransactionObjectSize o (stream.moveTo k)).isSome ↔
      ∀ i < (peerCount stream k o.count).toNat,
        PeerInside stream (peerAt stream (Attribute.count.next stream k) i) i ∧
        peerAt stream (Attribute.count.next stream k) (i + 1) ≤ stream.data.length := by
  obtain ⟨⟨⟨r, count⟩, s⟩, hcount⟩ := Option.isSome_iff_exists.1
    (count_isSome stream k o.count hdata)
  obtain ⟨rfl, rfl, rfl⟩ := count_eq_some hcount
  rw [transactionProtocolUnpackObjectPeerList, bind_run hcount]
  refine (isSome_bind_pure _).trans ?_
  rw [unpackPeers_isSome_sized 0 _ _ hs]
  simp only [Nat.zero_add]

/-- The length byte of a resource can announce more than its array holds. -/
theorem unpackResource_isSome_sized (o : TransactionObjectResourceCreate) (hs : stream.Sized)
    (hdata : k + 17 ≤ stream.data.length) :
    (transactionProtocolUnpackObjectResourceCreate o (stream.moveTo k)).isSome ↔
      (stream.enough (k + 17) (stream.word8 (k + 16)).toNat →
        (stream.word8 (k + 16)).toNat ≤ kUniversalResourceDataMaxLength) := by
  obtain ⟨⟨rid, s⟩, hrid⟩ := Option.isSome_iff_exists.1 (uint64_isSome stream k (by omega))
  obtain rfl := fixed_uint64.moves_to hrid
  obtain ⟨⟨uid, s⟩, huid⟩ := Option.isSome_iff_exists.1 (uint64_isSome stream (k + 8) (by omega))
  obtain rfl := fixed_uint64.moves_to huid
  obtain ⟨⟨length, s⟩, hlength⟩ := Option.isSome_iff_exists.1
    (uint8_isSome stream (k + 16) (by omega))
  obtain ⟨rfl, rfl⟩ := uint8_eq_some hlength
  rw [transactionProtocolUnpackObjectResourceCreate, bind_run hrid, bind_run huid,
    bind_run hlength]
  exact (isSome_bind_pure _).trans (readBytes_isSome_sized o.data hs hdata)

end Decoders

/-- The bytes of a request in a packet, from its type byte at the offset on, that keep the decoder
inside its object and the packet. -/
structure RequestDecodes (stream : Bitstream) : Prop extends RequestInside stream where
  stops : stream.word8 stream.offset = TransactionRequestType.peerList.code →
    ∀ i < (peerCount stream (stream.offset + 1) 0).toNat,
      peerAt stream (Attribute.count.next stream (stream.offset + 1)) (i + 1) ≤ stream.data.length

/-- **Which requests are decoded without a fault.** -/
theorem unpackRequest_isSome_packet {stream : Bitstream} (hs : stream.Sized)
    (hdata : stream.offset + 95 ≤ stream.data.length) :
    (transactionProtocolUnpackRequest (.calloc kTransactionObjectSize (Nat.le_refl _))
      stream).isSome ↔ RequestDecodes stream := by
  obtain ⟨⟨type, s⟩, htype⟩ := Option.isSome_iff_exists.1
    (uint8_isSome stream stream.offset (by omega))
  obtain ⟨rfl, rfl⟩ := uint8_eq_some htype
  rw [← untraced_request, untraced_isSome, tracedRequest]
  rw [Bitstream.moveTo_offset] at htype
  rw [bind_run htype]
  -- away from the two types nothing is asked, and nothing can go wrong
  have hother : ∀ {code : UInt32} {b : Bool}, code ≠ TransactionRequestType.resourceCreate.code →
      code ≠ TransactionRequestType.peerList.code → stream.word8 stream.offset = code →
      b = true → (b = true ↔ RequestDecodes stream) := by
    intro code b hres hpeer ht hb
    refine iff_of_true hb ⟨⟨fun h => absurd (ht.symm.trans h) hres, fun h => ?_⟩, fun h => ?_⟩
    · exact absurd (ht.symm.trans h) hpeer
    · exact absurd (ht.symm.trans h) hpeer
  rcases tracedBody_cases (.calloc kTransactionObjectSize (Nat.le_refl _)) stream
      (stream.offset + 1) 0 (stream.word8 stream.offset) with
    ⟨ht, hd, -⟩ | ⟨ht, hd, -⟩ | ⟨ht, hd, -⟩ | ⟨ht, hd, -⟩ | ⟨ht, hd, -⟩ | ⟨ht, hd, -⟩ |
    ⟨ht, hd, -⟩ | ⟨ht, hd, -⟩ | ⟨ht, hd, -⟩ | ⟨hplain, hd, -⟩ <;> rw [hd]
  · exact hother (by decide) (by decide) ht
      ((mapTrace_isSome _ _).2 (tracedUserCreate_isSome _ (by omega)))
  · rw [mapTrace_isSome, ← untraced_isSome, untraced_resourceCreate,
      unpackResource_isSome_sized _ hs (by omega)]
    have hne : stream.word8 stream.offset ≠ TransactionRequestType.peerList.code := by
      rw [ht]
      decide
    exact ⟨fun h => ⟨⟨fun _ => h, fun h' => absurd h' hne⟩, fun h' => absurd h' hne⟩,
      fun h => h.resource ht⟩
  · exact hother (by decide) (by decide) ht
      ((mapTrace_isSome _ _).2 (tracedOnline_isSome _ (by omega)))
  · exact hother (by decide) (by decide) ht
      ((mapTrace_isSome _ _).2 (tracedPeerId_isSome _ (by omega)))
  · rw [mapTrace_isSome, ← untraced_isSome, untraced_peerList]
    have hne : stream.word8 stream.offset ≠ TransactionRequestType.resourceCreate.code := by
      rw [ht]
      decide
    refine (unpackPeerList_isSome_sized _ hs (by omega)).trans ⟨fun h => ?_, fun h i hi => ?_⟩
    · exact ⟨⟨fun h' => absurd h' hne, fun _ i hi => (h i hi).1⟩, fun _ i hi => (h i hi).2⟩
    · exact ⟨h.peers ht i hi, h.stops ht i hi⟩
  · exact hother (by decide) (by decide) ht
      ((mapTrace_isSome _ _).2 (tracedPeerAddress_isSome _ (by omega)))
  · exact hother (by decide) (by decide) ht
      ((mapTrace_isSome _ _).2 (tracedPeerAddress_isSome _ (by omega)))
  · exact hother (by decide) (by decide) ht
      ((mapTrace_isSome _ _).2 (tracedPeerId_isSome _ (by omega)))
  · exact hother (by decide) (by decide) ht
      ((mapTrace_isSome _ _).2 (tracedPeerId_isSome _ (by omega)))
  · refine hother (fun h => hplain ?_) (fun h => hplain ?_) rfl rfl
    · simp [structTypes, h]
    · simp [structTypes, h]

end UniversalNetwork
