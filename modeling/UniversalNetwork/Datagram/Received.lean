import UniversalNetwork.Datagram.Deciding

/-!
# Which transactions and stream packets were received whole

A decoder runs on the packet of the pool, whose bytes behind the datagram are left over from earlier
packets. `streamEnd` and `transactionEnd` say from the bytes how far the decoders go.

* `decodesReceived_iff_stopsWithin`: a local decoder that decides depends on the received bytes alone
  exactly when it stops inside them.
* `stream_decodesReceived_iff`, `transaction_decodesReceived_iff`: exactly when the datagram has all
  that its own bytes announce.
-/

namespace UniversalNetwork

open Lib

/-! ## Packets with the same received bytes -/

/-- What a decoder returns on a packet with these bytes in its buffer. -/
def decoded {α : Type} (decode : BitM α) (data : List UInt8) : Option α :=
  (decode (bitstreamCreate data kNetPacketMaxLen)).map Prod.fst

/-- Every packet whose first `n` bytes are those of this one is decoded, and all to the same. -/
def DecodesReceived {α : Type} (n : Nat) (decode : BitM α) (data : List UInt8) : Prop :=
  ∀ data', AgreeOn n data data' → ∃ a, decoded decode data = some a ∧ decoded decode data' = some a

/-- The decoder stops inside the first `n` bytes. -/
def StopsWithin {α : Type} (n : Nat) (decode : BitM α) (data : List UInt8) : Prop :=
  ∃ a stream, decode (bitstreamCreate data kNetPacketMaxLen) = some (a, stream) ∧ stream.offset ≤ n

section Packets

variable {α : Type} {decode : BitM α} {n v : Nat} {data : List UInt8}

theorem sized_packet (h : data.length = kNetPacketMaxLen) :
    (bitstreamCreate data kNetPacketMaxLen).Sized :=
  ⟨h.symm, (by decide : kNetPacketMaxLen < 2 ^ 64)⟩

theorem agreeOn_refl (n : Nat) (data : List UInt8) : AgreeOn n data data := ⟨rfl, fun _ _ => rfl⟩

theorem decoded_eq_some {a : α} :
    decoded decode data = some a ↔
      ∃ stream, decode (bitstreamCreate data kNetPacketMaxLen) = some (a, stream) := by
  rw [decoded, Option.map_eq_some_iff]
  constructor
  · rintro ⟨⟨b, stream⟩, h, rfl⟩
    exact ⟨stream, h⟩
  · rintro ⟨stream, h⟩
    exact ⟨_, h, rfl⟩

theorem decoded_of_agreeOn (hlocal : Local decode) (hlen : data.length = kNetPacketMaxLen) {a : α}
    {stream : Bitstream} (hrun : decode (bitstreamCreate data kNetPacketMaxLen) = some (a, stream))
    {data' : List UInt8} (hagree : AgreeOn stream.offset data data') :
    decoded decode data' = some a := by
  have halike : Alike stream.offset (bitstreamCreate data kNetPacketMaxLen)
      (bitstreamCreate data' kNetPacketMaxLen) := ⟨rfl, rfl, hagree⟩
  exact decoded_eq_some.2 ⟨_, hlocal.alike (sized_packet hlen) (Nat.zero_le _) halike hrun
    (Nat.le_refl _)⟩

/-- **A decoder whose last byte decides** needs the received bytes alone when it stops inside them,
and not when it goes on. -/
theorem decodesReceived_iff_stopsWithin (hlocal : Local decode) (hdecides : Decides id v decode)
    (hv : v ≤ kNetPacketMaxLen) (hlen : data.length = kNetPacketMaxLen) :
    DecodesReceived n decode data ↔ StopsWithin n decode data := by
  constructor
  · intro h
    obtain ⟨a, ha, -⟩ := h data (agreeOn_refl n data)
    obtain ⟨stream, hrun⟩ := decoded_eq_some.1 ha
    refine ⟨a, stream, hrun, ?_⟩
    by_contra hn
    obtain ⟨-, t, hst, hdiffers⟩ :=
      hdecides.last (sized_packet hlen) ((Nat.zero_add v).trans_le hv) hrun
    have hagree : AgreeOn n data t.data := (hst.mono (show n ≤ _ by omega)).data
    obtain ⟨b, hb, ht⟩ := h t.data hagree
    obtain ⟨t', hrun'⟩ := decoded_eq_some.1 ht
    have htcreate : bitstreamCreate t.data kNetPacketMaxLen = t := by
      rw [bitstreamCreate, ← show t.bound = kNetPacketMaxLen from hst.bound,
        ← show t.offset = 0 from hst.offset]
    rw [htcreate] at hrun'
    exact hdiffers b t' hrun' (Option.some.inj (hb.symm.trans ha))
  · rintro ⟨a, stream, hrun, hn⟩ data' hagree
    have hagree' : AgreeOn stream.offset data data' :=
      ⟨hagree.1, fun i hi => hagree.2 i (Nat.lt_of_lt_of_le hi hn)⟩
    exact ⟨a, decoded_eq_some.2 ⟨stream, hrun⟩, decoded_of_agreeOn hlocal hlen hrun hagree'⟩

/-- A decoder that stops at a known place, if it returns. -/
theorem stopsWithin_iff {k : Nat}
    (hend : ∀ {a stream}, decode (bitstreamCreate data kNetPacketMaxLen) = some (a, stream) →
      stream.offset = k) :
    StopsWithin n decode data ↔
      k ≤ n ∧ (decode (bitstreamCreate data kNetPacketMaxLen)).isSome := by
  rw [Option.isSome_iff_exists]
  constructor
  · rintro ⟨a, stream, hrun, hn⟩
    exact ⟨hend hrun ▸ hn, ⟨_, hrun⟩⟩
  · rintro ⟨hn, ⟨⟨a, stream⟩, hrun⟩⟩
    exact ⟨a, stream, hrun, (hend hrun).symm ▸ hn⟩

end Packets

/-! ## Stream packets -/

namespace Bitstream

variable (stream : Bitstream)

/-- How far the decoder of a stream packet goes: to the first byte of the header that differs, or to
the end of the data, or behind its length when the packet has not so much. -/
def streamEnd : Nat :=
  if stream.HeaderAt 0 .stream then
    if stream.enough 25 (stream.word16 23).toNat then 25 + (stream.word16 23).toNat else 25
  else stream.headerEnd 0

/-- How far the decoder of a transaction goes. -/
def transactionEnd : Nat :=
  if stream.HeaderAt 0 .transaction then
    if stream.word8 4 = TransactionType.response.code then 6
    else if stream.word8 4 = TransactionType.request.code then requestEnd (stream.moveTo 5) 0
    else 5
  else stream.headerEnd 0

end Bitstream

section Streams

variable {s s' : Bitstream} {sequence ack ackBitField : UInt32} {object : StreamObject}

theorem streamHeader_eq_some {x : UnpackResult × UInt32 × UInt32 × UInt32}
    (h : streamProtocolUnpackHeader sequence ack ackBitField (s.moveTo 0) = some (x, s')) :
    (s.HeaderAt 0 .stream ∧ x.1 = .valid ∧ s' = s.moveTo 15) ∨
      (¬ s.HeaderAt 0 .stream ∧ x.1 = .invalid ∧ s' = s.moveTo (s.headerEnd 0)) := by
  obtain ⟨r, s₁, hr, h⟩ := bind_eq_some h
  obtain ⟨rfl, rfl⟩ := protocolHeader_eq_some hr
  by_cases hat : s.HeaderAt 0 .stream
  · rw [if_pos hat, if_neg (not_not_intro rfl), headerEnd_of_headerAt hat] at h
    obtain ⟨x₁, s₁, h₁, h⟩ := bind_eq_some h
    obtain ⟨x₂, s₂, h₂, h⟩ := bind_eq_some h
    obtain ⟨x₃, s₃, h₃, hpure⟩ := bind_eq_some h
    obtain rfl := fixed_uint32.moves_to h₁
    obtain rfl := fixed_uint32.moves_to h₂
    obtain rfl := fixed_uint32.moves_to h₃
    cases hpure
    exact .inl ⟨hat, rfl, rfl⟩
  · rw [if_neg hat, if_pos (show UnpackResult.invalid ≠ .valid by decide)] at h
    cases h
    exact .inr ⟨hat, rfl, rfl⟩

theorem decodeStream_end {x : UnpackResult × (UInt32 × UInt32 × UInt32) × StreamObject}
    (h : decodeStream sequence ack ackBitField object (s.moveTo 0) = some (x, s')) :
    s'.offset = s.streamEnd := by
  obtain ⟨⟨r, header⟩, s₁, hheader, h⟩ := bind_eq_some h
  rw [Bitstream.streamEnd]
  rcases streamHeader_eq_some hheader with ⟨hat, hr, rfl⟩ | ⟨hat, hr, rfl⟩ <;>
    obtain rfl : r = _ := hr
  · rw [if_pos hat]
    obtain ⟨⟨r', object'⟩, s₂, hdata, hpure⟩ := bind_eq_some h
    cases hpure
    obtain ⟨tag, s₃, htag, hdata⟩ := bind_eq_some hdata
    obtain rfl := fixed_uint64.moves_to htag
    obtain ⟨length, s₄, hlength, hdata⟩ := bind_eq_some hdata
    obtain ⟨rfl, rfl⟩ := uint16_eq_some hlength
    obtain ⟨⟨m, bytes⟩, s₅, hread, hpure⟩ := bind_eq_some hdata
    cases hpure
    rcases readBytes_eq_some hread with ⟨hfit, -, rfl⟩ | ⟨hfit, -, rfl⟩
    · rw [if_pos hfit]
      rfl
    · rw [if_neg hfit]
      rfl
  · rw [if_neg hat]
    cases h
    rfl

/-- A packet has room for the header, and no more data than the array of an object. -/
theorem decodeStream_isSome (hs : s.Sized) (hbound : s.bound = kNetPacketMaxLen) :
    (decodeStream sequence ack ackBitField object (s.moveTo 0)).isSome := by
  have hsize : s.data.length = 256 := hs.bound.symm.trans hbound
  obtain ⟨⟨r, header⟩, k, hheader, hk⟩ := atMost_streamHeader sequence ack ackBitField (s.moveTo 0)
    (by rw [Bitstream.offset_moveTo, Bitstream.data_moveTo]; omega)
  rw [decodeStream, bind_run hheader]
  rcases streamHeader_eq_some hheader with ⟨hat, hr, hmoved⟩ | ⟨hat, hr, -⟩ <;>
    obtain rfl : r = _ := hr
  · rw [hmoved]
    obtain ⟨⟨tag, s₁⟩, htag⟩ := Option.isSome_iff_exists.1 (uint64_isSome s 15 (by omega))
    obtain rfl := fixed_uint64.moves_to htag
    have hlength : bitstreamReadUint16 (s.moveTo 23) = some (s.word16 23, s.moveTo 25) :=
      uint16_at (by omega)
    have hroom : s.enough 25 (s.word16 23).toNat →
        (s.word16 23).toNat ≤ kStreamObjectDataMaxLength := fun hfit => by
      have := hs.stops_inside (show 25 ≤ s.data.length by omega) hfit
      unfold kStreamObjectDataMaxLength kProtocolMaxLength kNetPacketMaxLen
      omega
    have hread := (readBytes_isSome_sized (streamObjectSetup object).data hs
      (show 25 ≤ s.data.length by omega)).2 hroom
    obtain ⟨⟨y, s₂⟩, hy⟩ := Option.isSome_iff_exists.1 hread
    have hdata : (streamProtocolUnpackData (streamObjectSetup object) (s.moveTo 15)).isSome := by
      rw [streamProtocolUnpackData, bind_run htag, bind_run hlength, bind_run hy]
      rfl
    exact (isSome_bind_pure _).2 hdata
  · rfl

theorem stream_decodesReceived_iff {n : Nat} {data : List UInt8}
    (hlen : data.length = kNetPacketMaxLen) :
    DecodesReceived n (decodeStream sequence ack ackBitField object) data ↔
      (bitstreamCreate data kNetPacketMaxLen).streamEnd ≤ n := by
  have hend : ∀ {x stream}, decodeStream sequence ack ackBitField object
      (bitstreamCreate data kNetPacketMaxLen) = some (x, stream) → stream.offset =
        (bitstreamCreate data kNetPacketMaxLen).streamEnd :=
    fun h => decodeStream_end (s := bitstreamCreate data kNetPacketMaxLen) h
  rw [decodesReceived_iff_stopsWithin (local_stream _ _ _ _) (decides_stream _ _ _ _) (by decide)
    hlen, stopsWithin_iff hend]
  exact and_iff_left (decodeStream_isSome (sized_packet hlen) rfl)

end Streams

/-! ## Transactions -/

section Transactions

variable {s s' : Bitstream} {transactionId transactionType : UInt32}

theorem transactionHeader_eq_some {x : UnpackResult × UInt32 × UInt32}
    (h : transactionProtocolUnpackHeader transactionId transactionType (s.moveTo 0) =
      some (x, s')) :
    (s.HeaderAt 0 .transaction ∧ x.1 = .valid ∧ x.2.2 = s.word8 4 ∧ s' = s.moveTo 5) ∨
      (¬ s.HeaderAt 0 .transaction ∧ x.1 = .invalid ∧ s' = s.moveTo (s.headerEnd 0)) := by
  obtain ⟨r, s₁, hr, h⟩ := bind_eq_some h
  obtain ⟨rfl, rfl⟩ := protocolHeader_eq_some hr
  by_cases hat : s.HeaderAt 0 .transaction
  · rw [if_pos hat, if_neg (not_not_intro rfl), headerEnd_of_headerAt hat] at h
    obtain ⟨x₁, s₁, h₁, h⟩ := bind_eq_some h
    obtain ⟨x₂, s₂, h₂, hpure⟩ := bind_eq_some h
    obtain ⟨-, rfl⟩ := uint8_eq_some h₁
    obtain ⟨rfl, rfl⟩ := uint8_eq_some h₂
    cases hpure
    exact .inl ⟨hat, rfl, rfl, rfl⟩
  · rw [if_neg hat, if_pos (show UnpackResult.invalid ≠ .valid by decide)] at h
    cases h
    exact .inr ⟨hat, rfl, rfl⟩

theorem decodeTransaction_end {x : UnpackResult × UInt32 × UInt32 × TransactionBody}
    (h : decodeTransaction requestMemory transactionId transactionType (s.moveTo 0) =
      some (x, s')) : s'.offset = s.transactionEnd := by
  rw [decodeTransaction_eq] at h
  obtain ⟨⟨r, id, type⟩, s₁, hheader, h⟩ := bind_eq_some h
  rw [Bitstream.transactionEnd]
  rcases transactionHeader_eq_some hheader with ⟨hat, hr, htype, rfl⟩ | ⟨hat, hr, rfl⟩ <;>
    obtain rfl : r = _ := hr
  · obtain rfl : type = _ := htype
    rw [decodeTransactionBody, if_neg (not_not_intro rfl)] at h
    rw [if_pos hat]
    split at h
    · rename_i hresponse
      obtain ⟨y, s₂, hy, hpure⟩ := bind_eq_some h
      obtain ⟨z, s₃, hz, hy⟩ := bind_eq_some hy
      obtain ⟨-, rfl⟩ := uint8_eq_some hz
      cases hy
      cases hpure
      rw [if_pos hresponse]
      rfl
    rename_i hresponse
    rw [if_neg hresponse]
    split at h
    · rename_i hrequest
      obtain ⟨⟨r', object⟩, s₂, hy, hpure⟩ := bind_eq_some h
      cases hpure
      rw [← untraced_request] at hy
      obtain ⟨⟨results, r', object⟩, s₃, htrace, hpure⟩ := bind_eq_some hy
      cases hpure
      rw [if_pos hrequest, (tracedRequest_eq_some htrace).2.2]
      rfl
    · rename_i hrequest
      cases h
      rw [if_neg hrequest]
      rfl
  · rw [decodeTransactionBody, if_pos (show UnpackResult.invalid ≠ .valid by decide)] at h
    cases h
    rw [if_neg hat]
    rfl

theorem decodeTransaction_isSome_iff (hs : s.Sized) (hbound : s.bound = kNetPacketMaxLen) :
    (decodeTransaction requestMemory transactionId transactionType (s.moveTo 0)).isSome ↔
      (s.HeaderAt 0 .transaction → s.word8 4 = TransactionType.request.code →
        RequestDecodes (s.moveTo 5)) := by
  have hsize : s.data.length = 256 := hs.bound.symm.trans hbound
  obtain ⟨⟨r, id, type⟩, k, hheader, hk⟩ := atMost_transactionHeader transactionId transactionType
    (s.moveTo 0) (by rw [Bitstream.offset_moveTo, Bitstream.data_moveTo]; omega)
  rw [decodeTransaction_eq, bind_run hheader]
  rcases transactionHeader_eq_some hheader with ⟨hat, hr, htype, hmoved⟩ | ⟨hat, hr, -⟩ <;>
    obtain rfl : r = _ := hr
  · obtain rfl : type = _ := htype
    rw [hmoved, decodeTransactionBody, if_neg (not_not_intro rfl), forall_prop_of_true hat]
    by_cases hresponse : s.word8 4 = TransactionType.response.code
    · rw [if_pos hresponse]
      refine iff_of_true ((isSome_bind_pure _).2 ((isSome_bind_pure _).2
        (uint8_isSome s 5 (by omega)))) fun hrequest => ?_
      rw [hresponse] at hrequest
      exact absurd hrequest (by decide)
    rw [if_neg hresponse]
    by_cases hrequest : s.word8 4 = TransactionType.request.code
    · rw [if_pos hrequest, forall_prop_of_true hrequest]
      refine (isSome_bind_pure _).trans (unpackRequest_isSome_packet ⟨hs.bound, hs.size⟩ ?_)
      rw [Bitstream.offset_moveTo, Bitstream.data_moveTo]
      omega
    · rw [if_neg hrequest]
      exact iff_of_true rfl fun h => absurd h hrequest
  · rw [decodeTransactionBody, if_pos (show UnpackResult.invalid ≠ .valid by decide)]
    exact iff_of_true rfl fun h => absurd h hat

/-- The datagram has all that its bytes announce, and they keep the decoder inside its object. -/
structure TransactionReceived (n : Nat) (data : List UInt8) : Prop where
  stops : (bitstreamCreate data kNetPacketMaxLen).transactionEnd ≤ n
  decodes : (bitstreamCreate data kNetPacketMaxLen).HeaderAt 0 .transaction →
    (bitstreamCreate data kNetPacketMaxLen).word8 4 = TransactionType.request.code →
    RequestDecodes ((bitstreamCreate data kNetPacketMaxLen).moveTo 5)

theorem transaction_decodesReceived_iff {n : Nat} {data : List UInt8}
    (hlen : data.length = kNetPacketMaxLen) :
    DecodesReceived n (decodeTransaction requestMemory transactionId transactionType) data ↔
      TransactionReceived n data := by
  have hend : ∀ {x stream}, decodeTransaction requestMemory transactionId transactionType
      (bitstreamCreate data kNetPacketMaxLen) = some (x, stream) → stream.offset =
        (bitstreamCreate data kNetPacketMaxLen).transactionEnd :=
    fun h => decodeTransaction_end (s := bitstreamCreate data kNetPacketMaxLen) h
  rw [decodesReceived_iff_stopsWithin (local_transaction _ _ _) (decides_transaction _ _ _)
    (by decide) hlen, stopsWithin_iff hend]
  exact (and_congr_right fun _ => decodeTransaction_isSome_iff (sized_packet hlen) rfl).trans
    ⟨fun h => ⟨h.1, h.2⟩, fun h => ⟨h.stops, h.decodes⟩⟩

end Transactions

end UniversalNetwork
