import UniversalNetwork.StreamConfiguration.Moves
import UniversalNetwork.TransactionProtocol.Attributes

/-!
# What a received object holds

A stream packet says how long its data is, in bytes 23 and 24. `streamProtocolUnpackData` takes that
as the length of the object whether or not `bitstream_read_bytes` has read so many bytes, and it
always reports a valid result; nobody looks at it. After the 25 bytes before the data a packet has
room for 231, as many as the object.

* `streamHeader_valid`, `unpackData_eq`: where the two decoders stop and what they return.
* `delivered_iff`: the object is what was received exactly when the packet says at most 231.
-/

namespace UniversalNetwork

open Lib

section Decoders

variable {stream stream' : Bitstream} {dest dest' dest'' sequence ack ackBitField : UInt32}

theorem streamHeader_valid
    (h : streamProtocolUnpackHeader dest dest' dest'' (stream.moveTo 0) =
      some ((.valid, sequence, ack, ackBitField), stream')) : stream' = stream.moveTo 15 := by
  obtain ⟨unpackResult, s, hheader, h⟩ := bind_eq_some h
  split at h
  · cases h
  · rename_i hresult
    rw [not_not.1 hresult] at hheader
    obtain ⟨rfl, -⟩ := protocolHeader_valid hheader
    obtain ⟨x₁, s₁, h₁, h⟩ := bind_eq_some h
    obtain rfl := fixed_uint32.moves_to h₁
    obtain ⟨x₂, s₂, h₂, h⟩ := bind_eq_some h
    obtain rfl := fixed_uint32.moves_to h₂
    obtain ⟨x₃, s₃, h₃, h⟩ := bind_eq_some h
    obtain rfl := fixed_uint32.moves_to h₃
    cases h
    rfl

end Decoders

/-- The buffer of a received packet, before it is read. -/
def receivedStream (buffer : Vector UInt8 kNetPacketMaxLen) : Bitstream :=
  bitstreamCreate buffer.toList kNetPacketMaxLen

/-- The length a stream packet says its data has. -/
def wireLength (buffer : Vector UInt8 kNetPacketMaxLen) : UInt32 := (receivedStream buffer).word16 23

/-- The bytes of the packet that are the first `n` of the object: the last one comes first. -/
def wireBytes (buffer : Vector UInt8 kNetPacketMaxLen) (n : Nat) : List UInt8 :=
  ((buffer.toList.drop 25).take n).reverse

section Data

variable (buffer : Vector UInt8 kNetPacketMaxLen)

theorem length_receivedStream : (receivedStream buffer).data.length = 256 :=
  Vector.length_toList

theorem length_wireBytes {n : Nat} (h : n ≤ 231) : (wireBytes buffer n).length = n := by
  have hsize : buffer.toList.length = 256 := Vector.length_toList
  simp only [wireBytes, List.length_reverse, List.length_take, List.length_drop, hsize]
  omega

/-- The data fits behind the header exactly when it is no longer than an object. -/
theorem received_doFit (n : Nat) : ((receivedStream buffer).moveTo 25).bytesDoFit n ↔ n ≤ 231 := by
  show n ≤ (256 + 2 ^ 64 - 25) % 2 ^ 64 ↔ n ≤ 231
  omega

theorem readBytes_received {n : Nat} (h : n ≤ 231)
    (dest : Vector UInt8 kStreamObjectDataMaxLength) :
    bitstreamReadBytes dest n ((receivedStream buffer).moveTo 25) =
      some ((n, patch dest (wireBytes buffer n)), (receivedStream buffer).moveTo (25 + n)) := by
  have hlength := length_wireBytes buffer h
  have hread := reads_readBytes dest (wireBytes buffer n) (hlength.trans_le h)
    ((receivedStream buffer).moveTo 25)
    ⟨(length_receivedStream buffer).symm, show 256 < 2 ^ 64 by decide⟩
    (show 25 ≤ 256 by decide)
    (by
      rw [wireBytes, List.reverse_reverse]
      exact List.take_prefix _ _)
  rwa [List.length_reverse, hlength] at hread

/-- The data decoder reads the tag and the length, and then as many bytes as there are. -/
theorem unpackData_read (object : StreamObject) {n : Nat}
    {data : Vector UInt8 kStreamObjectDataMaxLength} {stream : Bitstream}
    (hread : bitstreamReadBytes object.data (wireLength buffer).toNat
      ((receivedStream buffer).moveTo 25) = some ((n, data), stream)) :
    ∃ tag, streamProtocolUnpackData object ((receivedStream buffer).moveTo 15) =
      some ((.valid, ⟨data, wireLength buffer, tag⟩), stream) := by
  have hsize := length_receivedStream buffer
  obtain ⟨⟨tag, s₁⟩, htag⟩ := Option.isSome_iff_exists.1
    ((fixed_uint64.isSome ((receivedStream buffer).moveTo 15)).2 (by simp [hsize]))
  obtain rfl := fixed_uint64.moves_to htag
  obtain ⟨⟨length, s₂⟩, hlen⟩ := Option.isSome_iff_exists.1
    ((fixed_uint16.isSome ((receivedStream buffer).moveTo 23)).2 (by simp [hsize]))
  obtain ⟨hword, rfl⟩ := uint16_eq_some hlen
  have hlength : length = wireLength buffer := hword
  subst hlength
  refine ⟨tag, ?_⟩
  rw [streamProtocolUnpackData, bind_run htag, bind_run hlen, bind_run hread]
  rfl

/-- A packet that says more leaves the data of the object as it was. -/
theorem unpackData_long (object : StreamObject) (h : 231 < (wireLength buffer).toNat) :
    ∃ tag, streamProtocolUnpackData object ((receivedStream buffer).moveTo 15) =
      some ((.valid, ⟨object.data, wireLength buffer, tag⟩), (receivedStream buffer).moveTo 25) := by
  refine unpackData_read buffer object (n := 0) ?_
  rw [bitstreamReadBytes, if_neg fun hfit => Nat.not_le.2 h ((received_doFit buffer _).1 hfit)]

/-- **What the data decoder returns**: the length of the packet, and the bytes if there are that
many. -/
theorem unpackData_eq (object : StreamObject) :
    ∃ tag data stream', streamProtocolUnpackData object ((receivedStream buffer).moveTo 15) =
        some ((.valid, ⟨data, wireLength buffer, tag⟩), stream') ∧
      ((wireLength buffer).toNat ≤ 231 →
        data.toList.take (wireLength buffer).toNat =
          wireBytes buffer (wireLength buffer).toNat) := by
  by_cases hfits : (wireLength buffer).toNat ≤ 231
  · obtain ⟨tag, hunpack⟩ := unpackData_read buffer object (readBytes_received buffer hfits object.data)
    have hbytes := length_wireBytes buffer hfits
    refine ⟨tag, _, _, hunpack, fun _ => ?_⟩
    have hroom : (wireBytes buffer (wireLength buffer).toNat).length ≤
        kStreamObjectDataMaxLength := hbytes.trans_le hfits
    rw [toList_patch _ _ hroom, List.take_left' hbytes]
  · obtain ⟨tag, hunpack⟩ := unpackData_long buffer object (Nat.lt_of_not_le hfits)
    exact ⟨tag, object.data, _, hunpack, fun h => absurd h hfits⟩

end Data

/-- The object is no longer than its array, and its bytes are those of the packet. -/
def Delivered (buffer : Vector UInt8 kNetPacketMaxLen) (object : StreamObject) : Prop :=
  object.length.toNat ≤ 231 ∧
    object.data.toList.take object.length.toNat = wireBytes buffer object.length.toNat

instance (buffer : Vector UInt8 kNetPacketMaxLen) (object : StreamObject) :
    Decidable (Delivered buffer object) :=
  inferInstanceAs (Decidable (object.length.toNat ≤ 231 ∧ _))

theorem unpackData_delivered (buffer : Vector UInt8 kNetPacketMaxLen) (object : StreamObject) :
    ∃ decoded stream', streamProtocolUnpackData object ((receivedStream buffer).moveTo 15) =
        some ((.valid, decoded), stream') ∧
      (Delivered buffer decoded ↔ (wireLength buffer).toNat ≤ 231) := by
  obtain ⟨tag, data, stream', hunpack, hdata⟩ := unpackData_eq buffer object
  exact ⟨⟨data, wireLength buffer, tag⟩, stream', hunpack, fun h => h.1, fun h => ⟨h, hdata h⟩⟩

/-- What the receive callback gets is what the data decoder returns. -/
theorem streamReceiveBlock_object {config config' : StreamConfiguration} {packet : Nat}
    {stack object : StreamObject} {address : NetAddr} {buffer : Vector UInt8 kNetPacketMaxLen}
    (hbuffer : (config.socket.packet packet).bitstream = receivedStream buffer)
    (h : streamReceiveBlock config packet stack = some config')
    (hlog : config'.log = config.log ++ [.receive address object]) :
    ∃ stream', streamProtocolUnpackData (streamObjectSetup stack)
      ((receivedStream buffer).moveTo 15) = some ((.valid, object), stream') := by
  have hquiet : ∀ {log : List StreamEvent} {event : StreamEvent}, log ≠ log ++ [event] := by
    intro log event heq
    simpa using congrArg List.length heq
  cases streamReceiveBlock_receive h with
  | invalid _ _ => exact absurd hlog hquiet
  | unknown _ _ => exact absurd hlog hquiet
  | known hheader _ hdata _ _ hset =>
    subst hset
    obtain ⟨⟨header, stream₁⟩, hunpack, heq⟩ := Option.bind_eq_some_iff.1 hheader
    rw [hbuffer] at hunpack
    cases heq
    obtain rfl : stream₁ = (receivedStream buffer).moveTo 15 := streamHeader_valid hunpack
    split at hlog
    · obtain ⟨⟨decoded, stream₂⟩, hunpackData, heq⟩ := Option.bind_eq_some_iff.1 hdata
      cases heq
      have hpacket : ((config.socket.setPacket packet
          { config.socket.packet packet with
            bitstream := (receivedStream buffer).moveTo 15 }).packet packet).bitstream =
          (receivedStream buffer).moveTo 15 := by
        simp [NetSocket.packet, NetSocket.setPacket, Pool.setObject]
      rw [hpacket] at hunpackData
      obtain ⟨tag, data, stream₃, hvalid, -⟩ := unpackData_eq buffer (streamObjectSetup stack)
      have hevent := List.append_cancel_left hlog
      cases hevent
      rw [hvalid] at hunpackData
      cases hunpackData
      exact ⟨_, hvalid⟩
    · exact absurd hlog hquiet

/-- **A received object is what was received exactly when the packet says at most 231**, for every
packet whose header is accepted, whatever the memory holds; and so is what the receive callback
gets. -/
theorem delivered_iff (buffer : Vector UInt8 kNetPacketMaxLen) (object : StreamObject)
    {dest dest' dest'' sequence ack ackBitField : UInt32} {stream : Bitstream}
    (h : streamProtocolUnpackHeader dest dest' dest'' (receivedStream buffer) =
      some ((.valid, sequence, ack, ackBitField), stream)) :
    (∃ result decoded stream', streamProtocolUnpackData object stream =
        some ((result, decoded), stream') ∧
      (result ≠ .valid ∨ Delivered buffer decoded ↔ (wireLength buffer).toNat ≤ 231)) ∧
    ∀ (config config' : StreamConfiguration) (packet : Nat) (stack decoded : StreamObject)
      (address : NetAddr), (config.socket.packet packet).bitstream = receivedStream buffer →
      streamReceiveBlock config packet stack = some config' →
      config'.log = config.log ++ [.receive address decoded] →
      (Delivered buffer decoded ↔ (wireLength buffer).toNat ≤ 231) := by
  obtain rfl : stream = (receivedStream buffer).moveTo 15 := streamHeader_valid h
  constructor
  · obtain ⟨decoded, stream', hunpack, hdelivered⟩ := unpackData_delivered buffer object
    refine ⟨.valid, decoded, stream', hunpack, ?_⟩
    simp only [ne_eq, not_true_eq_false, false_or]
    exact hdelivered
  · intro config config' packet stack decoded address hbuffer hblock hlog
    obtain ⟨stream', hunpack⟩ := streamReceiveBlock_object hbuffer hblock hlog
    obtain ⟨decoded', stream'', hunpack', hdelivered⟩ :=
      unpackData_delivered buffer (streamObjectSetup stack)
    rw [hunpack] at hunpack'
    cases hunpack'
    exact hdelivered

theorem receivedHeader_eq {buffer : Vector UInt8 kNetPacketMaxLen}
    {dest dest' dest'' sequence ack ackBitField : UInt32}
    (h : (streamProtocolUnpackHeader dest dest' dest'' (receivedStream buffer)).map Prod.fst =
      some (.valid, sequence, ack, ackBitField)) :
    streamProtocolUnpackHeader dest dest' dest'' (receivedStream buffer) =
      some ((.valid, sequence, ack, ackBitField), (receivedStream buffer).moveTo 15) := by
  obtain ⟨⟨header, stream⟩, hunpack, rfl⟩ := Option.map_eq_some_iff.1 h
  obtain rfl : stream = (receivedStream buffer).moveTo 15 := streamHeader_valid hunpack
  exact hunpack

/-- A stream packet without sequence, ack and tag that says its data has `length` bytes. -/
def packetSaying (length : UInt8) : Vector UInt8 kNetPacketMaxLen :=
  patch (Vector.replicate _ 7) ([0xa2, 0x01, 0x05] ++ List.replicate 21 0 ++ [length])

theorem delivered_full : ∃ result decoded stream',
    streamProtocolUnpackData ⟨Vector.replicate _ 0, 0, 0⟩
      ((receivedStream (packetSaying 231)).moveTo 15) = some ((result, decoded), stream') ∧
    (result ≠ .valid ∨ Delivered (packetSaying 231) decoded) := by
  have hheader : streamProtocolUnpackHeader 0 0 0 (receivedStream (packetSaying 231)) =
      some ((.valid, 0, 0, 0), (receivedStream (packetSaying 231)).moveTo 15) :=
    receivedHeader_eq (by decide +kernel)
  obtain ⟨⟨result, decoded, stream', hunpack, hdelivered⟩, -⟩ :=
    delivered_iff (packetSaying 231) ⟨Vector.replicate _ 0, 0, 0⟩ hheader
  exact ⟨result, decoded, stream', hunpack, hdelivered.2 (by decide +kernel)⟩

/-- One byte more than there is: no byte is read, and the object still has 232. -/
theorem undelivered_long :
    streamProtocolUnpackHeader 0 0 0 (receivedStream (packetSaying 232)) =
      some ((.valid, 0, 0, 0), (receivedStream (packetSaying 232)).moveTo 15) ∧
    ∃ decoded, streamProtocolUnpackData ⟨Vector.replicate _ 0, 0, 0⟩
        ((receivedStream (packetSaying 232)).moveTo 15) =
          some ((.valid, decoded), (receivedStream (packetSaying 232)).moveTo 25) ∧
      decoded.length = 232 ∧ decoded.data = Vector.replicate _ 0 ∧
      ¬ Delivered (packetSaying 232) decoded := by
  have hlength : wireLength (packetSaying 232) = 232 := by decide +kernel
  have hlong : 231 < (wireLength (packetSaying 232)).toNat := by
    rw [hlength]
    decide
  obtain ⟨tag, hunpack⟩ := unpackData_long (packetSaying 232) ⟨Vector.replicate _ 0, 0, 0⟩ hlong
  refine ⟨receivedHeader_eq (by decide +kernel), _, hunpack, hlength, rfl, ?_⟩
  exact fun hdelivered => Nat.not_le.2 hlong hdelivered.1

end UniversalNetwork
