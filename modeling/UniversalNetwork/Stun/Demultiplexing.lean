import UniversalNetwork.StreamProtocol
import UniversalNetwork.Stun
import UniversalNetwork.TransactionProtocol.Attributes

/-!
# Protocols that share a socket

Transaction and stream packets start with the same two bytes and differ in the third. Read as the
type of a STUN message these two bytes are not a binding message: the method has bits in the second
group of the mask, whatever the magic cookie is.

* `foreign_response`: the STUN decoder refuses a packet with these two bytes, and returns.
* `demultiplexing`: at most one decoder accepts a packet, and the receive block of a running test
  forwards what one of the others accepts.
-/

namespace UniversalNetwork

open Lib

/-! ## Decoders -/

/-- The protocols of the packets on one socket. -/
inductive PacketProtocol
  | transaction
  | stream
  | stun
deriving DecidableEq, Repr

/-- The decoder of the protocol returns its valid result, whatever its destinations hold. -/
def PacketProtocol.Accepts (stream : Bitstream) : PacketProtocol → Prop
  | transaction => ∃ id type, ∃ x ∈ transactionProtocolUnpackHeader id type stream, x.1.1 = .valid
  | .stream => ∃ sequence ack ackBitField,
      ∃ x ∈ streamProtocolUnpackHeader sequence ack ackBitField stream, x.1.1 = .valid
  | stun => ∃ transactionId bindingResponse,
      ∃ x ∈ stunProtocolUnpackBindingResponse transactionId bindingResponse stream, x.1.1 = .valid

/-- The bit stream of a packet before it is read, with the memory after the packet. -/
def packetStream (buffer : Vector UInt8 kNetPacketMaxLen) (beyond : List UInt8) : Bitstream :=
  bitstreamCreate (buffer.toList ++ beyond) kNetPacketMaxLen

/-! ## Leading bytes -/

theorem transaction_leading (stream : Bitstream)
    (h : PacketProtocol.transaction.Accepts (stream.moveTo 0)) :
    stream.word8 0 = kProtocolDefaultId ∧ stream.word8 1 = kProtocolDefaultVersion ∧
      stream.word8 2 = ProtocolType.transaction.code := by
  obtain ⟨id, type, ⟨⟨result, id', type'⟩, stream'⟩, hx, hvalid⟩ := h
  obtain ⟨unpackResult, s, hheader, hx⟩ := bind_eq_some hx
  split at hx
  · cases hx
    cases hvalid
  · rename_i hresult
    rw [not_not.1 hresult] at hheader
    exact (protocolHeader_valid hheader).2

theorem stream_leading (stream : Bitstream)
    (h : PacketProtocol.stream.Accepts (stream.moveTo 0)) :
    stream.word8 0 = kProtocolDefaultId ∧ stream.word8 1 = kProtocolDefaultVersion ∧
      stream.word8 2 = ProtocolType.stream.code := by
  obtain ⟨sequence, ack, ackBitField, ⟨⟨result, header⟩, stream'⟩, hx, hvalid⟩ := h
  obtain ⟨unpackResult, s, hheader, hx⟩ := bind_eq_some hx
  split at hx
  · cases hx
    cases hvalid
  · rename_i hresult
    rw [not_not.1 hresult] at hheader
    exact (protocolHeader_valid hheader).2

/-! ## STUN messages -/

/-- The two bytes of the other protocols, read as the type of a STUN message. -/
theorem foreign_msgType {stream : Bitstream} (hid : stream.word8 0 = kProtocolDefaultId)
    (hversion : stream.word8 1 = kProtocolDefaultVersion) :
    stunMsgType (stream.word16 0) ≠ kStunMsgTypeBinding := by
  rw [Bitstream.word16, hid, hversion]
  decide

section Foreign

variable {stream : Bitstream} (hlength : kNetPacketMaxLen ≤ stream.data.length)
include hlength

/-- The header is read to its end or up to the cookie. -/
theorem stunHeader_reads (transactionId : StunTransactionId) :
    ∃ result transactionId' length k, stunProtocolUnpackHeader transactionId (stream.moveTo 0) =
      some ((result, stunMsgType (stream.word16 0), stunMsgClass (stream.word16 0),
        transactionId', length), stream.moveTo k) := by
  have hsize : 256 ≤ stream.data.length := hlength
  obtain ⟨⟨type, s₁⟩, htype⟩ := Option.isSome_iff_exists.1
    ((fixed_uint16.isSome (stream.moveTo 0)).2 (by simp; omega))
  obtain ⟨rfl, rfl⟩ := uint16_eq_some htype
  obtain ⟨⟨length, s₂⟩, hlen⟩ := Option.isSome_iff_exists.1
    ((fixed_uint16.isSome (stream.moveTo 2)).2 (by simp; omega))
  obtain ⟨-, rfl⟩ := uint16_eq_some hlen
  obtain ⟨⟨magicCookie, s₃⟩, hcookie⟩ := Option.isSome_iff_exists.1
    ((fixed_uint32.isSome (stream.moveTo 4)).2 (by simp; omega))
  obtain rfl := fixed_uint32.moves_to hcookie
  rw [stunProtocolUnpackHeader, bind_run htype, bind_run hlen, bind_run hcookie]
  split
  · exact ⟨_, _, _, _, rfl⟩
  · have hid : 8 + kStunTransactionIdLen ≤ stream.data.length := by
      simp only [kStunTransactionIdLen]
      omega
    obtain ⟨⟨⟨n, id⟩, s₄⟩, hbytes⟩ := Option.isSome_iff_exists.1
      ((readBytes_isSome transactionId.id hid).2 fun _ => Nat.le_refl _)
    rw [bind_run hbytes]
    rcases readBytes_eq_some hbytes with ⟨-, -, rfl⟩ | ⟨-, -, rfl⟩
    · exact ⟨_, _, _, _, rfl⟩
    · exact ⟨_, _, _, _, rfl⟩

/-- The decoder refuses the packet after the header; it moves the offset and nothing else. -/
theorem foreign_response (hid : stream.word8 0 = kProtocolDefaultId)
    (hversion : stream.word8 1 = kProtocolDefaultVersion) (transactionId : StunTransactionId)
    (bindingResponse : StunBindingResponse) :
    ∃ result transactionId' k, result ≠ .valid ∧
      stunProtocolUnpackBindingResponse transactionId bindingResponse (stream.moveTo 0) =
        some ((result, transactionId', bindingResponse), stream.moveTo k) := by
  obtain ⟨result, transactionId', length, k, hheader⟩ := stunHeader_reads hlength transactionId
  rw [stunProtocolUnpackBindingResponse, bind_run hheader]
  dsimp only
  by_cases hresult : result = .invalid
  · rw [if_pos hresult]
    exact ⟨.invalid, _, _, by decide, rfl⟩
  · rw [if_neg hresult, if_pos (.inl (foreign_msgType hid hversion))]
    exact ⟨.unexpected, _, _, by decide, rfl⟩

theorem foreign_refused (hid : stream.word8 0 = kProtocolDefaultId)
    (hversion : stream.word8 1 = kProtocolDefaultVersion) :
    ¬ PacketProtocol.stun.Accepts (stream.moveTo 0) := by
  rintro ⟨transactionId, bindingResponse, x, hx, hvalid⟩
  obtain ⟨result, transactionId', k, hresult, hresponse⟩ :=
    foreign_response hlength hid hversion transactionId bindingResponse
  rw [hresponse] at hx
  cases hx
  exact hresult hvalid

end Foreign

/-! ## Packets -/

section Packets

variable {buffer : Vector UInt8 kNetPacketMaxLen} {beyond : List UInt8}

theorem packetStream_length :
    kNetPacketMaxLen ≤ (packetStream buffer beyond).data.length := by
  simp [packetStream, bitstreamCreate]

theorem foreign_leading
    (h : PacketProtocol.transaction.Accepts (packetStream buffer beyond) ∨
      PacketProtocol.stream.Accepts (packetStream buffer beyond)) :
    (packetStream buffer beyond).word8 0 = kProtocolDefaultId ∧
      (packetStream buffer beyond).word8 1 = kProtocolDefaultVersion := by
  rcases h with h | h
  · obtain ⟨hid, hversion, -⟩ := transaction_leading (packetStream buffer beyond) h
    exact ⟨hid, hversion⟩
  · obtain ⟨hid, hversion, -⟩ := stream_leading (packetStream buffer beyond) h
    exact ⟨hid, hversion⟩

theorem transaction_not_stream
    (htransaction : PacketProtocol.transaction.Accepts (packetStream buffer beyond)) :
    ¬ PacketProtocol.stream.Accepts (packetStream buffer beyond) := by
  intro hstream
  obtain ⟨-, -, htransaction⟩ := transaction_leading (packetStream buffer beyond) htransaction
  obtain ⟨-, -, hstream⟩ := stream_leading (packetStream buffer beyond) hstream
  exact absurd (htransaction.symm.trans hstream) (by decide)

theorem foreign_not_stun
    (h : PacketProtocol.transaction.Accepts (packetStream buffer beyond) ∨
      PacketProtocol.stream.Accepts (packetStream buffer beyond)) :
    ¬ PacketProtocol.stun.Accepts (packetStream buffer beyond) :=
  foreign_refused packetStream_length (foreign_leading h).1 (foreign_leading h).2

theorem accepts_unique {p q : PacketProtocol}
    (hp : p.Accepts (packetStream buffer beyond)) (hq : q.Accepts (packetStream buffer beyond)) :
    p = q := by
  cases p <;> cases q
  case transaction.stream => exact absurd hq (transaction_not_stream hp)
  case transaction.stun => exact absurd hq (foreign_not_stun (.inl hp))
  case stream.transaction => exact absurd hp (transaction_not_stream hq)
  case stream.stun => exact absurd hq (foreign_not_stun (.inr hp))
  case stun.transaction => exact absurd hp (foreign_not_stun (.inl hq))
  case stun.stream => exact absurd hp (foreign_not_stun (.inr hq))
  all_goals rfl

/-- The receive block after it has forwarded the packet. -/
def forwarded (stun : Stun) (packet : Nat) : Stun :=
  let stun := stunTestForward stun packet
  stun.onSocket (netPacketRelease stun.socket packet)

/-- `bitstream_reset` undoes what the decoder did to the packet. -/
theorem stunTestForward_moved (stun : Stun) (packet k : Nat) :
    stunTestForward (stun.onSocket (stun.socket.setPacket packet { stun.socket.packet packet with
      bitstream := (stun.socket.packet packet).bitstream.moveTo k })) packet =
    stunTestForward stun packet := by
  simp only [stunTestForward, Stun.onSocket, NetSocket.setPacket, NetSocket.packet, Pool.setObject,
    Function.update_self, Function.update_idem, bitstreamReset, Bitstream.moveTo]

theorem stunReceiveBlock_forwards {stun : Stun} {t : StunTestId} {packet : Nat}
    (hrunning : (stun.tests t).isCompleted = false)
    (hpacket : (stun.socket.packet packet).bitstream = packetStream buffer beyond)
    (h : PacketProtocol.transaction.Accepts (packetStream buffer beyond) ∨
      PacketProtocol.stream.Accepts (packetStream buffer beyond)) :
    stunReceiveBlock stun t packet = some (forwarded stun packet) := by
  obtain ⟨result, transactionId, k, hresult, hresponse⟩ :=
    foreign_response packetStream_length (foreign_leading h).1 (foreign_leading h).2
      ⟨Vector.replicate _ 0⟩ .zeroed
  have hunpack : unpackBindingResponse stun.socket packet =
      some ((result, transactionId, .zeroed), stun.socket.setPacket packet
        { stun.socket.packet packet with bitstream := (packetStream buffer beyond).moveTo k }) := by
    rw [unpackBindingResponse, NetSocket.onBitstream, hpacket]
    exact congrArg (Option.bind · _) hresponse
  rw [stunReceiveBlock, if_pos hrunning, hunpack, Option.bind_eq_bind, Option.bind_some]
  dsimp only
  rw [if_neg hresult, ← hpacket, stunTestForward_moved, forwarded]

/-- Protocols do not overlap, and the receive block of a running test consumes no packet of the
others. -/
theorem demultiplexing (buffer : Vector UInt8 kNetPacketMaxLen) (beyond : List UInt8) :
    (∀ p q : PacketProtocol, p.Accepts (packetStream buffer beyond) →
      q.Accepts (packetStream buffer beyond) → p = q) ∧
    ∀ (stun : Stun) (t : StunTestId) (packet : Nat), (stun.tests t).isCompleted = false →
      (stun.socket.packet packet).bitstream = packetStream buffer beyond →
      (PacketProtocol.transaction.Accepts (packetStream buffer beyond) ∨
        PacketProtocol.stream.Accepts (packetStream buffer beyond)) →
      stunReceiveBlock stun t packet = some (forwarded stun packet) :=
  ⟨fun _ _ => accepts_unique, fun _ _ _ => stunReceiveBlock_forwards⟩

end Packets

/-- The header of a request with the id 7. -/
def requestBuffer : Vector UInt8 kNetPacketMaxLen :=
  ⟨⟨([0xa2, 1, 1, 7, 1] : List UInt8) ++ List.replicate 251 0⟩, by
    rw [List.size_toArray, List.length_append, List.length_replicate]
    rfl⟩

theorem requestBuffer_accepted :
    PacketProtocol.transaction.Accepts (packetStream requestBuffer []) :=
  ⟨0, 0, ((.valid, 7, 1), (packetStream requestBuffer []).moveTo 5), rfl, rfl⟩

/-- A socket all of whose packets hold this request, with the receive block of the first test. -/
def requestReceived : Stun :=
  (stunResolve (fun _ => requestBuffer) (some 1) 2 none .zeroed none 3).setReceiveBlock
    (.test .bindingTest1)

theorem demultiplexing_request :
    ¬ PacketProtocol.stun.Accepts (packetStream requestBuffer []) ∧
    stunReceiveBlock requestReceived .bindingTest1 5 = some (forwarded requestReceived 5) := by
  have h := demultiplexing requestBuffer []
  refine ⟨fun hstun => ?_, h.2 _ _ _ rfl ?_ (.inl requestBuffer_accepted)⟩
  · have := h.1 _ _ requestBuffer_accepted hstun
    cases this
  · simp [requestReceived, Stun.setReceiveBlock, stunResolve, netSocketCreate, poolCreate,
      NetSocket.packet, packetStream]

end UniversalNetwork
