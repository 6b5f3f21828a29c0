import UniversalNetwork.Bitstream.Bounds
import UniversalNetwork.StreamProtocol
import UniversalNetwork.StunProtocol
import UniversalNetwork.TransactionProtocol

/-!
# Decoding a received datagram (`net_socket.c`, `net_packet.c`)

The read handler stores a datagram of `n` bytes in a packet of the pool and sets its length; the
bit stream of the packet keeps the bound 256 of `net_packet_init`, so a decoder that reads past the
datagram reads what earlier packets left there.

* `local_transaction`, `local_stream`, `local_stun`: what a decoder returns is determined by the
  bytes below the offset it stops at.
* `atMost_transactionHeader`, `atMost_streamHeader`: the headers are all in a packet.
-/

namespace UniversalNetwork

open Lib

/-! ## The decoders of the receive callbacks -/

inductive TransactionBody
  | request (result : UnpackResult) (object : TransactionObject)
  | response (result : UnpackResult) (responseType : UInt32)
  | other
deriving DecidableEq, Repr

/-- `transactionSocketReceiveCallback`: the header, then the body its type announces. -/
def decodeTransaction (memory : ObjectMemory) (transactionId transactionType : UInt32) :
    BitM (UnpackResult × UInt32 × UInt32 × TransactionBody) := do
  let (unpackResult, transactionId, transactionType) ←
    transactionProtocolUnpackHeader transactionId transactionType
  if unpackResult ≠ .valid then
    return (unpackResult, transactionId, transactionType, .other)
  if transactionType = TransactionType.response.code then
    let (result, responseType) ← transactionProtocolUnpackResponse
    return (.valid, transactionId, transactionType, .response result responseType)
  else if transactionType = TransactionType.request.code then
    let (result, object) ← transactionProtocolUnpackRequest memory
    return (.valid, transactionId, transactionType, .request result object)
  else
    return (.valid, transactionId, transactionType, .other)

/-- `streamSocketReceiveCallback` for a known stream: header, then data. -/
def decodeStream (sequence ack ackBitField : UInt32) (object : StreamObject) :
    BitM (UnpackResult × (UInt32 × UInt32 × UInt32) × StreamObject) := do
  let (unpackResult, header) ← streamProtocolUnpackHeader sequence ack ackBitField
  if unpackResult ≠ .valid then
    return (unpackResult, header, object)
  let (unpackResult, object) ← streamProtocolUnpackData (streamObjectSetup object)
  return (unpackResult, header, object)

/-- The receive blocks of the STUN tests. -/
def decodeStun (transactionId : StunTransactionId) (bindingResponse : StunBindingResponse) :
    BitM (StunResult × StunTransactionId × StunBindingResponse) :=
  stunProtocolUnpackBindingResponse transactionId bindingResponse

/-! ## Locality of the decoders -/

theorem local_protocolHeader (protocolId protocolVersion : UInt32) (protocolType : ProtocolType) :
    Local (protocolUnpackHeader protocolId protocolVersion protocolType) :=
  local_uint8.bind fun _ => local_ite (local_pure _) (local_uint8.bind fun _ =>
    local_ite (local_pure _) (local_uint8.bind fun _ => local_ite (local_pure _) (local_pure _)))

theorem local_transactionHeader (id type : UInt32) :
    Local (transactionProtocolUnpackHeader id type) :=
  (local_protocolHeader _ _ _).bind fun _ => local_ite (local_pure _)
    (local_uint8.bind fun _ => local_uint8.map _)

theorem local_string {n : Nat} (string : Vector UInt8 n) (max : Nat) :
    Local (transactionProtocolUnpackAttributeString string max) :=
  local_uint8.bind fun _ => local_ite (local_pure _) (local_uint8.bind fun _ =>
    (local_str _ _).bind fun _ => local_pure _)

theorem local_address (address : NetAddr) :
    Local (transactionProtocolUnpackAttributeAddress address) :=
  local_uint8.bind fun _ => local_ite (local_pure _) (local_uint8.bind fun _ =>
    local_ite (local_pure _) (local_uint16Endian.bind fun _ => local_uint32Endian.map _))

theorem local_seconds (seconds : Int) :
    Local (transactionProtocolUnpackAttributeSeconds seconds) :=
  local_uint8.bind fun _ => local_ite (local_pure _) (local_uint8.bind fun _ =>
    local_ite (local_pure _) (local_uint32.map _))

theorem local_count (count : UInt32) : Local (transactionProtocolUnpackAttributeCount count) :=
  local_uint8.bind fun _ => local_ite (local_pure _) (local_uint8.bind fun _ =>
    local_ite (local_pure _) (local_uint16.map _))

theorem local_userCreate (object : TransactionObjectUserCreate) :
    Local (transactionProtocolUnpackObjectUserCreate object) :=
  local_uint64.bind fun _ => (local_string _ _).bind fun _ => (local_string _ _).bind fun _ =>
    local_pure _

theorem local_resourceCreate (object : TransactionObjectResourceCreate) :
    Local (transactionProtocolUnpackObjectResourceCreate object) :=
  local_uint64.bind fun _ => local_uint64.bind fun _ => local_uint8.bind fun _ =>
    (local_readBytes _ _).bind fun _ => local_pure _

theorem local_online (object : TransactionObjectOnline) :
    Local (transactionProtocolUnpackObjectOnline object) :=
  local_uint64.bind fun _ => (local_address _).bind fun _ => (local_address _).bind fun _ =>
    (local_seconds _).bind fun _ => local_pure _

theorem local_peerId (object : TransactionObjectPeerId) : Local (unpackObjectPeerId object) :=
  (local_string _ _).bind fun _ => local_pure _

theorem local_peerAddress (object : TransactionObjectPeerAddress) :
    Local (unpackObjectPeerAddress object) :=
  (local_string _ _).bind fun _ => (local_address _).bind fun _ => local_pure _

theorem local_unpackPeerId (inside : Bool) (peerId : Vector UInt8 kUniversalPeerIdMaxLength) :
    Local (unpackPeerId inside peerId) :=
  local_ite (local_string _ _) ((local_string _ _).bind fun _ => local_pure _)

theorem local_unpackPeerAddress (inside : Bool) (address : NetAddr) :
    Local (unpackPeerAddress inside address) :=
  (local_address _).bind fun _ => (local_access _).map _

theorem local_peers (capacity n i : Nat) (result : UnpackResult)
    (list : Vector TransactionObjectPeer 10) :
    Local (unpackPeers capacity n i result list) := by
  induction n generalizing i result list with
  | zero => exact local_pure _
  | succ n ih =>
    exact (local_unpackPeerId _ _).bind fun _ => (local_unpackPeerAddress _ _).bind fun _ =>
      (local_unpackPeerAddress _ _).bind fun _ => ih _ _ _

theorem local_peerList (capacity : Nat) (object : TransactionObjectPeerList) :
    Local (transactionProtocolUnpackObjectPeerList capacity object) :=
  (local_count _).bind fun _ => (local_peers _ _ _ _ _).bind fun _ => local_pure _

theorem local_request (memory : ObjectMemory) :
    Local (transactionProtocolUnpackRequest memory) := by
  refine local_uint8.bind fun type => ?_
  refine local_dite (fun _ => (local_userCreate _).bind fun _ => local_pure _) fun _ => ?_
  refine local_dite (fun _ => (local_resourceCreate _).bind fun _ => local_pure _) fun _ => ?_
  refine local_dite (fun _ => (local_online _).bind fun _ => local_pure _) fun _ => ?_
  refine local_dite (fun _ => (local_peerId _).bind fun _ => local_pure _) fun _ => ?_
  refine local_dite (fun _ => (local_peerList _ _).bind fun _ => local_pure _) fun _ => ?_
  refine local_dite (fun _ => (local_peerAddress _).bind fun _ => local_pure _) fun _ => ?_
  refine local_dite (fun _ => (local_peerAddress _).bind fun _ => local_pure _) fun _ => ?_
  refine local_dite (fun _ => (local_peerId _).bind fun _ => local_pure _) fun _ => ?_
  exact local_dite (fun _ => (local_peerId _).bind fun _ => local_pure _) fun _ => local_pure _

theorem local_transaction (memory : ObjectMemory) (id type : UInt32) :
    Local (decodeTransaction memory id type) :=
  (local_transactionHeader _ _).bind fun _ => local_ite (local_pure _) (local_ite
    ((local_uint8.map _).bind fun _ => local_pure _)
    (local_ite ((local_request _).bind fun _ => local_pure _) (local_pure _)))

theorem local_streamHeader (sequence ack ackBitField : UInt32) :
    Local (streamProtocolUnpackHeader sequence ack ackBitField) :=
  (local_protocolHeader _ _ _).bind fun _ => local_ite (local_pure _)
    (local_uint32.bind fun _ => local_uint32.bind fun _ => local_uint32.map _)

theorem local_streamData (object : StreamObject) : Local (streamProtocolUnpackData object) :=
  local_uint64.bind fun _ => local_uint16.bind fun _ => (local_readBytes _ _).bind fun _ =>
    local_pure _

theorem local_stream (sequence ack ackBitField : UInt32) (object : StreamObject) :
    Local (decodeStream sequence ack ackBitField object) :=
  (local_streamHeader _ _ _).bind fun _ => local_ite (local_pure _)
    ((local_streamData _).bind fun _ => local_pure _)

theorem local_stunAddr (addr : NetAddr) : Local (stunProtocolUnpackAttributeAddr addr) :=
  local_uint16.bind fun _ => local_ite (local_pure _) (local_uint16.bind fun _ =>
    local_uint32.map _)

theorem local_stunXorAddr (addr : NetAddr) : Local (stunProtocolUnpackAttributeXorAddr addr) :=
  local_uint16.bind fun _ => local_ite (local_pure _) (local_uint16.bind fun _ =>
    local_uint32.map _)

theorem local_stunAttribute (type length : UInt32) (response : StunBindingResponse) :
    Local (stunUnpackAttribute type length response) := by
  have hend : ∀ {α : Type} (p : Prop) [Decidable p] (a b : α),
      Local (if p then pure a else pure b : BitM α) :=
    fun _ _ _ _ => local_ite (local_pure _) (local_pure _)
  exact local_ite ((local_stunAddr _).bind fun _ => hend _ _ _)
    (local_ite ((local_stunXorAddr _).bind fun _ => hend _ _ _)
    (local_ite ((local_stunAddr _).bind fun _ => hend _ _ _)
    (local_ite ((local_stunAddr _).bind fun _ => hend _ _ _)
    (local_ite ((local_uint32.map _).bind fun _ => hend _ _ _)
    ((local_skipBytes _).bind fun _ => local_pure _)))))

theorem local_stunAttributes (turns remainingBytes : Nat) (response : StunBindingResponse) :
    Local (stunUnpackAttributes turns remainingBytes response) := by
  induction turns generalizing remainingBytes response with
  | zero => exact local_pure _
  | succ turns ih =>
    exact local_ite (local_pure _) (local_uint16.bind fun _ => local_uint16.bind fun _ =>
      (local_stunAttribute _ _ _).bind fun _ => local_ite (local_pure _) (ih _ _))

theorem local_stunHeader (transactionId : StunTransactionId) :
    Local (stunProtocolUnpackHeader transactionId) :=
  local_uint16.bind fun _ => local_uint16.bind fun _ => local_uint32.bind fun _ =>
    local_ite (local_pure _) ((local_readBytes _ _).bind fun _ => local_pure _)

theorem local_stun (transactionId : StunTransactionId) (response : StunBindingResponse) :
    Local (decodeStun transactionId response) :=
  (local_stunHeader _).bind fun _ => local_ite (local_pure _) (local_ite (local_pure _)
    (local_ite (local_pure _) ((local_stunAttributes _ _ _).bind fun _ =>
      local_ite (local_pure _) (local_pure _))))

/-! ## How far headers go -/

theorem atMost_protocolHeader (protocolId protocolVersion : UInt32) (protocolType : ProtocolType) :
    AtMost 3 (protocolUnpackHeader protocolId protocolVersion protocolType) :=
  fixed_uint8.atMost.bind (w := 2) fun _ => atMost_ite (atMost_pure _) <|
    fixed_uint8.atMost.bind (w := 1) fun _ => atMost_ite (atMost_pure _) <|
      fixed_uint8.atMost.bind (w := 0) fun _ => atMost_ite (atMost_pure _) (atMost_pure _)

theorem atMost_transactionHeader (id type : UInt32) :
    AtMost 5 (transactionProtocolUnpackHeader id type) :=
  (atMost_protocolHeader _ _ _).bind (w := 2) fun _ => atMost_ite (atMost_pure _)
    (fixed_uint8.atMost.bind (w := 1) fun _ => fixed_uint8.atMost.bind (w := 0) fun _ =>
      atMost_pure _)

theorem atMost_streamHeader (sequence ack ackBitField : UInt32) :
    AtMost 15 (streamProtocolUnpackHeader sequence ack ackBitField) :=
  (atMost_protocolHeader _ _ _).bind (w := 12) fun _ => atMost_ite (atMost_pure _)
    (fixed_uint32.atMost.bind (w := 8) fun _ => fixed_uint32.atMost.bind (w := 4) fun _ =>
      fixed_uint32.atMost.bind (w := 0) fun _ => atMost_pure _)

end UniversalNetwork
