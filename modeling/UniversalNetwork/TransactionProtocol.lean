import UniversalNetwork.NetAddr
import UniversalNetwork.Protocol

/-!
# The transaction protocol (`transaction_protocol.h`, `transaction_protocol.c`)

Decoders are in destination-passing style: they get what the destination held and return it with
the fields they wrote. A `char[n]` or `uint8_t[n]` is a `Vector UInt8 n`, `unsigned int` is
`UInt32`, `huid_t` is `UInt64` and `time_t` is `Int`. A decoder of an object returns the result of
its last attribute.

The object behind a `TransactionObject *` is one of the nine structs that have fields or, for every
other value of the type field, has no field but its type. `ObjectMemory` is the memory a request is
decoded into, seen as each of the structs, and its size in bytes (LP64 layout): at least the 256
bytes of a `TransactionObject`, which hold every struct but a full peer list.
-/

namespace UniversalNetwork

open Lib

/-! ## Header -/

inductive TransactionType
  | request
  | response
deriving DecidableEq, Repr

def TransactionType.code : TransactionType → UInt32
  | request => 0x01
  | response => 0x02

def transactionProtocolPackHeader (transactionId : UInt32) (transactionType : TransactionType) :
    BitM Unit := do
  protocolPackHeader kProtocolDefaultId kProtocolDefaultVersion .transaction
  bitstreamWriteUint8 transactionId
  bitstreamWriteUint8 transactionType.code

/-- The result, the id and the type, as read: any byte. -/
def transactionProtocolUnpackHeader (transactionId transactionType : UInt32) :
    BitM (UnpackResult × UInt32 × UInt32) := do
  let unpackResult ←
    protocolUnpackHeader kProtocolDefaultId kProtocolDefaultVersion .transaction
  if unpackResult ≠ .valid then
    return (.invalid, transactionId, transactionType)
  let transactionId ← bitstreamReadUint8
  let transactionType ← bitstreamReadUint8
  return (.valid, transactionId, transactionType)

/-! ## Response -/

inductive TransactionResponseType
  | provisional
  | success
  | clientError
  | serverError
  | globalFailure
deriving DecidableEq, Repr

def TransactionResponseType.code : TransactionResponseType → UInt32
  | provisional => 0x01
  | success => 0x02
  | clientError => 0x04
  | serverError => 0x05
  | globalFailure => 0x06

def transactionProtocolPackResponse (responseType : TransactionResponseType) : BitM Unit :=
  bitstreamWriteUint8 responseType.code

def transactionProtocolUnpackResponse : BitM (UnpackResult × UInt32) := do
  let responseType ← bitstreamReadUint8
  return (.valid, responseType)

/-! ## Attributes -/

inductive TransactionAttributeType
  | string
  | address
  | seconds
  | count
deriving DecidableEq, Repr

def TransactionAttributeType.code : TransactionAttributeType → UInt32
  | string => 0x01
  | address => 0x02
  | seconds => 0x03
  | count => 0x04

def kTransactionAttributeLengthAddress : UInt32 := 8
def kTransactionAttributeLengthSeconds : UInt32 := 4
def kTransactionAttributeLengthCount : UInt32 := 2

def mTransactionAttributeLengthString (string : List UInt8) : Option UInt32 :=
  (strlen string).map fun length => UInt32.ofNat (2 + length)

def transactionProtocolPackAttributeString {n : Nat} (string : Vector UInt8 n) : BitM Unit := do
  bitstreamWriteUint8 TransactionAttributeType.string.code
  bitstreamWriteUint8 (← BitM.access (mTransactionAttributeLengthString string.toList))
  let _ ← bitstreamWriteStr string.toList

/-- The attribute length is read and ignored, and so is what `bitstream_read_str` returns. -/
def transactionProtocolUnpackAttributeString {n : Nat} (string : Vector UInt8 n) (max : Nat) :
    BitM (UnpackResult × Vector UInt8 n) := do
  let attributeType ← bitstreamReadUint8
  if attributeType ≠ TransactionAttributeType.string.code then
    return (.invalid, string)
  let _attributeLength ← bitstreamReadUint8
  let (_, string) ← bitstreamReadStr string max
  return (.valid, string)

def transactionProtocolPackAttributeAddress (address : NetAddr) : BitM Unit := do
  bitstreamWriteUint8 TransactionAttributeType.address.code
  bitstreamWriteUint8 kTransactionAttributeLengthAddress
  let port := address.sinPort.toUInt32
  bitstreamWriteUint16Endian port
  bitstreamWriteUint32Endian address.sAddr

def transactionProtocolUnpackAttributeAddress (address : NetAddr) :
    BitM (UnpackResult × NetAddr) := do
  let attributeType ← bitstreamReadUint8
  if attributeType ≠ TransactionAttributeType.address.code then
    return (.invalid, address)
  let attributeLength ← bitstreamReadUint8
  if attributeLength ≠ kTransactionAttributeLengthAddress then
    return (.invalid, address)
  let port ← bitstreamReadUint16Endian
  let host ← bitstreamReadUint32Endian
  return (.valid, netAddrSet host port.toUInt16 false)

/-- The conversion of a `time_t` to `unsigned int`. -/
def secondsWord (seconds : Int) : UInt32 := UInt32.ofNat (seconds % 2 ^ 32).toNat

def transactionProtocolPackAttributeSeconds (seconds : Int) : BitM Unit := do
  bitstreamWriteUint8 TransactionAttributeType.seconds.code
  bitstreamWriteUint8 kTransactionAttributeLengthSeconds
  bitstreamWriteUint32 (secondsWord seconds)

def transactionProtocolUnpackAttributeSeconds (seconds : Int) : BitM (UnpackResult × Int) := do
  let attributeType ← bitstreamReadUint8
  if attributeType ≠ TransactionAttributeType.seconds.code then
    return (.invalid, seconds)
  let attributeLength ← bitstreamReadUint8
  if attributeLength ≠ kTransactionAttributeLengthSeconds then
    return (.invalid, seconds)
  let value ← bitstreamReadUint32
  return (.valid, value.toNat)

def transactionProtocolPackAttributeCount (count : UInt32) : BitM Unit := do
  bitstreamWriteUint8 TransactionAttributeType.count.code
  bitstreamWriteUint8 kTransactionAttributeLengthCount
  bitstreamWriteUint16 count

def transactionProtocolUnpackAttributeCount (count : UInt32) : BitM (UnpackResult × UInt32) := do
  let attributeType ← bitstreamReadUint8
  if attributeType ≠ TransactionAttributeType.count.code then
    return (.invalid, count)
  let attributeLength ← bitstreamReadUint8
  if attributeLength ≠ kTransactionAttributeLengthCount then
    return (.invalid, count)
  let count ← bitstreamReadUint16
  return (.valid, count)

/-! ## User -/

def kUniversalUserNameMaxLength : Nat := 40
def kUniversalUserEmailMaxLength : Nat := 40
def kUniversalPeerIdMaxLength : Nat := 32

structure TransactionObjectUserCreate where
  uid : UInt64
  name : Vector UInt8 kUniversalUserNameMaxLength
  email : Vector UInt8 kUniversalUserEmailMaxLength
deriving DecidableEq, Repr

def transactionProtocolPackObjectUserCreate (objectUserCreate : TransactionObjectUserCreate) :
    BitM Unit := do
  bitstreamWriteUint64 objectUserCreate.uid
  transactionProtocolPackAttributeString objectUserCreate.name
  transactionProtocolPackAttributeString objectUserCreate.email

def transactionProtocolUnpackObjectUserCreate (objectUserCreate : TransactionObjectUserCreate) :
    BitM (UnpackResult × TransactionObjectUserCreate) := do
  let uid ← bitstreamReadUint64
  let (_, name) ← transactionProtocolUnpackAttributeString objectUserCreate.name
    kUniversalUserNameMaxLength
  let (unpackResult, email) ← transactionProtocolUnpackAttributeString objectUserCreate.email
    kUniversalUserEmailMaxLength
  return (unpackResult, { uid, name, email })

/-! ## Resource -/

def kUniversalResourceDataMaxLength : Nat := 128

structure TransactionObjectResourceCreate where
  rid : UInt64
  data : Vector UInt8 kUniversalResourceDataMaxLength
  length : UInt32
  uid : UInt64
deriving DecidableEq, Repr

def transactionProtocolPackObjectResourceCreate
    (resourceObject : TransactionObjectResourceCreate) : BitM Unit := do
  bitstreamWriteUint64 resourceObject.rid
  bitstreamWriteUint64 resourceObject.uid
  bitstreamWriteUint8 resourceObject.length
  let _ ← bitstreamWriteBytes resourceObject.data.toList resourceObject.length.toNat

def transactionProtocolUnpackObjectResourceCreate
    (resourceObject : TransactionObjectResourceCreate) :
    BitM (UnpackResult × TransactionObjectResourceCreate) := do
  let rid ← bitstreamReadUint64
  let uid ← bitstreamReadUint64
  let length ← bitstreamReadUint8
  let (readLength, data) ← bitstreamReadBytes resourceObject.data length.toNat
  let unpackResult := if readLength ≠ length.toNat then .invalid else .valid
  return (unpackResult, { rid, data, length, uid })

/-! ## Online -/

structure TransactionObjectOnline where
  uid : UInt64
  localAddress : NetAddr
  mappedAddress : NetAddr
  expireSeconds : Int
deriving DecidableEq, Repr

def transactionProtocolPackObjectOnline (objectOnline : TransactionObjectOnline) : BitM Unit := do
  bitstreamWriteUint64 objectOnline.uid
  transactionProtocolPackAttributeAddress objectOnline.localAddress
  transactionProtocolPackAttributeAddress objectOnline.mappedAddress
  transactionProtocolPackAttributeSeconds objectOnline.expireSeconds

def transactionProtocolUnpackObjectOnline (objectOnline : TransactionObjectOnline) :
    BitM (UnpackResult × TransactionObjectOnline) := do
  let uid ← bitstreamReadUint64
  let (_, localAddress) ← transactionProtocolUnpackAttributeAddress objectOnline.localAddress
  let (_, mappedAddress) ← transactionProtocolUnpackAttributeAddress objectOnline.mappedAddress
  let (unpackResult, expireSeconds) ←
    transactionProtocolUnpackAttributeSeconds objectOnline.expireSeconds
  return (unpackResult, { uid, localAddress, mappedAddress, expireSeconds })

/-! ## Offline, ConnectRefuse, Disconnect -/

/-- `TransactionObjectOffline`, `TransactionObjectConnectRefuse` and `TransactionObjectDisconnect`
have one layout. -/
structure TransactionObjectPeerId where
  peerId : Vector UInt8 kUniversalPeerIdMaxLength
deriving DecidableEq, Repr

def packObjectPeerId (object : TransactionObjectPeerId) : BitM Unit :=
  transactionProtocolPackAttributeString object.peerId

def unpackObjectPeerId (object : TransactionObjectPeerId) :
    BitM (UnpackResult × TransactionObjectPeerId) := do
  let (unpackResult, peerId) ←
    transactionProtocolUnpackAttributeString object.peerId kUniversalPeerIdMaxLength
  return (unpackResult, { peerId })

abbrev TransactionObjectOffline := TransactionObjectPeerId

def transactionProtocolPackObjectOffline (objectOffline : TransactionObjectOffline) : BitM Unit :=
  packObjectPeerId objectOffline

def transactionProtocolUnpackObjectOffline (objectOffline : TransactionObjectOffline) :
    BitM (UnpackResult × TransactionObjectOffline) :=
  unpackObjectPeerId objectOffline

abbrev TransactionObjectConnectRefuse := TransactionObjectPeerId

def transactionProtocolPackObjectConnectRefuse
    (objectConnectRefuse : TransactionObjectConnectRefuse) : BitM Unit :=
  packObjectPeerId objectConnectRefuse

def transactionProtocolUnpackObjectConnectRefuse
    (objectConnectRefuse : TransactionObjectConnectRefuse) :
    BitM (UnpackResult × TransactionObjectConnectRefuse) :=
  unpackObjectPeerId objectConnectRefuse

abbrev TransactionObjectDisconnect := TransactionObjectPeerId

def transactionProtocolPackObjectDisconnect (objectDisconnect : TransactionObjectDisconnect) :
    BitM Unit :=
  packObjectPeerId objectDisconnect

def transactionProtocolUnpackObjectDisconnect (objectDisconnect : TransactionObjectDisconnect) :
    BitM (UnpackResult × TransactionObjectDisconnect) :=
  unpackObjectPeerId objectDisconnect

/-! ## Connect, ConnectAccept -/

/-- `TransactionObjectConnect` and `TransactionObjectConnectAccept` have one layout. -/
structure TransactionObjectPeerAddress where
  peerId : Vector UInt8 kUniversalPeerIdMaxLength
  streamAddress : NetAddr
deriving DecidableEq, Repr

def packObjectPeerAddress (object : TransactionObjectPeerAddress) : BitM Unit := do
  transactionProtocolPackAttributeString object.peerId
  transactionProtocolPackAttributeAddress object.streamAddress

def unpackObjectPeerAddress (object : TransactionObjectPeerAddress) :
    BitM (UnpackResult × TransactionObjectPeerAddress) := do
  let (_, peerId) ←
    transactionProtocolUnpackAttributeString object.peerId kUniversalPeerIdMaxLength
  let (unpackResult, streamAddress) ←
    transactionProtocolUnpackAttributeAddress object.streamAddress
  return (unpackResult, { peerId, streamAddress })

abbrev TransactionObjectConnect := TransactionObjectPeerAddress

def transactionProtocolPackObjectConnect (objectConnect : TransactionObjectConnect) : BitM Unit :=
  packObjectPeerAddress objectConnect

def transactionProtocolUnpackObjectConnect (objectConnect : TransactionObjectConnect) :
    BitM (UnpackResult × TransactionObjectConnect) :=
  unpackObjectPeerAddress objectConnect

abbrev TransactionObjectConnectAccept := TransactionObjectPeerAddress

def transactionProtocolPackObjectConnectAccept
    (objectConnectAccept : TransactionObjectConnectAccept) : BitM Unit :=
  packObjectPeerAddress objectConnectAccept

def transactionProtocolUnpackObjectConnectAccept
    (objectConnectAccept : TransactionObjectConnectAccept) :
    BitM (UnpackResult × TransactionObjectConnectAccept) :=
  unpackObjectPeerAddress objectConnectAccept

/-! ## PeerList -/

structure TransactionObjectPeer where
  peerId : Vector UInt8 kUniversalPeerIdMaxLength
  localAddress : NetAddr
  mappedAddress : NetAddr
deriving DecidableEq, Repr

structure TransactionObjectPeerList where
  count : UInt32
  list : Vector TransactionObjectPeer 10
deriving DecidableEq, Repr

def transactionProtocolInitializeObjectPeerList (objectPeerList : TransactionObjectPeerList) :
    TransactionObjectPeerList :=
  { objectPeerList with count := 0 }

def transactionProtocolAddPeerToObjectPeerList (objectPeerList : TransactionObjectPeerList)
    (objectPeer : TransactionObjectPeer) : Option TransactionObjectPeerList := do
  let list ← store objectPeerList.list objectPeerList.count.toNat objectPeer
  some { count := objectPeerList.count + 1, list }

/-- The loop of the packer, from peer `i` on, for `n` more peers. -/
def packPeers (list : Vector TransactionObjectPeer 10) : (n i : Nat) → BitM Unit
  | 0, _ => pure ()
  | n + 1, i => do
    let peer ← BitM.access list[i]?
    transactionProtocolPackAttributeString peer.peerId
    transactionProtocolPackAttributeAddress peer.localAddress
    transactionProtocolPackAttributeAddress peer.mappedAddress
    packPeers list n (i + 1)

def transactionProtocolPackObjectPeerList (objectPeerList : TransactionObjectPeerList) :
    BitM Unit := do
  transactionProtocolPackAttributeCount objectPeerList.count
  packPeers objectPeerList.list objectPeerList.count.toNat 0

/-- Where peer `i` starts in a peer list, in bytes; a peer takes 64. -/
def peerOffset (i : Nat) : Nat := 8 + 64 * i

/-- `list[i].peerId` as a destination. Outside the array or the memory no byte can be written. -/
def unpackPeerId (inside : Bool) (peerId : Vector UInt8 kUniversalPeerIdMaxLength) :
    BitM (UnpackResult × Vector UInt8 kUniversalPeerIdMaxLength) := do
  if inside then
    transactionProtocolUnpackAttributeString peerId kUniversalPeerIdMaxLength
  else
    let (unpackResult, _) ←
      transactionProtocolUnpackAttributeString (#v[] : Vector UInt8 0) kUniversalPeerIdMaxLength
    return (unpackResult, peerId)

/-- An address of `list[i]` as a destination; it is written when the attribute is valid. -/
def unpackPeerAddress (inside : Bool) (address : NetAddr) : BitM (UnpackResult × NetAddr) := do
  let (unpackResult, address) ← transactionProtocolUnpackAttributeAddress address
  let address ← BitM.access (if unpackResult = .valid ∧ !inside then none else some address)
  return (unpackResult, address)

def TransactionObjectPeer.zeroed : TransactionObjectPeer where
  peerId := Vector.replicate _ 0
  localAddress := .zeroed
  mappedAddress := .zeroed

/-- The loop of the unpacker, from peer `i` on, for `n` more peers. -/
def unpackPeers (capacity : Nat) : (n i : Nat) → (unpackResult : UnpackResult) →
    (list : Vector TransactionObjectPeer 10) →
    BitM (UnpackResult × Vector TransactionObjectPeer 10)
  | 0, _, unpackResult, list => pure (unpackResult, list)
  | n + 1, i, _, list => do
    let peer := list[i]?.getD .zeroed
    let (_, peerId) ← unpackPeerId (i < 10 ∧ peerOffset i + 32 ≤ capacity) peer.peerId
    let (_, localAddress) ←
      unpackPeerAddress (i < 10 ∧ peerOffset i + 48 ≤ capacity) peer.localAddress
    let (unpackResult, mappedAddress) ←
      unpackPeerAddress (i < 10 ∧ peerOffset i + 64 ≤ capacity) peer.mappedAddress
    unpackPeers capacity n (i + 1) unpackResult
      (list.setIfInBounds i { peerId, localAddress, mappedAddress })

/-- A count attribute that is not valid leaves the count that the memory held. -/
def transactionProtocolUnpackObjectPeerList (capacity : Nat)
    (objectPeerList : TransactionObjectPeerList) :
    BitM (UnpackResult × TransactionObjectPeerList) := do
  let (unpackResult, count) ← transactionProtocolUnpackAttributeCount objectPeerList.count
  let (unpackResult, list) ←
    unpackPeers capacity count.toNat 0 unpackResult objectPeerList.list
  return (unpackResult, { count, list })

/-! ## Request -/

inductive TransactionRequestType
  | userCreate
  | userRead
  | userUpdate
  | userDelete
  | resourceCreate
  | resourceRead
  | resourceUpdate
  | resourceDelete
  | online
  | offline
  | peerList
  | connect
  | connectAccept
  | connectRefuse
  | disconnect
  | ping
  | pong
  | empty
deriving DecidableEq, Repr

def TransactionRequestType.code : TransactionRequestType → UInt32
  | userCreate => 0x50
  | userRead => 0x51
  | userUpdate => 0x52
  | userDelete => 0x53
  | resourceCreate => 0x70
  | resourceRead => 0x71
  | resourceUpdate => 0x72
  | resourceDelete => 0x73
  | online => 0x91
  | offline => 0x92
  | peerList => 0x93
  | connect => 0xc0
  | connectAccept => 0xc1
  | connectRefuse => 0xc2
  | disconnect => 0xc3
  | ping => 0x11
  | pong => 0x12
  | empty => 0x01

/-- The values of the type field that stand for a struct with fields. -/
def structTypes : List UInt32 :=
  [TransactionRequestType.userCreate.code, TransactionRequestType.resourceCreate.code,
    TransactionRequestType.online.code, TransactionRequestType.offline.code,
    TransactionRequestType.peerList.code, TransactionRequestType.connect.code,
    TransactionRequestType.connectAccept.code, TransactionRequestType.connectRefuse.code,
    TransactionRequestType.disconnect.code]

theorem empty_not_struct : TransactionRequestType.empty.code ∉ structTypes := by decide

theorem not_struct {type : UInt32} (h0 : type ≠ TransactionRequestType.userCreate.code)
    (h1 : type ≠ TransactionRequestType.resourceCreate.code)
    (h2 : type ≠ TransactionRequestType.online.code)
    (h3 : type ≠ TransactionRequestType.offline.code)
    (h4 : type ≠ TransactionRequestType.peerList.code)
    (h5 : type ≠ TransactionRequestType.connect.code)
    (h6 : type ≠ TransactionRequestType.connectAccept.code)
    (h7 : type ≠ TransactionRequestType.connectRefuse.code)
    (h8 : type ≠ TransactionRequestType.disconnect.code) : type ∉ structTypes := by
  simp [structTypes, h0, h1, h2, h3, h4, h5, h6, h7, h8]

/-- What a `TransactionObject *` points to: the type field decides the struct. -/
inductive TransactionObject
  | userCreate (object : TransactionObjectUserCreate)
  | resourceCreate (object : TransactionObjectResourceCreate)
  | online (object : TransactionObjectOnline)
  | offline (object : TransactionObjectOffline)
  | peerList (object : TransactionObjectPeerList)
  | connect (object : TransactionObjectConnect)
  | connectAccept (object : TransactionObjectConnectAccept)
  | connectRefuse (object : TransactionObjectConnectRefuse)
  | disconnect (object : TransactionObjectDisconnect)
  | plain (type : UInt32) (h : type ∉ structTypes)
deriving DecidableEq, Repr

def TransactionObject.type : TransactionObject → UInt32
  | userCreate _ => TransactionRequestType.userCreate.code
  | resourceCreate _ => TransactionRequestType.resourceCreate.code
  | online _ => TransactionRequestType.online.code
  | offline _ => TransactionRequestType.offline.code
  | peerList _ => TransactionRequestType.peerList.code
  | connect _ => TransactionRequestType.connect.code
  | connectAccept _ => TransactionRequestType.connectAccept.code
  | connectRefuse _ => TransactionRequestType.connectRefuse.code
  | disconnect _ => TransactionRequestType.disconnect.code
  | plain type _ => type

def transactionProtocolPackRequest (transactionObject : TransactionObject) : BitM Unit := do
  bitstreamWriteUint8 transactionObject.type
  match transactionObject with
  | .userCreate object => transactionProtocolPackObjectUserCreate object
  | .resourceCreate object => transactionProtocolPackObjectResourceCreate object
  | .online object => transactionProtocolPackObjectOnline object
  | .offline object => transactionProtocolPackObjectOffline object
  | .peerList object => transactionProtocolPackObjectPeerList object
  | .connect object => transactionProtocolPackObjectConnect object
  | .connectAccept object => transactionProtocolPackObjectConnectAccept object
  | .connectRefuse object => transactionProtocolPackObjectConnectRefuse object
  | .disconnect object => transactionProtocolPackObjectDisconnect object
  | .plain _ _ => pure ()

/-- `sizeof(TransactionObject)` -/
def kTransactionObjectSize : Nat := 256

structure ObjectMemory where
  capacity : Nat
  size : kTransactionObjectSize ≤ capacity
  userCreate : TransactionObjectUserCreate
  resourceCreate : TransactionObjectResourceCreate
  online : TransactionObjectOnline
  peerId : TransactionObjectPeerId
  peerAddress : TransactionObjectPeerAddress
  peerList : TransactionObjectPeerList

/-- `calloc` of so many bytes. -/
def ObjectMemory.calloc (capacity : Nat) (size : kTransactionObjectSize ≤ capacity) :
    ObjectMemory where
  capacity
  size
  userCreate := { uid := 0, name := Vector.replicate _ 0, email := Vector.replicate _ 0 }
  resourceCreate := { rid := 0, data := Vector.replicate _ 0, length := 0, uid := 0 }
  online :=
    { uid := 0, localAddress := .zeroed, mappedAddress := .zeroed, expireSeconds := 0 }
  peerId := { peerId := Vector.replicate _ 0 }
  peerAddress := { peerId := Vector.replicate _ 0, streamAddress := .zeroed }
  peerList := { count := 0, list := Vector.replicate _ .zeroed }

/-- The memory of `transactionDidReceiveRequest`. -/
def requestMemory : ObjectMemory := .calloc kTransactionObjectSize (Nat.le_refl _)

def transactionProtocolUnpackRequest (memory : ObjectMemory) :
    BitM (UnpackResult × TransactionObject) := do
  let type ← bitstreamReadUint8
  if h0 : type = TransactionRequestType.userCreate.code then
    let (unpackResult, object) ← transactionProtocolUnpackObjectUserCreate memory.userCreate
    return (unpackResult, .userCreate object)
  else if h1 : type = TransactionRequestType.resourceCreate.code then
    let (unpackResult, object) ←
      transactionProtocolUnpackObjectResourceCreate memory.resourceCreate
    return (unpackResult, .resourceCreate object)
  else if h2 : type = TransactionRequestType.online.code then
    let (unpackResult, object) ← transactionProtocolUnpackObjectOnline memory.online
    return (unpackResult, .online object)
  else if h3 : type = TransactionRequestType.offline.code then
    let (unpackResult, object) ← transactionProtocolUnpackObjectOffline memory.peerId
    return (unpackResult, .offline object)
  else if h4 : type = TransactionRequestType.peerList.code then
    let (unpackResult, object) ←
      transactionProtocolUnpackObjectPeerList memory.capacity memory.peerList
    return (unpackResult, .peerList object)
  else if h5 : type = TransactionRequestType.connect.code then
    let (unpackResult, object) ← transactionProtocolUnpackObjectConnect memory.peerAddress
    return (unpackResult, .connect object)
  else if h6 : type = TransactionRequestType.connectAccept.code then
    let (unpackResult, object) ← transactionProtocolUnpackObjectConnectAccept memory.peerAddress
    return (unpackResult, .connectAccept object)
  else if h7 : type = TransactionRequestType.connectRefuse.code then
    let (unpackResult, object) ← transactionProtocolUnpackObjectConnectRefuse memory.peerId
    return (unpackResult, .connectRefuse object)
  else if h8 : type = TransactionRequestType.disconnect.code then
    let (unpackResult, object) ← transactionProtocolUnpackObjectDisconnect memory.peerId
    return (unpackResult, .disconnect object)
  else
    let unpackResult :=
      if type = TransactionRequestType.empty.code then .valid else .unexpected
    return (unpackResult, .plain type (not_struct h0 h1 h2 h3 h4 h5 h6 h7 h8))

end UniversalNetwork
