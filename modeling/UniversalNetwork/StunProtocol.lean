import UniversalNetwork.NetAddr
import UniversalNetwork.Protocol

/-!
# STUN binding requests and responses (`stun_protocol.h`, `stun_protocol.c`)

The body of a response is a list of attributes. The loop runs while bytes of the declared body
length remain and takes off what each attribute declares, whether or not the attribute's reader
consumed as much.
-/

namespace UniversalNetwork

inductive StunResult
  | valid
  | invalid
  | unexpected
  | unsupported
deriving DecidableEq, Repr

inductive StunMsgClass
  | request
  | indication
  | successResponse
  | failureResponse
deriving DecidableEq, Repr

def StunMsgClass.code : StunMsgClass → UInt32
  | request => 0x00
  | indication => 0x01
  | successResponse => 0x02
  | failureResponse => 0x03

def kStunMsgTypeBinding : UInt32 := 0x0001

inductive StunAttributeType
  | mappedAddress
  | xorMappedAddress
  | alternateServer
  | otherAddress
  | originServer
  | errorCode
  | changeRequest
deriving DecidableEq, Repr

def StunAttributeType.code : StunAttributeType → UInt32
  | mappedAddress => 0x0001
  | xorMappedAddress => 0x0020
  | alternateServer => 0x8023
  | otherAddress => 0x802c
  | originServer => 0x802b
  | errorCode => 0x0009
  | changeRequest => 0x0003

def kStunAddrFamilyIPv4 : UInt32 := 0x01
def kStunProtocolMagicCookie : UInt32 := 0x2112A442
def kStunTransactionIdLen : Nat := 12

structure StunTransactionId where
  id : Vector UInt8 kStunTransactionIdLen
deriving DecidableEq, Repr

structure StunBindingResponse where
  hasResponseOrigin : Bool
  responseOriginAddr : NetAddr
  hasMappedAddress : Bool
  mappedAddressAddr : NetAddr
  hasXorMappedAddress : Bool
  xorMappedAddressAddr : NetAddr
  hasAlternateServer : Bool
  alternateServerAddr : NetAddr
  hasErrorCode : Bool
  errorCodeValue : Int
deriving DecidableEq, Repr

/-- The struct after `memset`. -/
def StunBindingResponse.zeroed : StunBindingResponse where
  hasResponseOrigin := false
  responseOriginAddr := .zeroed
  hasMappedAddress := false
  mappedAddressAddr := .zeroed
  hasXorMappedAddress := false
  xorMappedAddressAddr := .zeroed
  hasAlternateServer := false
  alternateServerAddr := .zeroed
  hasErrorCode := false
  errorCodeValue := 0

/-! ## Requests -/

def stunProtocolPackHeader (msgType : UInt32) (msgClass : StunMsgClass)
    (transactionId : StunTransactionId) (length : UInt32) : BitM Unit := do
  let type := ((msgType &&& (0x0f80 : UInt32)) <<< 2) ||| ((msgType &&& (0x0070 : UInt32)) <<< 1) |||
    (msgType &&& (0x000f : UInt32)) ||| ((msgClass.code &&& (0x02 : UInt32)) <<< 7) |||
    ((msgClass.code &&& (0x01 : UInt32)) <<< 4)
  bitstreamWriteUint16 type
  bitstreamWriteUint16 length
  bitstreamWriteUint32 kStunProtocolMagicCookie
  let _ ← bitstreamWriteBytes transactionId.id.toList kStunTransactionIdLen

def stunProtocolPackAttributeChangeAddr (doChangeHost doChangePort : Bool) : BitM Unit := do
  let changeData := (if doChangeHost then 0x04 else 0) ||| (if doChangePort then 0x02 else 0)
  bitstreamWriteUint16 StunAttributeType.changeRequest.code
  bitstreamWriteUint16 0x0004
  bitstreamWriteUint32 changeData

def stunProtocolPackBindingRequest (transactionId : StunTransactionId) : BitM Unit :=
  stunProtocolPackHeader kStunMsgTypeBinding .request transactionId 0

/-- CHANGE-REQUEST has 8 bytes. -/
def stunProtocolPackBindingChangeRequest (transactionId : StunTransactionId)
    (doChangeHost doChangePort : Bool) : BitM Unit := do
  stunProtocolPackHeader kStunMsgTypeBinding .request transactionId 8
  stunProtocolPackAttributeChangeAddr doChangeHost doChangePort

/-! ## Header -/

def stunMsgType (type : UInt32) : UInt32 :=
  (type &&& (0x000f : UInt32)) ||| ((type &&& (0x00e0 : UInt32)) >>> 1) |||
    ((type &&& (0x3E00 : UInt32)) >>> 2)

/-- The class is two bits of the type, so one of the four tests holds. -/
def stunMsgClass (type : UInt32) : StunMsgClass :=
  if type &&& 0x0110 = 0x0000 then .request
  else if type &&& 0x0110 = 0x0010 then .indication
  else if type &&& 0x0110 = 0x0100 then .successResponse
  else .failureResponse

/-- The result, the message type and class, the transaction id and the body length. -/
def stunProtocolUnpackHeader (transactionId : StunTransactionId) :
    BitM (StunResult × UInt32 × StunMsgClass × StunTransactionId × UInt32) := do
  let type ← bitstreamReadUint16
  let msgType := stunMsgType type
  let msgClass := stunMsgClass type
  let length ← bitstreamReadUint16
  let magicCookie ← bitstreamReadUint32
  if magicCookie ≠ kStunProtocolMagicCookie then
    return (.invalid, msgType, msgClass, transactionId, length)
  let (_, id) ← bitstreamReadBytes transactionId.id kStunTransactionIdLen
  return (.valid, msgType, msgClass, ⟨id⟩, length)

/-! ## Attributes -/

def stunProtocolUnpackAttributeAddr (addr : NetAddr) : BitM (StunResult × NetAddr) := do
  let addrFamily ← bitstreamReadUint16
  if addrFamily ≠ kStunAddrFamilyIPv4 then
    return (.unsupported, addr)
  let port ← bitstreamReadUint16
  let host ← bitstreamReadUint32
  return (.valid, netAddrSet host port.toUInt16 true)

def stunProtocolUnpackAttributeXorAddr (addr : NetAddr) : BitM (StunResult × NetAddr) := do
  let addrFamily ← bitstreamReadUint16
  if addrFamily ≠ kStunAddrFamilyIPv4 then
    return (.unsupported, addr)
  let xorPort ← bitstreamReadUint16
  let xorHost ← bitstreamReadUint32
  let port := (xorPort ^^^ ((kStunProtocolMagicCookie >>> 16) &&& 0xFFFF)).toUInt16
  let host := xorHost ^^^ kStunProtocolMagicCookie
  return (.valid, netAddrSet host port true)

def stunProtocolUnpackAttributeError : BitM (StunResult × Int) := do
  let n ← bitstreamReadUint32
  let n := n >>> 21
  let cls := n &&& 0x07
  let error := (n >>> 3) &&& 0xFF
  return (.valid, ((cls * 100 + error).toNat : Int))

/-! ## Body -/

/-- One attribute of known or unknown type. -/
def stunUnpackAttribute (attributeType attributeLength : UInt32)
    (bindingResponse : StunBindingResponse) : BitM (StunResult × StunBindingResponse) := do
  if attributeType = StunAttributeType.mappedAddress.code then
    let (result, addr) ← stunProtocolUnpackAttributeAddr bindingResponse.mappedAddressAddr
    if result ≠ .valid then
      return (.invalid, bindingResponse)
    return (.valid, { bindingResponse with mappedAddressAddr := addr, hasMappedAddress := true })
  else if attributeType = StunAttributeType.xorMappedAddress.code then
    let (result, addr) ← stunProtocolUnpackAttributeXorAddr bindingResponse.xorMappedAddressAddr
    if result ≠ .valid then
      return (.invalid, bindingResponse)
    return (.valid,
      { bindingResponse with xorMappedAddressAddr := addr, hasXorMappedAddress := true })
  else if attributeType = StunAttributeType.alternateServer.code ∨
      attributeType = StunAttributeType.otherAddress.code then
    let (result, addr) ← stunProtocolUnpackAttributeAddr bindingResponse.alternateServerAddr
    if result ≠ .valid then
      return (.invalid, bindingResponse)
    return (.valid,
      { bindingResponse with alternateServerAddr := addr, hasAlternateServer := true })
  else if attributeType = StunAttributeType.originServer.code then
    let (result, addr) ← stunProtocolUnpackAttributeAddr bindingResponse.responseOriginAddr
    if result ≠ .valid then
      return (.invalid, bindingResponse)
    return (.valid, { bindingResponse with responseOriginAddr := addr, hasResponseOrigin := true })
  else if attributeType = StunAttributeType.errorCode.code then
    let (result, value) ← stunProtocolUnpackAttributeError
    if result ≠ .valid then
      return (.invalid, bindingResponse)
    return (.valid, { bindingResponse with errorCodeValue := value, hasErrorCode := true })
  else
    bitstreamSkipBytes attributeLength.toNat
    return (.valid, bindingResponse)

/-- The loop, as long as `remainingBytes > 0`; a turn takes off at least 4, so that as many turns
as there are bytes are enough. -/
def stunUnpackAttributes : (turns remainingBytes : Nat) → StunBindingResponse →
    BitM (StunResult × StunBindingResponse)
  | 0, _, bindingResponse => pure (.valid, bindingResponse)
  | turns + 1, remainingBytes, bindingResponse =>
    if remainingBytes = 0 then
      pure (.valid, bindingResponse)
    else do
      let attributeType ← bitstreamReadUint16
      let attributeLength ← bitstreamReadUint16
      let (result, bindingResponse) ←
        stunUnpackAttribute attributeType attributeLength bindingResponse
      if result ≠ .valid then
        return (.invalid, bindingResponse)
      stunUnpackAttributes turns (remainingBytes - attributeLength.toNat - 4) bindingResponse

/-- More turns than remaining bytes change nothing. -/
theorem stunUnpackAttributes_turns {turns turns' remainingBytes : Nat}
    (h : remainingBytes ≤ turns) (h' : remainingBytes ≤ turns') (r : StunBindingResponse) :
    stunUnpackAttributes turns remainingBytes r = stunUnpackAttributes turns' remainingBytes r := by
  induction turns generalizing turns' remainingBytes r with
  | zero =>
    cases turns' with
    | zero => rfl
    | succ turns' => simp [stunUnpackAttributes, Nat.le_zero.1 h]
  | succ turns ih =>
    cases turns' with
    | zero => simp [stunUnpackAttributes, Nat.le_zero.1 h']
    | succ turns' =>
      simp only [stunUnpackAttributes]
      split
      · rfl
      · congr 1
        funext attributeType
        congr 1
        funext attributeLength
        congr 1
        funext x
        split
        · rfl
        · exact ih (by omega) (by omega) _

/-- `int remainingBytes = length`, which the loop only asks to be positive. -/
def stunRemainingBytes (length : UInt32) : Nat := length.toInt32.toInt.toNat

def stunProtocolUnpackBindingResponseBody (length : UInt32) :
    BitM (StunResult × StunBindingResponse) :=
  stunUnpackAttributes (stunRemainingBytes length) (stunRemainingBytes length) .zeroed

/-! ## Message -/

/-- The body, and with it the response, is only touched when the header is one of a response. -/
def stunProtocolUnpackBindingResponse (transactionId : StunTransactionId)
    (bindingResponse : StunBindingResponse) :
    BitM (StunResult × StunTransactionId × StunBindingResponse) := do
  let (result, msgType, msgClass, transactionId, bodyLength) ←
    stunProtocolUnpackHeader transactionId
  if result = .invalid then
    return (.invalid, transactionId, bindingResponse)
  if msgType ≠ kStunMsgTypeBinding ∨ msgClass = .request then
    return (.unexpected, transactionId, bindingResponse)
  if bodyLength = 0 then
    return (.invalid, transactionId, bindingResponse)
  let (result, bindingResponse) ← stunProtocolUnpackBindingResponseBody bodyLength
  if result = .invalid then
    return (.invalid, transactionId, bindingResponse)
  return (.valid, transactionId, bindingResponse)

end UniversalNetwork
