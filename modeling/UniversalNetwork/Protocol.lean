import UniversalNetwork.Bitstream.Codec

/-!
# The common header (`protocol.h`, `protocol.c`)
-/

namespace UniversalNetwork

/-- `kNetPacketMaxLen` -/
def kNetPacketMaxLen : Nat := 256

/-- `kProtocolMaxLength` -/
def kProtocolMaxLength : Nat := kNetPacketMaxLen - 3

inductive UnpackResult
  | valid
  | unexpected
  | invalid
deriving DecidableEq, Repr

def kProtocolDefaultId : UInt32 := 0xa2
def kProtocolDefaultVersion : UInt32 := 0x01

inductive ProtocolType
  | transaction
  | stream
deriving DecidableEq, Repr

def ProtocolType.code : ProtocolType → UInt32
  | transaction => 0x01
  | stream => 0x05

def protocolPackHeader (protocolId protocolVersion : UInt32) (protocolType : ProtocolType) :
    BitM Unit := do
  bitstreamWriteUint8 protocolId
  bitstreamWriteUint8 protocolVersion
  bitstreamWriteUint8 protocolType.code

/-- The first field that differs ends the read. -/
def protocolUnpackHeader (protocolId protocolVersion : UInt32) (protocolType : ProtocolType) :
    BitM UnpackResult := do
  let readProtocolId ← bitstreamReadUint8
  if protocolId ≠ readProtocolId then
    return .invalid
  let readProtocolVersion ← bitstreamReadUint8
  if protocolVersion ≠ readProtocolVersion then
    return .invalid
  let readProtocolType ← bitstreamReadUint8
  if protocolType.code ≠ readProtocolType then
    return .invalid
  return .valid

/-! ## On the wire -/

def wireProtocol (protocolType : ProtocolType) : List UInt8 :=
  wire8 kProtocolDefaultId ++ (wire8 kProtocolDefaultVersion ++ wire8 protocolType.code)

theorem writes_protocolHeader (protocolType : ProtocolType) : Writes
    (protocolPackHeader kProtocolDefaultId kProtocolDefaultVersion protocolType)
    (wireProtocol protocolType) () :=
  (writes_uint8 _).bind ((writes_uint8 _).bind (writes_uint8 _))

theorem reads_protocolHeader (protocolType : ProtocolType) : Reads
    (protocolUnpackHeader kProtocolDefaultId kProtocolDefaultVersion protocolType)
    (wireProtocol protocolType) .valid := by
  rw [wireProtocol, ← List.append_nil (wire8 protocolType.code)]
  refine (reads_uint8 _).bind ((reads_uint8 _).bind ((reads_uint8 _).bind ?_))
  cases protocolType <;> exact reads_pure

end UniversalNetwork
