import UniversalNetwork.Protocol

/-!
# The stream protocol (`stream_protocol.h`, `stream_protocol.c`)

Decoders are in destination-passing style, as in the transaction protocol.
-/

namespace UniversalNetwork

open Lib

/-- `kStreamObjectDataMaxLength` -/
def kStreamObjectDataMaxLength : Nat := kProtocolMaxLength - 22

/-! ## Header -/

def streamProtocolPackHeader (sequence ack ackBitField : UInt32) : BitM Unit := do
  protocolPackHeader kProtocolDefaultId kProtocolDefaultVersion .stream
  bitstreamWriteUint32 sequence
  bitstreamWriteUint32 ack
  bitstreamWriteUint32 ackBitField

def streamProtocolUnpackHeader (sequence ack ackBitField : UInt32) :
    BitM (UnpackResult × UInt32 × UInt32 × UInt32) := do
  let unpackResult ← protocolUnpackHeader kProtocolDefaultId kProtocolDefaultVersion .stream
  if unpackResult ≠ .valid then
    return (.invalid, sequence, ack, ackBitField)
  let sequence ← bitstreamReadUint32
  let ack ← bitstreamReadUint32
  let ackBitField ← bitstreamReadUint32
  return (.valid, sequence, ack, ackBitField)

/-! ## Data -/

structure StreamObject where
  data : Vector UInt8 kStreamObjectDataMaxLength
  length : UInt32
  tag : UInt64
deriving DecidableEq, Repr

def streamObjectSetup (object : StreamObject) : StreamObject :=
  { object with length := 0, tag := 0 }

/-- The test is made in `unsigned int`, so the sum can wrap around. -/
def streamObjectCopyData (object : StreamObject) (data : List UInt8) (length : UInt32) :
    Option StreamObject :=
  if object.length + length ≤ UInt32.ofNat kStreamObjectDataMaxLength then
    if length.toNat ≤ data.length then
      (storeAll object.data object.length.toNat (data.take length.toNat)).map fun data =>
        { object with data, length := object.length + length }
    else none
  else some object

def streamProtocolPackData (object : StreamObject) : BitM Unit := do
  bitstreamWriteUint64 object.tag
  bitstreamWriteUint16 object.length
  let _ ← bitstreamWriteBytes object.data.toList object.length.toNat

/-- Whether the data was read is not looked at. -/
def streamProtocolUnpackData (object : StreamObject) : BitM (UnpackResult × StreamObject) := do
  let tag ← bitstreamReadUint64
  let length ← bitstreamReadUint16
  let (_, data) ← bitstreamReadBytes object.data length.toNat
  return (.valid, { data, length, tag })

end UniversalNetwork
