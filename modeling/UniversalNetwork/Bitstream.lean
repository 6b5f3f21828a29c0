import Mathlib.Algebra.Ring.Int.Defs
import Mathlib.Algebra.Ring.Nat
import UniversalNetwork.Lib.CArray

/-!
# Bit streams (`bitstream.h`, `bitstream.c`)

A stream is a memory block with a byte offset and a bound. Every operation runs in `BitM`: the
stream is the state, and `none` is an access outside the block. `unsigned int` is `UInt32`. Writes
and block reads test the bound; the fixed-width reads do not. The build is the little-endian one:
blocks are reversed, integers are stored with the high byte first and the `_endian` variants with
the low byte first. A `float` is written and read here as its fixed-point word; the conversions are in
`Bitstream.Float`. The counter `b` of a block is an `int` in the source and a natural here: the two
agree for lengths below `2 ^ 31`, and the arrays of the sources are no longer than a packet.
-/

namespace UniversalNetwork

open Lib

structure Bitstream where
  data : List UInt8
  offset : Nat
  bound : Nat
deriving DecidableEq, Repr

abbrev BitM := StateT Bitstream Option

def bitstreamCreate (data : List UInt8) (bound : Nat) : Bitstream where
  data
  offset := 0
  bound

def bitstreamReset (stream : Bitstream) : Bitstream := { stream with offset := 0 }

/-- `mBitstreamBytesDoFit` and `mBitstreamHasEnoughBytes`: the difference is a `size_t`. -/
def Bitstream.bytesDoFit (stream : Bitstream) (bytes : Nat) : Prop :=
  bytes ≤ (stream.bound + 2 ^ 64 - stream.offset) % 2 ^ 64

instance (stream : Bitstream) (bytes : Nat) : Decidable (stream.bytesDoFit bytes) :=
  inferInstanceAs (Decidable (_ ≤ _))

/-- `*pointer`, with `none` for an access outside its block. -/
def BitM.access {α : Type} (x : Option α) : BitM α := fun stream => x.map (·, stream)

/-! ## Bytes -/

/-- `stream->data[stream->offset++] = byte` -/
def bitstreamPut (byte : UInt8) : BitM Unit := fun stream =>
  if stream.offset < stream.data.length then
    some ((), { stream with
      data := stream.data.set stream.offset byte, offset := stream.offset + 1 })
  else none

/-- `stream->data[stream->offset++]` -/
def bitstreamTake : BitM UInt8 := fun stream =>
  stream.data[stream.offset]?.map (·, { stream with offset := stream.offset + 1 })

def bitstreamSkipBytes (length : Nat) : BitM Unit := fun stream =>
  if stream.bytesDoFit length then
    let offset := (stream.offset + length) % 2 ^ 64
    some ((), { stream with offset := if offset > stream.bound then stream.bound else offset })
  else some ((), stream)

/-! ## Snapshots -/

structure BitstreamSnapshot where
  rollbackOffset : Nat
  rolloverOffset : Nat
deriving DecidableEq, Repr

def bitstreamSnapshot (stream : Bitstream) : BitstreamSnapshot where
  rollbackOffset := stream.offset
  rolloverOffset := stream.offset

/-- The stream and the snapshot exchange offsets; a snapshot of no stream changes nothing. -/
def bitstreamRollback (stream : Bitstream) (snapshot : BitstreamSnapshot) :
    Bitstream × BitstreamSnapshot :=
  ({ stream with offset := snapshot.rollbackOffset },
    { snapshot with rolloverOffset := stream.offset })

def bitstreamRollover (stream : Bitstream) (snapshot : BitstreamSnapshot) :
    Bitstream × BitstreamSnapshot :=
  ({ stream with offset := snapshot.rolloverOffset },
    { snapshot with rollbackOffset := stream.offset })

/-! ## n Bytes -/

/-- `data[offset+length-b-1] = src[b]` for the first `n` values of `b`. -/
def writeBytesLoop (src data : List UInt8) (offset length : Nat) : Nat → Option (List UInt8)
  | 0 => some data
  | b + 1 => do
    let data ← writeBytesLoop src data offset length b
    let byte ← src[b]?
    if offset + length - b - 1 < data.length then
      some (data.set (offset + length - b - 1) byte)
    else none

/-- Either all bytes are written or none, and their number is returned. -/
def bitstreamWriteBytes (src : List UInt8) (length : Nat) : BitM Nat := fun stream =>
  if stream.bytesDoFit length then do
    let data ← writeBytesLoop src stream.data stream.offset length length
    some (length, { stream with data, offset := stream.offset + length })
  else some (0, stream)

/-- `dest[b] = data[offset+length-b-1]` for the first `n` values of `b`. -/
def readBytesLoop {m : Nat} (data : List UInt8) (dest : Vector UInt8 m) (offset length : Nat) :
    Nat → Option (Vector UInt8 m)
  | 0 => some dest
  | b + 1 => do
    let dest ← readBytesLoop data dest offset length b
    let byte ← data[offset + length - b - 1]?
    store dest b byte

/-- Either all bytes are read or none; returned with their number. -/
def bitstreamReadBytes {m : Nat} (dest : Vector UInt8 m) (length : Nat) :
    BitM (Nat × Vector UInt8 m) := fun stream =>
  if stream.bytesDoFit length then do
    let dest ← readBytesLoop stream.data dest stream.offset length length
    some ((length, dest), { stream with offset := stream.offset + length })
  else some ((0, dest), stream)

/-! ## Unsigned integers -/

/-- The writes of one integer, all or nothing. -/
def bitstreamPutAll (bytes : List UInt8) : BitM Unit := do
  if (← get).bytesDoFit bytes.length then
    bytes.forM bitstreamPut

def bitstreamWriteUint8 (src : UInt32) : BitM Unit :=
  bitstreamPutAll [(src &&& 0xFF).toUInt8]

def bitstreamReadUint8 : BitM UInt32 := do
  let b0 ← bitstreamTake
  return b0.toUInt32

def bitstreamWriteUint16 (src : UInt32) : BitM Unit :=
  bitstreamPutAll [((src >>> 8) &&& 0xFF).toUInt8, (src &&& 0xFF).toUInt8]

def bitstreamReadUint16 : BitM UInt32 := do
  let b0 ← bitstreamTake
  let b1 ← bitstreamTake
  return (b0.toUInt32 <<< 8) ||| b1.toUInt32

def bitstreamWriteUint16Endian (src : UInt32) : BitM Unit :=
  bitstreamPutAll [(src &&& 0xFF).toUInt8, ((src >>> 8) &&& 0xFF).toUInt8]

def bitstreamReadUint16Endian : BitM UInt32 := do
  let b0 ← bitstreamTake
  let b1 ← bitstreamTake
  return b0.toUInt32 ||| (b1.toUInt32 <<< 8)

def bitstreamWriteUint32 (src : UInt32) : BitM Unit :=
  bitstreamPutAll [(src >>> 24).toUInt8, ((src >>> 16) &&& 0xFF).toUInt8,
    ((src >>> 8) &&& 0xFF).toUInt8, (src &&& 0xFF).toUInt8]

def bitstreamReadUint32 : BitM UInt32 := do
  let b0 ← bitstreamTake
  let b1 ← bitstreamTake
  let b2 ← bitstreamTake
  let b3 ← bitstreamTake
  return (b0.toUInt32 <<< 24) ||| (b1.toUInt32 <<< 16) ||| (b2.toUInt32 <<< 8) ||| b3.toUInt32

def bitstreamWriteUint32Endian (src : UInt32) : BitM Unit :=
  bitstreamPutAll [(src &&& 0xFF).toUInt8, ((src >>> 8) &&& 0xFF).toUInt8,
    ((src >>> 16) &&& 0xFF).toUInt8, (src >>> 24).toUInt8]

def bitstreamReadUint32Endian : BitM UInt32 := do
  let b0 ← bitstreamTake
  let b1 ← bitstreamTake
  let b2 ← bitstreamTake
  let b3 ← bitstreamTake
  return b0.toUInt32 ||| (b1.toUInt32 <<< 8) ||| (b2.toUInt32 <<< 16) ||| (b3.toUInt32 <<< 24)

def bitstreamWriteUint64 (src : UInt64) : BitM Unit :=
  bitstreamPutAll [(src >>> 56).toUInt8, (src >>> 48).toUInt8, (src >>> 40).toUInt8,
    (src >>> 32).toUInt8, (src >>> 24).toUInt8, ((src >>> 16) &&& 0xFF).toUInt8,
    ((src >>> 8) &&& 0xFF).toUInt8, (src &&& 0xFF).toUInt8]

def bitstreamReadUint64 : BitM UInt64 := do
  let b0 ← bitstreamTake
  let b1 ← bitstreamTake
  let b2 ← bitstreamTake
  let b3 ← bitstreamTake
  let b4 ← bitstreamTake
  let b5 ← bitstreamTake
  let b6 ← bitstreamTake
  let b7 ← bitstreamTake
  return (b0.toUInt64 <<< 56) ||| (b1.toUInt64 <<< 48) ||| (b2.toUInt64 <<< 40) |||
    (b3.toUInt64 <<< 32) ||| (b4.toUInt64 <<< 24) ||| (b5.toUInt64 <<< 16) |||
    (b6.toUInt64 <<< 8) ||| b7.toUInt64

/-! ## Floats -/

/-- `p` is the fixed-point word the `float` is converted to. -/
def bitstreamWriteFloat32 (p : UInt32) : BitM Unit := bitstreamWriteUint32 p

/-- The fixed-point word that is converted to a `float`. -/
def bitstreamReadFloat32 : BitM UInt32 := bitstreamReadUint32

/-! ## Strings -/

/-- `strlen`; a fault when the array has no terminating null. -/
def strlen (s : List UInt8) : Option Nat := s.findIdx? (· == 0)

def bitstreamWriteStr (src : List UInt8) : BitM Nat := do
  let strlength ← BitM.access (strlen src)
  if (← get).bytesDoFit (strlength + 1) then
    bitstreamWriteUint8 (UInt32.ofNat strlength)
    let _ ← bitstreamWriteBytes src strlength
    return strlength
  else return 0

/-- A string longer than the destination is left unread, with its length byte consumed. When its
bytes are not all in the stream only the terminating null is written. -/
def bitstreamReadStr {m : Nat} (dest : Vector UInt8 m) (maxlength : Nat) :
    BitM (Nat × Vector UInt8 m) := do
  let strlength := (← bitstreamReadUint8).toNat
  if strlength + 1 > maxlength then
    return (0, dest)
  let (_, dest) ← bitstreamReadBytes dest strlength
  let dest ← BitM.access (store dest strlength 0)
  return (strlength, dest)

end UniversalNetwork
