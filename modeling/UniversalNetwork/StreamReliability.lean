import UniversalNetwork.Lib.CArray
import UniversalNetwork.StreamFlow

/-!
# Stream reliability (`stream_reliability.h`, `stream_reliability.c`)

The sender keeps the metadata of its last 35 packets in a ring with three cursors (`frontSent`,
`frontAcked`, `back`); the receiver keeps the last sequence it saw (`ack`) and a bit field of the
32 sequences up to it (`ackBits`).

`unsigned int` values are naturals reduced modulo `2 ^ 32` where the source's arithmetic can wrap,
the bit field is a `BitVec 32`, floats are exact rationals. A function is `none` where the source
fails an `assert` or indexes `packets` outside its 35 slots.
-/

namespace UniversalNetwork

open Lib

def kStreamReliabilityMaxRtt : ℚ := 1

/-- 16 bits. -/
def kStreamReliabilityMaxSequence : Nat := 0xFFFF

/-- `(int)(2.35f * kStreamReliabilityMaxRtt * kStreamFlowMaxRate + 0.5)`. -/
def kStreamReliabilityBufferCapacity : Nat := 35

example : (2.35 * kStreamReliabilityMaxRtt * kStreamFlowMaxRate + 0.5).floor =
    kStreamReliabilityBufferCapacity := by
  decide +kernel

structure StreamPacketMetadata where
  sequence : Nat
  time : ℚ
  size : Nat
  acked : Bool
deriving DecidableEq, Repr

structure StreamReliability where
  packets : Vector StreamPacketMetadata kStreamReliabilityBufferCapacity
  frontSent : Nat
  frontAcked : Nat
  back : Nat
  sequence : Nat
  ack : Nat
  ackBits : BitVec 32
  totalSentPackets : Nat
  totalReceivedPackets : Nat
  totalAckedPackets : Nat
  totalLostPackets : Nat
  sentBytes : Nat
  sentBytesPerSecond : Nat
  ackedPackets : Nat
  ackedPacketsPerSecond : Nat
  ackedBytes : Nat
  ackedBytesPerSecond : Nat
  sentBandwidth : ℚ
  ackedBandwidth : ℚ
  rtt : ℚ
deriving DecidableEq, Repr

/-- The struct after `memset` to zero. -/
def StreamReliability.zeroed : StreamReliability where
  packets := Vector.replicate _ ⟨0, 0, 0, false⟩
  frontSent := 0
  frontAcked := 0
  back := 0
  sequence := 0
  ack := 0
  ackBits := 0
  totalSentPackets := 0
  totalReceivedPackets := 0
  totalAckedPackets := 0
  totalLostPackets := 0
  sentBytes := 0
  sentBytesPerSecond := 0
  ackedPackets := 0
  ackedPacketsPerSecond := 0
  ackedBytes := 0
  ackedBytesPerSecond := 0
  sentBandwidth := 0
  ackedBandwidth := 0
  rtt := 0

/-! ## Counters -/

/-- `++(*value); (*value) %= max` (every counter it is used on is below `max ≤ 65535`). -/
def increase (value max : Nat) : Nat := (value + 1) % max

/-- `(*value) = (*value) >= count ? (*value)-count : ((*value)+max)-count`, on the 32-bit patterns
of the operands (`int` against `unsigned int` compares and subtracts as unsigned). -/
def decrease (value count max : Nat) : Nat :=
  if count ≤ value then value - count else (value + max + 2 ^ 32 - count) % 2 ^ 32

def isSequenceMoreRecent (sequence otherSequence maxSequence : Nat) : Bool :=
  (sequence > otherSequence && sequence - otherSequence ≤ maxSequence / 2) ||
    (otherSequence > sequence && otherSequence - sequence > maxSequence / 2)

/-- The `int` with the 32-bit pattern of `n`. -/
def toInt32 (n : Nat) : Int :=
  if n % 2 ^ 32 < 2 ^ 31 then (n % 2 ^ 32 : Nat) else (n % 2 ^ 32 : Nat) - 2 ^ 32

/-! ## Sending and receiving -/

/-- The packet slots are not cleared. -/
def streamReliabilityClear (ref : StreamReliability) : StreamReliability :=
  { StreamReliability.zeroed with packets := ref.packets }

/-- The two `Overwrite` cases of `streamReliabilityPacketSent`: a front that `back` has caught up
with moves on. -/
def discardOverwritten (ref : StreamReliability) : StreamReliability :=
  let ref :=
    if ref.back = ref.frontAcked then
      { ref with frontAcked := increase ref.frontAcked kStreamReliabilityBufferCapacity }
    else ref
  if ref.back = ref.frontSent then
    { ref with frontSent := increase ref.frontSent kStreamReliabilityBufferCapacity }
  else ref

def streamReliabilityPacketSent (ref : StreamReliability) (size : Nat) :
    Option StreamReliability := do
  let metadata : StreamPacketMetadata :=
    { acked := false, sequence := ref.sequence, time := 0, size }
  let packets ← store ref.packets ref.back metadata
  let ref := discardOverwritten
    { ref with
      packets
      back := increase ref.back kStreamReliabilityBufferCapacity
      sequence := increase ref.sequence kStreamReliabilityMaxSequence
      totalSentPackets := (ref.totalSentPackets + 1) % 2 ^ 32
      sentBytes := (ref.sentBytes + size) % 2 ^ 32 }
  -- the two closing asserts
  if ref.frontSent ≠ ref.back ∧ ref.frontAcked ≠ ref.back then some ref else none

def streamReliabilityProcessSequence (ref : StreamReliability) (sequence : Nat) :
    StreamReliability :=
  if isSequenceMoreRecent sequence ref.ack kStreamReliabilityMaxSequence then
    let shifts :=
      if sequence > ref.ack then sequence - ref.ack
      else (sequence + 2 ^ 32 - ref.ack + kStreamReliabilityMaxSequence + 1) % 2 ^ 32
    -- a jump of 32 or more clears the field, bit 0 included
    let ackBits := if shifts < 32 then (ref.ackBits <<< shifts) ||| 1#32 else 0#32
    { ref with ackBits := ackBits &&& 0xFFFFFFFF#32, ack := sequence }
  else
    let shifts :=
      if ref.ack ≥ sequence then ref.ack - sequence
      else (ref.ack + 2 ^ 32 - sequence + kStreamReliabilityMaxSequence + 1) % 2 ^ 32
    let ackBits := if shifts < 32 then ref.ackBits ||| (1#32 <<< shifts) else ref.ackBits
    { ref with ackBits := ackBits &&& 0xFFFFFFFF#32 }

/-- One slot of the scan of `streamReliabilityProcessAck`: marked on its first ack. -/
def ackSlot (ref : StreamReliability) (pivot : Nat) (ackBits : BitVec 32) :
    Option StreamReliability := do
  let packet ← ref.packets[pivot]?
  if !packet.acked && ackBits.getLsbD 0 then
    let packets ← store ref.packets pivot { packet with acked := true }
    some
      { ref with
        packets
        totalAckedPackets := (ref.totalAckedPackets + 1) % 2 ^ 32
        rtt := ref.rtt + (packet.time - ref.rtt) * (1 / 10) }
  else some ref

/-- The `for` loop of `streamReliabilityProcessAck` with `n` rounds to go. -/
def processAckLoop : Nat → StreamReliability → Nat → BitVec 32 → Option StreamReliability
  | 0, ref, _, _ => some ref
  | n + 1, ref, pivot, ackBits => do
    let ref ← ackSlot ref pivot ackBits
    processAckLoop n ref (decrease pivot 1 kStreamReliabilityBufferCapacity) (ackBits >>> 1)

/-- The `count` of `streamReliabilityProcessAck`: how far the ack is behind the local sequence. -/
def ackCount (ref : StreamReliability) (ack : Nat) : Nat :=
  if ref.sequence > ack then ref.sequence - ack
  else (ref.sequence + 2 ^ 32 - ack + kStreamReliabilityMaxSequence + 1) % 2 ^ 32

/-- Its `pivot`, the slot at which it starts its scan, when it makes one. -/
def scanStart (ref : StreamReliability) (ack : Nat) : Option Nat :=
  if ref.frontSent ≠ ref.back ∧ toInt32 (ackCount ref ack) < kStreamReliabilityBufferCapacity then
    some (decrease ref.back (ackCount ref ack) kStreamReliabilityBufferCapacity)
  else none

/-- The scan covers 31 slots, although its comment says 32 bits. -/
def streamReliabilityProcessAck (ref : StreamReliability) (ack : Nat) (ackBits : BitVec 32) :
    Option StreamReliability :=
  match scanStart ref ack with
  | none => some ref
  | some pivot =>
    if pivot < kStreamReliabilityBufferCapacity then processAckLoop 31 ref pivot ackBits
    else none

def streamReliabilityPacketReceived (ref : StreamReliability) (sequence ack : Nat)
    (ackBits : BitVec 32) : Option StreamReliability := do
  let ref := streamReliabilityProcessSequence ref sequence
  let ref ← streamReliabilityProcessAck ref ack ackBits
  some { ref with totalReceivedPackets := (ref.totalReceivedPackets + 1) % 2 ^ 32 }

/-! ## The periodic update -/

/-- RTT epsilon. -/
def rttEpsilon : ℚ := 1 / 10000

/-- The `Sent Front` loop of `streamReliabilityUpdate`, `none` when it does not end within `n`
rounds. -/
def sentFrontLoop : Nat → StreamReliability → Option StreamReliability
  | 0, _ => none
  | n + 1, ref =>
    if ref.frontSent = ref.back then some ref
    else do
      let packet ← ref.packets[ref.frontSent]?
      if packet.time > kStreamReliabilityMaxRtt + rttEpsilon then
        sentFrontLoop n
          { ref with
            sentBytes := (ref.sentBytes + 2 ^ 32 - packet.size % 2 ^ 32) % 2 ^ 32
            totalLostPackets :=
              if packet.acked then ref.totalLostPackets else (ref.totalLostPackets + 1) % 2 ^ 32
            frontSent := increase ref.frontSent kStreamReliabilityBufferCapacity }
      else some ref

/-- The `Acked Front` loop of `streamReliabilityUpdate`. -/
def ackedFrontLoop : Nat → StreamReliability → Option StreamReliability
  | 0, _ => none
  | n + 1, ref =>
    if ref.frontAcked = ref.back then some ref
    else do
      let packet ← ref.packets[ref.frontAcked]?
      if packet.time > kStreamReliabilityMaxRtt * 2 - rttEpsilon then
        ackedFrontLoop n
          { ref with frontAcked := increase ref.frontAcked kStreamReliabilityBufferCapacity }
      else some ref

/-- The counting loop of `streamReliabilityUpdate`, from the slot `pivot` up to `back`. -/
def ackedCountLoop : Nat → StreamReliability → Nat → Option StreamReliability
  | 0, _, _ => none
  | n + 1, ref, pivot =>
    if pivot = ref.back then some ref
    else do
      let packet ← ref.packets[pivot]?
      let ref :=
        if packet.acked ∧ packet.time ≥ kStreamReliabilityMaxRtt then
          { ref with
            ackedPackets := (ref.ackedPackets + 1) % 2 ^ 32
            ackedBytes := (ref.ackedBytes + packet.size) % 2 ^ 32 }
        else ref
      ackedCountLoop n ref (increase pivot kStreamReliabilityBufferCapacity)

/-- The derived statistics at the end of `streamReliabilityUpdate`. -/
def updateStats (ref : StreamReliability) : StreamReliability :=
  let perSecond (n : Nat) : Nat := ((n : ℚ) / kStreamReliabilityMaxRtt).floor.toNat
  { ref with
    sentBytesPerSecond := perSecond ref.sentBytes
    ackedPacketsPerSecond := perSecond ref.ackedPackets
    ackedBytesPerSecond := perSecond ref.ackedBytes
    sentBandwidth := perSecond ref.sentBytes * (8 / 1000)
    ackedBandwidth := perSecond ref.ackedBytes * (8 / 1000) }

/-- Nothing ages while the sent window is empty. The loops visit at most one slot per round of the
ring, so they get one round each. -/
def streamReliabilityUpdate (ref : StreamReliability) (deltaTime : ℚ) :
    Option StreamReliability :=
  if ref.frontSent = ref.back then some ref
  else do
    let ref :=
      { ref with packets := ref.packets.map fun p => { p with time := p.time + deltaTime } }
    let ref ← sentFrontLoop kStreamReliabilityBufferCapacity ref
    let ref ← ackedFrontLoop kStreamReliabilityBufferCapacity ref
    let ref := { ref with ackedPackets := 0, ackedBytes := 0 }
    let ref ← ackedCountLoop kStreamReliabilityBufferCapacity ref ref.frontAcked
    some (updateStats ref)

end UniversalNetwork
