import UniversalNetwork.NetAddr
import UniversalNetwork.StreamReliability

/-!
# A stream (`stream_internal.h`, `stream.c`)
-/

namespace UniversalNetwork

inductive StreamState
  | waiting
  | connected
  | disconnected
  | timeout
deriving DecidableEq, Repr

structure Stream where
  state : StreamState
  reliability : StreamReliability
  flow : StreamFlow
  address : NetAddr
  timeoutAccumulator : ℚ
  updateAccumulator : ℚ
deriving DecidableEq, Repr

/-- `memset`, then the two clears. -/
def streamCreate (address : NetAddr) : Stream where
  state := .waiting
  reliability := streamReliabilityClear .zeroed
  flow := streamFlowClear ⟨.good, 0, 0, 0, 0⟩
  address
  timeoutAccumulator := 0
  updateAccumulator := 0

/-- The stream after a packet, and whether `receiveCallback` got the object: a packet whose ack is
above the local sequence is ignored. -/
def streamReceive (stream : Stream) (sequence ack : Nat) (ackBitField : BitVec 32) :
    Option (Stream × Bool) :=
  if ack ≤ stream.reliability.sequence then do
    let reliability ←
      streamReliabilityPacketReceived stream.reliability sequence ack ackBitField
    some ({ stream with timeoutAccumulator := 0, reliability }, true)
  else some (stream, false)

end UniversalNetwork
