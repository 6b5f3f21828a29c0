import UniversalNetwork.Datagram.Stun

/-!
# Datagrams that are decoded from what was received

* `decodesReceived_iff`: for each of the three decoders, which packets are decoded from the first `n`
  bytes alone, whatever earlier packets left in the rest of the buffer.
* `shortPacket_leftover`: a stream packet that announces one byte more than was received.
-/

namespace UniversalNetwork

open Lib

/-- **The decoding of a packet depends on the received bytes alone** exactly when they hold all that
decides it, and it does not lead out of the packet or of the object. -/
theorem decodesReceived_iff {n : Nat} {data : List UInt8} (hlen : data.length = kNetPacketMaxLen) :
    (∀ transactionId transactionType,
      DecodesReceived n (decodeTransaction requestMemory transactionId transactionType) data ↔
        TransactionReceived n data) ∧
    (∀ sequence ack ackBitField object,
      DecodesReceived n (decodeStream sequence ack ackBitField object) data ↔
        (bitstreamCreate data kNetPacketMaxLen).streamEnd ≤ n) ∧
    (∀ transactionId response, DecodesReceived n (decodeStun transactionId response) data ↔
      (bitstreamCreate data kNetPacketMaxLen).stunNeed ≤ n ∧
        ResponseInside (bitstreamCreate data kNetPacketMaxLen)) :=
  ⟨fun _ _ => transaction_decodesReceived_iff hlen,
    fun _ _ _ _ => stream_decodesReceived_iff hlen, fun _ _ => stun_decodesReceived_iff hlen⟩

/-! ## A short stream packet -/

def emptyObject : StreamObject where
  data := Vector.replicate _ 0
  length := 0
  tag := 0

/-- The header and the tag, all counters 0. -/
def streamStart : List UInt8 := [0xa2, 0x01, 0x05] ++ List.replicate 20 0

/-- A packet that announces one byte of data, with `left` in the rest of the buffer. -/
def shortPacket (left : UInt8) : List UInt8 :=
  streamStart ++ (wire16 1 ++ List.replicate 231 left)

/-- With 26 bytes it has the byte, with 25 it has not. -/
theorem decodesReceived_iff_short :
    DecodesReceived 26 (decodeStream 0 0 0 emptyObject) (shortPacket 0) ∧
    ¬ DecodesReceived 25 (decodeStream 0 0 0 emptyObject) (shortPacket 0) :=
  ⟨((decodesReceived_iff (by decide +kernel)).2.1 0 0 0 emptyObject).2 (by decide +kernel),
    fun h => absurd (((decodesReceived_iff (by decide +kernel)).2.1 0 0 0 emptyObject).1 h)
      (by decide +kernel)⟩

/-- Of 25 received bytes both are the same, the first byte of the object is not. -/
theorem shortPacket_leftover : AgreeOn 25 (shortPacket 0) (shortPacket 9) ∧
    (decoded (decodeStream 0 0 0 emptyObject) (shortPacket 0)).map (·.2.2.data[0]?) =
      some (some 0) ∧
    (decoded (decodeStream 0 0 0 emptyObject) (shortPacket 9)).map (·.2.2.data[0]?) =
      some (some 9) ∧
    ¬ DecodesReceived 25 (decodeStream 0 0 0 emptyObject) (shortPacket 0) := by
  have hagree : AgreeOn 25 (shortPacket 0) (shortPacket 9) := ⟨by decide +kernel, by decide +kernel⟩
  have h₀ : (decoded (decodeStream 0 0 0 emptyObject) (shortPacket 0)).map (·.2.2.data[0]?) =
      some (some 0) := by decide +kernel
  have h₉ : (decoded (decodeStream 0 0 0 emptyObject) (shortPacket 9)).map (·.2.2.data[0]?) =
      some (some 9) := by decide +kernel
  refine ⟨hagree, h₀, h₉, fun h => ?_⟩
  obtain ⟨a, ha, ha'⟩ := h _ hagree
  rw [ha] at h₀
  rw [ha', h₀] at h₉
  exact absurd h₉ (by decide)

end UniversalNetwork
