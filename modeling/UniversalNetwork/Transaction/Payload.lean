import UniversalNetwork.NetSocket.Payload
import UniversalNetwork.Transaction.Moves
import UniversalNetwork.TransactionProtocol.RoundTrip

/-!
# What the packets of transactions carry

`requestBytes` and `responseBytes` are the payloads that `transactionRequest` and
`transactionResponse` pack, as the receive callback and the blocks unpack them.
-/

namespace UniversalNetwork

open Lib

def requestBytes (id : Nat) (object : TransactionObject) : List UInt8 :=
  wireHeader (UInt32.ofNat id) .request ++ wireRequest object

def responseBytes (id : Nat) (responseType : TransactionResponseType) : List UInt8 :=
  wireHeader (UInt32.ofNat id) .response ++ wireResponse responseType

theorem writes_packRequest (id : Nat) {object : TransactionObject} (h : object.WellFormed) :
    Writes (packRequest id object) (requestBytes id object) () :=
  (writes_header (UInt32.ofNat id) .request).bind (writes_request h)

theorem writes_packResponse (id : Nat) (responseType : TransactionResponseType) :
    Writes (packResponse id responseType) (responseBytes id responseType) () :=
  (writes_header (UInt32.ofNat id) .response).bind (writes_response responseType)

theorem length_responseBytes (id : Nat) (responseType : TransactionResponseType) :
    (responseBytes id responseType).length = 6 := rfl

/-- Ids of transactions come through the header. -/
theorem toNat_ofNat_mod {id : Nat} (h : id < kTransactionMaxId) :
    (UInt32.ofNat id % 256).toNat = id := by
  rw [UInt32.toNat_mod, UInt32.toNat_ofNat']
  unfold kTransactionMaxId at h
  show id % 2 ^ 32 % 256 = id
  omega

end UniversalNetwork
