import UniversalNetwork.Lib.Machine
import UniversalNetwork.NetSocket.Ownership

/-!
# The read event handler (`net_socket.c`)

The whole handler of the read source, for whatever `recvfrom` returns. A packet that is to be
consumed waits on the global queue, whose blocks run in any order; such a block looks up the
receive block or callback of the socket when it runs. The consumer releases the packet.

`handed`, `returned` and `events` are ghost state: the events for which there was a packet are
numbered, and each of them should end up in one place.

* `reads_lose_none_iff`: no packet is lost just when no datagram is empty, and those that fit find
  a receive block or callback, which is still there when it is to be called.
-/

namespace UniversalNetwork

open Lib

inductive PacketConsumer
  | receiveBlock (block : Nat)
  | receiveCallback (callback context : Nat)
deriving DecidableEq, Repr

/-- A block on the global queue. -/
structure ReceiveDispatch where
  event : Nat
  packet : Nat
  /-- It calls `receiveBlock`, not `receiveCallback`. -/
  isBlock : Bool

structure SocketReader where
  socket : NetSocket
  receiveBlock : Option Nat
  receiveCallback : Option Nat
  receiveCallbackContext : Nat
  globalQueue : List ReceiveDispatch
  /-- The packets that consumers have, and have not released. -/
  held : List (PacketConsumer × Nat)
  events : Nat
  handed : List (Nat × PacketConsumer)
  returned : List Nat

def socketReaderCreate (memory : Nat → Vector UInt8 kNetPacketMaxLen) : SocketReader where
  socket := netSocketCreate memory
  receiveBlock := none
  receiveCallback := none
  receiveCallbackContext := 0
  globalQueue := []
  held := []
  events := 0
  handed := []
  returned := []

/-- The event is over, and its packet with the pool again. -/
def SocketReader.giveBack (r : SocketReader) : SocketReader :=
  { r with events := r.events + 1, returned := r.returned ++ [r.events] }

/-- `dispatch_async` to the global queue. -/
def SocketReader.dispatch (r : SocketReader) (i : Nat) (isBlock : Bool) : SocketReader :=
  { r with events := r.events + 1, globalQueue := r.globalQueue ++ [⟨r.events, i, isBlock⟩] }

/-- The handler of the read event: the receive block comes before the callback. -/
def netSocketReadHandler (r : SocketReader) (recvfrom : RecvFrom) : SocketReader :=
  match netSocketReadPacket r.socket (r.receiveBlock.isSome || r.receiveCallback.isSome) recvfrom with
  | (.noPacket, socket) => { r with socket }
  | (.returned, socket) => SocketReader.giveBack { r with socket }
  | (.dispatched i, socket) => SocketReader.dispatch { r with socket } i r.receiveBlock.isSome
  | (.unclaimed _, socket) => { r with socket, events := r.events + 1 }

/-- Whom a block of the global queue calls. -/
def SocketReader.consumer (r : SocketReader) (isBlock : Bool) : Option PacketConsumer :=
  if isBlock then r.receiveBlock.map .receiveBlock
  else r.receiveCallback.map fun callback => .receiveCallback callback r.receiveCallbackContext

inductive ReadAction
  /-- `net_socket_set_receive_block` -/
  | setReceiveBlock (block : Option Nat)
  /-- `net_socket_set_receive_callback` -/
  | setReceiveCallback (context : Nat) (callback : Option Nat)
  | read (recvfrom : RecvFrom)
  /-- The `k`-th block of the global queue runs. -/
  | deliver (k : Nat)
  /-- A consumer releases the `k`-th of the packets they have. -/
  | release (k : Nat)

/-- Calling a null pointer faults. -/
def readStep (r : SocketReader) : ReadAction → Option SocketReader
  | .setReceiveBlock block => some { r with receiveBlock := block }
  | .setReceiveCallback context callback =>
    some { r with receiveCallback := callback, receiveCallbackContext := context }
  | .read recvfrom => some (netSocketReadHandler r recvfrom)
  | .deliver k =>
    match r.globalQueue[k]? with
    | none => some r
    | some d => (r.consumer d.isBlock).map fun consumer => { r with
        globalQueue := r.globalQueue.eraseIdx k
        held := r.held ++ [(consumer, d.packet)]
        handed := r.handed ++ [(d.event, consumer)] }
  | .release k =>
    match r.held[k]? with
    | none => some r
    | some (_, i) => some { r with
        socket := netPacketRelease r.socket i, held := r.held.eraseIdx k }

/-- The packets on their way to a consumer, or with one. -/
def SocketReader.packets (r : SocketReader) : List Nat :=
  r.globalQueue.map ReceiveDispatch.packet ++ r.held.map Prod.snd

/-- Where the events have ended up. -/
def SocketReader.outcomes (r : SocketReader) : List Nat :=
  r.returned ++ r.handed.map Prod.fst ++ r.globalQueue.map ReceiveDispatch.event

/-- No packet is lost: each event has given its packet back, or to one consumer, or is about to,
and the pool has all packets but those that consumers have or will get. -/
structure NoneLost (r : SocketReader) : Prop where
  once : ∀ event < r.events, r.outcomes.count event = 1
  nodup : r.packets.Nodup
  free : ∀ i, i ∈ r.socket.poolPackets.freeList ↔ i < kNetPacketPoolCapacity ∧ i ∉ r.packets
  length : r.socket.poolPackets.freeList.length + r.packets.length = kNetPacketPoolCapacity

/-- A datagram that takes a packet is not empty and, when it fits, finds a consumer; a consumer is
still there when its packet is handed over. -/
def Consumed (r : SocketReader) : ReadAction → Prop
  | .read (.datagram datagram) => r.socket.poolPackets.freeList ≠ [] →
    0 < datagram.bytes.length ∧ (datagram.bytes.length ≤ kNetPacketMaxLen →
      r.receiveBlock.isSome ∨ r.receiveCallback.isSome)
  | .deliver k => ∀ d ∈ r.globalQueue[k]?, (r.consumer d.isBlock).isSome
  | _ => True

/-! ## The reads -/

/-- The invariant of the reads that lose no packet. -/
structure SocketReader.Conserves (r : SocketReader) : Prop where
  capacity : r.socket.poolPackets.capacity = kNetPacketPoolCapacity
  holds : r.socket.poolPackets.Holds r.packets.count
  nodup : r.packets.Nodup
  once : ∀ event, r.outcomes.count event = if event < r.events then 1 else 0

theorem socketReaderCreate_conserves (memory : Nat → Vector UInt8 kNetPacketMaxLen) :
    (socketReaderCreate memory).Conserves :=
  ⟨rfl, poolCreate_holds _ _, List.nodup_nil, fun _ => rfl⟩

section Reads

variable {r : SocketReader} {i : Nat} {socket : NetSocket}

theorem SocketReader.Conserves.noneLost (h : r.Conserves) : NoneLost r := by
  have hfree : ∀ i, i ∈ r.socket.poolPackets.freeList ↔
      i < kNetPacketPoolCapacity ∧ i ∉ r.packets := by
    intro i
    rw [h.holds.free, h.capacity, List.count_eq_zero]
  have hall : (r.socket.poolPackets.freeList ++ r.packets).Perm
      (List.range kNetPacketPoolCapacity) := by
    refine (List.perm_ext_iff_of_nodup ?_ List.nodup_range).2 fun i => ?_
    · refine List.nodup_append.2 ⟨h.holds.nodup, h.nodup, ?_⟩
      rintro i hi j hmem rfl
      exact ((hfree i).1 hi).2 hmem
    · rw [List.mem_append, List.mem_range, hfree]
      constructor
      · rintro (hi | hmem)
        · exact hi.1
        · exact h.capacity ▸ h.holds.lt_capacity (List.count_pos_iff.2 hmem)
      · exact fun hi => or_iff_not_imp_right.2 fun hmem => ⟨hi, hmem⟩
  refine ⟨fun event hlt => (h.once event).trans (if_pos hlt), h.nodup, hfree, ?_⟩
  rw [← List.length_append, hall.length_eq, List.length_range]

/-- Packet `i` has been taken from the pool for an event. -/
structure SocketReader.Takes (r : SocketReader) (i : Nat) (socket : NetSocket) : Prop where
  capacity : socket.poolPackets.capacity = kNetPacketPoolCapacity
  holds : socket.poolPackets.Holds fun j => r.packets.count j + if j = i then 1 else 0
  fresh : i ∉ r.packets

theorem SocketReader.Conserves.takes (h : r.Conserves)
    (ha : netPacketAlloc r.socket = some (i, socket)) : r.Takes i socket := by
  obtain ⟨pool, hpool, -, rfl⟩ := netPacketAlloc_eq ha
  obtain ⟨hfree, hholds⟩ := poolAlloc_holds h.holds hpool fun _ => rfl
  exact ⟨(poolAlloc_capacity hpool).trans h.capacity, hholds.setObject _,
    List.count_eq_zero.1 hfree⟩

theorem SocketReader.Takes.setPacket (h : r.Takes i socket) (p : NetPacket) :
    r.Takes i (socket.setPacket i p) :=
  ⟨h.capacity, h.holds.setObject p, h.fresh⟩

/-- One more event, which has ended up somewhere. -/
theorem SocketReader.Conserves.once_cons (h : r.Conserves) {outcomes : List Nat}
    (hperm : outcomes.Perm (r.events :: r.outcomes)) (event : Nat) :
    outcomes.count event = if event < r.events + 1 then 1 else 0 := by
  rw [hperm.count_eq, count_cons, h.once]
  split <;> split <;> split <;> omega

theorem SocketReader.Conserves.giveBack (h : r.Conserves) (ht : r.Takes i socket) :
    (SocketReader.giveBack { r with socket := netPacketFree socket i }).Conserves where
  capacity := (poolFree_capacity _ _).trans ht.capacity
  holds := poolFree_holds ht.holds (by simp) (List.count_eq_zero.2 ht.fresh) fun j hj => by
    rw [if_neg hj]
    rfl
  nodup := h.nodup
  once := h.once_cons (by
    simp only [SocketReader.outcomes, SocketReader.giveBack, List.append_assoc]
    exact List.perm_middle)

theorem SocketReader.Conserves.dispatch (h : r.Conserves) (ht : r.Takes i socket)
    (isBlock : Bool) : (SocketReader.dispatch { r with socket } i isBlock).Conserves := by
  have hpackets : (SocketReader.dispatch { r with socket } i isBlock).packets.Perm
      (i :: r.packets) := by
    simp only [SocketReader.packets, SocketReader.dispatch, List.map_append, List.map_cons,
      List.map_nil, List.append_assoc]
    exact List.perm_middle
  refine ⟨ht.capacity, ht.holds.congr fun j => ?_, ?_, h.once_cons ?_⟩
  · rw [hpackets.count_eq, count_cons]
  · exact hpackets.nodup_iff.2 (List.nodup_cons.2 ⟨ht.fresh, h.nodup⟩)
  · simp only [SocketReader.outcomes, SocketReader.dispatch, List.map_append, List.map_cons,
      List.map_nil, ← List.append_assoc]
    exact List.perm_append_singleton _ _

/-- An event that leaves its packet nowhere. -/
theorem SocketReader.Conserves.forgets (h : r.Conserves) :
    ¬ NoneLost { r with socket, events := r.events + 1 } := by
  intro hlost
  have honce := h.once r.events
  rw [if_neg (Nat.lt_irrefl _)] at honce
  exact absurd (honce.symm.trans (hlost.once r.events (Nat.lt_succ_self _))) (by decide)

theorem netSocketReadHandler_noPacket (h : r.socket.poolPackets.freeList = [])
    (recvfrom : RecvFrom) : netSocketReadHandler r recvfrom = r := by
  have ha : netPacketAlloc r.socket = none := by
    rw [netPacketAlloc, poolAlloc, h, Option.map_none]
  rw [netSocketReadHandler, netSocketReadPacket, ha]

/-- What the handler does with the packet it has taken. -/
theorem netSocketReadHandler_cases (h : r.Conserves)
    (hfree : r.socket.poolPackets.freeList ≠ []) (recvfrom : RecvFrom) :
    ∃ i socket, r.Takes i socket ∧
      (Consumed r (.read recvfrom) ∧
          (netSocketReadHandler r recvfrom =
              SocketReader.giveBack { r with socket := netPacketFree socket i } ∨
            ∃ isBlock, netSocketReadHandler r recvfrom =
              SocketReader.dispatch { r with socket } i isBlock) ∨
        ¬ Consumed r (.read recvfrom) ∧
          netSocketReadHandler r recvfrom = { r with socket, events := r.events + 1 }) := by
  obtain ⟨i, socket, ha⟩ : ∃ i socket, netPacketAlloc r.socket = some (i, socket) := by
    obtain ⟨node, next, hcons⟩ := List.exists_cons_of_ne_nil hfree
    rw [netPacketAlloc, poolAlloc, hcons]
    exact ⟨_, _, rfl⟩
  have ht := h.takes ha
  unfold netSocketReadHandler netSocketReadPacket
  rw [ha]
  cases recvfrom with
  | error => exact ⟨i, socket, ht, .inl ⟨trivial, .inl rfl⟩⟩
  | datagram datagram =>
    dsimp only [Consumed]
    rcases Decidable.em (datagram.bytes.length > 0) with hpos | hzero
    · rw [if_pos hpos]
      rcases Decidable.em (datagram.bytes.length ≤ kNetPacketMaxLen) with hfits | hlong
      · rw [if_pos hfits]
        cases hconsumer : r.receiveBlock.isSome || r.receiveCallback.isSome with
        | true =>
          rw [Bool.or_eq_true] at hconsumer
          exact ⟨i, _, (ht.setPacket _).setPacket _,
            .inl ⟨fun _ => ⟨hpos, fun _ => hconsumer⟩, .inr ⟨_, rfl⟩⟩⟩
        | false =>
          refine ⟨i, _, (ht.setPacket _).setPacket _, .inr ⟨fun hc => ?_, rfl⟩⟩
          have hsome := (hc hfree).2 hfits
          rw [← Bool.or_eq_true, hconsumer] at hsome
          cases hsome
      · rw [if_neg hlong]
        exact ⟨i, _, ht.setPacket _, .inl ⟨fun _ => ⟨hpos, fun hfits => absurd hfits hlong⟩,
          .inl rfl⟩⟩
    · rw [if_neg hzero]
      exact ⟨i, _, ht.setPacket _, .inr ⟨fun hc => hzero (hc hfree).1, rfl⟩⟩

end Reads

/-! ## The consumers -/

section Consumers

variable {r : SocketReader} {k i : Nat}

/-- A packet and its event move on. -/
theorem SocketReader.Conserves.deliver (h : r.Conserves) {d : ReceiveDispatch}
    (hd : r.globalQueue[k]? = some d) (consumer : PacketConsumer) :
    SocketReader.Conserves { r with
      globalQueue := r.globalQueue.eraseIdx k
      held := r.held ++ [(consumer, d.packet)]
      handed := r.handed ++ [(d.event, consumer)] } := by
  have hqueue := (perm_of_getElem? hd).symm
  set r' : SocketReader := { r with
    globalQueue := r.globalQueue.eraseIdx k
    held := r.held ++ [(consumer, d.packet)]
    handed := r.handed ++ [(d.event, consumer)] }
  have hpackets : r'.packets.Perm r.packets := by
    have hlast : r'.packets = (r.globalQueue.eraseIdx k).map ReceiveDispatch.packet ++
        r.held.map Prod.snd ++ [d.packet] := by simp [r', SocketReader.packets]
    rw [hlast]
    exact (List.perm_append_singleton _ _).trans ((hqueue.map _).symm.append_right _)
  have houtcomes : r'.outcomes.Perm r.outcomes := by
    have hfirst : r'.outcomes = r.returned ++ r.handed.map Prod.fst ++
        (d :: r.globalQueue.eraseIdx k).map ReceiveDispatch.event := by
      simp [r', SocketReader.outcomes]
    rw [hfirst]
    exact (hqueue.map _).symm.append_left _
  refine ⟨h.capacity, h.holds.congr fun j => hpackets.count_eq j, hpackets.nodup_iff.2 h.nodup,
    fun event => ?_⟩
  rw [houtcomes.count_eq, h.once]

theorem SocketReader.Conserves.release (h : r.Conserves) {consumer : PacketConsumer}
    (hheld : r.held[k]? = some (consumer, i)) :
    SocketReader.Conserves { r with
      socket := netPacketRelease r.socket i, held := r.held.eraseIdx k } := by
  have hpackets : r.packets.Perm
      (i :: (r.globalQueue.map ReceiveDispatch.packet ++ (r.held.eraseIdx k).map Prod.snd)) :=
    (((perm_of_getElem? hheld).symm.map Prod.snd).append_left _).trans List.perm_middle
  refine ⟨(poolRelease_capacity _ _).trans h.capacity, poolRelease_holds h.holds fun j => ?_,
    (List.nodup_cons.1 (hpackets.nodup_iff.1 h.nodup)).2, h.once⟩
  rw [hpackets.count_eq, count_cons]
  rfl

end Consumers

/-! ## Runs -/

theorem readStep_conserves {r : SocketReader} (h : r.Conserves) (action : ReadAction)
    (hok : Consumed r action) : ∃ r', readStep r action = some r' ∧ r'.Conserves := by
  cases action with
  | setReceiveBlock block => exact ⟨_, rfl, h.capacity, h.holds, h.nodup, h.once⟩
  | setReceiveCallback context callback => exact ⟨_, rfl, h.capacity, h.holds, h.nodup, h.once⟩
  | read recvfrom =>
    refine ⟨_, rfl, ?_⟩
    by_cases hfree : r.socket.poolPackets.freeList = []
    · rw [netSocketReadHandler_noPacket hfree]
      exact h
    · obtain ⟨i, socket, ht, ⟨-, heq | ⟨isBlock, heq⟩⟩ | ⟨hnot, -⟩⟩ :=
        netSocketReadHandler_cases h hfree recvfrom
      · rw [heq]
        exact h.giveBack ht
      · rw [heq]
        exact h.dispatch ht isBlock
      · exact absurd hok hnot
  | deliver k =>
    simp only [readStep]
    split
    · exact ⟨r, rfl, h⟩
    · rename_i d hd
      obtain ⟨consumer, hconsumer⟩ := Option.isSome_iff_exists.1 (hok d hd)
      rw [hconsumer]
      exact ⟨_, rfl, h.deliver hd consumer⟩
  | release k =>
    simp only [readStep]
    split
    · exact ⟨r, rfl, h⟩
    · rename_i consumer i hheld
      exact ⟨_, rfl, h.release hheld⟩

theorem readStep_loses {r r' : SocketReader} (h : r.Conserves) (action : ReadAction)
    (hok : ¬ Consumed r action) (hstep : readStep r action = some r') : ¬ NoneLost r' := by
  cases action with
  | setReceiveBlock block => exact absurd trivial hok
  | setReceiveCallback context callback => exact absurd trivial hok
  | read recvfrom =>
    cases hstep
    have hfree : r.socket.poolPackets.freeList ≠ [] := by
      intro hnil
      cases recvfrom with
      | error => exact hok trivial
      | datagram datagram => exact hok fun hne => absurd hnil hne
    obtain ⟨i, socket, -, ⟨hconsumed, -⟩ | ⟨-, heq⟩⟩ := netSocketReadHandler_cases h hfree recvfrom
    · exact absurd hconsumed hok
    · rw [heq]
      exact h.forgets
  | deliver k =>
    simp only [Consumed, Option.mem_def, not_forall] at hok
    obtain ⟨d, hd, hnone⟩ := hok
    rw [Option.not_isSome_iff_eq_none] at hnone
    simp [readStep, hd, hnone] at hstep
  | release k => exact absurd trivial hok

/-- **The read handler loses no packet**, and calls no consumer that is not there, in a run of
events and deliveries exactly when each of them finds a consumer for its datagram. -/
theorem reads_lose_none_iff (memory : Nat → Vector UInt8 kNetPacketMaxLen)
    (actions : List ReadAction) :
    (∀ before after, before ++ after = actions →
      ∃ r, run readStep (socketReaderCreate memory) before = some r ∧ NoneLost r) ↔
      Along readStep Consumed (socketReaderCreate memory) actions :=
  run_safe_iff (socketReaderCreate_conserves memory) (fun _ h => h.noneLost)
    (fun _ action h => readStep_conserves h action)
    fun _ action _ h => readStep_loses h action

/-- All packets are back when the consumers have released theirs. -/
theorem NoneLost.all_free {r : SocketReader} (h : NoneLost r) (hqueue : r.globalQueue = [])
    (hheld : r.held = []) : r.socket.poolPackets.freeList.length = kNetPacketPoolCapacity := by
  have hlength := h.length
  rwa [SocketReader.packets, hqueue, hheld] at hlength

/-- An empty datagram: nobody has its packet, and the pool has one packet less. -/
theorem reads_lose_empty :
    ∃ r, run readStep (socketReaderCreate fun _ => Vector.replicate _ 0)
        [.setReceiveBlock (some 0), .read (.datagram ⟨.zeroed, [], .none⟩)] = some r ∧
      r.globalQueue.length = 0 ∧ r.held = [] ∧ r.socket.poolPackets.freeList.length = 63 ∧
      ¬ NoneLost r := by
  refine ⟨_, rfl, rfl, rfl, rfl, fun h => ?_⟩
  exact absurd h.length (by decide)

end UniversalNetwork
