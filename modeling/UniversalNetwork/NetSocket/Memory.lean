import UniversalNetwork.NetSocket.Pipeline
import UniversalNetwork.NetSocket.Reading
import UniversalNetwork.Pool.Memory
import UniversalNetwork.Queue.Refinement

/-!
# The socket in its memory (`net_socket.c` over `pool.c` and `queue.c`)

`SocketStruct` is the socket with addresses: its packets lie in the memory block of `PoolStruct`,
which threads the free list through them, and its pending packets in the linked nodes of
`QueueStruct`. The functions are those of `NetSocket`, on pointers; `none` is an access through a
pointer to no packet, or to no node, or a loop that does not end.

* `Refines base s q pending`: the packets of `s`, numbered from `base` on, and its queues are the
  socket `q`, with `pending` in the place of its pending packets; each function on pointers is the
  function on numbers (`refines_alloc`, …).
* `socket_refines`: so it is for runs, and the socket in memory never faults while its callers only
  use packets that are held.
-/

namespace UniversalNetwork

open Lib

/-- `sizeof(struct net_packet_s)` -/
def kNetPacketSize : Nat := 304

/-- `struct net_socket_s`, with the packets that are stored in the block of its pool. -/
structure SocketStruct where
  poolPackets : PoolStruct
  packets : Nat → NetPacket
  /-- The packets of the push blocks not yet run. -/
  socketDispatchQueue : List Nat
  pendingPackets : QueueStruct
  isSending : Bool
  sent : List (Nat × Datagram)

namespace SocketStruct

variable (s : SocketStruct)

/-- A pointer to the start of a packet in the block. -/
def IsPacket (packet : Nat) : Prop :=
  s.poolPackets.memblock ≤ packet ∧
    packet + s.poolPackets.sizeObject ≤ s.poolPackets.membound ∧
    (packet - s.poolPackets.memblock) % s.poolPackets.sizeObjectNode = 0

instance (packet : Nat) : Decidable (s.IsPacket packet) :=
  inferInstanceAs (Decidable (_ ∧ _ ∧ _))

def packet (packet : Nat) : Option NetPacket :=
  if s.IsPacket packet then some (s.packets packet) else none

def put (packet : Nat) (contents : NetPacket) : SocketStruct :=
  { s with packets := Function.update s.packets packet contents }

def setPacket (packet : Nat) (contents : NetPacket) : Option SocketStruct :=
  if s.IsPacket packet then some (s.put packet contents) else none

/-- `net_packet_alloc`: the packet, or 0 for `NULL`, which `net_packet_init` leaves alone. -/
def netPacketAlloc : Option (Nat × SocketStruct) := do
  let (packet, poolPackets) ← s.poolPackets.poolAlloc
  let s := { s with poolPackets }
  if packet ≠ 0 then
    let contents ← s.packet packet
    let s ← s.setPacket packet (netPacketInit contents)
    some (packet, s)
  else some (packet, s)

def netPacketRelease (packet : Nat) : Option SocketStruct :=
  (s.poolPackets.poolRelease packet).map fun poolPackets => { s with poolPackets }

def netPacketRetain (packet : Nat) : Option SocketStruct :=
  (s.poolPackets.poolRetain packet).map fun poolPackets => { s with poolPackets }

def netPacketFree (packet : Nat) : Option SocketStruct :=
  (s.poolPackets.poolFree packet).map fun poolPackets => { s with poolPackets }

def netSocketSend (packet : Nat) : Option SocketStruct := do
  let contents ← s.packet packet
  let s ← s.setPacket packet { contents with length := contents.bitstream.offset }
  if contents.bitstream.offset > 0 then
    let s ← s.netPacketRetain packet
    some { s with socketDispatchQueue := s.socketDispatchQueue ++ [packet] }
  else some s

/-- The next block of the socket's queue, with what the memory of a new node would hold. -/
def netSocketRunBlock (memory : QueueNode) : Option SocketStruct :=
  match s.socketDispatchQueue with
  | [] => some s
  | packet :: rest => do
    let pendingPackets ← s.pendingPackets.queuePush packet (some memory)
    some { s with socketDispatchQueue := rest, pendingPackets, isSending := true }

/-- The loop of the write event. One with more turns than there are nodes does not end. -/
def netSocketFlush (s : SocketStruct) : (turns : Nat) → Option SocketStruct
  | 0 => none
  | turns + 1 => do
    let (packet, pendingPackets) ← s.pendingPackets.queuePop
    let s := { s with pendingPackets }
    if packet ≠ 0 then
      let contents ← s.packet packet
      let s := { s with sent := s.sent ++ [(packet, contents.datagram)] }
      let s ← s.netPacketRelease packet
      netSocketFlush s turns
    else some s

def netSocketWriteEvent : Option SocketStruct :=
  if s.isSending then
    (s.netSocketFlush (s.pendingPackets.allocated + 1)).map fun s => { s with isSending := false }
  else some s

/-- The handler of the read event, up to the dispatch of the packet: the packet that is not given
back, or 0. -/
def netSocketReadEvent (recvfrom : RecvFrom) : Option (Nat × SocketStruct) := do
  let (packet, s) ← s.netPacketAlloc
  if packet ≠ 0 then
    match recvfrom with
    | .error => (s.netPacketFree packet).map (0, ·)
    | .datagram datagram => do
      let contents ← s.packet packet
      let s ← s.setPacket packet (contents.recvfrom datagram)
      if datagram.bytes.length > 0 then
        if datagram.bytes.length ≤ kNetPacketMaxLen then
          let contents ← s.packet packet
          let s ← s.setPacket packet { contents with length := datagram.bytes.length }
          some (packet, s)
        else (s.netPacketFree packet).map (0, ·)
      else some (packet, s)
  else some (packet, s)

end SocketStruct

/-- `net_socket_create`: the block of the pool is at `memblock`. -/
def netSocketCreateAt (memblock : Nat) (nodes : Nat → PoolNode)
    (memory : Nat → Vector UInt8 kNetPacketMaxLen) : Option SocketStruct :=
  (PoolStruct.poolCreate memblock nodes kNetPacketSize kNetPacketPoolCapacity).map fun poolPackets =>
    { poolPackets
      packets := fun packet =>
        ⟨.zeroed, 0, bitstreamCreate (memory packet).toList kNetPacketMaxLen, .none⟩
      socketDispatchQueue := []
      pendingPackets := queueCreate
      isSending := false
      sent := [] }

/-! ## The pool without its objects -/

def Pool.bare {α : Type} (q : Pool α) : Pool Unit := { q with objects := fun _ => () }

section Bare

variable {α : Type} {q q' : Pool α} {refs : Nat → Nat} {i : Nat}

theorem Pool.Holds.bare (h : q.Holds refs) : q.bare.Holds refs :=
  ⟨h.nodup, h.bound, h.count, h.free, h.alloc⟩

theorem poolAlloc_bare (q : Pool α) :
    poolAlloc q.bare = (poolAlloc q).map fun (i, q') => (i, q'.bare) := by
  unfold poolAlloc
  rw [show q.bare.freeList = q.freeList from rfl]
  cases q.freeList <;> rfl

theorem poolRetain_bare (q : Pool α) (i : Nat) : (poolRetain q i).bare = poolRetain q.bare i := by
  unfold poolRetain
  show Pool.bare _ = if q.allocCount = 0 then q.bare else if q.capacity ≤ i then q.bare else _
  split
  · rfl
  · split <;> rfl

theorem poolFree_bare (q : Pool α) (i : Nat) : (poolFree q i).bare = poolFree q.bare i := by
  unfold poolFree
  show Pool.bare _ = if q.allocCount = 0 then q.bare else if q.capacity ≤ i then q.bare else _
  split
  · rfl
  · split <;> rfl

theorem poolRelease_bare (q : Pool α) (i : Nat) :
    (poolRelease q i).bare = poolRelease q.bare i := by
  unfold poolRelease
  show Pool.bare _ = if q.allocCount = 0 then q.bare else if q.capacity ≤ i then q.bare else _
  split
  · rfl
  · split
    · rfl
    · dsimp only
      rw [apply_ite Pool.bare]
      rfl

end Bare

/-! ## Refinement -/

/-- The address of the `i`-th packet of the block. -/
def packetAt (memblock i : Nat) : Nat := memblock + i * (kNetPacketSize + kPoolNodeSize)

/-- The packets and the queues of `s` are those of `q`, but that `pending` is what is pending. -/
structure Refines (memblock : Nat) (s : SocketStruct) (q : NetSocket) (pending : List Nat) :
    Prop where
  pool : Represents s.poolPackets q.poolPackets.bare
  object : ∀ i, s.poolPackets.objectAt i = packetAt memblock i
  packet : ∀ i < s.poolPackets.capacity, s.packets (packetAt memblock i) = q.packet i
  queue : s.socketDispatchQueue = q.socketDispatchQueue.map (packetAt memblock)
  pending : ∃ enqueued reserved, s.pendingPackets.Linked enqueued reserved ∧
    enqueued.map s.pendingPackets.object = pending.map (packetAt memblock)
  isSending : s.isSending = q.isSending
  sent : s.sent = q.sent.map fun e => (packetAt memblock e.1, e.2)

section Packets

variable {memblock i : Nat} {s : SocketStruct} {q : NetSocket} {pending : List Nat}
  {refs : Nat → Nat}

theorem Refines.ne_zero (h : Refines memblock s q pending) (i : Nat) : packetAt memblock i ≠ 0 := by
  have hpos := h.pool.formed.memblock
  rw [← h.object i, PoolStruct.objectAt]
  omega

theorem Refines.packetAt_inj (h : Refines memblock s q pending) {j : Nat}
    (hij : packetAt memblock i = packetAt memblock j) : i = j := by
  rw [← h.object i, ← h.object j] at hij
  exact h.pool.formed.objectAt_inj hij

theorem Refines.lt_capacity (h : Refines memblock s q pending) (hq : q.poolPackets.Holds refs)
    (hi : 0 < refs i) : i < s.poolPackets.capacity :=
  h.pool.lt_capacity hq.bare hi

theorem Refines.isPacket (h : Refines memblock s q pending) (hi : i < s.poolPackets.capacity) :
    s.IsPacket (packetAt memblock i) := by
  obtain ⟨-, hnode⟩ := h.pool.formed.nodeAt_inside hi
  have hnodeAt : s.poolPackets.nodeAt i = s.poolPackets.objectAt i + s.poolPackets.sizeObject := rfl
  rw [← h.object i]
  refine ⟨Nat.le_add_right _ _, by omega, ?_⟩
  rw [PoolStruct.objectAt, Nat.add_sub_cancel_left]
  exact Nat.mul_mod_left _ _

theorem Refines.packet_eq (h : Refines memblock s q pending) (hi : i < s.poolPackets.capacity) :
    s.packet (packetAt memblock i) = some (q.packet i) := by
  rw [SocketStruct.packet, if_pos (h.isPacket hi), h.packet i hi]

theorem refines_setPacket (h : Refines memblock s q pending) (hi : i < s.poolPackets.capacity)
    (contents : NetPacket) : ∃ s', s.setPacket (packetAt memblock i) contents = some s' ∧
      Refines memblock s' (q.setPacket i contents) pending := by
  refine ⟨s.put (packetAt memblock i) contents, if_pos (h.isPacket hi),
    ⟨h.pool, h.object, fun j hj => ?_, h.queue, h.pending, h.isSending, h.sent⟩⟩
  show Function.update s.packets (packetAt memblock i) contents (packetAt memblock j) =
    Function.update q.poolPackets.objects i contents j
  by_cases hji : j = i
  · rw [hji, Function.update_self, Function.update_self]
  · rw [Function.update_of_ne fun heq => hji (h.packetAt_inj heq), Function.update_of_ne hji]
    exact h.packet j hj

/-- Only the pool changes, and none of its objects. -/
theorem Refines.onPool (h : Refines memblock s q pending) {p : PoolStruct} {q' : NetSocket}
    (hsame : s.poolPackets.SameBlock p) (hpool : Represents p q'.poolPackets.bare)
    (hpacket : ∀ j, q'.packet j = q.packet j)
    (hqueue : q'.socketDispatchQueue = q.socketDispatchQueue)
    (hsending : q'.isSending = q.isSending) (hsent : q'.sent = q.sent) :
    Refines memblock { s with poolPackets := p } q' pending where
  pool := hpool
  object := fun j => (hsame.objectAt j).trans (h.object j)
  packet := fun j hj => (h.packet j (hsame.capacity ▸ hj)).trans (hpacket j).symm
  queue := h.queue.trans (congrArg _ hqueue.symm)
  pending := h.pending
  isSending := h.isSending.trans hsending.symm
  sent := h.sent.trans (congrArg _ hsent.symm)

theorem refines_release (h : Refines memblock s q pending) (hq : q.poolPackets.Holds refs)
    (hi : 0 < refs i) (hcount : refs i < 2 ^ 32) :
    ∃ s', s.netPacketRelease (packetAt memblock i) = some s' ∧
      Refines memblock s' (netPacketRelease q i) pending := by
  obtain ⟨p, hrelease, hsame, hrep⟩ := represents_release h.pool hq.bare hi hcount
  rw [← poolRelease_bare] at hrep
  rw [h.object] at hrelease
  refine ⟨{ s with poolPackets := p }, by rw [SocketStruct.netPacketRelease, hrelease]; rfl, ?_⟩
  exact h.onPool hsame hrep (fun _ => packet_release) rfl rfl rfl

theorem refines_retain (h : Refines memblock s q pending) (hq : q.poolPackets.Holds refs)
    (hi : 0 < refs i) (hcount : refs i + 1 < 2 ^ 32) :
    ∃ s', s.netPacketRetain (packetAt memblock i) = some s' ∧
      Refines memblock s' (netPacketRetain q i) pending := by
  obtain ⟨p, hretain, hsame, hrep⟩ := represents_retain h.pool hq.bare hi hcount
  rw [← poolRetain_bare] at hrep
  rw [h.object] at hretain
  refine ⟨{ s with poolPackets := p }, by rw [SocketStruct.netPacketRetain, hretain]; rfl, ?_⟩
  exact h.onPool hsame hrep (fun _ => packet_retain) rfl rfl rfl

theorem refines_free (h : Refines memblock s q pending) (hq : q.poolPackets.Holds refs)
    (hi : 0 < refs i) : ∃ s', s.netPacketFree (packetAt memblock i) = some s' ∧
      Refines memblock s' (netPacketFree q i) pending := by
  obtain ⟨p, hfree, hsame, hrep⟩ := represents_free h.pool hq.bare hi
  rw [← poolFree_bare] at hrep
  rw [h.object] at hfree
  refine ⟨{ s with poolPackets := p }, by rw [SocketStruct.netPacketFree, hfree]; rfl, ?_⟩
  exact h.onPool hsame hrep (fun j => congrFun (poolFree_same _ _).2 j) rfl rfl rfl

/-- Both pools are out of packets, or give the same one. -/
theorem refines_alloc (h : Refines memblock s q pending) (hq : q.poolPackets.Holds refs) :
    (netPacketAlloc q = none ∧ s.netPacketAlloc = some (0, s)) ∨
      ∃ i q' s', netPacketAlloc q = some (i, q') ∧ i < s'.poolPackets.capacity ∧
        s.netPacketAlloc = some (packetAt memblock i, s') ∧ Refines memblock s' q' pending := by
  rcases represents_alloc h.pool hq.bare with ⟨hnone, halloc⟩ | ⟨i, q₁, p, hsome, hi, halloc, hsame,
    hrep⟩
  · rw [poolAlloc_bare, Option.map_eq_none_iff] at hnone
    refine .inl ⟨by rw [netPacketAlloc, hnone]; rfl, ?_⟩
    rw [SocketStruct.netPacketAlloc, halloc]
    rfl
  · rw [poolAlloc_bare] at hsome
    obtain ⟨⟨i', pool⟩, hpool, heq⟩ := Option.map_eq_some_iff.1 hsome
    obtain ⟨rfl, rfl⟩ := Prod.mk.inj heq
    have hobjects := poolAlloc_objects hpool
    have hfresh : Refines memblock { s with poolPackets := p } { q with poolPackets := pool } pending :=
      h.onPool hsame hrep (fun j => congrFun hobjects j) rfl rfl rfl
    have hi' : i' < p.capacity := hsame.capacity ▸ hi
    obtain ⟨s', hset, href⟩ := refines_setPacket hfresh hi' (netPacketInit (q.packet i'))
    rw [h.object] at halloc
    refine .inr ⟨i', _, s', ?_, ?_, ?_, href⟩
    · rw [netPacketAlloc, hpool, Option.map_some]
      dsimp only
      rw [hobjects]
      rfl
    · rw [SocketStruct.setPacket, if_pos (hfresh.isPacket hi')] at hset
      obtain rfl := Option.some.inj hset
      exact hi'
    · have hread : ({ s with poolPackets := p } : SocketStruct).packet (packetAt memblock i') =
          some (q.packet i') := by
        rw [hfresh.packet_eq hi']
        exact congrArg some (congrFun hobjects i')
      rw [SocketStruct.netPacketAlloc, halloc, Option.bind_eq_bind, Option.bind_some]
      dsimp only
      rw [if_pos (h.ne_zero i'), hread, Option.bind_eq_bind, Option.bind_some, hset]
      rfl

/-! ### Sending -/

theorem refines_send (h : Refines memblock s q pending) (hq : q.poolPackets.Holds refs)
    (hi : 0 < refs i) (hcount : refs i + 1 < 2 ^ 32) :
    ∃ s', s.netSocketSend (packetAt memblock i) = some s' ∧
      Refines memblock s' (netSocketSend q i) pending := by
  have hlt := h.lt_capacity hq hi
  obtain ⟨s₁, hset, h₁⟩ := refines_setPacket h hlt
    { q.packet i with length := (q.packet i).bitstream.offset }
  obtain ⟨s₂, hretain, h₂⟩ := refines_retain h₁ (hq.setObject _) hi hcount
  rw [SocketStruct.netSocketSend, h.packet_eq hlt, Option.bind_eq_bind, Option.bind_some, hset,
    Option.bind_eq_bind, Option.bind_some, netSocketSend_eq]
  dsimp only
  split
  · rw [hretain]
    refine ⟨_, rfl, h₂.pool, h₂.object, h₂.packet, ?_, h₂.pending, h₂.isSending, h₂.sent⟩
    show s₂.socketDispatchQueue ++ _ = (q.socketDispatchQueue ++ [i]).map (packetAt memblock)
    rw [List.map_append]
    exact congrArg (· ++ [packetAt memblock i]) h₂.queue
  · exact ⟨s₁, rfl, h₁⟩

theorem refines_runBlock (h : Refines memblock s q q.pendingPackets) (memory : QueueNode) :
    ∃ s', s.netSocketRunBlock memory = some s' ∧
      Refines memblock s' (netSocketRunBlock q) (netSocketRunBlock q).pendingPackets := by
  have hqueue := h.queue
  unfold SocketStruct.netSocketRunBlock netSocketRunBlock
  cases hblocks : q.socketDispatchQueue with
  | nil =>
    rw [hblocks, List.map_nil] at hqueue
    rw [hqueue]
    exact ⟨s, rfl, h⟩
  | cons i rest =>
    rw [hblocks, List.map_cons] at hqueue
    obtain ⟨enqueued, reserved, hlinked, hobjects⟩ := h.pending
    obtain ⟨pendingPackets, node, hpush, hlinked', -, hobjects'⟩ :=
      hlinked.queuePush (packetAt memblock i) memory
    rw [hqueue]
    dsimp only
    rw [hpush]
    refine ⟨_, rfl, h.pool, h.object, h.packet, rfl, ⟨_, _, hlinked', ?_⟩, rfl, h.sent⟩
    rw [hobjects', hobjects, List.map_append]
    rfl

/-- The loop of the write event pops what is pending, and then `NULL`. -/
theorem refines_flush {queued : Nat → Nat} (pending : List Nat) :
    ∀ {s : SocketStruct} {q : NetSocket} {turns : Nat}, Refines memblock s q pending →
      (q.poolPackets.Holds fun i => queued i + pending.count i) →
      (∀ i, queued i + pending.count i < 2 ^ 32) → pending.length < turns →
      ∃ s', s.netSocketFlush turns = some s' ∧ Refines memblock s' (netSocketFlush q pending) [] := by
  induction pending with
  | nil =>
    intro s q turns h hq hcount hturns
    obtain ⟨turns, rfl⟩ := Nat.exists_eq_succ_of_ne_zero (Nat.ne_of_gt hturns)
    obtain ⟨enqueued, reserved, hlinked, hobjects⟩ := h.pending
    have hnil : enqueued = [] := List.map_eq_nil_iff.1 hobjects
    rw [SocketStruct.netSocketFlush, hlinked.queuePop_nil hnil]
    exact ⟨s, rfl, h⟩
  | cons i pending ih =>
    intro s q turns h hq hcount hturns
    obtain ⟨turns, rfl⟩ := Nat.exists_eq_succ_of_ne_zero (Nat.ne_of_gt (Nat.zero_lt_of_lt hturns))
    obtain ⟨enqueued, reserved, hlinked, hobjects⟩ := h.pending
    obtain ⟨node, enqueued, rfl⟩ := List.exists_cons_of_ne_nil (l := enqueued) (by
      rintro rfl
      exact List.cons_ne_nil _ _ hobjects.symm)
    rw [List.map_cons, List.map_cons, List.cons_eq_cons] at hobjects
    obtain ⟨hnode, hrest⟩ := hobjects
    obtain ⟨pendingPackets, hpop, hlinked', -, hobjects'⟩ := hlinked.queuePop
    rw [hnode] at hpop
    have hone : 0 < queued i + (i :: pending).count i := by
      rw [count_cons, if_pos rfl]
      omega
    have hlt := h.lt_capacity hq hone
    -- the packet is popped and handed to `sendto`
    have hsent : Refines memblock
        { s with
          pendingPackets
          sent := s.sent ++ [(packetAt memblock i, (q.packet i).datagram)] }
        { q with sent := q.sent ++ [(i, (q.packet i).datagram)] } pending := by
      refine ⟨h.pool, h.object, h.packet, h.queue, ⟨_, _, hlinked', hobjects'.trans hrest⟩,
        h.isSending, ?_⟩
      show s.sent ++ _ = (q.sent ++ [(i, (q.packet i).datagram)]).map _
      rw [List.map_append]
      exact congrArg (· ++ [(packetAt memblock i, (q.packet i).datagram)]) h.sent
    obtain ⟨s', hrelease, h'⟩ := refines_release hsent hq hone (hcount i)
    have hmore : ∀ j, queued j + (i :: pending).count j =
        queued j + pending.count j + if j = i then 1 else 0 := by
      intro j
      rw [count_cons, Nat.add_assoc]
    have hq' := poolRelease_holds hq hmore
    obtain ⟨s'', hflush, h''⟩ := ih h' hq' (fun j => by
        have hless := hmore j
        have hsmall := hcount j
        omega) (Nat.lt_of_succ_lt_succ hturns)
    refine ⟨s'', ?_, h''⟩
    have hread : ({ s with pendingPackets } : SocketStruct).packet (packetAt memblock i) =
        some (q.packet i) := h.packet_eq hlt
    rw [SocketStruct.netSocketFlush, hpop, Option.bind_eq_bind, Option.bind_some]
    dsimp only
    rw [if_pos (h.ne_zero i), hread, Option.bind_eq_bind, Option.bind_some, hrelease,
      Option.bind_eq_bind, Option.bind_some]
    exact hflush

theorem refines_writeEvent (h : Refines memblock s q q.pendingPackets) (howned : q.Owned refs)
    (hclaimed : q.unclaimed = [])
    (hcount : ∀ i, refs i + (q.socketDispatchQueue.count i + q.pendingPackets.count i) < 2 ^ 32) :
    ∃ s', s.netSocketWriteEvent = some s' ∧
      Refines memblock s' (netSocketWriteEvent q) (netSocketWriteEvent q).pendingPackets := by
  unfold SocketStruct.netSocketWriteEvent netSocketWriteEvent
  rw [h.isSending]
  split
  · have hq : ({ q with pendingPackets := [] } : NetSocket).poolPackets.Holds
        fun i => (refs i + q.socketDispatchQueue.count i) + q.pendingPackets.count i :=
      howned.holds.congr fun j => by
        rw [hclaimed, List.count_nil]
        omega
    have hqueues : Refines memblock s { q with pendingPackets := [] } q.pendingPackets :=
      ⟨h.pool, h.object, h.packet, h.queue, h.pending, h.isSending, h.sent⟩
    have hturns : q.pendingPackets.length < s.pendingPackets.allocated + 1 := by
      obtain ⟨enqueued, reserved, hlinked, hobjects⟩ := h.pending
      have hlength := congrArg List.length hobjects
      rw [List.length_map, List.length_map] at hlength
      have hnodes := hlinked.length
      omega
    obtain ⟨s', hflush, h'⟩ := refines_flush q.pendingPackets hqueues hq (fun j => by
      have hsmall := hcount j
      omega) hturns
    obtain ⟨-, hpending, -⟩ := netSocketFlush_queues q.pendingPackets { q with pendingPackets := [] }
    rw [hflush]
    refine ⟨_, rfl, h'.pool, h'.object, h'.packet, h'.queue, ?_, rfl, h'.sent⟩
    show ∃ enqueued reserved, _ ∧ _ = ((netSocketFlush _ _).pendingPackets.map _)
    rw [hpending]
    exact h'.pending
  · exact ⟨s, rfl, h⟩

end Packets

/-! ### Receiving -/

/-- What the read event does to the socket, and the packet that it does not give back. -/
def netSocketReceive (s : NetSocket) (recvfrom : RecvFrom) : Option Nat × NetSocket :=
  match netSocketReadPacket s true recvfrom with
  | (.dispatched i, s) | (.unclaimed i, s) => (some i, s)
  | (.noPacket, s) | (.returned, s) => (none, s)

/-- It is what the handler does to the socket, whoever consumes the packet. -/
theorem socket_readHandler (r : SocketReader) (recvfrom : RecvFrom) :
    (netSocketReadHandler r recvfrom).socket = (netSocketReceive r.socket recvfrom).2 := by
  unfold netSocketReadHandler netSocketReceive netSocketReadPacket
  cases netPacketAlloc r.socket with
  | none => rfl
  | some alloc =>
    obtain ⟨i, socket⟩ := alloc
    cases recvfrom with
    | error => rfl
    | datagram datagram =>
      dsimp only
      rcases Decidable.em (datagram.bytes.length > 0) with hpos | hzero
      · rw [if_pos hpos, if_pos hpos]
        rcases Decidable.em (datagram.bytes.length ≤ kNetPacketMaxLen) with hfits | hlong
        · rw [if_pos hfits, if_pos hfits]
          cases r.receiveBlock.isSome || r.receiveCallback.isSome <;> rfl
        · rw [if_neg hlong, if_neg hlong]
          rfl
      · rw [if_neg hzero, if_neg hzero]

section Receiving

variable {memblock i : Nat} {s : SocketStruct} {q q' : NetSocket} {pending : List Nat}
  {refs : Nat → Nat} {recvfrom : RecvFrom}

theorem update_more (refs : Nat → Nat) (i j : Nat) :
    Function.update refs i (refs i + 1) j = refs j + if j = i then 1 else 0 := by
  by_cases hj : j = i
  · rw [hj, Function.update_self, if_pos rfl]
  · rw [Function.update_of_ne hj, if_neg hj, Nat.add_zero]

/-- The packet of a read event is a fresh one, and kept or given back. -/
theorem netSocketReceive_cases (howned : q.Owned refs)
    {o : Option Nat} (h : netSocketReceive q recvfrom = (o, q')) :
    q'.pendingPackets = q.pendingPackets ∧ q'.socketDispatchQueue = q.socketDispatchQueue ∧
      q'.sent = q.sent ∧ q'.isSending = q.isSending ∧ q'.unclaimed = q.unclaimed ∧
      match o with
      | none => q'.Owned refs
      | some i => refs i = 0 ∧ i ∉ q.socketDispatchQueue ∧ i ∉ q.pendingPackets ∧
          q'.Owned (Function.update refs i (refs i + 1)) := by
  unfold netSocketReceive netSocketReadPacket at h
  cases ha : netPacketAlloc q with
  | none =>
    rw [ha] at h
    obtain ⟨rfl, rfl⟩ := Prod.mk.inj h
    exact ⟨rfl, rfl, rfl, rfl, rfl, howned⟩
  | some alloc =>
    obtain ⟨i, q₁⟩ := alloc
    rw [ha] at h
    obtain ⟨hzero, hqueue, hpending, h₁⟩ := howned.alloc ha (update_more refs i)
    have htouches := touches_alloc ha
    have hsending : q₁.isSending = q.isSending := by
      obtain ⟨pool, -, -, rfl⟩ := netPacketAlloc_eq ha
      rfl
    have hqueue₁ : i ∉ q₁.socketDispatchQueue := htouches.queue ▸ hqueue
    have hpending₁ : i ∉ q₁.pendingPackets := htouches.pending ▸ hpending
    have hkept := htouches.unclaimed
    have hclaimed : i ∉ q₁.unclaimed := hkept ▸ howned.alloc_claimed ha
    have hself : Function.update refs i (refs i + 1) i = refs i + 1 := Function.update_self _ _ _
    have hother : ∀ j, j ≠ i → refs j = Function.update refs i (refs i + 1) j := fun j hj =>
      (Function.update_of_ne hj _ _).symm
    cases recvfrom with
    | error =>
      obtain ⟨rfl, rfl⟩ := Prod.mk.inj h
      exact ⟨htouches.pending, htouches.queue, htouches.sent, hsending, hkept,
        h₁.free hself hzero hqueue₁ hpending₁ hclaimed hother⟩
    | datagram datagram =>
      dsimp only at h
      rcases Decidable.em (datagram.bytes.length > 0) with hlong | hzero'
      · rw [if_pos hlong] at h
        rcases Decidable.em (datagram.bytes.length ≤ kNetPacketMaxLen) with hfits | hover
        · rw [if_pos hfits] at h
          obtain ⟨rfl, rfl⟩ := Prod.mk.inj h
          exact ⟨htouches.pending, htouches.queue, htouches.sent, hsending, hkept, hzero, hqueue,
            hpending, (h₁.setPacket i _).setPacket i _⟩
        · rw [if_neg hover] at h
          obtain ⟨rfl, rfl⟩ := Prod.mk.inj h
          exact ⟨htouches.pending, htouches.queue, htouches.sent, hsending, hkept,
            (h₁.setPacket i _).free hself hzero hqueue₁ hpending₁ hclaimed hother⟩
      · rw [if_neg hzero'] at h
        obtain ⟨rfl, rfl⟩ := Prod.mk.inj h
        exact ⟨htouches.pending, htouches.queue, htouches.sent, hsending, hkept, hzero, hqueue,
          hpending, h₁.setPacket i _⟩

theorem refines_read (h : Refines memblock s q pending) (howned : q.Owned refs)
    (recvfrom : RecvFrom) : ∃ s', s.netSocketReadEvent recvfrom =
        some (((netSocketReceive q recvfrom).1.map (packetAt memblock)).getD 0, s') ∧
      Refines memblock s' (netSocketReceive q recvfrom).2 pending := by
  unfold SocketStruct.netSocketReadEvent netSocketReceive netSocketReadPacket
  rcases refines_alloc h howned.holds with ⟨ha, halloc⟩ | ⟨i, q₁, s₁, ha, hi, halloc, h₁⟩
  · rw [ha, halloc]
    exact ⟨s, rfl, h⟩
  · obtain ⟨-, -, -, howned₁⟩ := howned.alloc ha (update_more refs i)
    have hone : 0 < Function.update refs i (refs i + 1) i + (q₁.socketDispatchQueue.count i +
        q₁.pendingPackets.count i + q₁.unclaimed.count i) := by
      rw [Function.update_self]
      omega
    rw [ha, halloc, Option.bind_eq_bind, Option.bind_some]
    dsimp only
    rw [if_pos (h.ne_zero i)]
    cases recvfrom with
    | error =>
      obtain ⟨s', hfree, h'⟩ := refines_free h₁ howned₁.holds hone
      dsimp only
      rw [hfree]
      exact ⟨s', rfl, h'⟩
    | datagram datagram =>
      obtain ⟨s₂, hset, h₂⟩ := refines_setPacket h₁ hi ((q₁.packet i).recvfrom datagram)
      dsimp only
      rw [h₁.packet_eq hi, Option.bind_eq_bind, Option.bind_some, hset, Option.bind_eq_bind,
        Option.bind_some]
      have hi₂ := h₂.lt_capacity (howned₁.setPacket i _).holds hone
      rcases Decidable.em (datagram.bytes.length > 0) with hlong | hzero
      · rw [if_pos hlong, if_pos hlong]
        rcases Decidable.em (datagram.bytes.length ≤ kNetPacketMaxLen) with hfits | hover
        · obtain ⟨s₃, hset', h₃⟩ := refines_setPacket h₂ hi₂
            { (q₁.setPacket i ((q₁.packet i).recvfrom datagram)).packet i with
              length := datagram.bytes.length }
          rw [if_pos hfits, if_pos hfits, h₂.packet_eq hi₂, Option.bind_some, hset']
          exact ⟨s₃, rfl, h₃⟩
        · obtain ⟨s', hfree, h'⟩ := refines_free h₂ (howned₁.setPacket i _).holds hone
          rw [if_neg hover, if_neg hover, hfree]
          exact ⟨s', rfl, h'⟩
      · rw [if_neg hzero, if_neg hzero]
        exact ⟨s₂, rfl, h₂⟩

end Receiving

/-! ## The socket and its callers -/

/-- What callers and the dispatch queue do, and the events of the two sources. -/
inductive SocketAction
  | pipeline (action : PipelineAction)
  | read (recvfrom : RecvFrom)

/-- A consumer holds the packet of a read event. -/
def socketStep (p : SendPipeline) : SocketAction → Option SendPipeline
  | .pipeline action => pipelineStep p action
  | .read recvfrom =>
    match netSocketReceive p.socket recvfrom with
    | (none, socket) => some { p with socket }
    | (some i, socket) => some { p with socket, refs := Function.update p.refs i (p.refs i + 1) }

/-- `SendPipeline` with pointers. -/
structure MemoryPipeline where
  socket : SocketStruct
  refs : Nat → Nat
  calls : List Nat

/-- A caller gets a packet, or `NULL`. -/
def MemoryPipeline.take (m : MemoryPipeline) (got : Nat × SocketStruct) : MemoryPipeline :=
  { m with
    socket := got.2
    refs := if got.1 = 0 then m.refs else Function.update m.refs got.1 (m.refs got.1 + 1) }

/-- `memory` is what the memory of the nodes of the queue holds. -/
def memoryStep (memory : Nat → QueueNode) (m : MemoryPipeline) :
    SocketAction → Option MemoryPipeline
  | .pipeline .alloc => m.socket.netPacketAlloc.map m.take
  | .pipeline (.fill packet contents) =>
    (m.socket.setPacket packet contents).map fun socket => { m with socket }
  | .pipeline (.retain packet) => (m.socket.netPacketRetain packet).map fun socket => { m with
      socket, refs := Function.update m.refs packet (m.refs packet + 1) }
  | .pipeline (.release packet) => (m.socket.netPacketRelease packet).map fun socket => { m with
      socket, refs := Function.update m.refs packet (m.refs packet - 1) }
  | .pipeline (.send packet) => do
    let contents ← m.socket.packet packet
    let socket ← m.socket.netSocketSend packet
    some { m with
      socket, calls := if 0 < contents.bitstream.offset then m.calls ++ [packet] else m.calls }
  | .pipeline .socketBlock =>
    (m.socket.netSocketRunBlock (memory m.socket.pendingPackets.allocated)).map fun socket =>
      { m with socket }
  | .pipeline .write => m.socket.netSocketWriteEvent.map fun socket => { m with socket }
  | .read recvfrom => (m.socket.netSocketReadEvent recvfrom).map m.take

/-- The action with the pointer to its packet. -/
def SocketAction.at (memblock : Nat) : SocketAction → SocketAction
  | .pipeline (.fill i contents) => .pipeline (.fill (packetAt memblock i) contents)
  | .pipeline (.retain i) => .pipeline (.retain (packetAt memblock i))
  | .pipeline (.release i) => .pipeline (.release (packetAt memblock i))
  | .pipeline (.send i) => .pipeline (.send (packetAt memblock i))
  | action => action

/-- Callers use packets that are held, and no retain count wraps around. -/
def UsesHeld (p : SendPipeline) : SocketAction → Prop
  | .pipeline (.fill i _) => 0 < p.references i
  | .pipeline (.release i) => 0 < p.refs i
  | .pipeline (.retain i) | .pipeline (.send i) => 0 < p.references i ∧ p.references i + 1 < 2 ^ 32
  | _ => True

structure InStep (memblock : Nat) (p : SendPipeline) (m : MemoryPipeline) : Prop where
  refines : Refines memblock m.socket p.socket p.socket.pendingPackets
  owned : p.socket.Owned p.refs
  inOrder : InOrder p
  small : ∀ i, p.references i < 2 ^ 32
  refs : ∀ i, m.refs (packetAt memblock i) = p.refs i
  calls : m.calls = p.calls.map (packetAt memblock)

section Steps

variable {memblock i : Nat} {p : SendPipeline} {m : MemoryPipeline} {memory : Nat → QueueNode}
  {action : PipelineAction}

theorem UsesHeld.byCaller (h : UsesHeld p (.pipeline action)) : HeldByCaller p action := by
  cases action with
  | release i => exact h
  | retain i => exact h.1
  | send i => exact h.1
  | _ => trivial

/-- No packet is left to nobody: the references are all there are. -/
theorem InStep.holds (h : InStep memblock p m) : p.socket.poolPackets.Holds p.references :=
  h.owned.holds.congr fun j => by
    rw [h.inOrder.claimed, List.count_nil]
    rfl

/-- One reference to a packet changes, on both sides. -/
theorem InStep.update_refs (h : InStep memblock p m) (i n j : Nat) :
    Function.update m.refs (packetAt memblock i) n (packetAt memblock j) =
      Function.update p.refs i n j := by
  by_cases hji : j = i
  · rw [hji, Function.update_self, Function.update_self]
  · rw [Function.update_of_ne fun heq => hji (h.refines.packetAt_inj heq),
      Function.update_of_ne hji]
    exact h.refs j

/-- Whoever asked has got a fresh packet, or none. -/
theorem InStep.take (h : InStep memblock p m) {o : Option Nat} {q : NetSocket} {s : SocketStruct}
    (href : Refines memblock s q q.pendingPackets)
    (hqueue : q.socketDispatchQueue = p.socket.socketDispatchQueue)
    (hpending : q.pendingPackets = p.socket.pendingPackets) (hsent : q.sent = p.socket.sent)
    (hsending : q.isSending = p.socket.isSending) (hkept : q.unclaimed = p.socket.unclaimed)
    (refs : Nat → Nat) (howned : q.Owned refs)
    (hrefs : match o with
      | none => refs = p.refs
      | some i => p.refs i = 0 ∧ i ∉ p.socket.socketDispatchQueue ∧
          i ∉ p.socket.pendingPackets ∧ refs = Function.update p.refs i (p.refs i + 1)) :
    InStep memblock { p with socket := q, refs }
      (m.take ((o.map (packetAt memblock)).getD 0, s)) := by
  have hinOrder : InOrder { p with socket := q, refs } :=
    h.inOrder.congr rfl hsent hpending hqueue hsending hkept
  cases o with
  | none =>
    subst hrefs
    refine ⟨href, howned, hinOrder, fun j => ?_, h.refs, h.calls⟩
    rw [SendPipeline.references, hqueue, hpending]
    exact h.small j
  | some i =>
    obtain ⟨hzero, hfree, hunsent, rfl⟩ := hrefs
    refine ⟨href, howned, hinOrder, fun j => ?_, fun j => ?_, h.calls⟩
    · have hsmall := h.small j
      rw [SendPipeline.references] at hsmall ⊢
      rw [hqueue, hpending]
      dsimp only
      rw [update_more]
      split
      · subst j
        rw [hzero, List.count_eq_zero.2 hfree, List.count_eq_zero.2 hunsent]
        decide
      · omega
    · show (if packetAt memblock i = 0 then m.refs else _) _ = _
      rw [if_neg (h.refines.ne_zero i)]
      dsimp only [Option.map_some, Option.getD_some]
      rw [h.refs i]
      exact h.update_refs i _ j

theorem InStep.alloc (h : InStep memblock p m) :
    ∃ p' m', pipelineStep p .alloc = some p' ∧ memoryStep memory m (.pipeline .alloc) = some m' ∧
      InStep memblock p' m' := by
  unfold memoryStep pipelineStep
  rcases refines_alloc h.refines h.owned.holds with ⟨ha, halloc⟩ | ⟨i, q, s, ha, -, halloc, href⟩
  · rw [ha, halloc]
    exact ⟨p, _, rfl, rfl, @InStep.take memblock p m h none p.socket m.socket h.refines rfl rfl rfl rfl
      rfl p.refs h.owned rfl⟩
  · have htouches := touches_alloc ha
    have hsending : q.isSending = p.socket.isSending := by
      obtain ⟨pool, -, -, rfl⟩ := netPacketAlloc_eq ha
      rfl
    obtain ⟨hzero, hqueue, hpending, howned⟩ := h.owned.alloc ha (update_more p.refs i)
    rw [ha, halloc]
    rw [← htouches.pending] at href
    exact ⟨_, _, rfl, rfl, @InStep.take memblock p m h (some i) q s href htouches.queue
      htouches.pending htouches.sent hsending htouches.unclaimed _ howned
      ⟨hzero, hqueue, hpending, rfl⟩⟩

theorem InStep.read (h : InStep memblock p m) (recvfrom : RecvFrom) :
    ∃ p' m', socketStep p (.read recvfrom) = some p' ∧
      memoryStep memory m (.read recvfrom) = some m' ∧ InStep memblock p' m' := by
  obtain ⟨s, hread, href⟩ := refines_read h.refines h.owned recvfrom
  cases hreceive : netSocketReceive p.socket recvfrom with
  | mk o q =>
    obtain ⟨hpending, hqueue, hsent, hsending, hkept, hcases⟩ := netSocketReceive_cases h.owned hreceive
    rw [hreceive] at hread href
    rw [← hpending] at href
    rw [socketStep, hreceive, memoryStep, hread]
    cases o with
    | none =>
      exact ⟨_, _, rfl, rfl, @InStep.take memblock p m h none q s href hqueue hpending hsent hsending
        hkept p.refs hcases rfl⟩
    | some i =>
      obtain ⟨hzero, hfree, hunsent, howned⟩ := hcases
      exact ⟨_, _, rfl, rfl, @InStep.take memblock p m h (some i) q s href hqueue hpending hsent
        hsending hkept _ howned ⟨hzero, hfree, hunsent, rfl⟩⟩

/-- A step of the pipeline, given what it does to the references and to the memory. -/
theorem InStep.pipeline (h : InStep memblock p m) (hheld : HeldByCaller p action)
    {p' : SendPipeline} {m' : MemoryPipeline} (hstep : pipelineStep p action = some p')
    (href : Refines memblock m'.socket p'.socket p'.socket.pendingPackets)
    (hsmall : ∀ j, p'.references j < 2 ^ 32)
    (hrefs : ∀ j, m'.refs (packetAt memblock j) = p'.refs j)
    (hcalls : m'.calls = p'.calls.map (packetAt memblock)) : InStep memblock p' m' :=
  ⟨href, pipelineStep_owned h.owned hheld hstep, pipelineStep_inOrder h.inOrder hstep, hsmall, hrefs,
    hcalls⟩

theorem InStep.fill (h : InStep memblock p m) (hok : 0 < p.references i) (contents : NetPacket) :
    ∃ p' m', pipelineStep p (.fill i contents) = some p' ∧
      memoryStep memory m (.pipeline (.fill (packetAt memblock i) contents)) = some m' ∧
      InStep memblock p' m' := by
  obtain ⟨s, hset, href⟩ := refines_setPacket h.refines
    (h.refines.lt_capacity h.holds hok) contents
  refine ⟨_, { m with socket := s }, rfl, ?_, @InStep.pipeline memblock p m (.fill i contents) h
    trivial _ _ rfl href h.small h.refs h.calls⟩
  rw [memoryStep, hset]
  rfl

theorem InStep.retain (h : InStep memblock p m) (hok : 0 < p.references i)
    (hlast : p.references i + 1 < 2 ^ 32) :
    ∃ p' m', pipelineStep p (.retain i) = some p' ∧
      memoryStep memory m (.pipeline (.retain (packetAt memblock i))) = some m' ∧
      InStep memblock p' m' := by
  obtain ⟨s, hretain, href⟩ := refines_retain h.refines h.holds hok hlast
  refine ⟨_, { m with
    socket := s, refs := Function.update m.refs (packetAt memblock i) (p.refs i + 1) }, rfl, ?_,
    @InStep.pipeline memblock p m (.retain i) h hok _ _ rfl href (fun j => ?_)
      (fun j => ?_) h.calls⟩
  · rw [memoryStep, hretain, h.refs i]
    rfl
  · have hsmall := h.small j
    rw [SendPipeline.references] at hsmall hlast ⊢
    show Function.update p.refs i (p.refs i + 1) j +
      (p.socket.socketDispatchQueue.count j + p.socket.pendingPackets.count j) < _
    rw [update_more]
    split
    · subst j
      omega
    · exact hsmall
  · dsimp only
    exact h.update_refs i (p.refs i + 1) j

theorem InStep.release (h : InStep memblock p m) (hok : 0 < p.refs i) :
    ∃ p' m', pipelineStep p (.release i) = some p' ∧
      memoryStep memory m (.pipeline (.release (packetAt memblock i))) = some m' ∧
      InStep memblock p' m' := by
  have hrefs : p.refs i ≤ p.references i := Nat.le_add_right _ _
  obtain ⟨s, hrelease, href⟩ := refines_release h.refines h.holds
    (Nat.lt_of_lt_of_le hok hrefs) (h.small i)
  refine ⟨_, { m with
    socket := s, refs := Function.update m.refs (packetAt memblock i) (p.refs i - 1) }, rfl, ?_,
    @InStep.pipeline memblock p m (.release i) h hok _ _ rfl href (fun j => ?_)
      (fun j => ?_) h.calls⟩
  · rw [memoryStep, hrelease, h.refs i]
    rfl
  · refine Nat.lt_of_le_of_lt (Nat.add_le_add_right ?_ _) (h.small j)
    dsimp only
    by_cases hji : j = i
    · rw [hji, Function.update_self]
      exact Nat.sub_le _ _
    · rw [Function.update_of_ne hji]
  · dsimp only
    exact h.update_refs i (p.refs i - 1) j

theorem InStep.send (h : InStep memblock p m) (hok : 0 < p.references i)
    (hlast : p.references i + 1 < 2 ^ 32) :
    ∃ p' m', pipelineStep p (.send i) = some p' ∧
      memoryStep memory m (.pipeline (.send (packetAt memblock i))) = some m' ∧
      InStep memblock p' m' := by
  have hqueues := queues_send p.socket i
  obtain ⟨s, hsend, href⟩ := refines_send h.refines h.holds hok hlast
  rw [← hqueues.pending] at href
  refine ⟨_, { m with
    socket := s
    calls := if 0 < (p.socket.packet i).bitstream.offset then m.calls ++ [packetAt memblock i]
      else m.calls }, rfl, ?_,
    @InStep.pipeline memblock p m (.send i) h hok _ _ rfl href (fun j => ?_) h.refs ?_⟩
  · rw [memoryStep, h.refines.packet_eq (h.refines.lt_capacity h.holds hok),
      Option.bind_eq_bind, Option.bind_some, hsend]
    rfl
  · have hsmall := h.small j
    rw [SendPipeline.references] at hsmall hlast ⊢
    show p.refs j + ((netSocketSend p.socket i).socketDispatchQueue.count j +
      (netSocketSend p.socket i).pendingPackets.count j) < _
    rw [hqueues.pending]
    rcases hqueues.queue with hqueue | hqueue
    · rw [hqueue]
      exact hsmall
    · rw [hqueue, count_concat]
      split
      · subst j
        omega
      · exact hsmall
  · show (if _ then m.calls ++ _ else m.calls) = (if _ then p.calls ++ _ else p.calls).map _
    rw [h.calls, apply_ite (List.map (packetAt memblock)), List.map_append]
    rfl

theorem InStep.socketBlock (h : InStep memblock p m) :
    ∃ p' m', pipelineStep p .socketBlock = some p' ∧
      memoryStep memory m (.pipeline .socketBlock) = some m' ∧ InStep memblock p' m' := by
  obtain ⟨s, hblock, href⟩ := refines_runBlock h.refines (memory m.socket.pendingPackets.allocated)
  refine ⟨_, { m with socket := s }, rfl, ?_, @InStep.pipeline memblock p m .socketBlock h trivial _ _
    rfl href (fun j => ?_) h.refs h.calls⟩
  · rw [memoryStep, hblock]
    rfl
  · have hsmall := h.small j
    rw [SendPipeline.references] at hsmall ⊢
    show p.refs j + ((netSocketRunBlock p.socket).socketDispatchQueue.count j +
      (netSocketRunBlock p.socket).pendingPackets.count j) < _
    unfold netSocketRunBlock
    split
    · exact hsmall
    · rename_i i rest hqueue
      rw [hqueue, count_cons] at hsmall
      dsimp only
      rw [count_concat]
      omega

theorem InStep.write (h : InStep memblock p m) :
    ∃ p' m', pipelineStep p .write = some p' ∧
      memoryStep memory m (.pipeline .write) = some m' ∧ InStep memblock p' m' := by
  obtain ⟨s, hwrite, href⟩ := refines_writeEvent h.refines h.owned h.inOrder.claimed h.small
  refine ⟨_, { m with socket := s }, rfl, ?_, @InStep.pipeline memblock p m .write h trivial _ _ rfl
    href (fun j => ?_) h.refs h.calls⟩
  · rw [memoryStep, hwrite]
    rfl
  · have hsmall := h.small j
    rw [SendPipeline.references] at hsmall ⊢
    show p.refs j + ((netSocketWriteEvent p.socket).socketDispatchQueue.count j +
      (netSocketWriteEvent p.socket).pendingPackets.count j) < _
    unfold netSocketWriteEvent
    split
    · obtain ⟨hqueue, hpending, -⟩ := netSocketFlush_queues p.socket.pendingPackets
        { p.socket with pendingPackets := [] }
      dsimp only
      rw [hqueue, hpending, List.count_nil]
      dsimp only
      omega
    · exact hsmall

/-- **Every step in memory is the step on numbers**, and does not fault. -/
theorem InStep.step (h : InStep memblock p m) {action : SocketAction} (hok : UsesHeld p action) :
    ∃ p' m', socketStep p action = some p' ∧
      memoryStep memory m (action.at memblock) = some m' ∧ InStep memblock p' m' := by
  cases action with
  | read recvfrom => exact h.read recvfrom
  | pipeline action =>
    cases action with
    | alloc => exact h.alloc
    | fill i contents => exact h.fill hok contents
    | retain i => exact h.retain hok.1 hok.2
    | release i => exact h.release hok
    | send i => exact h.send hok.1 hok.2
    | socketBlock => exact h.socketBlock
    | write => exact h.write

end Steps

/-! ## Runs -/

section Runs

variable {memblock : Nat}

theorem inStep_create {s : SocketStruct} {memory : Nat → Vector UInt8 kNetPacketMaxLen}
    (href : Refines memblock s (netSocketCreate fun i => memory (packetAt memblock i)) []) :
    InStep memblock (pipelineCreate fun i => memory (packetAt memblock i)) ⟨s, fun _ => 0, []⟩ where
  refines := href
  owned := netSocketCreate_owned _
  inOrder := ⟨rfl, fun hne => absurd rfl hne, rfl⟩
  small := fun _ => Nat.two_pow_pos 32
  refs := fun _ => rfl
  calls := rfl

variable (hmemblock : 0 < memblock)
include hmemblock

theorem refines_create (nodes : Nat → PoolNode) (memory : Nat → Vector UInt8 kNetPacketMaxLen) :
    ∃ s, netSocketCreateAt memblock nodes memory = some s ∧
      Refines memblock s (netSocketCreate fun i => memory (packetAt memblock i)) [] := by
  set p : PoolStruct :=
    ⟨memblock, memblock + 64 * (kNetPacketSize + kPoolNodeSize), kNetPacketSize,
      kNetPacketSize + kPoolNodeSize, 64, 0, 0, nodes⟩ with hp
  have hformed : p.Formed := ⟨hmemblock, rfl, rfl⟩
  have hsmall : p.capacity < 2 ^ 31 := (by decide : 64 < 2 ^ 31)
  obtain ⟨pool, hweave, hsame, hrep⟩ := represents_weave hformed hsmall rfl rfl
  refine ⟨_, by rw [netSocketCreateAt, show PoolStruct.poolCreate memblock nodes kNetPacketSize
    kNetPacketPoolCapacity = some pool from hweave]; rfl, hrep, hsame.objectAt, fun _ _ => rfl, rfl,
    ⟨[], [], QueueStruct.linked_create, rfl⟩, rfl, rfl⟩

/-- **The socket in memory refines the socket**: while callers use what is held, no run of sends,
blocks, write events and read events faults, and its packets and queues are those of the run on
numbers. What was handed to `sendto`, what is linked in the pending queue and the push blocks still
to run are the calls of `net_socket_send`, and the free list of the pool threads the packets that
nobody references. -/
theorem socket_refines (nodes : Nat → PoolNode) (memory : Nat → Vector UInt8 kNetPacketMaxLen)
    (queueMemory : Nat → QueueNode) {actions : List SocketAction}
    (hok : Along socketStep UsesHeld (pipelineCreate fun i => memory (packetAt memblock i))
      actions) :
    ∃ s p m, netSocketCreateAt memblock nodes memory = some s ∧
      run socketStep (pipelineCreate fun i => memory (packetAt memblock i)) actions = some p ∧
      run (memoryStep queueMemory) ⟨s, fun _ => 0, []⟩ (actions.map (.at memblock)) = some m ∧
      Refines memblock m.socket p.socket p.socket.pendingPackets ∧
      (∃ enqueued,
        Chain 0 m.socket.pendingPackets.next m.socket.pendingPackets.head enqueued ∧
        m.socket.sent.map Prod.fst ++ enqueued.map m.socket.pendingPackets.object ++
          m.socket.socketDispatchQueue = m.calls) ∧
      ∃ free : List Nat, Chain 0 (fun addr => (m.socket.poolPackets.nodes addr).next)
          m.socket.poolPackets.freeList (free.map m.socket.poolPackets.nodeAt) ∧
        ∀ i, i ∈ free ↔ i < kNetPacketPoolCapacity ∧ p.references i = 0 := by
  obtain ⟨s, hcreate, href⟩ := refines_create hmemblock nodes memory
  have hstep : ∀ p m action, InStep memblock p m → UsesHeld p action → ∃ p' m',
      socketStep p action = some p' ∧ memoryStep queueMemory m (action.at memblock) = some m' ∧
        InStep memblock p' m' := fun _ _ _ h hok => h.step hok
  obtain ⟨p, m, hp, hm, h⟩ := run_simulates (inStep_create href) hstep hok
  refine ⟨s, p, m, hcreate, hp, hm, h.refines, ?_, ?_⟩
  · obtain ⟨enqueued, reserved, hlinked, hobjects⟩ := h.refines.pending
    refine ⟨enqueued, hlinked.forwards, ?_⟩
    rw [h.calls, ← h.inOrder.order, hobjects, h.refines.sent, h.refines.queue, List.map_append,
      List.map_append, List.map_map, List.map_map]
    rfl
  · refine ⟨p.socket.poolPackets.freeList, h.refines.pool.freeList, fun i => ?_⟩
    rw [h.holds.free i, h.owned.capacity]

end Runs

instance (p : SendPipeline) : DecidablePred (UsesHeld p)
  | .pipeline (.fill i _) => inferInstanceAs (Decidable (0 < p.references i))
  | .pipeline (.release i) => inferInstanceAs (Decidable (0 < p.refs i))
  | .pipeline (.retain i) | .pipeline (.send i) =>
    inferInstanceAs (Decidable (0 < p.references i ∧ p.references i + 1 < 2 ^ 32))
  | .pipeline .alloc | .pipeline .socketBlock | .pipeline .write | .read _ => .isTrue trivial

/-- A datagram of one byte is answered in its own packet. -/
def echoed : List SocketAction :=
  [.read (.datagram ⟨.zeroed, [7], .none⟩),
    .pipeline (.fill 0 ⟨.zeroed, 0, ⟨List.replicate 256 7, 1, 256⟩, .none⟩), .pipeline (.send 0),
    .pipeline (.release 0), .pipeline .socketBlock, .pipeline .write, .read .error]

theorem socket_refines_echoed : ∃ s m,
    netSocketCreateAt 4096 (fun _ => ⟨0, 0, 0⟩) (fun _ => Vector.replicate _ 0) = some s ∧
    run (memoryStep fun _ => ⟨0, 0⟩) ⟨s, fun _ => 0, []⟩ (echoed.map (.at 4096)) = some m := by
  have hok : Along socketStep UsesHeld (pipelineCreate fun _ => Vector.replicate _ 0) echoed := by
    decide +kernel
  obtain ⟨s, p, m, hs, -, hm, -⟩ := @socket_refines 4096 (by decide) (fun _ => ⟨0, 0, 0⟩)
    (fun _ => Vector.replicate _ 0) (fun _ => ⟨0, 0⟩) echoed hok
  exact ⟨s, m, hs, hm⟩

end UniversalNetwork
