import UniversalNetwork.NetSocket.Ownership
import UniversalNetwork.Transaction.Moves
import Mathlib.Data.List.Perm.Basic

/-!
# Who holds the packets of a configuration

The owners of packets outside the socket are the live transactions, the packets that wait for the
receive callback, the queued blocks, and the responses that were lost. `config.Owns others`: these
owners, and whoever else holds packets of the socket (`others`), account for every reference the pool
counts. `Holding config extra` is that for a socket of its own, with the code that is running
(`extra`); a packet has one owner at a time; and a received packet is never queued for sending.

`transactionStep_owns`: one step leaves the others alone. `transactionStep_held`: one step keeps
`Holding`, and does one of four things to the packets received (`HeldStep`).
-/

namespace UniversalNetwork

open Lib

/-- The packet a block was queued for, with its receipt. -/
def Block.packet : Block → Option (Nat × Nat)
  | .response packet _ receipt | .request packet _ receipt => some (packet, receipt)
  | _ => none

namespace TransactionConfiguration

variable (config : TransactionConfiguration)

/-- The packets whose callback has not run, or that a block was queued for. -/
def pending : List (Nat × Nat) :=
  config.received ++ config.transactionsDispatchQueue.filterMap Block.packet

def held : List (Nat × Nat) := config.pending ++ config.lost

/-- The packets of the live transactions. -/
def packets : List Nat := config.heap.filterMap (Option.map Transaction.packet)

def owners : List Nat := config.packets ++ config.held.map Prod.fst

/-- The references of the owners and of the others are those the pool counts. -/
def Owns (others : Nat → Nat) : Prop :=
  config.socket.Owned fun i => others i + config.owners.count i

end TransactionConfiguration

structure Holding (config : TransactionConfiguration) (extra : List Nat) : Prop where
  owned : config.socket.Owned fun i => (extra ++ config.owners).count i
  nodup : (extra ++ config.owners).Nodup
  unsent : ∀ i ∈ extra ++ config.held.map Prod.fst,
    i ∉ config.socket.socketDispatchQueue ∧ i ∉ config.socket.pendingPackets

/-! ## Owners after a change -/

section Owners

variable {config config' : TransactionConfiguration} {t : Nat} {transaction : Transaction}

theorem heap_perm (h : config.live t = some transaction) :
    (some transaction :: config.heap.eraseIdx t).Perm config.heap :=
  perm_of_getElem? (live_eq_some.1 h)

/-- The packet of a transaction that is freed is no longer among them. -/
theorem packets_free (h : config.live t = some transaction)
    (hheap : config'.heap = config.heap.set t none) :
    (transaction.packet :: config'.packets).Perm config.packets := by
  have hset := List.set_perm_cons_eraseIdx (live_lt h) none
  have hpackets := hset.filterMap (Option.map Transaction.packet)
  have hsame := (heap_perm h).filterMap (Option.map Transaction.packet)
  rw [TransactionConfiguration.packets, hheap]
  exact (hpackets.cons transaction.packet).trans hsame

theorem packets_update (h : config.live t = some transaction) {transaction' : Transaction}
    (hheap : config'.heap = config.heap.set t (some transaction'))
    (hpacket : transaction'.packet = transaction.packet) :
    config'.packets.Perm config.packets := by
  have hset := List.set_perm_cons_eraseIdx (live_lt h) (some transaction')
  have hpackets := hset.filterMap (Option.map Transaction.packet)
  have hsame := (heap_perm h).filterMap (Option.map Transaction.packet)
  rw [TransactionConfiguration.packets, hheap]
  refine hpackets.trans (List.Perm.trans ?_ hsame)
  simp [hpacket]

theorem mem_packets (h : config.live t = some transaction) : transaction.packet ∈ config.packets :=
  List.mem_filterMap.2 ⟨some transaction, List.mem_of_getElem? (live_eq_some.1 h), rfl⟩

theorem pending_taken {i packet receipt : Nat}
    (h : config.received[i]? = some (packet, receipt)) :
    ((packet, receipt) :: (config.taken i).pending).Perm config.pending :=
  (perm_of_getElem? h).append_right _

theorem pending_popped {block : Block} {rest : List Block} {packet receipt : Nat}
    (h : config.transactionsDispatchQueue = block :: rest)
    (hblock : block.packet = some (packet, receipt)) :
    ((packet, receipt) :: (config.popped rest).pending).Perm config.pending := by
  rw [TransactionConfiguration.pending, TransactionConfiguration.pending, h,
    List.filterMap_cons_some hblock]
  exact List.perm_middle.symm

theorem held_dispatch {block : Block} (hblock : block.packet = none) :
    (config.dispatch block).held = config.held := by
  show (config.received ++ (config.transactionsDispatchQueue ++ [block]).filterMap _) ++ _ = _
  rw [List.filterMap_append, List.filterMap_cons_none hblock, List.filterMap_nil, List.append_nil]
  rfl

theorem held_skipped {block : Block} {rest : List Block}
    (hqueue : config.transactionsDispatchQueue = block :: rest) (hblock : block.packet = none) :
    (config.popped rest).held = config.held := by
  unfold TransactionConfiguration.held TransactionConfiguration.pending
  rw [hqueue, List.filterMap_cons_none hblock]
  rfl

theorem held_retained {block : Block} {packet receipt : Nat}
    (hblock : block.packet = some (packet, receipt)) :
    ((config.retained packet receipt block).released packet receipt).held.Perm
      ((packet, receipt) :: config.held) := by
  show ((config.received ++ (config.transactionsDispatchQueue ++ [block]).filterMap Block.packet) ++
    config.lost).Perm _
  rw [List.filterMap_append, List.filterMap_cons_some hblock, List.filterMap_nil,
    ← List.append_assoc, List.append_assoc _ [(packet, receipt)] config.lost]
  exact List.perm_middle

theorem held_read (config : TransactionConfiguration) (packet : Nat) (socket : NetSocket)
    (tag : Tag) :
    (config.read packet socket tag).held.Perm ((packet, config.receipts) :: config.held) := by
  show ((config.received ++ [(packet, config.receipts)] ++ _) ++ config.lost).Perm _
  rw [List.append_assoc, List.append_assoc, List.singleton_append]
  refine List.perm_middle.trans ?_
  rw [← List.append_assoc]
  rfl

/-- A received packet is taken from where it was. -/
theorem owners_taken {packet receipt : Nat} (hheap : config'.heap = config.heap)
    (hheld : ((packet, receipt) :: config'.held).Perm config.held) :
    (packet :: config'.owners).Perm config.owners := by
  rw [TransactionConfiguration.owners, TransactionConfiguration.owners,
    TransactionConfiguration.packets, hheap]
  exact List.perm_middle.symm.trans ((hheld.map Prod.fst).append_left _)

theorem owners_requested (config : TransactionConfiguration) (packet : Nat) (socket : NetSocket)
    (addr : NetAddr) (object : TransactionObject) :
    (config.requested packet socket addr object).owners.Perm (packet :: config.owners) := by
  have hheld : (config.requested packet socket addr object).held = config.held :=
    @held_dispatch _ (.insert config.heap.length) rfl
  rw [TransactionConfiguration.owners, hheld, TransactionConfiguration.packets]
  show ((config.heap ++ [_]).filterMap _ ++ _).Perm _
  rw [List.filterMap_append, List.append_assoc]
  exact List.perm_middle

theorem owners_retried (h : config.live t = some transaction) :
    (config.retried t transaction).owners.Perm config.owners :=
  (@packets_update config (config.retried t transaction) t transaction h _ rfl rfl).append_right _

end Owners

/-! ## References -/

section Owns

variable {config config' : TransactionConfiguration} {others others' : Nat → Nat} {packet : Nat}

theorem TransactionConfiguration.Owns.perm (h : config.Owns others)
    (hsocket : config'.socket = config.socket) (howners : config'.owners.Perm config.owners) :
    config'.Owns others := by
  unfold TransactionConfiguration.Owns
  rw [hsocket]
  refine NetSocket.Owned.congr h fun i => ?_
  rw [howners.count_eq]

/-- The code that runs takes a packet from its owner. -/
theorem TransactionConfiguration.Owns.taken (h : config.Owns others)
    (hsocket : config'.socket = config.socket)
    (howners : (packet :: config'.owners).Perm config.owners) :
    config'.Owns fun i => others i + if i = packet then 1 else 0 := by
  unfold TransactionConfiguration.Owns
  rw [hsocket]
  refine NetSocket.Owned.congr h fun i => ?_
  have hcount := howners.count_eq i
  rw [count_cons] at hcount
  dsimp only
  omega

theorem TransactionConfiguration.Owns.released
    (h : config.Owns fun i => others i + if i = packet then 1 else 0) (receipt : Nat) :
    (config.released packet receipt).Owns others := by
  refine NetSocket.Owned.release h fun i => ?_
  show others i + _ + _ = others i + config.owners.count i + _
  omega

/-- A packet that was retained for a block has changed hands after its release. -/
theorem TransactionConfiguration.Owns.kept
    (h : config.Owns fun i => others i + if i = packet then 1 else 0) {block : Block} {receipt : Nat}
    (hblock : block.packet = some (packet, receipt)) :
    ((config.retained packet receipt block).released packet receipt).Owns others := by
  have howners := @owners_taken ((config.retained packet receipt block).released packet
    receipt) config _ _ rfl (held_retained hblock).symm
  have hretain := NetSocket.Owned.retain h (i := packet) (by simp only [if_pos]; omega) fun j => rfl
  refine (hretain.release fun j => rfl).congr fun j => ?_
  rw [← howners.count_eq, count_cons]
  dsimp only
  omega

/-- Work with a fresh packet that is given back at once, and may be queued for sending. -/
theorem TransactionConfiguration.Owns.answered (h : config.Owns others) {reply : Nat}
    {s₁ s₂ : NetSocket} (ha : netPacketAlloc config.socket = some (reply, s₁)) {op : BitM Unit}
    (hop : s₁.onBitstream reply op = some ((), s₂)) (packet : Nat) :
    (config.answered packet reply s₂).Owns others :=
  (NetSocket.Owned.sendFresh h ha hop _ _ fun _ => rfl).release fun _ => rfl

theorem TransactionConfiguration.Owns.freed (h : config.Owns others) {t : Nat}
    {transaction : Transaction} (hlive : config.live t = some transaction)
    (hsocket : config'.socket = netPacketRelease config.socket transaction.packet)
    (hheap : config'.heap = config.heap.set t none) (hheld : config'.held = config.held) :
    config'.Owns others := by
  have howners : (transaction.packet :: config'.owners).Perm config.owners := by
    rw [TransactionConfiguration.owners, TransactionConfiguration.owners, hheld]
    exact (packets_free hlive hheap).append_right _
  unfold TransactionConfiguration.Owns
  rw [hsocket]
  refine NetSocket.Owned.release h fun i => ?_
  rw [← howners.count_eq, count_cons]
  omega

theorem TransactionConfiguration.Owns.requested (h : config.Owns others) {s₁ s₂ : NetSocket}
    (ha : netPacketAlloc config.socket = some (packet, s₁)) {op : BitM Unit}
    (hop : s₁.onBitstream packet op = some ((), s₂)) (addr : NetAddr) (object : TransactionObject) :
    (config.requested packet s₂ addr object).Owns others := by
  obtain ⟨-, -, -, howned⟩ := NetSocket.Owned.alloc h ha fun _ => rfl
  refine ((howned.onBitstream hop).setPacket packet _).congr fun i => ?_
  rw [(owners_requested config packet s₂ addr object).count_eq, count_cons]
  omega

theorem TransactionConfiguration.Owns.sentOff (h : config.Owns others) {t : Nat}
    {transaction : Transaction} (hlive : config.live t = some transaction) (addr : NetAddr) :
    (config.sentOff t transaction addr).Owns others := by
  have hpos : 0 < config.owners.count transaction.packet :=
    List.count_pos_iff.2 (List.mem_append_left _ (mem_packets hlive))
  have haddr := NetSocket.Owned.setPacket h transaction.packet
    (netPacketAddr (config.socket.packet transaction.packet) addr)
  exact haddr.send (i := transaction.packet) (by omega)

theorem TransactionConfiguration.Owns.read (h : config.Owns others) {datagram : Datagram}
    {socket : NetSocket} (hread : netSocketReadEvent config.socket datagram = some (packet, socket))
    (tag : Tag) : (config.read packet socket tag).Owns others := by
  obtain ⟨s₁, ha, rfl⟩ := netSocketReadEvent_eq hread
  obtain ⟨-, -, -, howned⟩ := NetSocket.Owned.alloc h ha fun j => rfl
  have howners := @owners_taken (config.read packet (s₁.setPacket packet
    ((config.socket.packet packet).store datagram)) tag) config _ _ rfl (held_read _ _ _ _).symm
  refine (howned.setPacket packet _).congr fun j => ?_
  rw [← howners.count_eq, count_cons]
  omega

theorem TransactionConfiguration.Owns.retried (h : config.Owns others) {t : Nat}
    {transaction : Transaction} (hlive : config.live t = some transaction) :
    (config.retried t transaction).Owns others := by
  have hpos : 0 < config.owners.count transaction.packet :=
    List.count_pos_iff.2 (List.mem_append_left _ (mem_packets hlive))
  refine (NetSocket.Owned.send h (i := transaction.packet) (by omega)).congr fun j => ?_
  rw [(owners_retried hlive).count_eq]

theorem TransactionConfiguration.Owns.sameHeld (h : config.Owns others)
    (hsocket : config'.socket = config.socket) (hpackets : config'.packets.Perm config.packets)
    (hheld : config'.held.Perm config.held) : config'.Owns others :=
  h.perm hsocket (hpackets.append (hheld.map Prod.fst))

end Owns

/-! ## Rules -/

section Rules

variable {config config' : TransactionConfiguration} {extra extra' : List Nat}

theorem Holding.owns (h : Holding config extra) : config.Owns fun i => extra.count i :=
  h.owned.congr fun _ => List.count_append.symm

theorem Holding.owns_running {packet : Nat} (h : Holding config [packet]) :
    config.Owns fun i => [].count i + if i = packet then 1 else 0 :=
  NetSocket.Owned.congr h.owns fun i => congrArg (· + config.owners.count i) (count_cons [] _ i).symm

theorem TransactionConfiguration.Owns.owned (h : config.Owns fun i => extra.count i) :
    config.socket.Owned fun i => (extra ++ config.owners).count i :=
  NetSocket.Owned.congr h fun _ => List.count_append

/-- The references change hands. -/
theorem Holding.perm (h : Holding config extra) (hsocket : config'.socket = config.socket)
    (howners : (extra' ++ config'.owners).Perm (extra ++ config.owners))
    (hheld : (extra' ++ config'.held.map Prod.fst) ⊆ (extra ++ config.held.map Prod.fst)) :
    Holding config' extra' where
  owned := by
    rw [hsocket]
    exact h.owned.congr fun j => howners.count_eq j
  nodup := howners.nodup_iff.2 h.nodup
  unsent := fun i hi => by
    rw [hsocket]
    exact h.unsent i (hheld hi)

/-- The socket works without changing the references of its users. -/
theorem Holding.onSocket (h : Holding config extra) {socket : NetSocket}
    (howned : socket.Owned fun i => (extra ++ config.owners).count i)
    (hunsent : ∀ i ∈ extra ++ config.held.map Prod.fst,
      i ∉ socket.socketDispatchQueue ∧ i ∉ socket.pendingPackets) :
    Holding (config.onSocket socket) extra :=
  ⟨howned, h.nodup, hunsent⟩

theorem Holding.note (h : Holding config extra) (es : List Event) :
    Holding (config.note es) extra :=
  ⟨h.owned, h.nodup, h.unsent⟩

theorem Holding.onBitstream (h : Holding config extra) {socket : NetSocket} {i : Nat} {α : Type}
    {op : BitM α} {a : α} (hop : config.socket.onBitstream i op = some (a, socket)) :
    Holding (config.onSocket socket) extra := by
  have htouch := touches_onBitstream hop
  refine h.onSocket (h.owned.onBitstream hop) ?_
  rw [htouch.queue, htouch.pending]
  exact h.unsent

theorem Holding.taken (h : Holding config []) {packet receipt : Nat}
    (hsocket : config'.socket = config.socket) (hheap : config'.heap = config.heap)
    (hheld : ((packet, receipt) :: config'.held).Perm config.held) : Holding config' [packet] :=
  h.perm hsocket (owners_taken hheap hheld) (hheld.map Prod.fst).subset

theorem Holding.released {packet : Nat} (h : Holding config [packet]) (receipt : Nat) :
    Holding (config.released packet receipt) [] ∧
      packet ∈ (config.released packet receipt).socket.poolPackets.freeList := by
  have hnot : packet ∉ config.owners := (List.nodup_cons.1 h.nodup).1
  have hunsent := h.unsent packet List.mem_cons_self
  refine ⟨⟨h.owned.release fun j => count_cons _ _ _, (List.nodup_cons.1 h.nodup).2,
    fun i hi => h.unsent i (List.mem_cons_of_mem _ hi)⟩, ?_⟩
  refine h.owned.release_free ?_ hunsent.1 hunsent.2
  rw [List.singleton_append, List.count_cons_self, List.count_eq_zero.2 hnot]

theorem Holding.kept {packet receipt : Nat} (h : Holding config [packet]) {block : Block}
    (hblock : block.packet = some (packet, receipt)) :
    Holding ((config.retained packet receipt block).released packet receipt) [] := by
  have howners := @owners_taken ((config.retained packet receipt block).released packet
    receipt) config _ _ rfl (held_retained hblock).symm
  refine ⟨(h.owns_running.kept hblock).owned, howners.nodup_iff.1 h.nodup, fun i hi => ?_⟩
  refine h.unsent i ?_
  exact ((held_retained hblock).map Prod.fst).subset hi

theorem Holding.answered (h : Holding config extra) {reply : Nat} {s₁ s₂ : NetSocket}
    (ha : netPacketAlloc config.socket = some (reply, s₁)) {op : BitM Unit}
    (hop : s₁.onBitstream reply op = some ((), s₂)) (packet : Nat) :
    Holding (config.answered packet reply s₂) extra := by
  have hfresh := (h.owned.alloc ha fun j => rfl).1
  refine h.onSocket (h.owns.answered ha hop packet).owned ?_
  intro i hi
  have hne : i ≠ reply := by
    rintro rfl
    have hmem : i ∈ extra ++ config.owners := by
      rcases List.mem_append.1 hi with hi | hi
      · exact List.mem_append_left _ hi
      · exact List.mem_append_right _ (List.mem_append_right _ hi)
    exact List.count_eq_zero.1 hfresh hmem
  exact (queues_sendFresh ha hop _ _).unsent hne (h.unsent i hi)

theorem Holding.freed (h : Holding config extra) {t : Nat} {transaction : Transaction}
    (hlive : config.live t = some transaction)
    (hsocket : config'.socket = netPacketRelease config.socket transaction.packet)
    (hheap : config'.heap = config.heap.set t none) (hheld : config'.held = config.held) :
    Holding config' extra := by
  have howners : (transaction.packet :: (extra ++ config'.owners)).Perm
      (extra ++ config.owners) := by
    refine List.perm_middle.symm.trans (List.Perm.append_left _ ?_)
    rw [TransactionConfiguration.owners, TransactionConfiguration.owners, hheld]
    exact (packets_free hlive hheap).append_right _
  refine ⟨(h.owns.freed hlive hsocket hheap hheld).owned, ?_, ?_⟩
  · exact (List.nodup_cons.1 (howners.nodup_iff.2 h.nodup)).2
  · rw [hsocket, hheld]
    exact h.unsent

theorem Holding.requested (h : Holding config []) {packet : Nat} {s₁ s₂ : NetSocket}
    (ha : netPacketAlloc config.socket = some (packet, s₁)) {op : BitM Unit}
    (hop : s₁.onBitstream packet op = some ((), s₂)) (addr : NetAddr)
    (object : TransactionObject) : Holding (config.requested packet s₂ addr object) [] := by
  have hfresh := (h.owned.alloc ha fun j => rfl).1
  have hnot : packet ∉ config.owners := List.count_eq_zero.1 hfresh
  have hheld : (config.requested packet s₂ addr object).held = config.held :=
    @held_dispatch _ (.insert config.heap.length) rfl
  have howners := owners_requested config packet s₂ addr object
  have htouch := ((touches_alloc ha).trans (touches_onBitstream hop)).trans (touches_setPacket _ _
    { s₂.packet packet with tag := .request config.agent config.heap.length })
  refine ⟨(h.owns.requested ha hop addr object).owned,
    howners.nodup_iff.2 (List.nodup_cons.2 ⟨hnot, h.nodup⟩), fun i hi => ?_⟩
  rw [hheld] at hi
  show i ∉ (s₂.setTag packet _).socketDispatchQueue ∧ i ∉ (s₂.setTag packet _).pendingPackets
  rw [NetSocket.setTag, htouch.queue, htouch.pending]
  exact h.unsent i hi

/-- The packet of a transaction is nobody else's. -/
theorem Holding.own (h : Holding config []) {t : Nat} {transaction : Transaction}
    (hlive : config.live t = some transaction) {i : Nat} (hi : i ∈ config.held.map Prod.fst) :
    i ≠ transaction.packet := by
  rintro rfl
  have hnodup : (config.packets ++ config.held.map Prod.fst).Nodup := h.nodup
  exact (List.nodup_append.1 hnodup).2.2 _ (mem_packets hlive) _ hi rfl

theorem Holding.sentOff (h : Holding config []) {t : Nat} {transaction : Transaction}
    (hlive : config.live t = some transaction) (addr : NetAddr) :
    Holding (config.sentOff t transaction addr) [] := by
  refine ⟨(h.owns.sentOff hlive addr).owned, h.nodup, fun i hi => ?_⟩
  have hqueues := (touches_setPacket config.socket transaction.packet (netPacketAddr
    (config.socket.packet transaction.packet) addr)).queues (queues_send _ transaction.packet)
  exact hqueues.unsent (h.own hlive hi) (h.unsent i hi)

theorem Holding.read (h : Holding config []) {datagram : Datagram} {packet : Nat}
    {socket : NetSocket} (hread : netSocketReadEvent config.socket datagram = some (packet, socket))
    (tag : Tag) : Holding (config.read packet socket tag) [] := by
  have howns := h.owns.read hread tag
  obtain ⟨s₁, ha, rfl⟩ := netSocketReadEvent_eq hread
  obtain ⟨hfresh, hqueue, hpending, -⟩ := h.owned.alloc ha fun j => rfl
  have htouch := touches_alloc ha
  have hnot : packet ∉ config.owners := List.count_eq_zero.1 hfresh
  have hheld := held_read config packet (s₁.setPacket packet
    ((config.socket.packet packet).store datagram)) tag
  have howners := @owners_taken (config.read packet _ tag) config _ _ rfl hheld.symm
  refine ⟨howns.owned, howners.nodup_iff.1 (List.nodup_cons.2 ⟨hnot, h.nodup⟩), fun j hj => ?_⟩
  show j ∉ s₁.socketDispatchQueue ∧ j ∉ s₁.pendingPackets
  rw [htouch.queue, htouch.pending]
  rcases List.mem_cons.1 ((hheld.map Prod.fst).subset hj) with rfl | hj
  · exact ⟨hqueue, hpending⟩
  · exact h.unsent j hj

theorem Holding.retried (h : Holding config []) {t : Nat} {transaction : Transaction}
    (hlive : config.live t = some transaction) : Holding (config.retried t transaction) [] := by
  refine ⟨(h.owns.retried hlive).owned, (owners_retried hlive).nodup_iff.2 h.nodup,
    fun i hi => ?_⟩
  exact (queues_send _ _).unsent (h.own hlive hi) (h.unsent i hi)

theorem Holding.unread (h : Holding config []) {socket : NetSocket}
    (hunread : Unread config.socket socket) : Holding (config.onSocket socket) [] := by
  refine h.onSocket (hunread.owned _ h.owned) fun i hi => ?_
  rw [hunread.queue, hunread.pending]
  exact h.unsent i hi

end Rules

/-! ## Steps -/

section Steps

variable {config config' : TransactionConfiguration} {action : TransactionAction}

theorem holding_setup (agent : Agent) (memory : Nat → Vector UInt8 kNetPacketMaxLen)
    (receiveCallback errorCallback : Bool) :
    Holding (transactionSetup agent memory receiveCallback errorCallback) [] where
  owned := netSocketCreate_owned memory
  nodup := List.nodup_nil
  unsent := fun _ h => by cases h

theorem Holding.sameHeld (h : Holding config []) (hsocket : config'.socket = config.socket)
    (hpackets : config'.packets.Perm config.packets) (hheld : config'.held = config.held) :
    Holding config' [] := by
  refine h.perm hsocket ?_ ?_
  · rw [TransactionConfiguration.owners, hheld]
    exact hpackets.append_right _
  · rw [hheld]
    exact List.Subset.refl _

/-- A block without a packet leaves the queue. -/
theorem Holding.popped (h : Holding config []) {block : Block} {rest : List Block}
    (hqueue : config.transactionsDispatchQueue = block :: rest) (hblock : block.packet = none) :
    Holding (config.popped rest) [] := by
  exact h.sameHeld rfl (.refl _) (held_skipped hqueue hblock)

theorem held_popped {block : Block} {rest : List Block} {packet receipt : Nat}
    (hqueue : config.transactionsDispatchQueue = block :: rest)
    (hblock : block.packet = some (packet, receipt)) :
    ((packet, receipt) :: (config.popped rest).held).Perm config.held :=
  (pending_popped hqueue hblock).append_right _

theorem held_lost {packet id receipt : Nat} {rest : List Block}
    (hqueue : config.transactionsDispatchQueue = .response packet id receipt :: rest) :
    ((config.popped rest).dropped packet receipt).held.Perm config.held := by
  refine List.Perm.trans ?_ (held_popped hqueue rfl)
  show ((config.popped rest).pending ++ (config.lost ++ [(packet, receipt)])).Perm _
  rw [← List.append_assoc]
  exact List.perm_append_comm

theorem plain_packet {block : Block} (h : block.plain) : block.packet = none := by
  cases block <;> first | rfl | cases h

theorem receivedBlock_packet {packet receipt : Nat} {id type : UInt32} {block : Block}
    (h : receivedBlock packet receipt id type = some block) :
    block.packet = some (packet, receipt) := by
  unfold receivedBlock at h
  split at h
  · obtain rfl := Option.some.inj h
    rfl
  split at h
  · obtain rfl := Option.some.inj h
    rfl
  · cases h

/-! ### References -/

/-- **One step** of the configuration, whoever else holds packets of the socket. -/
theorem transactionStep_owns {others : Nat → Nat} (h : config.Owns others)
    (hstep : transactionStep config action = some config') : config'.Owns others := by
  cases transactionStep_move hstep with
  | idle hqueue => exact h
  | dispatched haction hplain =>
    exact h.sameHeld rfl (.refl _) (.of_eq (held_dispatch (plain_packet hplain)))
  | requested halloc hpack => exact h.requested halloc hpack _ _
  | sentOff hcall hlive => exact h.sentOff hlive _
  | armed hcall hlive => exact h.sameHeld rfl (packets_update hlive rfl rfl) (.refl _)
  | read hlength hread => exact h.read hread _
  | unread hread hunread => exact hunread.owned _ h
  | @ignored i packet receipt socket hreceived hread =>
    have hheld : ((packet, receipt) :: (config.taken i).held).Perm config.held :=
      (pending_taken hreceived).append_right _
    have htaken : (config.taken i).Owns _ := h.taken rfl (owners_taken rfl hheld)
    have hsocket : ((config.taken i).onSocket socket).Owns
        fun j => others j + if j = packet then 1 else 0 := by
      rcases hread with rfl | ⟨header, hread⟩
      · exact htaken
      · exact NetSocket.Owned.onBitstream htaken hread
    exact hsocket.released receipt
  | @retained i packet receipt _ _ socket block hreceived hread hblock =>
    have hheld : ((packet, receipt) :: (config.taken i).held).Perm config.held :=
      (pending_taken hreceived).append_right _
    have htaken : (config.taken i).Owns _ := h.taken rfl (owners_taken rfl hheld)
    have hsocket : ((config.taken i).onSocket socket).Owns _ :=
      NetSocket.Owned.onBitstream htaken hread
    exact hsocket.kept (receivedBlock_packet hblock)
  | inserted hqueue hlive => exact h.sameHeld rfl (.refl _) (.of_eq (held_skipped hqueue rfl))
  | lost hqueue hsearch => exact h.sameHeld rfl (.refl _) (held_lost hqueue)
  | @responded packet id receipt t rest transaction result responseType socket hqueue hsearch hlive
      hread =>
    have htaken : (config.popped rest).Owns _ :=
      h.taken rfl (owners_taken rfl (held_popped hqueue rfl))
    have hsocket : (((config.popped rest).onSocket socket).note [.response t responseType]).Owns _ :=
      NetSocket.Owned.onBitstream htaken hread
    have hfreed : ((((config.popped rest).onSocket socket).note [.response t responseType]).completed t
        transaction (responseState responseType)).Owns _ := hsocket.freed hlive rfl rfl rfl
    exact hfreed.released receipt
  | @served packet id receipt reply rest s₁ s₂ s₃ result object hqueue halloc hpack hread =>
    have htaken : (config.popped rest).Owns _ :=
      h.taken rfl (owners_taken rfl (held_popped hqueue rfl))
    have hsocket : (((config.popped rest).answered packet reply s₂).onSocket s₃).Owns _ :=
      NetSocket.Owned.onBitstream (htaken.answered halloc hpack packet) hread
    exact hsocket.released receipt
  | @retried id t rest transaction hqueue hsearch hlive hstate hretries =>
    have hpopped : (config.popped rest).Owns others :=
      h.sameHeld rfl (.refl _) (.of_eq (held_skipped hqueue rfl))
    exact hpopped.retried hlive
  | @timedOut id t rest transaction hqueue hsearch hlive hstate hretries =>
    have hpopped : (config.popped rest).Owns others :=
      h.sameHeld rfl (.refl _) (.of_eq (held_skipped hqueue rfl))
    exact hpopped.freed hlive rfl rfl rfl
  | switched hqueue hplain =>
    exact h.sameHeld rfl (.refl _) (.of_eq (held_skipped hqueue (plain_packet hplain)))
  | removedAll hqueue hremove =>
    refine transactionRemoveAll_inv (P := fun c => c.Owns others) ?_ ?_ hremove
    · intro c key t tr hc hsearch hlive
      exact hc.freed hlive rfl rfl rfl
    · exact h.sameHeld rfl (.refl _) (.of_eq (held_skipped hqueue rfl))
  | timeoutFired hlive => exact h.sameHeld rfl (packets_update hlive rfl rfl) (.refl _)
  | socketBlock => exact NetSocket.Owned.runBlock h
  | write => exact NetSocket.Owned.writeEvent h

/-! ### Received packets -/

/-- The receipt an event is about. -/
def Event.receipt : Event → Option Nat
  | .receive _ receipt _ | .retain receipt | .release receipt => some receipt
  | _ => none

/-- What was done with the packets received. -/
def TransactionConfiguration.trace (config : TransactionConfiguration) : List Event :=
  config.log.filter fun e => e.receipt.isSome

theorem trace_own {es : List Event} (hlog : config'.log = config.log ++ es)
    (h : ∀ e ∈ es, e.receipt.isSome) : config'.trace = config.trace ++ es := by
  rw [TransactionConfiguration.trace, hlog, List.filter_append, List.filter_eq_self.2 h]
  rfl

theorem trace_quiet {es : List Event} (hlog : config'.log = config.log ++ es)
    (h : ∀ e ∈ es, e.receipt = none) : config'.trace = config.trace := by
  have hes : es.filter (fun e => e.receipt.isSome) = [] :=
    List.filter_eq_nil_iff.2 fun e he => by rw [h e he]; exact Bool.false_ne_true
  rw [TransactionConfiguration.trace, hlog, List.filter_append, hes, List.append_nil]
  rfl

theorem trace_released (packet receipt : Nat) :
    (config.released packet receipt).trace = config.trace ++ [.release receipt] :=
  trace_own rfl (by simp [Event.receipt])

theorem completion_quiet (errorCallback : Bool) (t : Nat) (state : TransactionState) :
    ∀ e ∈ completion errorCallback t state, e.receipt = none := by
  intro e he
  unfold completion at he
  split at he <;> simp only [List.mem_append, List.mem_cons, List.not_mem_nil, or_false] at he
  · rcases he with (rfl | rfl) | rfl | rfl <;> rfl
  · rcases he with rfl | rfl | rfl <;> rfl

theorem delivery_quiet (tag : Tag) (result : UnpackResult) (object : TransactionObject) :
    ∀ e ∈ delivery config tag result object, e.receipt = none := by
  intro e he
  unfold delivery at he
  split at he
  · rw [List.mem_singleton.1 he]
    rfl
  · cases he

/-- What a step does with the packets received: it leaves them alone, moves one on, stores one, or
gives one back to the pool. -/
inductive HeldStep (config config' : TransactionConfiguration) : Prop
  | quiet (hheld : config'.held.Perm config.held) (htrace : config'.trace = config.trace)
      (hreceipts : config'.receipts = config.receipts)
  | retained (receipt : Nat) (hheld : config'.held.Perm config.held)
      (htrace : config'.trace = config.trace ++ [.retain receipt, .release receipt])
      (hreceipts : config'.receipts = config.receipts)
  | received (packet : Nat) (tag : Tag)
      (hheld : config'.held.Perm ((packet, config.receipts) :: config.held))
      (htrace : config'.trace = config.trace ++ [.receive packet config.receipts tag])
      (hreceipts : config'.receipts = config.receipts + 1)
  | freed (packet receipt : Nat) (hheld : ((packet, receipt) :: config'.held).Perm config.held)
      (htrace : config'.trace = config.trace ++ [.release receipt])
      (hreceipts : config'.receipts = config.receipts)
      (hfree : packet ∈ config'.socket.poolPackets.freeList)

theorem transactionStep_held (h : Holding config [])
    (hstep : transactionStep config action = some config') :
    Holding config' [] ∧ HeldStep config config' := by
  cases transactionStep_move hstep with
  | idle hqueue => exact ⟨h, .quiet (.refl _) rfl rfl⟩
  | dispatched haction hplain =>
    have hheld := @held_dispatch config _ (plain_packet hplain)
    exact ⟨h.sameHeld rfl (.refl _) hheld, .quiet (.of_eq hheld) rfl rfl⟩
  | requested halloc hpack =>
    refine ⟨h.requested halloc hpack _ _, .quiet ?_ ?_ rfl⟩
    · exact .of_eq (@held_dispatch _ (.insert config.heap.length) rfl)
    · exact trace_quiet rfl (by simp [Event.receipt])
  | sentOff hcall hlive =>
    refine ⟨h.sentOff hlive _, .quiet (.refl _) ?_ rfl⟩
    exact trace_quiet rfl (by simp [Event.receipt])
  | armed hcall hlive =>
    exact ⟨h.sameHeld rfl (packets_update hlive rfl rfl) rfl, .quiet (.refl _) rfl rfl⟩
  | unread hread hunread => exact ⟨h.unread hunread, .quiet (.refl _) rfl rfl⟩
  | @read datagram _ _ hlength hread =>
    refine ⟨h.read hread _, .received _ datagram.tag (held_read _ _ _ _) ?_ rfl⟩
    exact trace_own rfl (by simp [Event.receipt])
  | @ignored i packet receipt socket hreceived hread =>
    have hheld : ((packet, receipt) :: (config.taken i).held).Perm config.held :=
      (pending_taken hreceived).append_right _
    have htaken : Holding (config.taken i) [packet] := h.taken rfl rfl hheld
    have hsocket : Holding ((config.taken i).onSocket socket) [packet] := by
      rcases hread with rfl | ⟨header, hread⟩
      · exact htaken
      · exact htaken.onBitstream hread
    obtain ⟨hrel, hfree⟩ := hsocket.released receipt
    exact ⟨hrel, .freed packet receipt hheld (trace_released _ _) rfl hfree⟩
  | @retained i packet receipt _ _ socket block hreceived hread hblock =>
    have hheld : ((packet, receipt) :: (config.taken i).held).Perm config.held :=
      (pending_taken hreceived).append_right _
    have htaken : Holding (config.taken i) [packet] := h.taken rfl rfl hheld
    have hpacket := receivedBlock_packet hblock
    refine ⟨(htaken.onBitstream hread).kept hpacket,
      .retained receipt ((held_retained hpacket).trans hheld) ?_ rfl⟩
    exact trace_own (List.append_assoc config.log [.retain receipt] [.release receipt])
      (by simp [Event.receipt])
  | inserted hqueue hlive =>
    have hheld := held_skipped hqueue rfl
    exact ⟨h.sameHeld rfl (.refl _) hheld, .quiet (.of_eq hheld) rfl rfl⟩
  | lost hqueue hsearch =>
    have hheld := held_lost hqueue
    exact ⟨h.perm rfl ((hheld.map Prod.fst).append_left _) (hheld.map Prod.fst).subset,
      .quiet hheld rfl rfl⟩
  | @responded packet id receipt t rest transaction result responseType socket hqueue hsearch hlive
      hread =>
    have hheld := held_popped hqueue rfl
    have htaken : Holding (config.popped rest) [packet] := h.taken rfl rfl hheld
    have hfreed : Holding ((((config.popped rest).onSocket socket).note
        [.response t responseType]).completed t transaction (responseState responseType)) [packet] :=
      (htaken.onBitstream hread).freed hlive rfl rfl rfl
    obtain ⟨hrel, hfree⟩ := hfreed.released receipt
    refine ⟨hrel, .freed packet receipt hheld ?_ rfl hfree⟩
    have htrace : ((((config.popped rest).onSocket socket).note
        [.response t responseType]).completed t transaction
          (responseState responseType)).trace = config.trace :=
      (trace_quiet rfl (completion_quiet _ _ _)).trans
        (trace_quiet rfl (by simp [Event.receipt]))
    rw [← htrace]
    exact trace_released _ _
  | @served packet id receipt reply rest s₁ s₂ s₃ result object hqueue halloc hpack hread =>
    have hheld := held_popped hqueue rfl
    have htaken : Holding (config.popped rest) [packet] := h.taken rfl rfl hheld
    have hanswered := htaken.answered halloc hpack packet
    obtain ⟨hrel, hfree⟩ := ((hanswered.onBitstream hread).note
      (delivery config (config.socket.packet packet).tag result object)).released receipt
    refine ⟨hrel, .freed packet receipt hheld ?_ rfl hfree⟩
    have htrace : ((((config.popped rest).answered packet reply s₂).onSocket s₃).note
        (delivery config (config.socket.packet packet).tag result object)).trace = config.trace :=
      trace_quiet rfl (delivery_quiet _ _ _)
    rw [← htrace]
    exact trace_released _ _
  | retried hqueue hsearch hlive hstate hretries =>
    have hpopped := h.popped hqueue rfl
    refine ⟨hpopped.retried hlive, .quiet (.of_eq (held_skipped hqueue rfl)) ?_ rfl⟩
    exact trace_quiet rfl (by simp [Event.receipt])
  | timedOut hqueue hsearch hlive hstate hretries =>
    have hpopped := h.popped hqueue rfl
    refine ⟨hpopped.freed hlive rfl rfl rfl, .quiet (.of_eq (held_skipped hqueue rfl)) ?_ rfl⟩
    exact trace_quiet rfl (completion_quiet _ _ _)
  | switched hqueue hplain =>
    have hheld := held_skipped hqueue (plain_packet hplain)
    exact ⟨h.sameHeld rfl (.refl _) hheld, .quiet (.of_eq hheld) rfl rfl⟩
  | removedAll hqueue hremove =>
    have hheld := held_skipped hqueue rfl
    have hinv : Holding config' [] ∧ config'.held = config.held ∧ config'.trace = config.trace ∧
        config'.receipts = config.receipts := by
      refine transactionRemoveAll_inv (P := fun c => Holding c [] ∧ c.held = config.held ∧
        c.trace = config.trace ∧ c.receipts = config.receipts) ?_ ?_ hremove
      · rintro c key t tr ⟨hc, hcheld, htrace, hreceipts⟩ hsearch hlive
        refine ⟨hc.freed hlive rfl rfl rfl, hcheld, ?_, hreceipts⟩
        exact (trace_quiet rfl (by simp [Event.receipt])).trans htrace
      · exact ⟨h.sameHeld rfl (.refl _) hheld, hheld, rfl, rfl⟩
    exact ⟨hinv.1, .quiet (.of_eq hinv.2.1) hinv.2.2.1 hinv.2.2.2⟩
  | timeoutFired hlive =>
    exact ⟨h.sameHeld rfl (packets_update hlive rfl rfl) rfl, .quiet (.refl _) rfl rfl⟩
  | socketBlock =>
    exact ⟨h.onSocket h.owned.runBlock fun i hi => netSocketRunBlock_queues (h.unsent i hi),
      .quiet (.refl _) rfl rfl⟩
  | write =>
    exact ⟨h.onSocket h.owned.writeEvent fun i hi => netSocketWriteEvent_queues (h.unsent i hi),
      .quiet (.refl _) rfl rfl⟩

theorem run_holding {agent : Agent} {memory : Nat → Vector UInt8 kNetPacketMaxLen}
    {receiveCallback errorCallback : Bool} {actions : List TransactionAction}
    (h : run transactionStep (transactionSetup agent memory receiveCallback errorCallback) actions =
      some config) : Holding config [] :=
  run_inv (P := fun c => Holding c []) (holding_setup agent memory receiveCallback errorCallback)
    (fun _ _ _ hc hstep => (transactionStep_held hc hstep).1) h

end Steps

end UniversalNetwork
