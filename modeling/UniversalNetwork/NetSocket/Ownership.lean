import UniversalNetwork.NetSocket

/-!
# Who holds a packet

`s.Owned refs`: packet `i` is referenced `refs i` times by the users of the socket, once more for
each time it stands in the queues of the socket, and once more if a read event has left it to nobody;
the pool agrees. Each operation of the socket has a rule for `Owned`, and one for what it does to the
packets and queues (`Touches` when it only works on one packet).
-/

namespace UniversalNetwork

open Lib

structure NetSocket.Owned (s : NetSocket) (refs : Nat → Nat) : Prop where
  capacity : s.poolPackets.capacity = kNetPacketPoolCapacity
  holds : s.poolPackets.Holds fun i => refs i +
    (s.socketDispatchQueue.count i + s.pendingPackets.count i + s.unclaimed.count i)
  /-- Nobody has released a packet that was not held. -/
  unheld : s.unheld = []
  /-- A packet that was left to nobody has no second reference. -/
  single : ∀ i ∈ s.unclaimed, refs i +
    (s.socketDispatchQueue.count i + s.pendingPackets.count i + s.unclaimed.count i) = 1

/-- Only packet `i` changes. -/
structure Touches (i : Nat) (s s' : NetSocket) : Prop where
  packet : ∀ j, j ≠ i → s'.packet j = s.packet j
  queue : s'.socketDispatchQueue = s.socketDispatchQueue
  pending : s'.pendingPackets = s.pendingPackets
  sent : s'.sent = s.sent
  unclaimed : s'.unclaimed = s.unclaimed

/-- Only packet `i` changes, and it may be queued for sending. -/
structure Queues (i : Nat) (s s' : NetSocket) : Prop where
  packet : ∀ j, j ≠ i → s'.packet j = s.packet j
  queue : s'.socketDispatchQueue = s.socketDispatchQueue ∨
    s'.socketDispatchQueue = s.socketDispatchQueue ++ [i]
  pending : s'.pendingPackets = s.pendingPackets
  sent : s'.sent = s.sent
  unclaimed : s'.unclaimed = s.unclaimed

/-- One more reference to `i`, in the form of the rules. -/
theorem count_concat (l : List Nat) (i j : Nat) :
    (l ++ [i]).count j = l.count j + if j = i then 1 else 0 := by
  rw [List.count_append, List.count_singleton]
  simp only [beq_iff_eq, @eq_comm _ i j]

theorem count_cons (l : List Nat) (i j : Nat) :
    (i :: l).count j = l.count j + if j = i then 1 else 0 := by
  rw [List.count_cons]
  simp only [beq_iff_eq, @eq_comm _ i j]

theorem perm_of_getElem? {α : Type} {l : List α} {k : Nat} {a : α} (h : l[k]? = some a) :
    (a :: l.eraseIdx k).Perm l := by
  obtain ⟨hk, rfl⟩ := List.getElem?_eq_some_iff.1 h
  exact List.getElem_cons_eraseIdx_perm hk

theorem count_eraseIdx {l : List Nat} {k i : Nat} (h : l[k]? = some i) (j : Nat) :
    l.count j = (l.eraseIdx k).count j + if j = i then 1 else 0 := by
  rw [← (perm_of_getElem? h).count_eq j, count_cons]

theorem netSocketCreate_owned (memory : Nat → Vector UInt8 kNetPacketMaxLen) :
    (netSocketCreate memory).Owned fun _ => 0 :=
  ⟨rfl, poolCreate_holds _ _, rfl, fun _ h => by cases h⟩

section Rules

variable {s s' s'' : NetSocket} {refs refs' : Nat → Nat} {i j : Nat}

theorem NetSocket.Owned.congr (h : s.Owned refs) (heq : ∀ j, refs' j = refs j) : s.Owned refs' :=
  ⟨h.capacity, h.holds.congr fun j => by rw [heq], h.unheld, fun j hj => by
    rw [heq]
    exact h.single j hj⟩

/-- What somebody has, or is queued, was not left to nobody. -/
theorem NetSocket.Owned.claimed (h : s.Owned refs)
    (hi : 0 < refs i + (s.socketDispatchQueue.count i + s.pendingPackets.count i)) :
    i ∉ s.unclaimed := by
  intro hmem
  have hsingle := h.single i hmem
  have hcount := List.count_pos_iff.2 hmem
  omega

theorem Touches.trans (h : Touches i s s') (h' : Touches i s' s'') : Touches i s s'' where
  packet := fun j hj => (h'.packet j hj).trans (h.packet j hj)
  queue := h'.queue.trans h.queue
  pending := h'.pending.trans h.pending
  sent := h'.sent.trans h.sent
  unclaimed := h'.unclaimed.trans h.unclaimed

theorem Touches.queues (h : Touches i s s') (h' : Queues i s' s'') : Queues i s s'' where
  packet := fun j hj => (h'.packet j hj).trans (h.packet j hj)
  queue := h.queue ▸ h'.queue
  pending := h'.pending.trans h.pending
  sent := h'.sent.trans h.sent
  unclaimed := h'.unclaimed.trans h.unclaimed

/-- What is not in the queues and is not the packet that was queued is not in them afterwards. -/
theorem Queues.unsent (h : Queues i s s') (hne : j ≠ i)
    (hj : j ∉ s.socketDispatchQueue ∧ j ∉ s.pendingPackets) :
    j ∉ s'.socketDispatchQueue ∧ j ∉ s'.pendingPackets := by
  rw [h.pending]
  refine ⟨?_, hj.2⟩
  rcases h.queue with hqueue | hqueue <;> rw [hqueue]
  · exact hj.1
  · simpa [hj.1] using hne

/-! ## Packets -/

@[simp]
theorem packet_setPacket_self (p : NetPacket) : (s.setPacket i p).packet i = p :=
  Function.update_self _ _ _

theorem touches_setPacket (s : NetSocket) (i : Nat) (p : NetPacket) :
    Touches i s (s.setPacket i p) :=
  ⟨fun _ hj => Function.update_of_ne hj _ _, rfl, rfl, rfl, rfl⟩

theorem NetSocket.Owned.setPacket (h : s.Owned refs) (i : Nat) (p : NetPacket) :
    (s.setPacket i p).Owned refs :=
  ⟨h.capacity, h.holds.setObject p, h.unheld, h.single⟩

/-- An operation on a bit stream changes the bit stream. -/
theorem onBitstream_eq {α : Type} {op : BitM α} {a : α} (h : s.onBitstream i op = some (a, s')) :
    ∃ bitstream, op (s.packet i).bitstream = some (a, bitstream) ∧
      s' = s.setPacket i { s.packet i with bitstream } := by
  obtain ⟨⟨a', bitstream⟩, hop, heq⟩ := Option.bind_eq_some_iff.1 h
  obtain ⟨rfl, rfl⟩ := Prod.mk.inj (Option.some.inj heq)
  exact ⟨bitstream, hop, rfl⟩

theorem touches_onBitstream {α : Type} {op : BitM α} {a : α}
    (h : s.onBitstream i op = some (a, s')) : Touches i s s' := by
  obtain ⟨bitstream, -, rfl⟩ := onBitstream_eq h
  exact touches_setPacket s i _

theorem NetSocket.Owned.onBitstream (h : s.Owned refs) {α : Type} {op : BitM α} {a : α}
    (hop : s.onBitstream i op = some (a, s')) : s'.Owned refs := by
  obtain ⟨bitstream, -, rfl⟩ := onBitstream_eq hop
  exact h.setPacket i _

theorem netPacketAlloc_eq (ha : netPacketAlloc s = some (i, s')) :
    ∃ pool, poolAlloc s.poolPackets = some (i, pool) ∧ pool.objects = s.poolPackets.objects ∧
      s' = { s with poolPackets := pool }.setPacket i (netPacketInit (s.packet i)) := by
  obtain ⟨⟨node, pool⟩, hpool, heq⟩ := Option.map_eq_some_iff.1 ha
  obtain ⟨rfl, rfl⟩ := Prod.mk.inj heq
  have hobjects := poolAlloc_objects hpool
  refine ⟨pool, hpool, hobjects, ?_⟩
  rw [NetSocket.packet, ← hobjects]

/-- A fresh packet is nobody's. -/
theorem NetSocket.Owned.alloc (h : s.Owned refs) (ha : netPacketAlloc s = some (i, s'))
    (hrefs : ∀ j, refs' j = refs j + if j = i then 1 else 0) :
    refs i = 0 ∧ i ∉ s.socketDispatchQueue ∧ i ∉ s.pendingPackets ∧ s'.Owned refs' := by
  obtain ⟨pool, hpool, -, rfl⟩ := netPacketAlloc_eq ha
  have hmore : ∀ j, refs' j +
      (s.socketDispatchQueue.count j + s.pendingPackets.count j + s.unclaimed.count j) =
      refs j + (s.socketDispatchQueue.count j + s.pendingPackets.count j + s.unclaimed.count j) +
        if j = i then 1 else 0 := by
    intro j
    rw [hrefs]
    omega
  obtain ⟨hfree, hholds⟩ := poolAlloc_holds h.holds hpool hmore
  refine ⟨by omega, List.count_eq_zero.1 (by omega), List.count_eq_zero.1 (by omega), ?_, ?_, ?_,
    fun j hj => ?_⟩
  · exact (poolAlloc_capacity hpool).trans h.capacity
  · exact hholds.setObject _
  · exact h.unheld
  · have hcount := List.count_pos_iff.2 hj
    have hne : j ≠ i := by
      rintro rfl
      change 0 < s.unclaimed.count j at hcount
      omega
    rw [hrefs, if_neg hne]
    exact h.single j hj

theorem NetSocket.Owned.alloc_claimed (h : s.Owned refs) (ha : netPacketAlloc s = some (i, s')) :
    i ∉ s.unclaimed := by
  obtain ⟨pool, hpool, -, -⟩ := netPacketAlloc_eq ha
  obtain ⟨hfree, -⟩ := poolAlloc_holds h.holds hpool fun _ => rfl
  exact List.count_eq_zero.1 (by omega)

/-- A packet that nobody holds can be had. -/
theorem NetSocket.Owned.exists_alloc (h : s.Owned refs) (hi : i < kNetPacketPoolCapacity)
    (hrefs : refs i = 0) (hqueue : i ∉ s.socketDispatchQueue) (hpending : i ∉ s.pendingPackets)
    (hclaimed : i ∉ s.unclaimed) : ∃ j s', netPacketAlloc s = some (j, s') := by
  have hmem : i ∈ s.poolPackets.freeList := by
    refine (h.holds.free i).2 ⟨h.capacity ▸ hi, ?_⟩
    rw [hrefs, List.count_eq_zero.2 hqueue, List.count_eq_zero.2 hpending,
      List.count_eq_zero.2 hclaimed]
  unfold netPacketAlloc poolAlloc
  cases hfree : s.poolPackets.freeList with
  | nil =>
    rw [hfree] at hmem
    cases hmem
  | cons node next => exact ⟨_, _, rfl⟩

/-- **The pool is exhausted** exactly when each of its packets is held, queued or left to nobody. -/
theorem NetSocket.Owned.alloc_ne_none_iff (h : s.Owned refs) : netPacketAlloc s ≠ none ↔
    ∃ i < kNetPacketPoolCapacity, refs i = 0 ∧ i ∉ s.socketDispatchQueue ∧
      i ∉ s.pendingPackets ∧ i ∉ s.unclaimed := by
  constructor
  · intro halloc
    obtain ⟨⟨i, s'⟩, ha⟩ := Option.ne_none_iff_exists'.1 halloc
    obtain ⟨hrefs, hqueue, hpending, howned⟩ := h.alloc ha fun j => rfl
    refine ⟨i, ?_, hrefs, hqueue, hpending, h.alloc_claimed ha⟩
    rw [← howned.capacity]
    refine howned.holds.lt_capacity (Nat.add_pos_left ?_ _)
    rw [if_pos rfl]
    exact Nat.succ_pos _
  · rintro ⟨i, hi, hrefs, hqueue, hpending, hclaimed⟩
    obtain ⟨j, s', ha⟩ := h.exists_alloc hi hrefs hqueue hpending hclaimed
    exact Option.ne_none_iff_exists'.2 ⟨_, ha⟩

theorem touches_alloc (ha : netPacketAlloc s = some (i, s')) : Touches i s s' := by
  obtain ⟨pool, -, hobjects, rfl⟩ := netPacketAlloc_eq ha
  have hpool : Touches i s { s with poolPackets := pool } :=
    ⟨fun j _ => congrFun hobjects j, rfl, rfl, rfl, rfl⟩
  exact hpool.trans (touches_setPacket _ i _)

theorem packet_alloc (ha : netPacketAlloc s = some (i, s')) :
    s'.packet i = netPacketInit (s.packet i) := by
  obtain ⟨pool, -, -, rfl⟩ := netPacketAlloc_eq ha
  exact packet_setPacket_self _

theorem NetSocket.Owned.release (h : s.Owned refs)
    (hrefs : ∀ j, refs j = refs' j + if j = i then 1 else 0) :
    (netPacketRelease s i).Owned refs' where
  capacity := (poolRelease_capacity _ _).trans h.capacity
  holds := poolRelease_holds h.holds fun j => by
    show refs j + (s.socketDispatchQueue.count j + s.pendingPackets.count j +
        s.unclaimed.count j) =
      refs' j + (s.socketDispatchQueue.count j + s.pendingPackets.count j + s.unclaimed.count j) + _
    rw [hrefs]
    omega
  unheld := by
    have hcount := h.holds.count i
    rw [hrefs i, if_pos rfl] at hcount
    exact (if_neg (by omega)).trans h.unheld
  single := fun j hj => by
    have hne : j ≠ i := by
      rintro rfl
      refine h.claimed ?_ hj
      rw [hrefs, if_pos rfl]
      omega
    have hsingle := h.single j hj
    rw [hrefs, if_neg hne] at hsingle
    exact hsingle

/-- The last reference to a packet gives it back to the pool. -/
theorem NetSocket.Owned.release_free (h : s.Owned refs) (hi : refs i = 1)
    (hqueue : i ∉ s.socketDispatchQueue) (hpending : i ∉ s.pendingPackets) :
    i ∈ (netPacketRelease s i).poolPackets.freeList := by
  have hclaimed := h.claimed (i := i) (by omega)
  have hone : refs i + (s.socketDispatchQueue.count i + s.pendingPackets.count i +
      s.unclaimed.count i) = 0 + 1 := by
    rw [hi, List.count_eq_zero.2 hqueue, List.count_eq_zero.2 hpending,
      List.count_eq_zero.2 hclaimed]
  rw [netPacketRelease, poolRelease_eq (h.holds.allocCount_pos (i := i) (by omega))
    (h.holds.lt_capacity (by omega)) ((h.holds.count i).trans hone), if_pos rfl]
  exact List.mem_cons_self

/-- A release by someone who has no reference shows. -/
theorem NetSocket.Owned.count_release (h : s.Owned refs)
    (hunheld : (netPacketRelease s i).unheld = []) :
    (netPacketRelease s i).poolPackets.retainCount i ≠ refs i +
      (s.socketDispatchQueue.count i + s.pendingPackets.count i + s.unclaimed.count i) := by
  have hcount := h.holds.count i
  generalize hn : refs i +
    (s.socketDispatchQueue.count i + s.pendingPackets.count i + s.unclaimed.count i) = n at hcount
  cases n with
  | zero =>
    have happend : s.unheld ++ [i] = [] := (if_pos hcount).symm.trans hunheld
    simp at happend
  | succ n =>
    have hrelease := poolRelease_eq (h.holds.allocCount_pos (i := i) (by omega))
      (h.holds.lt_capacity (by omega)) hcount
    show (poolRelease s.poolPackets i).retainCount i ≠ n + 1
    rw [hrelease]
    split <;> simp [poolFreeNode]

@[simp]
theorem packet_release : (netPacketRelease s i).packet j = s.packet j :=
  congrFun (poolRelease_objects _ _) j

theorem NetSocket.Owned.retain (h : s.Owned refs)
    (hi : 0 < refs i + (s.socketDispatchQueue.count i + s.pendingPackets.count i))
    (hrefs : ∀ j, refs' j = refs j + if j = i then 1 else 0) :
    (netPacketRetain s i).Owned refs' where
  capacity := (poolRetain_capacity _ _).trans h.capacity
  holds := poolRetain_holds h.holds (by omega) fun j => by
    show refs' j + (s.socketDispatchQueue.count j + s.pendingPackets.count j +
        s.unclaimed.count j) =
      refs j + (s.socketDispatchQueue.count j + s.pendingPackets.count j + s.unclaimed.count j) + _
    rw [hrefs]
    omega
  unheld := h.unheld
  single := fun j hj => by
    have hne : j ≠ i := by
      rintro rfl
      exact h.claimed hi hj
    rw [hrefs, if_neg hne]
    exact h.single j hj

@[simp]
theorem packet_retain : (netPacketRetain s i).packet j = s.packet j :=
  congrFun (poolRetain_objects _ _) j

/-! ## Sending -/

theorem netSocketSend_eq : netSocketSend s i =
    let s' := s.setPacket i { s.packet i with length := (s.packet i).bitstream.offset }
    if 0 < (s.packet i).bitstream.offset then
      { netPacketRetain s' i with socketDispatchQueue := s.socketDispatchQueue ++ [i] }
    else s' := by
  unfold netSocketSend
  simp only [packet_setPacket_self]
  rfl

/-- The packet that is sent is referenced by someone, if only by the queues. -/
theorem NetSocket.Owned.send (h : s.Owned refs)
    (hi : 0 < refs i + (s.socketDispatchQueue.count i + s.pendingPackets.count i)) :
    (netSocketSend s i).Owned refs := by
  have hcount : 0 < refs i + (s.socketDispatchQueue.count i + s.pendingPackets.count i +
      s.unclaimed.count i) := by
    omega
  rw [netSocketSend_eq]
  dsimp only
  split
  · refine ⟨(poolRetain_capacity _ _).trans h.capacity,
      poolRetain_holds (h.setPacket i _).holds hcount fun j => ?_, h.unheld, fun j hj => ?_⟩
    · show refs j + ((s.socketDispatchQueue ++ [i]).count j + s.pendingPackets.count j +
          s.unclaimed.count j) =
        refs j + (s.socketDispatchQueue.count j + s.pendingPackets.count j +
          s.unclaimed.count j) + _
      rw [count_concat]
      omega
    · have hne : j ≠ i := by
        rintro rfl
        exact h.claimed hi hj
      show refs j + ((s.socketDispatchQueue ++ [i]).count j + _ + _) = 1
      rw [count_concat, if_neg hne]
      exact h.single j hj
  · exact h.setPacket i _

theorem packet_send_self : (netSocketSend s i).packet i =
    { s.packet i with length := (s.packet i).bitstream.offset } := by
  rw [netSocketSend_eq]
  dsimp only
  split
  · exact packet_retain.trans (packet_setPacket_self _)
  · exact packet_setPacket_self _

theorem queues_send (s : NetSocket) (i : Nat) : Queues i s (netSocketSend s i) := by
  have htouch := touches_setPacket s i { s.packet i with length := (s.packet i).bitstream.offset }
  rw [netSocketSend_eq]
  dsimp only
  split
  · exact ⟨fun j hj => packet_retain.trans (htouch.packet j hj), .inr rfl, rfl, rfl, rfl⟩
  · exact ⟨htouch.packet, .inl rfl, rfl, rfl, rfl⟩

/-- A fresh packet is filled and sent. -/
theorem NetSocket.Owned.sendFresh (h : s.Owned refs) (ha : netPacketAlloc s = some (i, s'))
    {op : BitM Unit} (hop : s'.onBitstream i op = some ((), s'')) (p : NetPacket) (tag : Tag)
    (hrefs : ∀ j, refs' j = refs j + if j = i then 1 else 0) :
    (netSocketSend ((s''.setPacket i p).setTag i tag) i).Owned refs' := by
  have hi : 0 < refs' i := by
    rw [hrefs, if_pos rfl]
    omega
  exact ((((h.alloc ha hrefs).2.2.2.onBitstream hop).setPacket i p).setPacket i _).send
    (Nat.lt_of_lt_of_le hi (Nat.le_add_right _ _))

theorem queues_sendFresh (ha : netPacketAlloc s = some (i, s')) {op : BitM Unit}
    (hop : s'.onBitstream i op = some ((), s'')) (p : NetPacket) (tag : Tag) :
    Queues i s (netSocketSend ((s''.setPacket i p).setTag i tag) i) :=
  (touches_alloc ha).queues ((touches_onBitstream hop).queues ((touches_setPacket s'' i p).queues
    ((touches_setPacket _ i _).queues (queues_send _ i))))

theorem netSocketRunBlock_queues (hj : j ∉ s.socketDispatchQueue ∧ j ∉ s.pendingPackets) :
    j ∉ (netSocketRunBlock s).socketDispatchQueue ∧ j ∉ (netSocketRunBlock s).pendingPackets := by
  unfold netSocketRunBlock
  split
  · exact hj
  · rename_i i rest hqueue
    rw [hqueue, List.mem_cons, not_or] at hj
    refine ⟨hj.1.2, ?_⟩
    simpa [hj.2] using hj.1.1

theorem NetSocket.Owned.runBlock (h : s.Owned refs) : (netSocketRunBlock s).Owned refs := by
  unfold netSocketRunBlock
  split
  · exact h
  · rename_i i rest hqueue
    have hsame : ∀ j, refs j +
        (rest.count j + (s.pendingPackets ++ [i]).count j + s.unclaimed.count j) = refs j +
          (s.socketDispatchQueue.count j + s.pendingPackets.count j + s.unclaimed.count j) := by
      intro j
      rw [hqueue, count_concat, count_cons]
      omega
    exact ⟨h.capacity, h.holds.congr hsame, h.unheld, fun j hj => (hsame j).trans (h.single j hj)⟩

theorem netSocketFlush_holds {queued : Nat → Nat} (pending : List Nat) :
    ∀ {s : NetSocket}, (s.poolPackets.Holds fun i => queued i + pending.count i) →
      (netSocketFlush s pending).poolPackets.Holds queued ∧
        (netSocketFlush s pending).unheld = s.unheld := by
  induction pending with
  | nil => exact fun h => ⟨h, rfl⟩
  | cons i pending ih =>
    intro s h
    have hcount := h.count i
    rw [count_cons, if_pos rfl] at hcount
    obtain ⟨hholds, hunheld⟩ := ih (s := netPacketRelease
      { s with sent := s.sent ++ [(i, (s.packet i).datagram)] } i) (poolRelease_holds h fun j => by
        rw [count_cons]
        omega)
    exact ⟨hholds, hunheld.trans (if_neg (by show ¬ s.poolPackets.retainCount i = 0; omega))⟩

theorem netSocketFlush_capacity (pending : List Nat) : ∀ s : NetSocket,
    (netSocketFlush s pending).poolPackets.capacity = s.poolPackets.capacity := by
  induction pending with
  | nil => exact fun _ => rfl
  | cons i pending ih => exact fun s => (ih _).trans (poolRelease_capacity _ _)

theorem netSocketFlush_unclaimed (pending : List Nat) : ∀ s : NetSocket,
    (netSocketFlush s pending).unclaimed = s.unclaimed := by
  induction pending with
  | nil => exact fun _ => rfl
  | cons i pending ih => exact fun s => ih _

theorem netSocketFlush_queues (pending : List Nat) :
    ∀ s : NetSocket, (netSocketFlush s pending).socketDispatchQueue = s.socketDispatchQueue ∧
      (netSocketFlush s pending).pendingPackets = s.pendingPackets ∧
      (∀ j, (netSocketFlush s pending).packet j = s.packet j) ∧
      (netSocketFlush s pending).sent =
        s.sent ++ pending.map fun i => (i, (s.packet i).datagram) := by
  induction pending with
  | nil => exact fun s => ⟨rfl, rfl, fun _ => rfl, by simp [netSocketFlush]⟩
  | cons i pending ih =>
    intro s
    obtain ⟨hqueue, hpending, hpacket, hsent⟩ :=
      ih (netPacketRelease { s with sent := s.sent ++ [(i, (s.packet i).datagram)] } i)
    refine ⟨hqueue, hpending, fun j => ?_, ?_⟩
    · exact (hpacket j).trans packet_release
    · refine hsent.trans ?_
      simp only [packet_release]
      exact List.append_assoc _ _ _

/-- The write event does nothing to the packets. -/
@[simp]
theorem packet_writeEvent : (netSocketWriteEvent s).packet j = s.packet j := by
  unfold netSocketWriteEvent
  split
  · exact (netSocketFlush_queues s.pendingPackets { s with pendingPackets := [] }).2.2.1 j
  · rfl

@[simp]
theorem packet_runBlock : (netSocketRunBlock s).packet j = s.packet j := by
  unfold netSocketRunBlock
  split <;> rfl

theorem sent_runBlock : (netSocketRunBlock s).sent = s.sent := by
  unfold netSocketRunBlock
  split <;> rfl

theorem unclaimed_runBlock : (netSocketRunBlock s).unclaimed = s.unclaimed := by
  unfold netSocketRunBlock
  split <;> rfl

theorem unclaimed_writeEvent : (netSocketWriteEvent s).unclaimed = s.unclaimed := by
  unfold netSocketWriteEvent
  split
  · exact netSocketFlush_unclaimed s.pendingPackets { s with pendingPackets := [] }
  · rfl

theorem sent_writeEvent : s.sent <+: (netSocketWriteEvent s).sent := by
  unfold netSocketWriteEvent
  split
  · obtain ⟨-, -, -, hsent⟩ := netSocketFlush_queues s.pendingPackets
      { s with pendingPackets := [] }
    exact hsent ▸ List.prefix_append _ _
  · exact List.prefix_rfl

theorem netSocketWriteEvent_queues (hj : j ∉ s.socketDispatchQueue ∧ j ∉ s.pendingPackets) :
    j ∉ (netSocketWriteEvent s).socketDispatchQueue ∧
      j ∉ (netSocketWriteEvent s).pendingPackets := by
  unfold netSocketWriteEvent
  split
  · obtain ⟨hqueue, hpending, -⟩ := netSocketFlush_queues s.pendingPackets
      { s with pendingPackets := [] }
    simp only [hqueue, hpending]
    exact ⟨hj.1, List.not_mem_nil⟩
  · exact hj

theorem NetSocket.Owned.writeEvent (h : s.Owned refs) : (netSocketWriteEvent s).Owned refs := by
  unfold netSocketWriteEvent
  split
  · have hpending : ({ s with pendingPackets := [] } : NetSocket).poolPackets.Holds
        fun i => (refs i + s.socketDispatchQueue.count i + s.unclaimed.count i) +
          s.pendingPackets.count i :=
      h.holds.congr fun j => by omega
    obtain ⟨hflush, hunheld⟩ := netSocketFlush_holds s.pendingPackets hpending
    obtain ⟨hqueue, hpending, -⟩ := netSocketFlush_queues s.pendingPackets
      { s with pendingPackets := [] }
    refine ⟨(netSocketFlush_capacity _ _).trans h.capacity, hflush.congr fun j => ?_,
      hunheld.trans h.unheld, fun j hj => ?_⟩
    · simp only [hqueue, hpending, netSocketFlush_unclaimed, List.count_nil]
      omega
    · simp only [netSocketFlush_unclaimed] at hj
      have hcount := List.count_pos_iff.2 hj
      have hsingle := h.single j hj
      simp only [hqueue, hpending, netSocketFlush_unclaimed, List.count_nil]
      omega
  · exact h

/-! ## Receiving -/

theorem NetSocket.Owned.free (h : s.Owned refs) (hi : refs i = refs' i + 1) (hnone : refs' i = 0)
    (hqueue : i ∉ s.socketDispatchQueue) (hpending : i ∉ s.pendingPackets)
    (hclaimed : i ∉ s.unclaimed) (hother : ∀ j, j ≠ i → refs' j = refs j) :
    (netPacketFree s i).Owned refs' where
  capacity := (poolFree_capacity _ _).trans h.capacity
  holds := by
    refine poolFree_holds h.holds (show 0 < refs i + _ by omega) ?_ fun j hj => ?_
    · show refs' i + (s.socketDispatchQueue.count i + s.pendingPackets.count i +
        s.unclaimed.count i) = 0
      rw [hnone, List.count_eq_zero.2 hqueue, List.count_eq_zero.2 hpending,
        List.count_eq_zero.2 hclaimed]
    · exact congrArg (· + _) (hother j hj)
  unheld := h.unheld
  single := fun j hj => by
    have hne : j ≠ i := by
      rintro rfl
      exact hclaimed hj
    rw [hother j hne]
    exact h.single j hj

/-- The packet a datagram is stored in: the rest of its buffer stays as it was. -/
def NetPacket.store (p : NetPacket) (datagram : Datagram) : NetPacket where
  addr := datagram.addr
  length := datagram.bytes.length
  bitstream := bitstreamCreate (overwrite p.bitstream.data 0 datagram.bytes) kNetPacketMaxLen
  tag := datagram.tag

theorem netSocketReadEvent_of_alloc {s₁ : NetSocket} (ha : netPacketAlloc s = some (i, s₁))
    (datagram : Datagram) : netSocketReadEvent s datagram =
      some (i, s₁.setPacket i ((s.packet i).store datagram)) := by
  rw [netSocketReadEvent, ha, Option.map_some]
  dsimp only
  rw [packet_alloc ha]
  rfl

theorem netSocketReadEvent_eq {datagram : Datagram}
    (h : netSocketReadEvent s datagram = some (i, s')) :
    ∃ s₁, netPacketAlloc s = some (i, s₁) ∧
      s' = s₁.setPacket i ((s.packet i).store datagram) := by
  obtain ⟨⟨node, s₁⟩, ha, -⟩ := Option.map_eq_some_iff.1 h
  rw [netSocketReadEvent_of_alloc ha] at h
  obtain ⟨rfl, rfl⟩ := Prod.mk.inj (Option.some.inj h)
  exact ⟨s₁, ha, rfl⟩

theorem netSocketReadEvent_tag {datagram : Datagram}
    (h : netSocketReadEvent s datagram = some (i, s')) : (s'.packet i).tag = datagram.tag := by
  obtain ⟨s₁, -, rfl⟩ := netSocketReadEvent_eq h
  rw [packet_setPacket_self]
  rfl

/-- A read event that hands its packet to nobody. -/
structure Unread (s s' : NetSocket) : Prop where
  owned : ∀ refs, s.Owned refs → s'.Owned refs
  queue : s'.socketDispatchQueue = s.socketDispatchQueue
  pending : s'.pendingPackets = s.pendingPackets
  sent : s'.sent = s.sent
  /-- The packets that are in use stay as they are. -/
  packet : ∀ refs, s.Owned refs → ∀ j, 0 < refs j ∨ j ∈ s.socketDispatchQueue ∨
    j ∈ s.pendingPackets ∨ j ∈ s.unclaimed → s'.packet j = s.packet j

theorem unread_refl (s : NetSocket) : Unread s s :=
  ⟨fun _ h => h, rfl, rfl, rfl, fun _ _ _ _ => rfl⟩

/-- Only the packet of the event changes, and nobody had it. -/
theorem unread_touches {s₁ : NetSocket} (ha : netPacketAlloc s = some (i, s₁))
    (htouch : Touches i s s'') (howned : ∀ refs, s.Owned refs → s'.Owned refs)
    (hpacket : ∀ j, s'.packet j = s''.packet j)
    (hqueue : s'.socketDispatchQueue = s''.socketDispatchQueue)
    (hpending : s'.pendingPackets = s''.pendingPackets) (hsent : s'.sent = s''.sent) :
    Unread s s' where
  owned := howned
  queue := hqueue.trans htouch.queue
  pending := hpending.trans htouch.pending
  sent := hsent.trans htouch.sent
  packet := fun refs h j hj => by
    obtain ⟨hrefs, hqueue, hpending, -⟩ := h.alloc ha fun _ => rfl
    refine (hpacket j).trans (htouch.packet j ?_)
    rintro rfl
    rcases hj with hj | hj | hj | hj
    · omega
    · exact hqueue hj
    · exact hpending hj
    · exact h.alloc_claimed ha hj

@[simp]
theorem packet_free : (netPacketFree s i).packet j = s.packet j :=
  congrFun (poolFree_same _ _).2 j

theorem touches_free (s : NetSocket) (i : Nat) : Touches i s (netPacketFree s i) :=
  ⟨fun _ _ => packet_free, rfl, rfl, rfl, rfl⟩

/-- The packet goes back to the pool, whatever was stored in it. -/
theorem unread_free {s₁ : NetSocket} (ha : netPacketAlloc s = some (i, s₁))
    (htouch : Touches i s₁ s') (howned : ∀ refs, s₁.Owned refs → s'.Owned refs) :
    Unread s (netPacketFree s' i) := by
  have htouched := (touches_alloc ha).trans htouch
  refine unread_touches ha (htouched.trans (touches_free _ i)) (fun refs h => ?_) (fun _ => rfl) rfl
    rfl rfl
  obtain ⟨hrefs, hqueue, hpending, hfresh⟩ := h.alloc ha fun _ => rfl
  refine (howned _ hfresh).free (by simp) hrefs (htouched.queue ▸ hqueue)
    (htouched.pending ▸ hpending) (htouched.unclaimed ▸ h.alloc_claimed ha) fun j hj => ?_
  rw [if_neg hj]
  rfl

/-- The packet stays with nobody. -/
theorem unread_unclaimed {s₁ : NetSocket} (ha : netPacketAlloc s = some (i, s₁))
    (htouch : Touches i s₁ s') (howned : ∀ refs, s₁.Owned refs → s'.Owned refs) :
    Unread s { s' with unclaimed := s'.unclaimed ++ [i] } := by
  refine unread_touches ha ((touches_alloc ha).trans htouch) (fun refs h => ?_) (fun _ => rfl) rfl
    rfl rfl
  obtain ⟨-, -, -, hfresh⟩ := h.alloc ha fun _ => rfl
  have hs' := howned _ hfresh
  have hsame : ∀ j, refs j + (s'.socketDispatchQueue.count j + s'.pendingPackets.count j +
      (s'.unclaimed ++ [i]).count j) = refs j + (if j = i then 1 else 0) +
        (s'.socketDispatchQueue.count j + s'.pendingPackets.count j + s'.unclaimed.count j) := by
    intro j
    rw [count_concat]
    omega
  refine ⟨hs'.capacity, hs'.holds.congr hsame, hs'.unheld, fun j hj => (hsame j).trans ?_⟩
  rcases List.mem_append.1 hj with hj | hj
  · exact hs'.single j hj
  · obtain rfl := List.mem_singleton.1 hj
    have htouched := (touches_alloc ha).trans htouch
    obtain ⟨hrefs, hqueue, hpending, -⟩ := h.alloc ha fun _ => rfl
    rw [htouched.queue, htouched.pending, htouched.unclaimed, hrefs, if_pos rfl,
      List.count_eq_zero.2 hqueue, List.count_eq_zero.2 hpending,
      List.count_eq_zero.2 (h.alloc_claimed ha)]

/-- A datagram that fits, as the two writes leave it. -/
theorem stored_eq {s₁ : NetSocket} (ha : netPacketAlloc s = some (i, s₁)) {datagram : Datagram}
    (hfits : datagram.bytes.length ≤ kNetPacketMaxLen) :
    (s₁.setPacket i ((s₁.packet i).recvfrom datagram)).setPacket i
      { (s₁.setPacket i ((s₁.packet i).recvfrom datagram)).packet i with
        length := datagram.bytes.length } = s₁.setPacket i ((s.packet i).store datagram) := by
  rw [packet_setPacket_self, NetPacket.recvfrom, List.take_of_length_le hfits, packet_alloc ha]
  simp [NetSocket.setPacket, Pool.setObject, NetPacket.store, netPacketInit, bitstreamCreate]

/-- **The read event** hands over a datagram of 1 to 256 bytes, or nothing. -/
theorem netSocketRead_cases {consumer : Bool} {recvfrom : RecvFrom} {packet : Option Nat}
    (h : netSocketRead s consumer recvfrom = (packet, s')) :
    (∃ datagram i, recvfrom = .datagram datagram ∧ consumer = true ∧ 0 < datagram.bytes.length ∧
      datagram.bytes.length ≤ kNetPacketMaxLen ∧ packet = some i ∧
      netSocketReadEvent s datagram = some (i, s')) ∨ packet = none ∧ Unread s s' := by
  unfold netSocketRead netSocketReadPacket at h
  cases ha : netPacketAlloc s with
  | none =>
    rw [ha] at h
    cases h
    exact .inr ⟨rfl, unread_refl s⟩
  | some alloc =>
    obtain ⟨i, s₁⟩ := alloc
    rw [ha] at h
    have hset : ∀ (p : NetPacket) (refs : Nat → Nat), s₁.Owned refs →
        (s₁.setPacket i p).Owned refs := fun p _ hs => hs.setPacket i p
    cases recvfrom with
    | error =>
      cases h
      have hself : Touches i s₁ s₁ := ⟨fun _ _ => rfl, rfl, rfl, rfl, rfl⟩
      exact .inr ⟨rfl, unread_free ha hself fun _ hs => hs⟩
    | datagram datagram =>
      dsimp only at h
      rcases Decidable.em (datagram.bytes.length > 0) with hpos | hzero
      · rw [if_pos hpos] at h
        rcases Decidable.em (datagram.bytes.length ≤ kNetPacketMaxLen) with hfits | hlong
        · rw [if_pos hfits, stored_eq ha hfits] at h
          cases consumer with
          | true =>
            cases h
            exact .inl ⟨datagram, i, rfl, rfl, hpos, hfits, rfl,
              netSocketReadEvent_of_alloc ha datagram⟩
          | false =>
            cases h
            exact .inr ⟨rfl, unread_unclaimed ha (touches_setPacket _ i _) (hset _)⟩
        · rw [if_neg hlong] at h
          cases h
          exact .inr ⟨rfl, unread_free ha (touches_setPacket _ i _) (hset _)⟩
      · rw [if_neg hzero] at h
        cases h
        exact .inr ⟨rfl, unread_unclaimed ha (touches_setPacket _ i _) (hset _)⟩

/-- The datagram is empty. -/
def RecvFrom.Empty : RecvFrom → Prop
  | .error => False
  | .datagram d => d.bytes = []

instance : DecidablePred RecvFrom.Empty
  | .error => .isFalse id
  | .datagram d => inferInstanceAs (Decidable (d.bytes = []))

/-- The packet of an empty datagram stays with nobody, even if there is a consumer. -/
theorem netSocketRead_unclaimed {recvfrom : RecvFrom} {packet : Option Nat}
    (h : netSocketRead s true recvfrom = (packet, s')) :
    (∃ i s₁, recvfrom.Empty ∧ netPacketAlloc s = some (i, s₁) ∧
      s'.unclaimed = s.unclaimed ++ [i]) ∨
    (recvfrom.Empty → netPacketAlloc s = none) ∧ s'.unclaimed = s.unclaimed := by
  unfold netSocketRead netSocketReadPacket at h
  cases ha : netPacketAlloc s with
  | none =>
    rw [ha] at h
    cases h
    exact .inr ⟨fun _ => rfl, rfl⟩
  | some alloc =>
    obtain ⟨i, s₁⟩ := alloc
    have hclaimed := (touches_alloc ha).unclaimed
    rw [ha] at h
    cases recvfrom with
    | error =>
      cases h
      exact .inr ⟨False.elim, hclaimed⟩
    | datagram datagram =>
      dsimp only at h
      rcases Decidable.em (datagram.bytes.length > 0) with hpos | hzero
      · have hfull : ¬ (RecvFrom.datagram datagram).Empty :=
          fun hempty => Nat.ne_of_gt hpos (List.length_eq_zero_iff.2 hempty)
        rw [if_pos hpos] at h
        rcases Decidable.em (datagram.bytes.length ≤ kNetPacketMaxLen) with hfits | hlong
        · rw [if_pos hfits] at h
          cases h
          exact .inr ⟨fun hempty => absurd hempty hfull, hclaimed⟩
        · rw [if_neg hlong] at h
          cases h
          exact .inr ⟨fun hempty => absurd hempty hfull, hclaimed⟩
      · rw [if_neg hzero] at h
        cases h
        exact .inl ⟨i, s₁, List.length_eq_zero_iff.1 (by omega), rfl, congrArg (· ++ [i]) hclaimed⟩

/-- A datagram of 1 to 256 bytes is handed to its consumer, unless the pool is empty. -/
theorem netSocketRead_of_fits {datagram : Datagram} (hpos : 0 < datagram.bytes.length)
    (hfits : datagram.bytes.length ≤ kNetPacketMaxLen) :
    netSocketRead s true (.datagram datagram) =
      match netSocketReadEvent s datagram with
      | none => (none, s)
      | some (i, s') => (some i, s') := by
  unfold netSocketRead netSocketReadPacket
  cases ha : netPacketAlloc s with
  | none =>
    rw [netSocketReadEvent, ha]
    rfl
  | some alloc =>
    obtain ⟨i, s₁⟩ := alloc
    dsimp only
    rw [if_pos hpos, if_pos hfits, stored_eq ha hfits, netSocketReadEvent_of_alloc ha]
    rfl

end Rules

end UniversalNetwork
