import UniversalNetwork.Transaction.Lifecycle
import UniversalNetwork.Transaction.Payload
import UniversalNetwork.Transaction.Receipts

/-!
# Ids of live transactions

The id of the `t`-th transaction is `t % 255`, so ids are unique as long as every transaction ends
before the 255th allocation after its own (`IdFree`). Nothing in the code sees to that: the number
of packets bounds how many transactions are live, not how long one of them is.

* `ids_unique_iff`: the ids stay unique exactly in the runs whose requests all meet the condition.
* `slowTransaction_collides`: one transaction waits while 254 others are answered.
-/

namespace UniversalNetwork

open Lib

/-- No two live transactions have one id, and the insert that is next overwrites nothing. -/
structure UniqueIds (config : TransactionConfiguration) : Prop where
  unique : ∀ t t' tr tr', config.live t = some tr → config.live t' = some tr' → tr.id = tr'.id →
    t = t'
  inserts : ∀ t rest tr, config.transactionsDispatchQueue = .insert t :: rest →
    config.live t = some tr → hashtableSearch config.transactions tr.id = none

/-- When a request gets a packet, the transaction allocated 255 allocations earlier has ended. -/
def IdFree (config : TransactionConfiguration) : TransactionAction → Prop
  | .request _ _ => (netPacketAlloc config.socket).isSome →
      ∀ t, t + kTransactionMaxId = config.heap.length → config.live t = none
  | _ => True

/-- The live transactions are among the last 255. -/
def Recent (config : TransactionConfiguration) : Prop :=
  ∀ t tr, config.live t = some tr → config.heap.length ≤ t + kTransactionMaxId

section Steps

variable {config config' : TransactionConfiguration} {action : TransactionAction}

/-- Only a request allocates. -/
theorem transactionStep_heap (hstep : transactionStep config action = some config') :
    (∃ addr object packet socket, action = .request addr object ∧
      (netPacketAlloc config.socket).isSome ∧
      config' = config.requested packet socket addr object) ∨
    (config'.heap.length = config.heap.length ∧
      ∀ t, (config'.live t).isSome → (config.live t).isSome) := by
  have hset : ∀ {c c' : TransactionConfiguration} {t tr x}, c.live t = some tr →
      c'.heap = c.heap.set t x → c'.heap.length = c.heap.length ∧
        ∀ u, (c'.live u).isSome → (c.live u).isSome := by
    intro c c' t tr x hlive hheap
    refine ⟨by rw [hheap, List.length_set], fun u hu => ?_⟩
    rw [live_set (live_lt hlive) hheap] at hu
    rcases Decidable.em (u = t) with rfl | hne
    · rw [hlive]
      rfl
    · rwa [if_neg hne] at hu
  cases transactionStep_move hstep with
  | requested halloc hpack =>
    exact .inl ⟨_, _, _, _, rfl, by rw [halloc]; rfl, rfl⟩
  | armed hcall hlive => exact .inr (hset hlive rfl)
  | responded hqueue hsearch hlive hread => exact .inr (hset (x := none) hlive rfl)
  | retried hqueue hsearch hlive hstate hretries => exact .inr (hset hlive rfl)
  | timedOut hqueue hsearch hlive hstate hretries => exact .inr (hset (x := none) hlive rfl)
  | timeoutFired hlive => exact .inr (hset hlive rfl)
  | removedAll hqueue hremove =>
    refine .inr (transactionRemoveAll_inv (P := fun c => c.heap.length = config.heap.length ∧
      ∀ u, (c.live u).isSome → (config.live u).isSome) ?_ ?_ hremove)
    · rintro c key t tr ⟨hlength, hlive⟩ hsearch htr
      obtain ⟨hlength', hlive'⟩ := @hset c (c.removed key t tr) t tr none htr rfl
      exact ⟨hlength'.trans hlength, fun u hu => hlive u (hlive' u hu)⟩
    · exact ⟨rfl, fun _ hu => hu⟩
  | _ => exact .inr ⟨rfl, fun _ hu => hu⟩

theorem Recent.step (h : Recent config) (hfree : IdFree config action)
    (hstep : transactionStep config action = some config') : Recent config' := by
  intro t tr hlive
  rcases transactionStep_heap hstep with
    ⟨addr, object, packet, socket, rfl, halloc, rfl⟩ | ⟨hlength, hsome⟩
  · rw [@live_concat config _ _ _ rfl] at hlive
    have hlength : (config.requested packet socket addr object).heap.length =
      config.heap.length + 1 := List.length_append
    rw [hlength]
    rcases Decidable.em (t = config.heap.length) with rfl | hne
    · unfold kTransactionMaxId
      omega
    · rw [if_neg hne] at hlive
      have hold := h t tr hlive
      have hnot : t + kTransactionMaxId ≠ config.heap.length := by
        intro heq
        rw [hfree halloc t heq] at hlive
        cases hlive
      omega
  · obtain ⟨tr', hlive'⟩ := Option.isSome_iff_exists.1 (hsome t (by rw [hlive]; rfl))
    rw [hlength]
    exact h t tr' hlive'

theorem uniqueIds_of_recent (hlife : Lifecycle config) (h : Recent config) : UniqueIds config := by
  have hunique : ∀ t t' tr tr', config.live t = some tr → config.live t' = some tr' →
      tr.id = tr'.id → t = t' := by
    intro t t' tr tr' hlive hlive' hid
    have ht := live_lt hlive
    have ht' := live_lt hlive'
    have hw := h t tr hlive
    have hw' := h t' tr' hlive'
    rw [(hlife.waiting t tr hlive).id, (hlife.waiting t' tr' hlive').id] at hid
    unfold kTransactionMaxId at *
    omega
  refine ⟨hunique, fun t rest tr hqueue hlive => ?_⟩
  cases hsearch : hashtableSearch config.transactions tr.id with
  | none => rfl
  | some t' =>
    obtain ⟨tr', hlive', hid⟩ := hlife.table tr.id t' hsearch
    obtain rfl := hunique t' t tr' tr hlive' hlive hid
    have hqueued : .insert t' ∈ config.transactionsDispatchQueue := by
      rw [hqueue]
      exact List.mem_cons_self
    exact absurd hsearch ((hlife.queued t' hqueued).2 tr.id)

/-- A request that does not meet the condition makes a second transaction of one id. -/
theorem not_uniqueIds_of_not_idFree (hlife : Lifecycle config)
    (hstep : transactionStep config action = some config') (hfree : ¬ IdFree config action) :
    ¬ UniqueIds config' := by
  cases action with
  | request addr object =>
    simp only [IdFree, not_forall] at hfree
    obtain ⟨halloc, t, ht, hlive⟩ := hfree
    obtain ⟨tr, hlive⟩ := Option.ne_none_iff_exists'.1 hlive
    obtain ⟨hnone, -⟩ | ⟨packet, s₁, s₂, -, -, rfl⟩ := transactionRequest_cases hstep
    · rw [hnone] at halloc
      cases halloc
    intro hunique
    have hlive' := fun u => @live_concat config (config.requested packet s₂ addr object) u _ rfl
    have hne : t ≠ config.heap.length := Nat.ne_of_lt (live_lt hlive)
    refine hne (hunique.unique t config.heap.length tr _
      ((hlive' t).trans ((if_neg hne).trans hlive)) ((hlive' _).trans (if_pos rfl)) ?_)
    rw [(hlife.waiting t tr hlive).id]
    show t % kTransactionMaxId = config.cseq
    rw [hlife.cseq, ← ht, Nat.add_mod_right]
  | _ => exact absurd trivial hfree

end Steps

/-! ## Runs -/

section Runs

variable {agent : Agent} {memory : Nat → Vector UInt8 kNetPacketMaxLen}
  {receiveCallback errorCallback : Bool} {config : TransactionConfiguration}
  {actions : List TransactionAction}

theorem recent_setup : Recent (transactionSetup agent memory receiveCallback errorCallback) :=
  fun _ _ h => by cases live_eq_some.1 h

/-- **Live ids are unique exactly while ids are free when they are taken.** -/
theorem ids_unique_iff (h : run transactionStep
      (transactionSetup agent memory receiveCallback errorCallback) actions = some config) :
    (∀ before c, before <+: actions → run transactionStep
      (transactionSetup agent memory receiveCallback errorCallback) before = some c →
        UniqueIds c) ↔
    Along transactionStep IdFree
      (transactionSetup agent memory receiveCallback errorCallback) actions := by
  constructor
  · refine (run_history (P := fun actions config => run transactionStep
      (transactionSetup agent memory receiveCallback errorCallback) actions = some config ∧
      ((∀ before c, before <+: actions → run transactionStep
        (transactionSetup agent memory receiveCallback errorCallback) before = some c →
          UniqueIds c) → Along transactionStep IdFree
            (transactionSetup agent memory receiveCallback errorCallback) actions)) ?_ ?_ h).2
    · exact ⟨rfl, fun _ => trivial⟩
    · rintro actions config action config' ⟨hrun, ih⟩ hstep
      have hrun' := run_snoc_eq_some.2 ⟨config, hrun, hstep⟩
      refine ⟨hrun', fun hall => (along_snoc hrun).2 ⟨ih fun before c hbefore =>
        hall before c (hbefore.trans (List.prefix_append _ _)), ?_⟩⟩
      by_contra hfree
      exact not_uniqueIds_of_not_idFree (run_lifecycle hrun) hstep hfree
        (hall _ config' (List.prefix_refl _) hrun')
  · rintro halong before c ⟨rest, rfl⟩ hc
    refine uniqueIds_of_recent (run_lifecycle hc) ?_
    exact run_along recent_setup (fun _ _ _ hrecent hfree hstep => hrecent.step hfree hstep) hc
      ((along_append hc).1 halong).1

/-- The condition says nothing in the first 255 steps. -/
theorem along_idFree_of_short {actions : List TransactionAction} :
    ∀ {config : TransactionConfiguration},
      config.heap.length + actions.length ≤ kTransactionMaxId →
        Along transactionStep IdFree config actions := by
  induction actions with
  | nil => exact fun _ => trivial
  | cons action actions ih =>
    intro config hshort
    rw [List.length_cons] at hshort
    refine ⟨?_, fun config' hstep => ih ?_⟩
    · cases action with
      | request addr object =>
        intro _ t ht
        omega
      | _ => trivial
    · rcases transactionStep_heap hstep with ⟨addr, object, packet, socket, -, -, rfl⟩ | ⟨hlength, -⟩
      · have hlength : (config.requested packet socket addr object).heap.length =
          config.heap.length + 1 := List.length_append
        omega
      · omega

end Runs

/-- A request of an empty object. -/
def emptyRequest : TransactionObject := .plain TransactionRequestType.empty.code empty_not_struct

theorem emptyRequest_wellFormed : emptyRequest.WellFormed := rfl

/-- Two requests wait, and a third is made. -/
def waitingRequests : List TransactionAction :=
  [.request .zeroed emptyRequest, .proceed 0, .proceed 0, .block, .request .zeroed emptyRequest,
    .block, .proceed 1, .proceed 1, .request .zeroed emptyRequest]

theorem ids_unique_iff_waiting : ∃ config, run transactionStep (transactionSetup .client
    (fun _ => Vector.replicate _ 0) true true) waitingRequests = some config ∧
      (config.live 0).isSome ∧ (config.live 1).isSome ∧ (config.live 2).isSome ∧
      UniqueIds config := by
  have hrun : (run transactionStep (transactionSetup .client (fun _ => Vector.replicate _ 0) true
      true) waitingRequests).map (fun c => ((c.live 0).isSome, (c.live 1).isSome,
        (c.live 2).isSome)) = some (true, true, true) := by
    decide +kernel
  obtain ⟨config, h, heq⟩ := Option.map_eq_some_iff.1 hrun
  simp only [Prod.mk.injEq] at heq
  refine ⟨config, h, heq.1, heq.2.1, heq.2.2, (ids_unique_iff h).2 ?_ _ _ (List.prefix_refl _) h⟩
  exact along_idFree_of_short (by decide)

/-! ## A transaction that outlives its id -/

/-- Enabled, with nothing queued. -/
structure Settled (config : TransactionConfiguration) : Prop where
  holding : Holding config []
  life : Lifecycle config
  maxKey : config.transactions.maxKey = kTransactionMaxId
  queue : config.transactionsDispatchQueue = []
  received : config.received = []
  lost : config.lost = []
  enabled : config.isEnabled = true
  socketQueue : config.socket.socketDispatchQueue = []
  pendingPackets : config.socket.pendingPackets = []
  unclaimed : config.socket.unclaimed = []
  sized : config.socket.Sized

/-- As long as not all packets are referenced, one can be had. -/
theorem Holding.exists_alloc {config : TransactionConfiguration} {extra : List Nat}
    (h : Holding config extra)
    (hlt : (extra ++ config.owners ++ (config.socket.socketDispatchQueue ++
      config.socket.pendingPackets ++ config.socket.unclaimed)).length < kNetPacketPoolCapacity) :
    ∃ i socket, netPacketAlloc config.socket = some (i, socket) := by
  obtain ⟨i, hi, hnot⟩ : ∃ i < kNetPacketPoolCapacity, i ∉ extra ++ config.owners ++
      (config.socket.socketDispatchQueue ++ config.socket.pendingPackets ++
        config.socket.unclaimed) := by
    by_contra hall
    simp only [not_exists, not_and, not_not] at hall
    have hsub : List.range kNetPacketPoolCapacity ⊆ extra ++ config.owners ++
        (config.socket.socketDispatchQueue ++ config.socket.pendingPackets ++
          config.socket.unclaimed) :=
      fun i hi => hall i (List.mem_range.1 hi)
    have hle := (List.nodup_range.subperm hsub).length_le
    rw [List.length_range] at hle
    omega
  have howned : i ∉ extra ++ config.owners := fun hmem => hnot (List.mem_append_left _ hmem)
  have hsocket : i ∉ config.socket.socketDispatchQueue ++ config.socket.pendingPackets ++
    config.socket.unclaimed := fun hmem => hnot (List.mem_append_right _ hmem)
  rw [List.mem_append, List.mem_append, not_or, not_or] at hsocket
  obtain ⟨⟨hqueue, hpending⟩, hclaimed⟩ := hsocket
  exact h.owned.exists_alloc hi (List.count_eq_zero.2 howned) hqueue hpending hclaimed

/-- The request of transaction `t` is made, sent, and entered in the table. -/
def startRequest (t : Nat) : List TransactionAction :=
  [.request .zeroed emptyRequest, .proceed t, .socketBlock, .write, .proceed t, .block]

/-- A Success response arrives. -/
def arrive (id : Nat) : List TransactionAction :=
  [.read (.datagram (successDatagram (UInt32.ofNat id))), .callback 0, .block]

section Round

variable {config : TransactionConfiguration} {n : Nat}

theorem Settled.exists_alloc (h : Settled config)
    (hpackets : config.packets.length < kNetPacketPoolCapacity) :
    ∃ i socket, netPacketAlloc config.socket = some (i, socket) := by
  refine h.holding.exists_alloc ?_
  rw [h.socketQueue, h.pendingPackets, h.unclaimed, TransactionConfiguration.owners,
    TransactionConfiguration.held, TransactionConfiguration.pending, h.received, h.queue, h.lost]
  simpa using hpackets

/-- At most one packet is queued for sending: it is sent. -/
theorem drained {s : NetSocket} {i : Nat}
    (hqueue : s.socketDispatchQueue = [] ∨ s.socketDispatchQueue = [i])
    (hpending : s.pendingPackets = []) :
    (netSocketWriteEvent (netSocketRunBlock s)).socketDispatchQueue = [] ∧
      (netSocketWriteEvent (netSocketRunBlock s)).pendingPackets = [] := by
  rcases hqueue with hqueue | hqueue
  · have hrun : netSocketRunBlock s = s := by
      rw [netSocketRunBlock, hqueue]
    rw [hrun, netSocketWriteEvent, hpending]
    split
    · exact ⟨hqueue, rfl⟩
    · exact ⟨hqueue, hpending⟩
  · have hrun : netSocketRunBlock s = { s with
        socketDispatchQueue := [], pendingPackets := [i], isSending := true } := by
      rw [netSocketRunBlock, hqueue, hpending]
      rfl
    rw [hrun, netSocketWriteEvent, if_pos rfl]
    exact ⟨rfl, rfl⟩

/-- The request gets a packet. -/
theorem Settled.request (h : Settled config)
    (hpackets : config.packets.length < kNetPacketPoolCapacity) :
    ∃ config' transaction,
      transactionStep config (.request .zeroed emptyRequest) = some config' ∧
      transaction.id = config.cseq ∧
      config'.heap = config.heap ++ [some transaction] ∧
      config'.calls config.heap.length = .sending .zeroed ∧
      config'.transactionsDispatchQueue = [.insert config.heap.length] ∧
      config'.transactions = config.transactions ∧ config'.received = [] ∧ config'.lost = [] ∧
      config'.isEnabled = true ∧ config'.socket.socketDispatchQueue = [] ∧
      config'.socket.pendingPackets = [] ∧ config'.socket.unclaimed = [] ∧
      config'.socket.Sized := by
  obtain ⟨packet, s₁, halloc⟩ := h.exists_alloc hpackets
  have hfit : (requestBytes config.cseq emptyRequest).length ≤ kNetPacketMaxLen := by
    show 6 ≤ 256
    decide
  obtain ⟨s₂, hpack, hsized, -⟩ := onBitstream_of_writes
    (writes_packRequest config.cseq emptyRequest_wellFormed) halloc h.sized hfit
  have htouch := ((touches_alloc halloc).trans (touches_onBitstream hpack)).trans
    (touches_setPacket _ _
      { s₂.packet packet with tag := .request config.agent config.heap.length })
  refine ⟨_, _, transactionRequest_eq halloc hpack, rfl, rfl, config.calls_requested_self .., ?_, rfl,
    h.received, h.lost, h.enabled, htouch.queue.trans h.socketQueue,
    htouch.pending.trans h.pendingPackets, htouch.unclaimed.trans h.unclaimed, ?_⟩
  · show config.transactionsDispatchQueue ++ _ = _
    rw [h.queue]
    rfl
  · exact hsized.setPacket (hsized packet)

/-- The rest of the call, with the work of the socket in between. -/
theorem run_proceed {config : TransactionConfiguration} {t : Nat} {transaction : Transaction}
    {addr : NetAddr} (hlive : config.live t = some transaction)
    (hcall : config.calls t = .sending addr) (hsocket : config.socket.socketDispatchQueue = [])
    (hpending : config.socket.pendingPackets = []) (hsized : config.socket.Sized) :
    ∃ socket, run transactionStep config [.proceed t, .socketBlock, .write, .proceed t] = some
        (((config.sentOff t transaction addr).onSocket socket).armed t transaction) ∧
      socket.socketDispatchQueue = [] ∧ socket.pendingPackets = [] ∧
      socket.unclaimed = config.socket.unclaimed ∧ socket.Sized := by
  have hsend := (touches_setPacket config.socket transaction.packet (netPacketAddr
    (config.socket.packet transaction.packet) addr)).queues (queues_send _ transaction.packet)
  generalize hs : netSocketSend (config.socket.setPacket transaction.packet (netPacketAddr
    (config.socket.packet transaction.packet) addr)) transaction.packet = sent at hsend
  have hqueue : sent.socketDispatchQueue = [] ∨ sent.socketDispatchQueue = [transaction.packet] := by
    have hqueue := hsend.queue
    rw [hsocket] at hqueue
    exact hqueue
  obtain ⟨hqueue', hpending'⟩ := drained hqueue (hsend.pending.trans hpending)
  have hsent : (config.sentOff t transaction addr).socket = sent := hs
  refine ⟨netSocketWriteEvent (netSocketRunBlock sent), run_cons_eq_some.2 ⟨_,
    transactionProceed_sending hcall hlive, run_cons_eq_some.2 ⟨_, rfl, run_cons_eq_some.2
      ⟨_, rfl, run_cons_eq_some.2 ⟨_, ?_, rfl⟩⟩⟩⟩, hqueue', hpending', ?_, ?_⟩
  · rw [← hsent]
    exact transactionProceed_arming (Function.update_self ..) hlive
  · rw [unclaimed_writeEvent, unclaimed_runBlock]
    exact hsend.unclaimed
  · refine NetSocket.Sized.of_packets (s := sent) ?_ fun j => by rw [packet_writeEvent, packet_runBlock]
    rw [← hs]
    exact (hsized.setPacket (p := netPacketAddr _ addr) (hsized transaction.packet)).send

theorem run_startRequest (h : Settled config)
    (hpackets : config.packets.length < kNetPacketPoolCapacity) :
    ∃ config', run transactionStep config (startRequest config.heap.length) = some config' ∧
      Settled config' ∧ config'.heap.length = config.heap.length + 1 ∧
      config'.packets.length = config.packets.length + 1 ∧
      (config'.live config.heap.length).isSome ∧
      (∀ u, u ≠ config.heap.length → config'.live u = config.live u) ∧
      ∀ key, hashtableSearch config'.transactions key =
        if key = config.heap.length % kTransactionMaxId then some config.heap.length
        else hashtableSearch config.transactions key := by
  obtain ⟨c₁, tr, hrequest, htr, hheap, hcall, hqueue, htable, hreceived, hlost, henabled,
    hsocket, hpending, hunclaimed, hsized⟩ := h.request hpackets
  generalize hn : config.heap.length = n at *
  have hlive : ∀ u, c₁.live u = if u = n then some tr else config.live u := by
    rw [← hn]
    exact fun u => live_concat hheap
  have hlive₁ : c₁.live n = some tr := (hlive n).trans (if_pos rfl)
  obtain ⟨socket, hproceed, hqueue', hpending', hunclaimed', hsized'⟩ :=
    run_proceed hlive₁ hcall hsocket hpending hsized
  generalize hc₂ : ((c₁.sentOff n tr .zeroed).onSocket socket).armed n tr = c₂ at hproceed
  have hheap₂ : c₂.heap = c₁.heap.set n (some { tr with state := .waiting, timeoutValid := true }) := by
    rw [← hc₂]
    rfl
  have hlive₂ := fun u => @live_set c₁ c₂ n u _ (live_lt hlive₁) hheap₂
  have hqueue₂ : c₂.transactionsDispatchQueue = [.insert n] := by
    rw [← hc₂]
    exact hqueue
  have hsocket₂ : c₂.socket = socket := by
    rw [← hc₂]
    rfl
  have hinsert : transactionStep c₂ .block = some { c₂.popped [] with
      transactions := hashtableInsert c₂.transactions tr.id n } := by
    rw [transactionStep_block hqueue₂]
    show (c₂.live n).bind _ = _
    rw [hlive₂, if_pos rfl]
    rfl
  have hrun : run transactionStep config (startRequest n) = some
      { c₂.popped [] with transactions := hashtableInsert c₂.transactions tr.id n } :=
    run_cons_eq_some.2 ⟨c₁, hrequest, run_snoc_eq_some.2 ⟨c₂, hproceed, hinsert⟩⟩
  have hid' : tr.id = n % kTransactionMaxId := by
    rw [htr, h.life.cseq, hn]
  have hlt : tr.id ≤ kTransactionMaxId := by
    rw [hid']
    exact Nat.le_of_lt (Nat.mod_lt _ (by decide))
  have htable₂ : c₂.transactions = config.transactions := by
    rw [← hc₂]
    exact htable
  refine ⟨_, hrun, ⟨?_, ?_, ?_, rfl, ?_, ?_, ?_, ?_, ?_, ?_, ?_⟩, ?_, ?_, ?_, fun u hu => ?_,
    fun key => ?_⟩
  · exact run_inv (P := fun c => Holding c []) h.holding
      (fun _ _ _ hc hstep => (transactionStep_held hc hstep).1) hrun
  · exact run_inv h.life (fun _ _ _ => transactionStep_lifecycle) hrun
  · show (hashtableInsert c₂.transactions tr.id _).maxKey = _
    rw [maxKey_insert, htable₂]
    exact h.maxKey
  · rw [← hc₂]
    exact hreceived
  · rw [← hc₂]
    exact hlost
  · rw [← hc₂]
    exact henabled
  · exact (congrArg NetSocket.socketDispatchQueue hsocket₂).trans hqueue'
  · exact (congrArg NetSocket.pendingPackets hsocket₂).trans hpending'
  · exact (congrArg NetSocket.unclaimed hsocket₂).trans (hunclaimed'.trans hunclaimed)
  · exact hsocket₂ ▸ hsized'
  · show c₂.heap.length = _
    rw [hheap₂, List.length_set, hheap, List.length_append, hn]
    rfl
  · show c₂.packets.length = _
    rw [(packets_update hlive₁ hheap₂ rfl).length_eq]
    show (c₁.heap.filterMap _).length = _
    rw [hheap, List.filterMap_append, List.length_append]
    rfl
  · show (c₂.live n).isSome
    rw [hlive₂, if_pos rfl]
    rfl
  · exact ((hlive₂ u).trans (if_neg hu)).trans ((hlive u).trans (if_neg hu))
  · show hashtableSearch (hashtableInsert c₂.transactions tr.id _) key = _
    rw [hashtableSearch_insert, htable₂, h.maxKey, hid']
    simp only [hid'.symm ▸ hlt, and_true]

/-- The datagram is stored in a packet. -/
theorem Settled.read (h : Settled config)
    (hpackets : config.packets.length < kNetPacketPoolCapacity) (id : UInt32) :
    ∃ config' packet receipt data,
      transactionStep config (.read (.datagram (successDatagram id))) = some config' ∧
      config'.received = [(packet, receipt)] ∧ config'.heap = config.heap ∧
      config'.transactions = config.transactions ∧ config'.transactionsDispatchQueue = [] ∧
      config'.lost = [] ∧ config'.isEnabled = true ∧
      config'.socket.socketDispatchQueue = [] ∧ config'.socket.pendingPackets = [] ∧
      config'.socket.unclaimed = [] ∧ config'.socket.Sized ∧
      (config'.socket.packet packet).bitstream = bitstreamCreate data kNetPacketMaxLen ∧
      HasAt data 0 (wireHeader id .response ++ wireResponse .success) := by
  obtain ⟨packet, s₁, halloc⟩ := h.exists_alloc hpackets
  have hread := @netSocketRead_of_fits config.socket (successDatagram id)
    (show 0 < 6 by decide) (show 6 ≤ 256 by decide)
  rw [netSocketReadEvent_of_alloc halloc] at hread
  have hlength : (config.socket.packet packet).bitstream.data.length = kNetPacketMaxLen :=
    h.sized packet
  have hfit : 0 + (successDatagram id).bytes.length ≤
      (config.socket.packet packet).bitstream.data.length := by
    rw [hlength]
    show 0 + 6 ≤ 256
    decide
  refine ⟨config.read packet (s₁.setPacket packet
    ((config.socket.packet packet).store (successDatagram id))) .none, packet, config.receipts, _,
    ?_, ?_, rfl, rfl, h.queue, h.lost, h.enabled, ?_, ?_, ?_, ?_, ?_, hasAt_overwrite hfit⟩
  · rw [transactionStep, hread]
    dsimp only
    rw [packet_setPacket_self]
    rfl
  · show config.received ++ _ = _
    rw [h.received]
    rfl
  · exact (touches_alloc halloc).queue.trans h.socketQueue
  · exact (touches_alloc halloc).pending.trans h.pendingPackets
  · exact (touches_alloc halloc).unclaimed.trans h.unclaimed
  · exact (h.sized.alloc halloc).setPacket ((length_overwrite hfit).trans hlength)
  · show (NetSocket.packet (s₁.setPacket packet _) packet).bitstream = _
    rw [packet_setPacket_self]
    rfl

/-- The response ends its transaction. -/
theorem run_arrive (h : Settled config)
    (hpackets : config.packets.length < kNetPacketPoolCapacity) (hlive : (config.live n).isSome)
    (hsearch : hashtableSearch config.transactions (n % kTransactionMaxId) = some n) :
    ∃ config', run transactionStep config (arrive (n % kTransactionMaxId)) = some config' ∧
      Settled config' ∧ config'.heap.length = config.heap.length ∧
      config'.packets.length + 1 = config.packets.length ∧
      (∀ u, u ≠ n → config'.live u = config.live u) ∧
      ∀ key, key ≠ n % kTransactionMaxId →
        hashtableSearch config'.transactions key = hashtableSearch config.transactions key := by
  have hlt : n % kTransactionMaxId < kTransactionMaxId := Nat.mod_lt _ (by decide)
  obtain ⟨tr, htr⟩ := Option.isSome_iff_exists.1 hlive
  have htrid := h.life.id_eq hsearch htr
  generalize n % kTransactionMaxId = id at *
  obtain ⟨c₁, packet, receipt, data, hread, hreceived, hheap, htable, hqueue, hlost, henabled,
    hsocketQueue, hpending, hunclaimed, hsized, hstream, hat⟩ := h.read hpackets (UInt32.ofNat id)
  obtain ⟨hhead, hbody⟩ := hasAt_append.1 hat
  -- the callback reads the header
  obtain ⟨s₂, hheader, hsized₂, hstream₂⟩ := onBitstream_of_reads (s := c₁.socket) (i := packet)
    (reads_header 0 0 (UInt32.ofNat id) .response) hsized (by rw [hstream]; rfl)
    (by rw [hstream]; exact Nat.zero_le _) (by rw [hstream]; exact hhead)
  have htouch₂ := touches_onBitstream hheader
  have hblock : receivedBlock packet receipt (UInt32.ofNat id % 256) TransactionType.response.code =
      some (.response packet id receipt) := by
    rw [receivedBlock, if_pos rfl, toNat_ofNat_mod hlt]
  have hcallback := @receiveCallback_eq (c₁.taken 0) _ _ _ _ _ _ henabled hheader hblock
  -- the block reads the type
  generalize hs₃ : netPacketRelease (netPacketRetain s₂ packet) packet = s₃
  have hpacket₃ : ∀ j, s₃.packet j = s₂.packet j := by
    intro j
    rw [← hs₃, packet_release, packet_retain]
  have hsized₃ : s₃.Sized := hsized₂.of_packets fun j => by rw [hpacket₃]
  obtain ⟨s₄, hbody, hsized₄, -⟩ := onBitstream_of_reads (s := s₃) (i := packet)
    (reads_response .success) hsized₃ (by rw [hpacket₃, hstream₂, hstream]; rfl)
    (by rw [hpacket₃, hstream₂, hstream]; show 0 + 5 ≤ 256; decide)
    (by rw [hpacket₃, hstream₂, hstream]; exact hbody)
  have htouch₄ := touches_onBitstream hbody
  generalize hc₂ : (((c₁.taken 0).onSocket s₂).retained packet receipt
    (.response packet id receipt)).released packet receipt = c₂ at hcallback
  have hsocket₂ : c₂.socket = s₃ := by
    rw [← hc₂, ← hs₃]
    rfl
  have hqueue₂ : c₂.transactionsDispatchQueue = [.response packet id receipt] := by
    rw [← hc₂]
    show c₁.transactionsDispatchQueue ++ _ = _
    rw [hqueue]
    rfl
  have hheap₂ : c₂.heap = config.heap := by
    rw [← hc₂]
    exact hheap
  have htable₂ : c₂.transactions = config.transactions := by
    rw [← hc₂]
    exact htable
  have hlive₂ : ∀ u, (c₂.popped []).live u = config.live u := by
    intro u
    show c₂.heap[u]?.join = _
    rw [hheap₂]
    rfl
  have hsearch₂ : hashtableSearch (c₂.popped []).transactions id = some n := by
    rw [← hsearch, ← htable₂]
    rfl
  have hbody₂ : (c₂.popped []).socket.onBitstream packet transactionProtocolUnpackResponse =
      some ((.valid, TransactionResponseType.success.code), s₄) := by
    rw [← hbody, ← hsocket₂]
    rfl
  have hresponse := @responseBlock_eq _ _ _ packet id receipt hsearch₂ ((hlive₂ n).trans htr) _ _ _
    hbody₂
  have hrun : run transactionStep config (arrive id) = some
      (((((c₂.popped []).onSocket s₄).note [.response n TransactionResponseType.success.code]).completed
        n tr (responseState TransactionResponseType.success.code)).released packet receipt) := by
    refine run_cons_eq_some.2 ⟨_, hread, run_cons_eq_some.2 ⟨c₂, ?_, run_cons_eq_some.2
      ⟨_, ?_, rfl⟩⟩⟩
    · rw [transactionStep_callback (by rw [hreceived]; rfl)]
      exact hcallback
    · rw [transactionStep_block hqueue₂]
      exact hresponse
  refine ⟨_, hrun, ⟨?_, ?_, ?_, rfl, ?_, ?_, ?_, ?_, ?_, ?_, ?_⟩, ?_, ?_, fun u hu => ?_,
    fun key hkey => ?_⟩
  · exact run_inv (P := fun c => Holding c []) h.holding
      (fun _ _ _ hc hstep => (transactionStep_held hc hstep).1) hrun
  · exact run_inv h.life (fun _ _ _ => transactionStep_lifecycle) hrun
  · show (hashtableDelete c₂.transactions tr.id).maxKey = _
    rw [maxKey_delete, htable₂]
    exact h.maxKey
  · show c₂.received = []
    rw [← hc₂]
    show c₁.received.eraseIdx 0 = []
    rw [hreceived]
    rfl
  · show c₂.lost = []
    rw [← hc₂]
    exact hlost
  · show c₂.isEnabled = true
    rw [← hc₂]
    exact henabled
  · show s₄.socketDispatchQueue = []
    rw [htouch₄.queue, ← hs₃]
    exact htouch₂.queue.trans hsocketQueue
  · show s₄.pendingPackets = []
    rw [htouch₄.pending, ← hs₃]
    exact htouch₂.pending.trans hpending
  · show s₄.unclaimed = []
    rw [htouch₄.unclaimed, ← hs₃]
    exact htouch₂.unclaimed.trans hunclaimed
  · refine hsized₄.of_packets fun j => ?_
    show ((netPacketRelease (netPacketRelease s₄ tr.packet) packet).packet j).bitstream = _
    rw [packet_release, packet_release]
  · show (c₂.heap.set n none).length = _
    rw [List.length_set, hheap₂]
  · have hperm := @packets_free config (((((c₂.popped []).onSocket s₄).note [.response n
      TransactionResponseType.success.code]).completed n tr
        (responseState TransactionResponseType.success.code)).released packet receipt) n tr htr
      (congrArg (List.set · n none) hheap₂)
    exact hperm.length_eq
  · refine (live_set (live_lt htr) (congrArg (List.set · n none) hheap₂)).trans (if_neg hu)
  · show hashtableSearch (hashtableDelete c₂.transactions tr.id) key = _
    rw [hashtableSearch_delete, htrid, if_neg hkey, htable₂]

end Round

/-- A first request, and `k` more that are answered at once. -/
def answeredRequests : Nat → List TransactionAction
  | 0 => startRequest 0
  | k + 1 => answeredRequests k ++ (startRequest (k + 1) ++ arrive ((k + 1) % kTransactionMaxId))

/-- The first transaction is still waiting after 254 others. -/
theorem run_answeredRequests {start : TransactionConfiguration} (h : Settled start)
    (hheap : start.heap = []) (k : Nat) (hk : k < kTransactionMaxId) :
    ∃ config, run transactionStep start (answeredRequests k) = some config ∧ Settled config ∧
      config.heap.length = k + 1 ∧ config.packets.length = 1 ∧ (config.live 0).isSome ∧
      hashtableSearch config.transactions 0 = some 0 := by
  have hpackets₀ : start.packets.length = 0 := by
    rw [TransactionConfiguration.packets, hheap]
    rfl
  induction k with
  | zero =>
    obtain ⟨config, hrun, hsettled, hlength, hpackets, hlive, -, htable⟩ :=
      run_startRequest h (by rw [hpackets₀]; decide)
    rw [hheap] at hrun hlength hlive htable
    exact ⟨config, hrun, hsettled, hlength, by omega, hlive, htable 0⟩
  | succ k ih =>
    obtain ⟨config, hrun, hsettled, hlength, hpackets, hlive, htable⟩ := ih (by omega)
    obtain ⟨c₁, hrun₁, hsettled₁, hlength₁, hpackets₁, hlive₁, hother₁, htable₁⟩ :=
      run_startRequest hsettled (by rw [hpackets]; decide)
    rw [hlength] at hrun₁ hlength₁ hlive₁ hother₁ htable₁
    have hmod : (k + 1) % kTransactionMaxId = k + 1 := Nat.mod_eq_of_lt hk
    obtain ⟨c₂, hrun₂, hsettled₂, hlength₂, hpackets₂, hother₂, htable₂⟩ :=
      run_arrive hsettled₁ (by rw [hpackets₁, hpackets]; decide) hlive₁
        ((htable₁ _).trans (if_pos rfl))
    refine ⟨c₂, ?_, hsettled₂, by omega, by omega, ?_, ?_⟩
    · exact run_append_eq_some.2 ⟨config, hrun, run_append_eq_some.2 ⟨c₁, hrun₁, hrun₂⟩⟩
    · rw [hother₂ 0 (by omega), hother₁ 0 (by omega)]
      exact hlive
    · rw [htable₂ 0 (by omega), htable₁, if_neg (by omega)]
      exact htable

theorem slowTransaction_collides : ∃ config tr tr', run transactionStep
    (transactionSetup .client (fun _ => Vector.replicate _ 0) true true)
      (answeredRequests 254 ++ [.request .zeroed emptyRequest]) = some config ∧
    config.live 0 = some tr ∧ config.live 255 = some tr' ∧ tr.id = tr'.id ∧
    config.transactionsDispatchQueue = [.insert 255] ∧
    hashtableSearch config.transactions tr'.id = some 0 ∧ ¬ UniqueIds config := by
  have hstart : Settled (transactionSetup .client (fun _ => Vector.replicate _ 0) true true) :=
    ⟨holding_setup .., lifecycle_setup .., rfl, rfl, rfl, rfl, rfl, rfl, rfl, rfl,
      netSocketCreate_sized _⟩
  obtain ⟨c, hrun, hsettled, hlength, hpackets, hlive, htable⟩ :=
    run_answeredRequests hstart rfl 254 (by decide)
  obtain ⟨config, tr', hstep, hid, hheap, -, hqueue, htable', -⟩ :=
    hsettled.request (by rw [hpackets]; decide)
  obtain ⟨tr, hlive⟩ := Option.isSome_iff_exists.1 hlive
  have hid' : tr'.id = 0 := by
    rw [hid, hsettled.life.cseq, hlength]
    rfl
  have htrid : tr.id = 0 := (hsettled.life.waiting 0 tr hlive).id
  have hnew := fun u => @live_concat c config u _ hheap
  rw [hlength] at hnew hqueue
  have hlive₀ : config.live 0 = some tr := (hnew 0).trans hlive
  have hlive₁ : config.live 255 = some tr' := hnew 255
  refine ⟨config, tr, tr', run_snoc_eq_some.2 ⟨c, hrun, hstep⟩, hlive₀, hlive₁,
    htrid.trans hid'.symm, hqueue, ?_, fun hunique => ?_⟩
  · rw [hid', htable']
    exact htable
  · exact absurd (hunique.unique 0 255 tr tr' hlive₀ hlive₁ (htrid.trans hid'.symm)) (by decide)

end UniversalNetwork
