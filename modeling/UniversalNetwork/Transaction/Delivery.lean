import UniversalNetwork.Transaction.Agreement

/-!
# How often a request is delivered

The receiver keeps no record of the requests it has seen: each copy of a request that reaches it is
answered and handed to the receive callback. So a request is delivered at most once for each copy
that the network delivers (`Counted`), the requester hands at most three copies to `sendto`
(`Sends`), and without duplication by the network a request is delivered at most three times
(`callbacks_le_copies`).
-/

namespace UniversalNetwork

open Lib

/-- An invocation of the receive callback for this request. -/
def Event.isCallback (tag : Tag) : Event → Bool
  | .receiveCallback tag' _ => tag' = tag
  | _ => false

/-- A copy of the request was stored in a packet. -/
def Event.isReceive (tag : Tag) : Event → Bool
  | .receive _ _ tag' => tag' = tag
  | _ => false

namespace TransactionConfiguration

variable (config : TransactionConfiguration) (tag : Tag)

def callbacks : Nat := config.log.countP (Event.isCallback tag)

def receives : Nat := config.log.countP (Event.isReceive tag)

/-- The copies received that have not been given back to the pool. -/
def copies : Nat := config.held.countP fun e => (config.socket.packet e.1).tag = tag

end TransactionConfiguration

/-! ## The receiver -/

section Receiver

variable {config config' : TransactionConfiguration} {party party' : Party}
  {action : TransactionAction} {tag : Tag}

theorem completion_callbacks (errorCallback : Bool) (t : Nat) (state : TransactionState) :
    (completion errorCallback t state).countP (Event.isCallback tag) = 0 := by
  unfold completion
  split <;> simp [Event.isCallback]

/-- A step that does not serve a request invokes no callback, and only a read event stores one. -/
theorem transactionStep_callbacks (hstep : transactionStep config action = some config')
    (hother : action = .block → ∀ packet id receipt rest,
      config.transactionsDispatchQueue ≠ .request packet id receipt :: rest) :
    config'.callbacks tag = config.callbacks tag ∧ (config'.receipts = config.receipts ∨
      ∃ datagram packet socket, action = .read (.datagram datagram) ∧
        netSocketReadEvent config.socket datagram = some (packet, socket) ∧
        config' = config.read packet socket datagram.tag) := by
  unfold TransactionConfiguration.callbacks
  cases transactionStep_move hstep with
  | idle hqueue => exact ⟨rfl, .inl rfl⟩
  | dispatched haction hplain => exact ⟨rfl, .inl rfl⟩
  | requested halloc hpack => exact ⟨by simp [Event.isCallback], .inl rfl⟩
  | sentOff hcall hlive => exact ⟨by simp [Event.isCallback], .inl rfl⟩
  | armed hcall hlive => exact ⟨rfl, .inl rfl⟩
  | unread hread hunread => exact ⟨rfl, .inl rfl⟩
  | @read datagram packet socket hlength hread =>
    exact ⟨by simp [Event.isCallback], .inr ⟨datagram, packet, socket, rfl, hread, rfl⟩⟩
  | ignored hreceived hread => exact ⟨by simp [Event.isCallback], .inl rfl⟩
  | retained hreceived hread hblock => exact ⟨by simp [Event.isCallback], .inl rfl⟩
  | inserted hqueue hlive => exact ⟨rfl, .inl rfl⟩
  | lost hqueue hsearch => exact ⟨rfl, .inl rfl⟩
  | responded hqueue hsearch hlive hread =>
    exact ⟨by simp [completion_callbacks, Event.isCallback], .inl rfl⟩
  | served hqueue halloc hpack hread => exact absurd hqueue (hother rfl _ _ _ _)
  | retried hqueue hsearch hlive hstate hretries => exact ⟨by simp [Event.isCallback], .inl rfl⟩
  | timedOut hqueue hsearch hlive hstate hretries =>
    exact ⟨by simp [completion_callbacks], .inl rfl⟩
  | switched hqueue hplain => exact ⟨rfl, .inl rfl⟩
  | removedAll hqueue hremove =>
    have hinv : config'.log.countP (Event.isCallback tag) =
        config.log.countP (Event.isCallback tag) ∧ config'.receipts = config.receipts := by
      refine transactionRemoveAll_inv (P := fun c => c.log.countP (Event.isCallback tag) =
        config.log.countP (Event.isCallback tag) ∧ c.receipts = config.receipts) ?_ ?_ hremove
      · rintro c key t tr ⟨hcount, hreceipts⟩ hsearch hlive
        exact ⟨by simpa [Event.isCallback] using hcount, hreceipts⟩
      · exact ⟨rfl, rfl⟩
    exact ⟨hinv.1, .inl hinv.2⟩
  | timeoutFired hlive => exact ⟨rfl, .inl rfl⟩
  | socketBlock => exact ⟨rfl, .inl rfl⟩
  | write => exact ⟨rfl, .inl rfl⟩

/-! ### Copies in hand -/

theorem held_unheld {e : Nat × Nat} (he : e ∈ config.held) : ¬ config.Unheld e.1 :=
  fun h => h.1 (List.mem_append_right _ (List.mem_map_of_mem he))

/-- The packets in hand keep their tags. -/
def SameTags (config config' : TransactionConfiguration) : Prop :=
  ∀ e ∈ config.held, (config'.socket.packet e.1).tag = (config.socket.packet e.1).tag

theorem SameTags.copies (h : SameTags config config') {held : List (Nat × Nat)}
    (hheld : held ⊆ config.held) :
    held.countP (fun e => (config'.socket.packet e.1).tag = tag) =
      held.countP fun e => (config.socket.packet e.1).tag = tag := by
  refine List.countP_congr fun e he => ?_
  rw [h e (hheld he)]

theorem copies_same (hheld : config'.held.Perm config.held) (h : SameTags config config') :
    config'.copies tag = config.copies tag :=
  (hheld.countP_eq _).trans (h.copies (List.Subset.refl _))

theorem copies_freed {packet receipt : Nat}
    (hheld : ((packet, receipt) :: config'.held).Perm config.held) (h : SameTags config config') :
    config.copies tag =
      config'.copies tag + if (config.socket.packet packet).tag = tag then 1 else 0 := by
  have hsub : config'.held ⊆ config.held := fun e he => hheld.subset (List.mem_cons_of_mem _ he)
  unfold TransactionConfiguration.copies
  rw [← hheld.countP_eq, List.countP_cons, h.copies hsub]
  simp

theorem copies_read {datagram : Datagram} {packet : Nat} {socket : NetSocket}
    (hold : Holding config [])
    (hread : netSocketReadEvent config.socket datagram = some (packet, socket)) :
    (config.read packet socket datagram.tag).copies tag =
      config.copies tag + if datagram.tag = tag then 1 else 0 := by
  obtain ⟨s₁, halloc, rfl⟩ := netSocketReadEvent_eq hread
  have htags : SameTags config (config.read packet (s₁.setPacket packet
      ((config.socket.packet packet).store datagram)) datagram.tag) := by
    intro e he
    have hne : e.1 ≠ packet := by
      rintro rfl
      exact held_unheld he (hold.unheld_alloc halloc)
    exact congrArg NetPacket.tag
      (((touches_alloc halloc).trans (touches_setPacket s₁ packet _)).packet e.1 hne)
  unfold TransactionConfiguration.copies
  rw [(held_read config packet _ datagram.tag).countP_eq, List.countP_cons,
    htags.copies (List.Subset.refl _)]
  simp [TransactionConfiguration.read, NetPacket.store]

theorem receives_trace (config : TransactionConfiguration) (tag : Tag) :
    config.receives tag = config.trace.countP (Event.isReceive tag) := by
  rw [TransactionConfiguration.receives, TransactionConfiguration.trace, List.countP_filter]
  refine List.countP_congr fun e _ => ?_
  cases e <;> simp [Event.isReceive, Event.receipt]

theorem transactionStep_receives (hold : Holding config [])
    (hstep : transactionStep config action = some config')
    (hreceipts : config'.receipts = config.receipts) :
    config'.receives tag = config.receives tag := by
  rw [receives_trace, receives_trace]
  cases (transactionStep_held hold hstep).2 with
  | quiet _ htrace _ => rw [htrace]
  | retained receipt _ htrace _ =>
    rw [htrace, List.countP_append]
    rfl
  | received packet tag' _ _ hreceipts' => omega
  | freed packet receipt _ htrace _ _ =>
    rw [htrace, List.countP_append]
    rfl

theorem receives_read (packet : Nat) (socket : NetSocket) (tag' : Tag) :
    (config.read packet socket tag').receives tag =
      config.receives tag + if tag' = tag then 1 else 0 := by
  simp [TransactionConfiguration.receives, List.countP_cons, Event.isReceive]

/-- Callbacks and copies in hand are accounted for by what was received. -/
def Counted (config : TransactionConfiguration) : Prop :=
  ∀ tag, config.callbacks tag + config.copies tag ≤ config.receives tag

theorem transactionStep_counted (h : Counted config) (hold : Holding config [])
    (hstep : transactionStep config action = some config')
    (hother : action = .block → ∀ packet id receipt rest,
      config.transactionsDispatchQueue ≠ .request packet id receipt :: rest) :
    Counted config' := by
  intro tag
  have hcount := h tag
  have htags : SameTags config config' :=
    fun e he => (transactionStep_move hstep).tag hold (held_unheld he)
  obtain ⟨hcallbacks, hreceipts⟩ := @transactionStep_callbacks _ _ _ tag hstep hother
  rw [hcallbacks]
  rcases hreceipts with hreceipts | ⟨datagram, packet, socket, -, hread, rfl⟩
  · rw [transactionStep_receives hold hstep hreceipts]
    cases (transactionStep_held hold hstep).2 with
    | quiet hheld _ _ =>
      rw [copies_same hheld htags]
      exact hcount
    | retained receipt hheld _ _ =>
      rw [copies_same hheld htags]
      exact hcount
    | received packet tag' _ _ hreceipts' => omega
    | freed packet receipt hheld _ _ _ =>
      rw [copies_freed hheld htags] at hcount
      omega
  · rw [copies_read hold hread, receives_read]
    omega

theorem PartyMove.receives (hmove : PartyMove party action party') (hold : Holding party.config [])
    (hread : ∀ datagram, action ≠ .read (.datagram datagram)) :
    party'.config.receives tag = party.config.receives tag := by
  cases hmove with
  | whole hother hstep =>
    rcases (@transactionStep_callbacks _ _ _ tag hstep hother).2 with hreceipts |
      ⟨datagram, packet, socket, haction, -⟩
    · exact transactionStep_receives hold hstep hreceipts
    · exact absurd haction (hread datagram)
  | answered hqueue hidle halloc hpack => rfl
  | delivered hqueue hanswering hread' =>
    unfold TransactionConfiguration.receives delivery
    split <;> simp [Event.isReceive]

theorem PartyMove.receives_read {datagram : Datagram}
    (hmove : PartyMove party (.read (.datagram datagram)) party') (hold : Holding party.config []) :
    party'.config.receives tag ≤ party.config.receives tag + if datagram.tag = tag then 1 else 0 := by
  cases hmove with
  | whole hother hstep =>
    rcases (@transactionStep_callbacks _ _ _ tag hstep hother).2 with hreceipts |
      ⟨datagram', packet, socket, haction, -, rfl⟩
    · rw [transactionStep_receives hold hstep hreceipts]
      omega
    · obtain rfl := RecvFrom.datagram.inj (TransactionAction.read.inj haction)
      exact Nat.le_of_eq (receives_read _ _ _)

theorem PartyMove.counted (hmove : PartyMove party action party') (h : Counted party.config)
    (hold : Holding party.config []) (hstanding : Standing party) : Counted party'.config := by
  cases hmove with
  | whole hother hstep => exact transactionStep_counted h hold hstep hother
  | @answered packet id receipt reply rest s₁ s₂ hqueue hidle halloc hpack =>
    intro tag
    have htags : SameTags party.config (party.config.answered packet reply s₂) :=
      fun e he => tag_answered hold halloc hpack (held_unheld he)
    have hcopies := @copies_same party.config (party.config.answered packet reply s₂) tag (.refl _)
      htags
    show party.config.callbacks tag + (party.config.answered packet reply s₂).copies tag ≤
      party.config.receives tag
    rw [hcopies]
    exact h tag
  | @delivered packet id receipt rest tag' result object socket hqueue hanswering hread =>
    intro tag
    have hcount := h tag
    -- The callback takes the place of the copy that is given back.
    obtain ⟨packet', _, _, _, hqueue', htag⟩ := hstanding tag' hanswering
    obtain ⟨⟨rfl, -⟩, -⟩ := by simpa using hqueue'.symm.trans hqueue
    have htags : SameTags party.config ((((party.config.popped rest).onSocket socket).note
        (delivery party.config tag' result object)).released packet' receipt) :=
      fun e he => (congrArg NetPacket.tag packet_release).trans (tag_onBitstream hread e.1)
    have hheld : ((packet', receipt) :: ((((party.config.popped rest).onSocket socket).note
        (delivery party.config tag' result object)).released packet' receipt).held).Perm
          party.config.held := held_popped hqueue rfl
    rw [copies_freed hheld htags, htag] at hcount
    have hreceives := @PartyMove.receives _ _ _ tag (.delivered hqueue hanswering hread) hold nofun
    have hcallbacks : ((((party.config.popped rest).onSocket socket).note (delivery party.config
        tag' result object)).released packet' receipt).callbacks tag ≤
          party.config.callbacks tag + if tag' = tag then 1 else 0 := by
      unfold TransactionConfiguration.callbacks delivery
      split <;> simp [Event.isCallback, List.countP_cons]
    dsimp only at hreceives ⊢
    omega

end Receiver

/-! ## The requester -/

/-- The packets with this tag that were sent, or are queued for sending. -/
def NetSocket.outgoing (s : NetSocket) (tag : Tag) : Nat :=
  s.sent.countP (fun e => e.2.tag = tag) +
    (s.pendingPackets ++ s.socketDispatchQueue).countP fun i => (s.packet i).tag = tag

section Socket

variable {s s' : NetSocket} {p : Nat} {tag : Tag}

theorem countP_tags {l : List Nat} (h : ∀ i ∈ l, (s'.packet i).tag = (s.packet i).tag) :
    l.countP (fun i => (s'.packet i).tag = tag) = l.countP fun i => (s.packet i).tag = tag := by
  refine List.countP_congr fun i hi => ?_
  rw [h i hi]

theorem outgoing_same
    (htags : ∀ i ∈ s.pendingPackets ++ s.socketDispatchQueue,
      (s'.packet i).tag = (s.packet i).tag)
    (hqueue : s'.socketDispatchQueue = s.socketDispatchQueue)
    (hpending : s'.pendingPackets = s.pendingPackets) (hsent : s'.sent = s.sent) :
    s'.outgoing tag = s.outgoing tag := by
  rw [NetSocket.outgoing, NetSocket.outgoing, hqueue, hpending, hsent, countP_tags htags]

/-- One more packet is queued, with the tag it has then. -/
theorem outgoing_queued
    (htags : ∀ i ∈ s.pendingPackets ++ s.socketDispatchQueue,
      (s'.packet i).tag = (s.packet i).tag) (h : Queues p s s') :
    s'.outgoing tag ≤ s.outgoing tag + if (s'.packet p).tag = tag then 1 else 0 := by
  rw [NetSocket.outgoing, NetSocket.outgoing, h.pending, h.sent]
  rcases h.queue with hqueue | hqueue
  · rw [hqueue, countP_tags htags]
    omega
  · rw [hqueue, ← List.append_assoc, @List.countP_append _ _ _ [p], countP_tags htags,
      List.countP_singleton]
    simp only [decide_eq_true_eq]
    omega

theorem outgoing_runBlock : (netSocketRunBlock s).outgoing tag = s.outgoing tag := by
  unfold netSocketRunBlock
  split
  · rfl
  · rename_i i rest hqueue
    rw [NetSocket.outgoing, NetSocket.outgoing, hqueue, List.append_assoc]
    rfl

theorem outgoing_writeEvent : (netSocketWriteEvent s).outgoing tag = s.outgoing tag := by
  unfold netSocketWriteEvent
  split
  · obtain ⟨hqueue, hpending, hpacket, hsent⟩ := netSocketFlush_queues s.pendingPackets
      { s with pendingPackets := [] }
    have htags : ∀ l : List Nat, l.countP (fun i => ((netSocketFlush { s with pendingPackets := [] }
        s.pendingPackets).packet i).tag = tag) = l.countP fun i => (s.packet i).tag = tag :=
      fun l => countP_tags fun i _ => congrArg NetPacket.tag (hpacket i)
    have hcount : (s.pendingPackets.map fun i => (i, (s.packet i).datagram)).countP
        (fun e => e.2.tag = tag) = s.pendingPackets.countP fun i => (s.packet i).tag = tag :=
      List.countP_map
    show (netSocketFlush _ _).sent.countP _ + ((netSocketFlush _ _).pendingPackets ++
      (netSocketFlush _ _).socketDispatchQueue).countP (fun i => ((netSocketFlush _ _).packet i).tag =
        tag) = _
    rw [htags, hsent, hqueue, hpending, List.countP_append, NetSocket.outgoing, List.countP_append,
      List.countP_append, Nat.add_assoc]
    refine congrArg₂ _ rfl (congrArg₂ _ hcount ?_)
    exact Nat.zero_add _
  · rfl

end Socket

/-- The packet of a live transaction has its tag, and each copy of it was sent on purpose. -/
structure Sends (config : TransactionConfiguration) : Prop where
  tagged : ∀ t transaction, config.live t = some transaction →
    (config.socket.packet transaction.packet).tag = .request config.agent t
  copies : ∀ t, config.socket.outgoing (.request config.agent t) ≤ config.log.count (.send t)

section Requester

variable {config config' : TransactionConfiguration} {party party' : Party}
  {action : TransactionAction}

/-- Every live transaction was live, with the same packet. -/
def LiveFrom (config config' : TransactionConfiguration) : Prop :=
  ∀ t transaction', config'.live t = some transaction' →
    ∃ transaction, config.live t = some transaction ∧ transaction.packet = transaction'.packet

theorem liveFrom_refl (hheap : config'.heap = config.heap) : LiveFrom config config' := by
  intro t transaction' hlive
  rw [TransactionConfiguration.live, hheap] at hlive
  exact ⟨transaction', hlive, rfl⟩

theorem liveFrom_freed {t : Nat} {transaction : Transaction}
    (hlive : config.live t = some transaction) (hheap : config'.heap = config.heap.set t none) :
    LiveFrom config config' := by
  intro u transaction' hu
  rw [live_set (live_lt hlive) hheap] at hu
  split at hu
  · cases hu
  · exact ⟨transaction', hu, rfl⟩

theorem liveFrom_updated {t : Nat} {transaction transaction' : Transaction}
    (hlive : config.live t = some transaction)
    (hheap : config'.heap = config.heap.set t (some transaction'))
    (hpacket : transaction'.packet = transaction.packet) : LiveFrom config config' := by
  intro u transaction'' hu
  rw [live_set (live_lt hlive) hheap] at hu
  split at hu
  · rename_i heq
    obtain rfl := Option.some.inj hu
    exact ⟨transaction, heq ▸ hlive, hpacket.symm⟩
  · exact ⟨transaction'', hu, rfl⟩

theorem live_held {t : Nat} {transaction : Transaction} (hlive : config.live t = some transaction) :
    ¬ config.Unheld transaction.packet :=
  fun h => h.1 (List.mem_append_left _ (mem_packets hlive))

theorem queued_held {i : Nat}
    (hi : i ∈ config.socket.pendingPackets ++ config.socket.socketDispatchQueue) :
    ¬ config.Unheld i := by
  rintro ⟨-, hqueue, hpending, -⟩
  rcases List.mem_append.1 hi with hi | hi
  · exact hpending hi
  · exact hqueue hi

section Rules

variable (h : Sends config)
  (htags : ∀ i, ¬ config.Unheld i → (config'.socket.packet i).tag = (config.socket.packet i).tag)
  (hcontinues : Continues action config config')
include h htags hcontinues

theorem Sends.tagged_from (hlive : LiveFrom config config') (t : Nat) (transaction' : Transaction)
    (hlive' : config'.live t = some transaction') :
    (config'.socket.packet transaction'.packet).tag = .request config'.agent t := by
  obtain ⟨transaction, hlive, hpacket⟩ := hlive t transaction' hlive'
  rw [← hpacket, htags _ (live_held hlive), hcontinues.agent]
  exact h.tagged t transaction hlive

/-- Nothing is queued. -/
theorem Sends.still (hlive : LiveFrom config config')
    (hqueue : config'.socket.socketDispatchQueue = config.socket.socketDispatchQueue)
    (hpending : config'.socket.pendingPackets = config.socket.pendingPackets)
    (hsent : config'.socket.sent = config.socket.sent) : Sends config' where
  tagged := h.tagged_from htags hcontinues hlive
  copies := fun t => by
    rw [hcontinues.agent, outgoing_same (fun i hi => htags i (queued_held hi)) hqueue hpending hsent]
    exact Nat.le_trans (h.copies t) (hcontinues.log.sublist.count_le _)

/-- The packet of a transaction is queued, and the log says so. -/
theorem Sends.queued (htagged : ∀ t transaction, config'.live t = some transaction →
      (config'.socket.packet transaction.packet).tag = .request config'.agent t) {p u : Nat}
    (hqueues : Queues p config.socket config'.socket)
    (htag : (config'.socket.packet p).tag = .request config.agent u) {es : List Event}
    (hlog : config'.log = config.log ++ es) (hes : .send u ∈ es) : Sends config' where
  tagged := htagged
  copies := fun t => by
    have hout := @outgoing_queued _ _ _ (.request config.agent t)
      (fun i hi => htags i (queued_held hi)) hqueues
    have hcopies := h.copies t
    rw [htag] at hout
    rw [hcontinues.agent, hlog, List.count_append]
    by_cases ht : u = t
    · subst ht
      have hpos := List.count_pos_iff.2 hes
      rw [if_pos rfl] at hout
      omega
    · rw [if_neg (by simpa using ht)] at hout
      omega

end Rules

theorem transactionStep_sends (h : Sends config) (hold : Holding config [])
    (hstep : transactionStep config action = some config')
    (hother : action = .block → ∀ packet id receipt rest,
      config.transactionsDispatchQueue ≠ .request packet id receipt :: rest) : Sends config' := by
  have htags : ∀ i, ¬ config.Unheld i →
      (config'.socket.packet i).tag = (config.socket.packet i).tag :=
    fun i hi => (transactionStep_move hstep).tag hold hi
  have hcontinues := transactionStep_continues hstep
  cases transactionStep_move hstep with
  | idle hqueue => exact h
  | dispatched haction hplain =>
    exact h.still htags hcontinues (liveFrom_refl rfl) rfl rfl rfl
  | @requested addr object packet socket socket' halloc hpack =>
    have htouch := (touches_alloc halloc).trans ((touches_onBitstream hpack).trans
      (touches_setPacket socket' packet
        { socket'.packet packet with tag := .request config.agent config.heap.length }))
    refine ⟨fun t transaction hlive => ?_, fun t => ?_⟩
    · rw [@live_concat config _ t _ rfl] at hlive
      split at hlive
      · rename_i ht
        obtain rfl := Option.some.inj hlive
        rw [ht]
        show ((socket'.setTag packet _).packet packet).tag = _
        rw [NetSocket.setTag, packet_setPacket_self]
        rfl
      · rw [htags _ (live_held hlive)]
        exact h.tagged t transaction hlive
    · rw [hcontinues.agent, outgoing_same (fun i hi => htags i (queued_held hi)) htouch.queue
        htouch.pending htouch.sent]
      exact Nat.le_trans (h.copies t) (hcontinues.log.sublist.count_le _)
  | @sentOff t transaction addr hcall hlive =>
    have hqueues := (touches_setPacket config.socket transaction.packet (netPacketAddr
      (config.socket.packet transaction.packet) addr)).queues (queues_send _ transaction.packet)
    refine h.queued htags hcontinues (h.tagged_from htags hcontinues (liveFrom_refl rfl)) hqueues ?_
      rfl List.mem_cons_self
    rw [htags _ (live_held hlive)]
    exact h.tagged t transaction hlive
  | armed hcall hlive =>
    exact h.still htags hcontinues (liveFrom_updated hlive rfl rfl) rfl rfl rfl
  | unread hread hunread =>
    exact h.still htags hcontinues (liveFrom_refl rfl) hunread.queue hunread.pending hunread.sent
  | read hlength hread =>
    obtain ⟨s₁, halloc, rfl⟩ := netSocketReadEvent_eq hread
    have htouch := touches_alloc halloc
    exact h.still htags hcontinues (liveFrom_refl rfl) htouch.queue htouch.pending htouch.sent
  | ignored hreceived hread =>
    rcases hread with rfl | ⟨header, hread⟩
    · exact h.still htags hcontinues (liveFrom_refl rfl) rfl rfl rfl
    · have htouch := touches_onBitstream hread
      exact h.still htags hcontinues (liveFrom_refl rfl) htouch.queue htouch.pending htouch.sent
  | retained hreceived hread hblock =>
    have htouch := touches_onBitstream hread
    exact h.still htags hcontinues (liveFrom_refl rfl) htouch.queue htouch.pending htouch.sent
  | inserted hqueue hlive => exact h.still htags hcontinues (liveFrom_refl rfl) rfl rfl rfl
  | lost hqueue hsearch => exact h.still htags hcontinues (liveFrom_refl rfl) rfl rfl rfl
  | responded hqueue hsearch hlive hread =>
    have htouch := touches_onBitstream hread
    exact h.still htags hcontinues (liveFrom_freed hlive rfl) htouch.queue htouch.pending htouch.sent
  | served hqueue halloc hpack hread => exact absurd hqueue (hother rfl _ _ _ _)
  | @retried id t rest transaction hqueue hsearch hlive hstate hretries =>
    have hfrom : LiveFrom config ((config.popped rest).retried t transaction) :=
      liveFrom_updated hlive rfl rfl
    refine h.queued htags hcontinues (h.tagged_from htags hcontinues hfrom) (queues_send _ _) ?_ rfl
      List.mem_cons_self
    rw [htags _ (live_held hlive)]
    exact h.tagged t transaction hlive
  | timedOut hqueue hsearch hlive hstate hretries =>
    exact h.still htags hcontinues (liveFrom_freed hlive rfl) rfl rfl rfl
  | switched hqueue hplain => exact h.still htags hcontinues (liveFrom_refl rfl) rfl rfl rfl
  | removedAll hqueue hremove =>
    have hinv : LiveFrom config config' ∧
        config'.socket.socketDispatchQueue = config.socket.socketDispatchQueue ∧
        config'.socket.pendingPackets = config.socket.pendingPackets ∧
        config'.socket.sent = config.socket.sent := by
      refine transactionRemoveAll_inv (P := fun c => LiveFrom config c ∧
        c.socket.socketDispatchQueue = config.socket.socketDispatchQueue ∧
        c.socket.pendingPackets = config.socket.pendingPackets ∧
        c.socket.sent = config.socket.sent) ?_ ?_ hremove
      · rintro c key t tr ⟨hfrom, hsocket⟩ hsearch hlive
        refine ⟨fun u transaction hu => ?_, hsocket⟩
        obtain ⟨transaction', hu', hpacket'⟩ := @liveFrom_freed c (c.removed key t tr) t tr hlive rfl
          u transaction hu
        obtain ⟨transaction'', hu'', hpacket''⟩ := hfrom u transaction' hu'
        exact ⟨transaction'', hu'', hpacket''.trans hpacket'⟩
      · exact ⟨liveFrom_refl rfl, rfl, rfl, rfl⟩
    exact h.still htags hcontinues hinv.1 hinv.2.1 hinv.2.2.1 hinv.2.2.2
  | timeoutFired hlive =>
    exact h.still htags hcontinues (liveFrom_updated hlive rfl rfl) rfl rfl rfl
  | socketBlock =>
    refine ⟨h.tagged_from htags hcontinues (liveFrom_refl rfl), fun t => ?_⟩
    exact Nat.le_trans (Nat.le_of_eq outgoing_runBlock) (h.copies t)
  | write =>
    refine ⟨h.tagged_from htags hcontinues (liveFrom_refl rfl), fun t => ?_⟩
    exact Nat.le_trans (Nat.le_of_eq outgoing_writeEvent) (h.copies t)

theorem PartyMove.sends (hmove : PartyMove party action party') (h : Sends party.config)
    (hold : Holding party.config []) : Sends party'.config := by
  have hcontinues := hmove.continues
  cases hmove with
  | whole hother hstep => exact transactionStep_sends h hold hstep hother
  | @answered packet id receipt reply rest s₁ s₂ hqueue hidle halloc hpack =>
    have htags : ∀ i, ¬ party.config.Unheld i → ((party.config.answered packet reply
        s₂).socket.packet i).tag = (party.config.socket.packet i).tag :=
      fun i hi => tag_answered hold halloc hpack hi
    refine ⟨h.tagged_from htags hcontinues (liveFrom_refl rfl), fun t => ?_⟩
    have hqueues : Queues reply party.config.socket (party.config.answered packet reply s₂).socket := by
      have hsend := queues_sendFresh halloc hpack
        (netPacketAddr (s₂.packet reply) (party.config.socket.packet packet).addr)
        (party.config.socket.packet packet).tag.answer
      exact ⟨fun j hj => packet_release.trans (hsend.packet j hj), hsend.queue, hsend.pending,
        hsend.sent, hsend.unclaimed⟩
    have hout := @outgoing_queued _ _ _ (.request party.config.agent t)
      (fun i hi => htags i (queued_held hi)) hqueues
    have htag : ((party.config.answered packet reply s₂).socket.packet reply).tag =
        (party.config.socket.packet packet).tag.answer := by
      refine (congrArg NetPacket.tag packet_release).trans ((tag_send _ _ _).trans ?_)
      rw [NetSocket.setTag, packet_setPacket_self]
    have hne : (party.config.socket.packet packet).tag.answer ≠ .request party.config.agent t := by
      cases (party.config.socket.packet packet).tag <;> simp [Tag.answer]
    rw [htag, if_neg hne] at hout
    exact Nat.le_trans hout (h.copies t)
  | delivered hqueue hanswering hread =>
    have htouch := touches_onBitstream hread
    refine h.still (fun i _ => ?_) hcontinues (liveFrom_refl rfl) htouch.queue htouch.pending
      htouch.sent
    exact (congrArg NetPacket.tag packet_release).trans (tag_onBitstream hread i)

end Requester

/-! ## The exchange -/

namespace Exchange

variable (x : Exchange) (agent : Agent) (t : Nat)

/-- How often the peer's receive callback was invoked for the request. -/
def callbacks : Nat := (x.config agent.peer).callbacks (.request agent t)

/-- The datagrams of the request that the network delivered, each as often as it did. -/
def deliveries : Nat := (x.side agent.peer).delivered.countP fun i =>
  (x.config agent).socket.sent[i]?.any fun e => e.2.tag = .request agent t

/-- The datagrams of the request that were handed to `sendto`. -/
def copiesSent : Nat := (x.config agent).socket.sent.countP fun e => e.2.tag = .request agent t

end Exchange

section Indices

variable {α : Type} {p : α → Bool}

theorem countP_range_get (l : List α) :
    (List.range l.length).countP (fun i => l[i]?.any p) = l.countP p := by
  induction l using List.reverseRecOn with
  | nil => rfl
  | append_singleton l a ih =>
    have hold : (List.range l.length).countP (fun i => (l ++ [a])[i]?.any p) =
        (List.range l.length).countP fun i => l[i]?.any p := by
      refine List.countP_congr fun i hi => ?_
      rw [List.getElem?_append_left (List.mem_range.1 hi)]
    rw [List.length_append, List.length_singleton, List.range_succ, List.countP_append, hold, ih,
      List.countP_append, List.countP_singleton, List.getElem?_concat_length, List.countP_singleton]
    rfl

/-- Distinct indices pick distinct elements. -/
theorem countP_indices_le {indices : List Nat} (hnodup : indices.Nodup) (l : List α) :
    indices.countP (fun i => l[i]?.any p) ≤ l.countP p := by
  have hsub : indices.filter (fun i => l[i]?.any p) ⊆ List.range l.length := by
    intro i hi
    have hany := (List.mem_filter.1 hi).2
    cases hget : l[i]? with
    | none =>
      rw [hget] at hany
      cases hany
    | some a => exact List.mem_range.2 (List.getElem?_eq_some_iff.1 hget).1
  have hsubperm := List.subperm_of_subset (hnodup.filter fun i => l[i]?.any p) hsub
  have hcount := hsubperm.countP_le fun i => l[i]?.any p
  rw [countP_range_get, List.countP_filter] at hcount
  simpa using hcount

theorem countP_get_mono {indices : List Nat} {l l' : List α} (h : l <+: l') :
    indices.countP (fun i => l[i]?.any p) ≤ indices.countP fun i => l'[i]?.any p := by
  refine List.countP_mono_left fun i _ hany => ?_
  obtain ⟨more, rfl⟩ := h
  cases hget : l[i]? with
  | none =>
    rw [hget] at hany
    cases hany
  | some a =>
    rw [hget] at hany
    rw [List.getElem?_append_left (List.getElem?_eq_some_iff.1 hget).1, hget]
    exact hany

end Indices

structure Accounted (x : Exchange) : Prop where
  agent : ∀ a, (x.config a).agent = a
  holding : ∀ a, Holding (x.config a) []
  lifecycle : ∀ a, Lifecycle (x.config a)
  standing : ∀ a, Standing (x.side a)
  counted : ∀ a, Counted (x.config a)
  sends : ∀ a, Sends (x.config a)
  delivered : ∀ a t, (x.config a.peer).receives (.request a t) ≤ x.deliveries a t

section Runs

variable {memory : Agent → Nat → Vector UInt8 kNetPacketMaxLen} {errorCallback : Agent → Bool}
  {x x' : Exchange} {action : ExchangeAction}

theorem accounted_setup : Accounted (exchangeSetup memory errorCallback) where
  agent := fun a => by cases a <;> rfl
  holding := fun a => by cases a <;> exact holding_setup _ _ _ _
  lifecycle := fun a => by cases a <;> exact lifecycle_setup _ _ _ _
  standing := fun a => by cases a <;> exact nofun
  counted := fun a => by cases a <;> exact fun _ => Nat.le_refl 0
  sends := fun a => by cases a <;> exact ⟨nofun, fun _ => Nat.le_refl 0⟩
  delivered := fun a t => by cases a <;> exact Nat.le_refl 0

/-- A step of one party, but for what was delivered to it. -/
theorem Accounted.onSide (h : Accounted x) {agent : Agent} {act : TransactionAction}
    {party party' : Party} (hstep : partyStep (x.side agent) act = some party)
    (hconfig : party'.config = party.config) (hanswering : party'.answering = party.answering)
    (hdelivered : ∀ t, party.config.receives (.request agent.peer t) ≤
      (x.onSide party' agent).deliveries agent.peer t) : Accounted (x.onSide party' agent) := by
  have hmove := partyStep_move hstep
  have hself : (x.onSide party' agent).config agent = party.config :=
    (x.config_onSide party' agent).trans hconfig
  have hpeer := x.config_onSide_peer party' agent
  refine ⟨fun a => ?_, fun a => ?_, fun a => ?_, fun a => ?_, fun a => ?_, fun a => ?_,
    fun a t => ?_⟩
  all_goals rcases Agent.eq_or_eq_peer agent a with rfl | rfl
  · rw [hself, hmove.continues.agent]
    exact h.agent a
  · rw [hpeer]
    exact h.agent agent.peer
  · rw [hself]
    exact partyStep_holding (h.holding a) hstep
  · rw [hpeer]
    exact h.holding agent.peer
  · rw [hself]
    exact partyStep_lifecycle (h.lifecycle a) hstep
  · rw [hpeer]
    exact h.lifecycle agent.peer
  · rw [Exchange.side_onSide]
    intro tag htag
    rw [hconfig]
    exact hmove.standing (h.standing a) (h.holding a) tag (hanswering ▸ htag)
  · rw [Exchange.side_onSide_peer]
    exact h.standing agent.peer
  · rw [hself]
    exact hmove.counted (h.counted a) (h.holding a) (h.standing a)
  · rw [hpeer]
    exact h.counted agent.peer
  · rw [hself]
    exact hmove.sends (h.sends a) (h.holding a)
  · rw [hpeer]
    exact h.sends agent.peer
  · rw [hpeer]
    refine Nat.le_trans (h.delivered a t) ?_
    rw [Exchange.deliveries, Exchange.deliveries, Exchange.side_onSide_peer, hself]
    exact countP_get_mono hmove.continues.sent
  · rw [Agent.peer_peer, hself]
    exact hdelivered t

theorem PartyMove.delivered_eq {party party' : Party} {act : TransactionAction}
    (hmove : PartyMove party act party') : party'.delivered = party.delivered := by
  cases hmove <;> rfl

theorem exchangeStep_accounted (h : Accounted x) (hstep : exchangeStep x action = some x') :
    Accounted x' := by
  rcases exchangeStep_cases hstep with rfl | ⟨agent, act, party, -, hread, hparty, rfl⟩ |
    ⟨agent, i, addr, packet, datagram, party, -, hsent, hparty, rfl⟩
  · exact h
  · have hmove := partyStep_move hparty
    refine h.onSide hparty rfl rfl fun t => ?_
    have hdelivered := h.delivered agent.peer t
    rw [Exchange.deliveries, Agent.peer_peer] at hdelivered
    rw [hmove.receives (h.holding agent) hread, Exchange.deliveries, Agent.peer_peer,
      Exchange.side_onSide, hmove.delivered_eq, Exchange.config_onSide_peer]
    exact hdelivered
  · have hmove := partyStep_move hparty
    refine h.onSide hparty rfl rfl fun t => ?_
    have hdelivered := h.delivered agent.peer t
    rw [Exchange.deliveries, Agent.peer_peer] at hdelivered
    rw [Exchange.deliveries, Agent.peer_peer, Exchange.side_onSide, hmove.delivered_eq,
      Exchange.config_onSide_peer, List.countP_append, List.countP_singleton]
    rw [hsent]
    refine Nat.le_trans (hmove.receives_read (h.holding agent)) (Nat.add_le_add hdelivered ?_)
    exact Nat.le_of_eq (by simp)

/-- **At most once for each copy**: the receive callback runs for a request no more often than a
copy of it is delivered, and no more than three copies of it are sent. -/
theorem callbacks_le_copies {actions : List ExchangeAction}
    (h : run exchangeStep (exchangeSetup memory errorCallback) actions = some x) (agent : Agent)
    (t : Nat) :
    x.callbacks agent t ≤ x.deliveries agent t ∧
    x.copiesSent agent t ≤ 1 + kTransactionMaxRetries ∧
    ((x.side agent.peer).delivered.Nodup →
      x.callbacks agent t ≤ 1 + kTransactionMaxRetries) := by
  have hinv : Accounted x := run_inv accounted_setup (fun _ _ _ => exchangeStep_accounted) h
  have hcallbacks : x.callbacks agent t ≤ x.deliveries agent t := by
    have hcounted := hinv.counted agent.peer (.request agent t)
    have hdelivered := hinv.delivered agent t
    unfold Exchange.callbacks
    omega
  have hcopies : x.copiesSent agent t ≤ 1 + kTransactionMaxRetries := by
    have hsends := (hinv.sends agent).copies t
    rw [hinv.agent] at hsends
    calc x.copiesSent agent t
      _ ≤ (x.config agent).socket.outgoing (.request agent t) := Nat.le_add_right _ _
      _ ≤ (x.config agent).log.count (.send t) := hsends
      _ ≤ 1 + kTransactionMaxRetries := ((hinv.lifecycle agent).endsOnce t).sends
  refine ⟨hcallbacks, hcopies, fun hnodup => ?_⟩
  calc x.callbacks agent t
    _ ≤ x.deliveries agent t := hcallbacks
    _ ≤ x.copiesSent agent t := countP_indices_le hnodup _
    _ ≤ 1 + kTransactionMaxRetries := hcopies

end Runs

/-- The answer is lost; the client sends its request again, and that copy arrives as well. -/
def answerLost : List ExchangeAction :=
  clientRequest (.userCreate longUser) ++ serverServes 0 ++
    [.perform .client (.timeout 0), .perform .client .block] ++ flush .client ++ serverServes 1

theorem callbacks_le_copies_twice : ∃ x, run exchangeStep zeroedExchange answerLost = some x ∧
    (x.side Agent.client.peer).delivered.Nodup ∧ x.deliveries .client 0 = 2 ∧
    x.callbacks .client 0 ≤ 1 + kTransactionMaxRetries := by
  have hrun : (run exchangeStep zeroedExchange answerLost).map
      (fun x => ((x.side Agent.client.peer).delivered, x.deliveries .client 0)) =
        some ([0, 1], 2) := by
    decide +kernel
  obtain ⟨x, h, heq⟩ := Option.map_eq_some_iff.1 hrun
  obtain ⟨hdelivered, hdeliveries⟩ := Prod.mk.inj heq
  have hnodup : (x.side Agent.client.peer).delivered.Nodup := by
    rw [hdelivered]
    decide
  exact ⟨x, h, hnodup, hdeliveries, (callbacks_le_copies h .client 0).2.2 hnodup⟩

/-- One request, no duplication by the network, two calls of the receive callback. -/
theorem answerLost_delivers_twice : ∃ x, run exchangeStep zeroedExchange answerLost = some x ∧
    (x.config .client).heap.length = 1 ∧ (x.side .server).delivered.Nodup ∧
    ¬ x.callbacks .client 0 ≤ 1 := by
  have hrun : (run exchangeStep zeroedExchange answerLost).map
      (fun x => ((x.config .client).heap.length, (x.side .server).delivered,
        x.callbacks .client 0)) = some (1, [0, 1], 2) := by
    decide +kernel
  obtain ⟨x, h, heq⟩ := Option.map_eq_some_iff.1 hrun
  obtain ⟨hlength, heq⟩ := Prod.mk.inj heq
  obtain ⟨hdelivered, hcallbacks⟩ := Prod.mk.inj heq
  refine ⟨x, h, hlength, ?_, ?_⟩
  · rw [hdelivered]
    decide
  · rw [hcallbacks]
    decide

end UniversalNetwork
