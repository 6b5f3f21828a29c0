import UniversalNetwork.Transaction.Ownership
import UniversalNetwork.TransactionProtocol.RoundTrip

/-!
# Balance of a received packet

A packet handed to the receive callback starts with one reference, and every reference it gets
afterwards is given back, except in one case: the block of a response that finds no transaction in
the table returns without the release. `receipt_returned_iff`: this is the only leak.
-/

namespace UniversalNetwork

open Lib

/-- References given back and still held are the first one and those taken. -/
structure Receipts (config : TransactionConfiguration) : Prop where
  balance : ∀ r, config.trace.count (.release r) + (config.held.map Prod.snd).count r =
    config.trace.count (.retain r) + if r < config.receipts then 1 else 0
  bound : ∀ h ∈ config.held, h.2 < config.receipts
  node : ∀ packet r tag, .receive packet r tag ∈ config.trace → r < config.receipts ∧
    ∀ packet', (packet', r) ∈ config.held → packet' = packet

/-- The action does not run the block of this receipt as a response that finds no transaction. -/
def FindsTransaction (receipt : Nat) (config : TransactionConfiguration) :
    TransactionAction → Prop
  | .block => ∀ packet id rest,
      config.transactionsDispatchQueue = .response packet id receipt :: rest →
        (hashtableSearch config.transactions id).isSome
  | _ => True

section Steps

variable {config config' : TransactionConfiguration} {action : TransactionAction}

theorem receipts_setup (agent : Agent) (memory : Nat → Vector UInt8 kNetPacketMaxLen)
    (receiveCallback errorCallback : Bool) :
    Receipts (transactionSetup agent memory receiveCallback errorCallback) where
  balance := fun _ => rfl
  bound := nofun
  node := nofun

theorem Receipts.step (h : Receipts config) (hstep : HeldStep config config') :
    Receipts config' := by
  cases hstep with
  | quiet hheld htrace hreceipts =>
    refine ⟨fun r => ?_, fun x hx => ?_, fun packet r tag hmem => ?_⟩
    · rw [htrace, hreceipts, (hheld.map Prod.snd).count_eq r]
      exact h.balance r
    · rw [hreceipts]
      exact h.bound x (hheld.mem_iff.1 hx)
    · rw [htrace] at hmem
      rw [hreceipts]
      obtain ⟨hr, hnode⟩ := h.node packet r tag hmem
      exact ⟨hr, fun packet' hp => hnode packet' (hheld.mem_iff.1 hp)⟩
  | retained receipt hheld htrace hreceipts =>
    refine ⟨fun r => ?_, fun x hx => ?_, fun packet r tag hmem => ?_⟩
    · have hbalance := h.balance r
      rw [htrace, hreceipts, (hheld.map Prod.snd).count_eq r]
      simp only [List.count_append, List.count_cons, List.count_nil, beq_iff_eq,
        Event.release.injEq, Event.retain.injEq, reduceCtorEq, if_false]
      omega
    · rw [hreceipts]
      exact h.bound x (hheld.mem_iff.1 hx)
    · have hmem' : .receive packet r tag ∈ config.trace := by
        simpa [htrace] using hmem
      rw [hreceipts]
      obtain ⟨hr, hnode⟩ := h.node packet r tag hmem'
      exact ⟨hr, fun packet' hp => hnode packet' (hheld.mem_iff.1 hp)⟩
  | received packet tag hheld htrace hreceipts =>
    refine ⟨fun r => ?_, fun x hx => ?_, fun packet' r tag' hmem => ?_⟩
    · have hbalance := h.balance r
      rw [htrace, hreceipts, (hheld.map Prod.snd).count_eq r]
      simp only [List.count_append, List.count_cons, List.count_nil, List.map_cons, beq_iff_eq,
        reduceCtorEq, if_false]
      split at hbalance <;> split <;> split <;> omega
    · rw [hreceipts]
      rcases List.mem_cons.1 (hheld.mem_iff.1 hx) with rfl | hx
      · exact Nat.lt_succ_self _
      · exact Nat.lt_succ_of_lt (h.bound x hx)
    · rw [htrace, List.mem_append, List.mem_singleton] at hmem
      rw [hreceipts]
      rcases hmem with hmem | hmem
      · obtain ⟨hr, hnode⟩ := h.node packet' r tag' hmem
        refine ⟨Nat.lt_succ_of_lt hr, fun packet'' hp => ?_⟩
        rcases List.mem_cons.1 (hheld.mem_iff.1 hp) with heq | hp
        · have := (Prod.mk.inj heq).2
          omega
        · exact hnode packet'' hp
      · obtain ⟨rfl, rfl, rfl⟩ := Event.receive.inj hmem
        refine ⟨Nat.lt_succ_self _, fun packet'' hp => ?_⟩
        rcases List.mem_cons.1 (hheld.mem_iff.1 hp) with heq | hp
        · exact (Prod.mk.inj heq).1
        · exact absurd (h.bound _ hp) (Nat.lt_irrefl _)
  | freed packet receipt hheld htrace hreceipts hfree =>
    have hmem' : ∀ x ∈ config'.held, x ∈ config.held :=
      fun x hx => hheld.mem_iff.1 (List.mem_cons_of_mem _ hx)
    refine ⟨fun r => ?_, fun x hx => ?_, fun packet' r tag hmem => ?_⟩
    · have hbalance := h.balance r
      rw [← (hheld.map Prod.snd).count_eq r] at hbalance
      rw [htrace, hreceipts]
      simp only [List.count_append, List.count_cons, List.count_nil, List.map_cons, beq_iff_eq,
        Event.release.injEq, reduceCtorEq, if_false] at hbalance ⊢
      omega
    · rw [hreceipts]
      exact h.bound x (hmem' x hx)
    · have hmem'' : .receive packet' r tag ∈ config.trace := by
        simpa [htrace] using hmem
      rw [hreceipts]
      obtain ⟨hr, hnode⟩ := h.node packet' r tag hmem''
      exact ⟨hr, fun packet'' hp => hnode packet'' (hmem' _ hp)⟩

/-- The lost packets after a step. -/
theorem transactionStep_lost (hstep : transactionStep config action = some config')
    (receipt : Nat) : receipt ∉ config'.lost.map Prod.snd ↔
      receipt ∉ config.lost.map Prod.snd ∧ FindsTransaction receipt config action := by
  have hkept : config'.lost = config.lost → FindsTransaction receipt config action →
      (receipt ∉ config'.lost.map Prod.snd ↔
        receipt ∉ config.lost.map Prod.snd ∧ FindsTransaction receipt config action) := by
    intro hlost hfinds
    rw [hlost]
    exact (and_iff_left hfinds).symm
  -- a block that is no response, or one that finds its transaction
  have hother : ∀ {block rest}, config.transactionsDispatchQueue = block :: rest →
      (∀ packet id, block ≠ .response packet id receipt) →
      FindsTransaction receipt config .block := by
    intro block rest hqueue hblock packet id rest' hqueue'
    rw [hqueue] at hqueue'
    exact absurd (List.cons.inj hqueue').1 (hblock packet id)
  cases transactionStep_move hstep with
  | idle hqueue =>
    refine hkept rfl ?_
    cases action with
    | block =>
      intro packet id rest hqueue'
      rw [hqueue rfl] at hqueue'
      cases hqueue'
    | _ => trivial
  | dispatched haction hplain =>
    refine hkept rfl ?_
    cases action with
    | block => exact absurd rfl haction
    | _ => trivial
  | requested halloc hpack => exact hkept rfl trivial
  | sentOff hcall hlive => exact hkept rfl trivial
  | armed hcall hlive => exact hkept rfl trivial
  | unread hread hunread => exact hkept rfl trivial
  | read hlength hread => exact hkept rfl trivial
  | ignored hreceived hread => exact hkept rfl trivial
  | retained hreceived hread hblock => exact hkept rfl trivial
  | inserted hqueue hlive => exact hkept rfl (hother hqueue nofun)
  | @lost packet id receipt' rest hqueue hsearch =>
    show receipt ∉ (config.lost ++ [(packet, receipt')]).map Prod.snd ↔ _
    rw [List.map_append, List.mem_append, not_or]
    refine and_congr_right fun _ => ?_
    rcases Decidable.em (receipt = receipt') with rfl | hne
    · refine iff_of_false (fun h => h (List.mem_singleton.2 rfl)) fun hfinds => ?_
      have hsome := hfinds packet id rest hqueue
      rw [hsearch] at hsome
      cases hsome
    · refine iff_of_true (fun h => hne (List.mem_singleton.1 h)) (hother hqueue ?_)
      rintro packet' id' heq
      exact hne (Block.response.inj heq).2.2.symm
  | responded hqueue hsearch hlive hread =>
    refine hkept rfl fun packet' id' rest' hqueue' => ?_
    rw [hqueue] at hqueue'
    obtain ⟨-, rfl, -⟩ := Block.response.inj (List.cons.inj hqueue').1
    rw [hsearch]
    rfl
  | served hqueue halloc hpack hread => exact hkept rfl (hother hqueue nofun)
  | retried hqueue hsearch hlive hstate hretries => exact hkept rfl (hother hqueue nofun)
  | timedOut hqueue hsearch hlive hstate hretries => exact hkept rfl (hother hqueue nofun)
  | switched hqueue hplain =>
    exact hkept rfl (hother hqueue (by rintro packet id rfl; cases hplain))
  | removedAll hqueue hremove =>
    refine hkept ?_ (hother hqueue nofun)
    refine transactionRemoveAll_inv (P := fun c => c.lost = config.lost) ?_ ?_ hremove
    · exact fun _ _ _ _ hc _ _ => hc
    · rfl
  | timeoutFired hlive => exact hkept rfl trivial
  | socketBlock => exact hkept rfl trivial
  | write => exact hkept rfl trivial

end Steps

/-! ## Runs -/

/-- At some point of the run, after the packet was received and its callback and block have run, its
node is on the free list. -/
def Returned (start : TransactionConfiguration) (actions : List TransactionAction)
    (packet receipt : Nat) : Prop :=
  ∃ before config, before <+: actions ∧ run transactionStep start before = some config ∧
    receipt < config.receipts ∧ receipt ∉ config.pending.map Prod.snd ∧
    packet ∈ config.socket.poolPackets.freeList

section Runs

variable {agent : Agent} {memory : Nat → Vector UInt8 kNetPacketMaxLen}
  {receiveCallback errorCallback : Bool} {start config : TransactionConfiguration}
  {actions : List TransactionAction}

theorem Returned.append {packet receipt : Nat} (h : Returned start actions packet receipt)
    (more : List TransactionAction) : Returned start (actions ++ more) packet receipt := by
  obtain ⟨before, config, hprefix, hrest⟩ := h
  exact ⟨before, config, hprefix.trans (List.prefix_append _ _), hrest⟩

/-- A receipt is lost when the condition fails for it at some step. -/
theorem along_findsTransaction (hlost : start.lost = [])
    (h : run transactionStep start actions = some config) (receipt : Nat) :
    Along transactionStep (FindsTransaction receipt) start actions ↔
      receipt ∉ config.lost.map Prod.snd := by
  refine (run_history (P := fun actions config => run transactionStep start actions = some config ∧
    (Along transactionStep (FindsTransaction receipt) start actions ↔
      receipt ∉ config.lost.map Prod.snd)) ?_ ?_ h).2
  · refine ⟨rfl, iff_of_true trivial ?_⟩
    rw [hlost]
    exact List.not_mem_nil
  · rintro actions config action config' ⟨hrun, halong⟩ hstep
    refine ⟨run_snoc_eq_some.2 ⟨config, hrun, hstep⟩, ?_⟩
    rw [along_snoc hrun, halong, transactionStep_lost hstep]

theorem run_returned (h : run transactionStep
      (transactionSetup agent memory receiveCallback errorCallback) actions = some config) :
    Receipts config ∧ ∀ packet r tag, .receive packet r tag ∈ config.trace →
      r ∉ config.held.map Prod.snd →
        Returned (transactionSetup agent memory receiveCallback errorCallback) actions packet r := by
  generalize hstart : transactionSetup agent memory receiveCallback errorCallback = start at h ⊢
  have hinit : Holding start [] ∧ Receipts start ∧ start.trace = [] := by
    rw [← hstart]
    exact ⟨holding_setup .., receipts_setup .., rfl⟩
  refine (run_history (P := fun actions config => run transactionStep start actions = some config ∧
    Holding config [] ∧ Receipts config ∧ ∀ packet r tag, .receive packet r tag ∈ config.trace →
      r ∉ config.held.map Prod.snd → Returned start actions packet r) ?_ ?_ h).2.2
  · refine ⟨rfl, hinit.1, hinit.2.1, fun packet r tag hmem => ?_⟩
    rw [hinit.2.2] at hmem
    cases hmem
  · rintro actions config action config' ⟨hrun, hholding, hreceipts, hreturned⟩ hstep
    obtain ⟨hholding', hheldStep⟩ := transactionStep_held hholding hstep
    have hreceipts' := hreceipts.step hheldStep
    have hrun' := run_snoc_eq_some.2 ⟨config, hrun, hstep⟩
    refine ⟨hrun', hholding', hreceipts', fun packet r tag hmem hnot => ?_⟩
    cases hheldStep with
    | quiet hheld htrace _ =>
      rw [(hheld.map Prod.snd).mem_iff] at hnot
      rw [htrace] at hmem
      exact (hreturned packet r tag hmem hnot).append _
    | retained receipt hheld htrace _ =>
      rw [(hheld.map Prod.snd).mem_iff] at hnot
      have hmem' : .receive packet r tag ∈ config.trace := by
        simpa [htrace] using hmem
      exact (hreturned packet r tag hmem' hnot).append _
    | received packet' tag' hheld htrace _ =>
      rw [(hheld.map Prod.snd).mem_iff, List.map_cons, List.mem_cons, not_or] at hnot
      rw [htrace, List.mem_append, List.mem_singleton] at hmem
      rcases hmem with hmem | hmem
      · exact (hreturned packet r tag hmem hnot.2).append _
      · exact absurd (Event.receive.inj hmem).2.1 hnot.1
    | freed packet' receipt hheld htrace _ hfree =>
      have hmem' : .receive packet r tag ∈ config.trace := by
        simpa [htrace] using hmem
      rcases Decidable.em (r = receipt) with rfl | hne
      · -- its last reference was given back by this step
        obtain rfl := (hreceipts.node packet r tag hmem').2 packet'
          (hheld.mem_iff.1 List.mem_cons_self)
        refine ⟨_, config', List.prefix_refl _, hrun', (hreceipts'.node _ r tag hmem).1, ?_, hfree⟩
        intro hpending
        refine hnot ?_
        rw [TransactionConfiguration.held, List.map_append]
        exact List.mem_append_left _ hpending
      · refine (hreturned packet r tag hmem' fun hold => ?_).append _
        rw [← (hheld.map Prod.snd).mem_iff, List.map_cons, List.mem_cons] at hold
        exact hold.elim hne hnot

theorem count_trace {e : Event} (h : e.receipt.isSome) :
    config.trace.count e = config.log.count e :=
  List.count_filter h

/-- **No received packet leaks but the unmatched response**: a received packet whose callback and block have
run has been given back as often as it was taken, and its node has returned to the free list, if and
only if its block was not that of a response that found no transaction. -/
theorem receipt_returned_iff (h : run transactionStep
      (transactionSetup agent memory receiveCallback errorCallback) actions = some config)
    {packet receipt : Nat} {tag : Tag} (hreceive : .receive packet receipt tag ∈ config.log)
    (hdone : receipt ∉ config.pending.map Prod.snd) :
    (config.log.count (.release receipt) = 1 + config.log.count (.retain receipt) ∧
      Returned (transactionSetup agent memory receiveCallback errorCallback) actions packet
        receipt) ↔
    Along transactionStep (FindsTransaction receipt)
      (transactionSetup agent memory receiveCallback errorCallback) actions := by
  obtain ⟨hreceipts, hreturned⟩ := run_returned h
  have hmem : .receive packet receipt tag ∈ config.trace :=
    List.mem_filter.2 ⟨hreceive, rfl⟩
  have hbalance := hreceipts.balance receipt
  rw [if_pos (hreceipts.node packet receipt tag hmem).1, count_trace rfl, count_trace rfl,
    TransactionConfiguration.held, List.map_append, List.count_append,
    List.count_eq_zero.2 hdone] at hbalance
  rw [along_findsTransaction rfl h receipt]
  constructor
  · rintro ⟨hcount, -⟩
    exact List.count_eq_zero.1 (by omega)
  · intro hlost
    rw [List.count_eq_zero.2 hlost] at hbalance
    refine ⟨by omega, hreturned packet receipt tag hmem ?_⟩
    rw [TransactionConfiguration.held, List.map_append, List.mem_append, not_or]
    exact ⟨hdone, hlost⟩

end Runs

/-- A Success response with this id. -/
def successDatagram (id : UInt32) : Datagram where
  addr := .zeroed
  bytes := wireHeader id .response ++ wireResponse .success
  tag := .none

/-- A request and its response. -/
def answeredRequest : List TransactionAction :=
  [.request .zeroed (.plain TransactionRequestType.empty.code empty_not_struct), .proceed 0,
    .proceed 0, .block, .read (.datagram (successDatagram 0)), .callback 0, .block]

theorem receipt_returned_iff_answered : ∃ config, run transactionStep
    (transactionSetup .client (fun _ => Vector.replicate _ 0) true true) answeredRequest =
      some config ∧
    config.log.count (.release 0) = 1 + config.log.count (.retain 0) := by
  have hrun : (run transactionStep (transactionSetup .client (fun _ => Vector.replicate _ 0) true
      true) answeredRequest).map (fun c => (decide (.receive 1 0 .none ∈ c.log), c.pending,
        c.lost)) = some (true, [], []) := by
    decide +kernel
  obtain ⟨config, h, heq⟩ := Option.map_eq_some_iff.1 hrun
  simp only [Prod.mk.injEq, decide_eq_true_iff] at heq
  obtain ⟨hreceive, hpending, hlost⟩ := heq
  refine ⟨config, h, ((receipt_returned_iff h hreceive ?_).2 ?_).1⟩
  · rw [hpending]
    exact List.not_mem_nil
  · rw [along_findsTransaction rfl h, hlost]
    exact List.not_mem_nil

/-- A response to no request of ours. -/
def unknownResponse : List TransactionAction :=
  [.read (.datagram (successDatagram 7)), .callback 0, .block]

theorem unknownResponse_leaks : ∃ config, run transactionStep
    (transactionSetup .client (fun _ => Vector.replicate _ 0) true true) unknownResponse =
      some config ∧
    .receive 0 0 .none ∈ config.log ∧ config.pending = [] ∧
    config.log.count (.release 0) = 1 ∧ config.log.count (.retain 0) = 1 ∧
    0 ∉ config.socket.poolPackets.freeList := by
  have hrun : (run transactionStep (transactionSetup .client (fun _ => Vector.replicate _ 0) true
      true) unknownResponse).map (fun c => (decide (.receive 0 0 .none ∈ c.log), c.pending,
        c.log.count (.release 0), c.log.count (.retain 0),
        decide (0 ∉ c.socket.poolPackets.freeList))) = some (true, [], 1, 1, true) := by
    decide +kernel
  obtain ⟨config, h, heq⟩ := Option.map_eq_some_iff.1 hrun
  simp only [Prod.mk.injEq, decide_eq_true_iff] at heq
  exact ⟨config, h, heq⟩

end UniversalNetwork
