import UniversalNetwork.Transaction.Contents

/-!
# Calls without a packet

`transactionAlloc` gives up when the pool is exhausted, and `transactionRetryOrFail` sends the packet
that its transaction holds anyway. `transactionResponse` writes to what it was given without a test.
What it needs is decided by everything else: a packet stays held by a live transaction, until its
callback and its block have run, or while it is queued for sending; that of an empty datagram is lost
for good; and the request that is answered is held itself.

* `available_iff`: a packet can be had exactly when one of the pool is held by nobody.
* `safeCalls_iff`: in a reachable state the calls are safe exactly when there is one for the answer.
* `exhausted_pool_iff`: so for the states of a run.
-/

namespace UniversalNetwork

open Lib

/-- Nothing is handed to the socket, and the table is as it was. -/
structure Untouched (config config' : TransactionConfiguration) : Prop where
  queue : config'.socket.socketDispatchQueue = config.socket.socketDispatchQueue
  transactions : config'.transactions = config.transactions
  /-- No part of a call is left to do. -/
  calls : config'.calls = config.calls

/-- With no packet available the call returns, which it does not when it goes on with a null pointer,
and has done nothing. -/
def Declines (config : TransactionConfiguration) (result : Option TransactionConfiguration) : Prop :=
  netPacketAlloc config.socket = none → ∃ config', result = some config' ∧ Untouched config config'

/-- The three calls dereference no null packet. -/
structure SafeCalls (config : TransactionConfiguration) : Prop where
  request : ∀ addr object, Declines config (transactionRequest config addr object)
  /-- As the block of a received request calls it. -/
  response : ∀ packet id receipt rest,
    config.transactionsDispatchQueue = .request packet id receipt :: rest →
    Declines config (transactionResponse (config.popped rest) (config.socket.packet packet).addr id
      .success (config.socket.packet packet).tag.answer)
  retryOrFail : ∀ id, ∃ config', retryOrFailBlock config id = some config'
  /-- What `transactionRetryOrFail` sends is a packet that its transaction holds. -/
  retransmitted : ∀ id t, hashtableSearch config.transactions id = some t →
    ∃ transaction, config.live t = some transaction ∧
      transaction.packet < kNetPacketPoolCapacity ∧ ¬ config.Unheld transaction.packet
  /-- So is what the rest of a `transactionRequest` sends. -/
  proceeding : ∀ t transaction, config.live t = some transaction →
    transaction.packet < kNetPacketPoolCapacity ∧ ¬ config.Unheld transaction.packet

/-- When the block of a request is next, a packet of the pool is held by nobody, and no read event
has left it to nobody either. -/
def AnswerHasPacket (config : TransactionConfiguration) : Prop :=
  ∀ packet id receipt rest,
    config.transactionsDispatchQueue = .request packet id receipt :: rest →
    ∃ i < kNetPacketPoolCapacity, config.Unheld i

section Calls

variable {config : TransactionConfiguration} {t : Nat} {transaction : Transaction}

theorem Holding.lt_capacity (h : Holding config []) (hlive : config.live t = some transaction) :
    transaction.packet < kNetPacketPoolCapacity := by
  have hmem : transaction.packet ∈ config.owners := List.mem_append_left _ (mem_packets hlive)
  have hcount := List.count_pos_iff.2 hmem
  rw [← h.owned.capacity]
  exact h.owned.holds.lt_capacity (Nat.add_pos_left hcount _)

theorem available_iff (h : Holding config []) :
    netPacketAlloc config.socket ≠ none ↔ ∃ i < kNetPacketPoolCapacity, config.Unheld i := by
  constructor
  · intro halloc
    obtain ⟨⟨i, socket⟩, ha⟩ := Option.ne_none_iff_exists'.1 halloc
    refine ⟨i, ?_, h.unheld_alloc ha⟩
    have hholds := (h.owned.alloc ha fun j => rfl).2.2.2
    have hpos : 0 < ([] ++ config.owners).count i + if i = i then 1 else 0 := by
      rw [if_pos rfl]
      exact Nat.succ_pos _
    rw [← hholds.capacity]
    exact hholds.holds.lt_capacity (Nat.add_pos_left hpos _)
  · rintro ⟨i, hi, hfree, hqueue, hpending, hclaimed⟩
    obtain ⟨j, socket, ha⟩ :=
      h.owned.exists_alloc hi (List.count_eq_zero.2 hfree) hqueue hpending hclaimed
    exact Option.ne_none_iff_exists'.2 ⟨_, ha⟩

theorem transactionRequest_declines (addr : NetAddr) (object : TransactionObject) :
    Declines config (transactionRequest config addr object) := by
  intro halloc
  refine ⟨config, ?_, rfl, rfl, rfl⟩
  rw [transactionRequest, transactionAlloc, halloc]
  rfl

/-- The null pointer. -/
theorem transactionResponse_null (halloc : netPacketAlloc config.socket = none) (addr : NetAddr)
    (id : Nat) (responseType : TransactionResponseType) (tag : Tag) :
    transactionResponse config addr id responseType tag = none := by
  rw [transactionResponse, halloc]
  rfl

theorem retryOrFailBlock_returns (h : Lifecycle config) (id : Nat) :
    ∃ config', retryOrFailBlock config id = some config' := by
  rw [retryOrFailBlock]
  cases hsearch : hashtableSearch config.transactions id with
  | none => exact ⟨config, rfl⟩
  | some t =>
    obtain ⟨transaction, hlive, -⟩ := h.table id t hsearch
    dsimp only
    rw [hlive, Option.bind_eq_bind, Option.bind_some]
    rcases Decidable.em (transaction.state = .waiting) with hstate | hstate
    · rw [if_pos hstate, transactionDestroyTimeout_eq hlive, Option.bind_eq_bind, Option.bind_some]
      rcases Decidable.em (transaction.retries < kTransactionMaxRetries) with hlt | hge
      · rw [if_pos hlt]
        exact ⟨_, rfl⟩
      · rw [if_neg hge, setTransaction_setTransaction, setComplete_setTransaction hlive]
        exact ⟨_, rfl⟩
    · rw [if_neg hstate]
      exact ⟨config, rfl⟩

/-- **One state.** -/
theorem safeCalls_iff (hlife : Lifecycle config) (h : Holding config []) :
    SafeCalls config ↔ AnswerHasPacket config := by
  constructor
  · intro hsafe packet id receipt rest hqueue
    rw [← available_iff h]
    intro halloc
    obtain ⟨config', hresponse, -⟩ := hsafe.response packet id receipt rest hqueue halloc
    have hnull := @transactionResponse_null (config.popped rest) halloc
      (config.socket.packet packet).addr id .success (config.socket.packet packet).tag.answer
    exact absurd (hnull.symm.trans hresponse) nofun
  · intro hpacket
    have hheld : ∀ t transaction, config.live t = some transaction →
        transaction.packet < kNetPacketPoolCapacity ∧ ¬ config.Unheld transaction.packet := by
      intro t transaction hlive
      exact ⟨h.lt_capacity hlive, fun hfree => hfree.1 (List.mem_append_left _ (mem_packets hlive))⟩
    refine ⟨transactionRequest_declines, ?_, retryOrFailBlock_returns hlife, ?_, hheld⟩
    · intro packet id receipt rest hqueue halloc
      exact absurd halloc ((available_iff h).2 (hpacket packet id receipt rest hqueue))
    · intro id t hsearch
      obtain ⟨transaction, hlive, -⟩ := hlife.table id t hsearch
      exact ⟨transaction, hlive, hheld t transaction hlive⟩

end Calls

/-- **An exhausted pool is handled exactly when no answer meets it**: in the states of a run the
three calls dereference no null packet, and without a packet do nothing, if and only if whenever the
block of a received request is next one of the 64 packets is held by nobody, also not by an empty
datagram that was read before. -/
theorem exhausted_pool_iff (agent : Agent) (memory : Nat → Vector UInt8 kNetPacketMaxLen)
    (receiveCallback errorCallback : Bool) (actions : List TransactionAction) :
    (∀ before after config, actions = before ++ after →
      run transactionStep (transactionSetup agent memory receiveCallback errorCallback) before =
        some config → SafeCalls config) ↔
    ∀ before after config, actions = before ++ after →
      run transactionStep (transactionSetup agent memory receiveCallback errorCallback) before =
        some config → AnswerHasPacket config := by
  have hiff : ∀ before config,
      run transactionStep (transactionSetup agent memory receiveCallback errorCallback) before =
        some config → (SafeCalls config ↔ AnswerHasPacket config) :=
    fun _ _ hrun => safeCalls_iff (run_lifecycle hrun) (run_holding hrun)
  constructor
  · intro hsafe before after config hactions hrun
    exact (hiff before config hrun).1 (hsafe before after config hactions hrun)
  · intro hpacket before after config hactions hrun
    exact (hiff before config hrun).2 (hpacket before after config hactions hrun)

/-- A request of the peer. -/
def requestDatagram : Datagram where
  addr := .zeroed
  bytes := requestBytes 0 (.plain TransactionRequestType.empty.code empty_not_struct)
  tag := .none

/-- 64 requests arrive before the callback runs for the first one. -/
def requestBurst : List TransactionAction :=
  List.replicate 64 (.read (.datagram requestDatagram)) ++ [.callback 0]

theorem requestBurst_null : ∃ config, run transactionStep
    (transactionSetup .server (fun _ => Vector.replicate _ 0) true true) requestBurst =
      some config ∧
    transactionStep config .block = none ∧ ¬ SafeCalls config := by
  have hrun : (run transactionStep (transactionSetup .server (fun _ => Vector.replicate _ 0) true
      true) requestBurst).map (fun c => (c.transactionsDispatchQueue, (netPacketAlloc c.socket).isSome,
        (transactionStep c .block).isSome)) = some ([.request 0 0 0], false, false) := by
    decide +kernel
  obtain ⟨config, h, heq⟩ := Option.map_eq_some_iff.1 hrun
  simp only [Prod.mk.injEq, Option.isSome_eq_false_iff, Option.isNone_iff_eq_none] at heq
  obtain ⟨hqueue, halloc, hstep⟩ := heq
  refine ⟨config, h, hstep, fun hsafe => ?_⟩
  obtain ⟨config', hresponse, -⟩ := hsafe.response 0 0 0 [] hqueue halloc
  have hnull := @transactionResponse_null (config.popped []) halloc
    (config.socket.packet 0).addr 0 .success (config.socket.packet 0).tag.answer
  exact absurd (hnull.symm.trans hresponse) nofun

/-- One request is enough after 63 empty datagrams. -/
example : (run transactionStep (transactionSetup .server (fun _ => Vector.replicate _ 0) true true)
    (List.replicate 63 (.read (.datagram { requestDatagram with bytes := [] })) ++
      [.read (.datagram requestDatagram), .callback 0])).map
        (fun c => (transactionStep c .block).isSome) = some false := by
  decide +kernel

end UniversalNetwork
