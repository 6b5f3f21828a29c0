import UniversalNetwork.NetSocket.Ownership
import UniversalNetwork.Transaction

/-!
# What a step of a configuration can do

`Move config config'` lists the effects of one step in closed form, with the tests that lead to
each; `transactionStep_move` says that there are no others. Invariants are proved from it, case by
case, and never unfold the functions of `transaction.c`. `transactionRemoveAll` is a sequence of
single removals (`transactionRemoveAll_inv`).
-/

namespace UniversalNetwork

open Lib

/-- What `transactionSetComplete` reports. -/
def completion (errorCallback : Bool) (t : Nat) (state : TransactionState) : List Event :=
  [.complete t state] ++ (if state ≠ .acknowledged ∧ errorCallback then [.errorCallback t] else []) ++
    [.delete t, .free t]

namespace TransactionConfiguration

variable (config : TransactionConfiguration)

/-- The queue without the block that is running. -/
def popped (rest : List Block) : TransactionConfiguration :=
  { config with transactionsDispatchQueue := rest }

/-- After `transactionAlloc` got the packet `packet`. -/
def allocated (packet : Nat) (socket : NetSocket) : TransactionConfiguration :=
  { config with
    socket
    heap := config.heap ++
      [some { state := .idle, id := config.cseq, packet, retries := 0, timeoutValid := false }]
    cseq := (config.cseq + 1) % 256 % kTransactionMaxId }

/-- After the first part of `transactionRequest` with the packet `packet`, packed in `socket`. -/
def requested (packet : Nat) (socket : NetSocket) (addr : NetAddr) (object : TransactionObject) :
    TransactionConfiguration :=
  { config with
    socket := socket.setTag packet (.request config.agent config.heap.length)
    transactionsDispatchQueue := config.transactionsDispatchQueue ++ [.insert config.heap.length]
    heap := config.heap ++ [some
      { state := .idle, id := config.cseq, packet, retries := 0, timeoutValid := false }]
    calls := Function.update config.calls config.heap.length (.sending addr)
    cseq := (config.cseq + 1) % 256 % kTransactionMaxId
    log := config.log ++ [.request config.heap.length object] }

/-- After the call sent the packet of its transaction. -/
def sentOff (t : Nat) (transaction : Transaction) (addr : NetAddr) : TransactionConfiguration :=
  { config with
    socket := netSocketSend (config.socket.setPacket transaction.packet
      (netPacketAddr (config.socket.packet transaction.packet) addr)) transaction.packet
    calls := Function.update config.calls t .arming
    log := config.log ++ [.send t] }

/-- After the call armed the timeout. -/
def armed (t : Nat) (transaction : Transaction) : TransactionConfiguration :=
  { config with
    heap := config.heap.set t
      (some { transaction with state := .waiting, timeoutValid := true })
    calls := Function.update config.calls t .returned }

/-- After `transactionSetComplete` of a transaction in this state. -/
def completed (t : Nat) (transaction : Transaction) (state : TransactionState) :
    TransactionConfiguration :=
  { config with
    transactions := hashtableDelete config.transactions transaction.id
    socket := netPacketRelease config.socket transaction.packet
    heap := config.heap.set t none
    log := config.log ++ completion config.errorCallback t state }

/-- After a retransmission. -/
def retried (t : Nat) (transaction : Transaction) : TransactionConfiguration :=
  { config with
    socket := netSocketSend config.socket transaction.packet
    heap := config.heap.set t
      (some { transaction with retries := transaction.retries + 1, timeoutValid := true })
    log := config.log ++ [.send t] }

/-- After one turn of `transactionRemoveAll`. -/
def removed (key t : Nat) (transaction : Transaction) : TransactionConfiguration :=
  { config with
    transactions := hashtableDelete config.transactions key
    socket := netPacketRelease config.socket transaction.packet
    heap := config.heap.set t none
    log := config.log ++ [.remove t, .delete t, .free t] }

/-- After the read event that stored a datagram in `packet`. -/
def read (packet : Nat) (socket : NetSocket) (tag : Tag) : TransactionConfiguration :=
  { config with
    socket
    received := config.received ++ [(packet, config.receipts)]
    receipts := config.receipts + 1
    log := config.log ++ [.receive packet config.receipts tag] }

/-- The receive callback has taken its packet. -/
def taken (i : Nat) : TransactionConfiguration :=
  { config with received := config.received.eraseIdx i }

/-- After the release of a received packet. -/
def released (packet receipt : Nat) : TransactionConfiguration :=
  (config.onSocket (netPacketRelease config.socket packet)).note [.release receipt]

/-- After `transactionDidReceiveResponse` or `transactionDidReceiveRequest`. -/
def retained (packet receipt : Nat) (block : Block) : TransactionConfiguration :=
  ((config.onSocket (netPacketRetain config.socket packet)).note [.retain receipt]).dispatch block

/-- After a response block that found no transaction. -/
def dropped (packet receipt : Nat) : TransactionConfiguration :=
  { config with lost := config.lost ++ [(packet, receipt)] }

/-- The answer to the request in `packet`, packed in `socket`, is sent from the packet `reply`. -/
def answered (packet reply : Nat) (socket : NetSocket) : TransactionConfiguration :=
  { config with
    socket := netPacketRelease (netSocketSend ((socket.setPacket reply
      (netPacketAddr (socket.packet reply) (config.socket.packet packet).addr)).setTag reply
        (config.socket.packet packet).tag.answer) reply) reply }

/-! ### The log -/

variable {t packet receipt : Nat} {transaction : Transaction} {socket : NetSocket}

@[simp] theorem log_note (es : List Event) : (config.note es).log = config.log ++ es := rfl

@[simp] theorem log_onSocket : (config.onSocket socket).log = config.log := rfl

@[simp] theorem log_dispatch (block : Block) : (config.dispatch block).log = config.log := rfl

@[simp] theorem log_popped (rest : List Block) : (config.popped rest).log = config.log := rfl

@[simp] theorem log_requested (addr : NetAddr) (object : TransactionObject) :
    (config.requested packet socket addr object).log =
      config.log ++ [.request config.heap.length object] := rfl

@[simp] theorem log_sentOff (addr : NetAddr) :
    (config.sentOff t transaction addr).log = config.log ++ [.send t] := rfl

@[simp] theorem log_armed : (config.armed t transaction).log = config.log := rfl

@[simp] theorem log_completed (state : TransactionState) :
    (config.completed t transaction state).log =
      config.log ++ completion config.errorCallback t state := rfl

@[simp] theorem log_retried : (config.retried t transaction).log = config.log ++ [.send t] := rfl

@[simp] theorem log_removed (key : Nat) :
    (config.removed key t transaction).log = config.log ++ [.remove t, .delete t, .free t] := rfl

@[simp] theorem log_read (tag : Tag) :
    (config.read packet socket tag).log = config.log ++ [.receive packet config.receipts tag] := rfl

@[simp] theorem log_taken (i : Nat) : (config.taken i).log = config.log := rfl

@[simp] theorem log_released :
    (config.released packet receipt).log = config.log ++ [.release receipt] := rfl

@[simp] theorem log_retained (block : Block) :
    (config.retained packet receipt block).log = config.log ++ [.retain receipt] := rfl

@[simp] theorem log_answered (reply : Nat) :
    (config.answered packet reply socket).log = config.log := rfl

/-! ### The calls -/

@[simp] theorem calls_requested_self (addr : NetAddr) (object : TransactionObject) :
    (config.requested packet socket addr object).calls config.heap.length = .sending addr :=
  Function.update_self ..

theorem calls_requested_of_ne (addr : NetAddr) (object : TransactionObject) {u : Nat}
    (hu : u ≠ config.heap.length) :
    (config.requested packet socket addr object).calls u = config.calls u :=
  Function.update_of_ne hu ..

@[simp] theorem calls_sentOff_self (addr : NetAddr) :
    (config.sentOff t transaction addr).calls t = .arming := Function.update_self ..

theorem calls_sentOff_of_ne (addr : NetAddr) {u : Nat} (hu : u ≠ t) :
    (config.sentOff t transaction addr).calls u = config.calls u := Function.update_of_ne hu ..

@[simp] theorem calls_armed_self : (config.armed t transaction).calls t = .returned :=
  Function.update_self ..

theorem calls_armed_of_ne {u : Nat} (hu : u ≠ t) :
    (config.armed t transaction).calls u = config.calls u := Function.update_of_ne hu ..

end TransactionConfiguration

/-! ## Single functions -/

section Functions

variable {config config' : TransactionConfiguration} {t : Nat} {transaction : Transaction}

theorem live_eq_some :
    config.live t = some transaction ↔ config.heap[t]? = some (some transaction) := by
  rw [TransactionConfiguration.live, Option.join_eq_some_iff]

theorem live_lt (h : config.live t = some transaction) : t < config.heap.length :=
  (List.getElem?_eq_some_iff.1 (live_eq_some.1 h)).1

theorem live_set_self (ht : t < config.heap.length) :
    TransactionConfiguration.live { config with heap := config.heap.set t (some transaction) } t =
      some transaction := by
  rw [live_eq_some]
  exact List.getElem?_set_self ht

theorem transactionFree_eq (h : config.live t = some transaction) :
    transactionFree config t = some { config with
      socket := netPacketRelease config.socket transaction.packet
      heap := config.heap.set t none
      log := config.log ++ [.free t] } := by
  simp [transactionFree, h, TransactionConfiguration.note]

theorem transactionSetComplete_eq (h : config.live t = some transaction) :
    transactionSetComplete config t =
      some (config.completed t transaction transaction.state) := by
  have hlive : ∀ (ht : Hashtable Nat) (log : List Event), TransactionConfiguration.live
      { config with transactions := ht, log } t = some transaction := fun _ _ => h
  simp only [transactionSetComplete, h, Option.bind_eq_bind, Option.bind_some,
    TransactionConfiguration.note]
  rw [transactionFree_eq (hlive _ _)]
  simp only [TransactionConfiguration.completed, completion, List.append_assoc, List.cons_append,
      List.nil_append]
  rfl

theorem transactionDestroyTimeout_eq (h : config.live t = some transaction) :
    transactionDestroyTimeout config t =
      some (config.setTransaction t { transaction with timeoutValid := false }) := by
  simp [transactionDestroyTimeout, h]

theorem removeBlock_eq (key : Nat) (h : config.live t = some transaction) :
    removeBlock key t config = some (config.removed key t transaction) := by
  have hlive : TransactionConfiguration.live ({ config with
      transactions := hashtableDelete config.transactions key }.note [.remove t, .delete t]) t =
        some transaction := h
  rw [removeBlock, transactionDestroyTimeout_eq hlive, Option.bind_eq_bind, Option.bind_some,
    TransactionConfiguration.setTransaction, transactionFree_eq (live_set_self (live_lt hlive))]
  simp [TransactionConfiguration.removed, TransactionConfiguration.note]

theorem transactionAlloc_eq {packet : Nat} {socket : NetSocket}
    (halloc : netPacketAlloc config.socket = some (packet, socket)) :
    transactionAlloc config = some (config.heap.length, config.allocated packet socket) := by
  rw [transactionAlloc, halloc]
  rfl

theorem allocated_live (packet : Nat) (socket : NetSocket) :
    (config.allocated packet socket).live config.heap.length =
      some { state := .idle, id := config.cseq, packet, retries := 0, timeoutValid := false } := by
  rw [live_eq_some]
  exact List.getElem?_concat_length

theorem transactionRequest_eq {packet : Nat} {socket socket' : NetSocket} {addr : NetAddr}
    {object : TransactionObject} (halloc : netPacketAlloc config.socket = some (packet, socket))
    (hpack : socket.onBitstream packet (packRequest config.cseq object) = some ((), socket')) :
    transactionRequest config addr object = some (config.requested packet socket' addr object) := by
  rw [transactionRequest, transactionAlloc_eq halloc]
  dsimp only
  rw [allocated_live, Option.bind_eq_bind, Option.bind_some]
  dsimp only
  rw [show (config.allocated packet socket).socket = socket from rfl, hpack, Option.bind_eq_bind,
      Option.bind_some]
  rfl

theorem transactionRequest_cases {addr : NetAddr} {object : TransactionObject}
    (h : transactionRequest config addr object = some config') :
    (netPacketAlloc config.socket = none ∧ config' = config) ∨ ∃ packet socket socket',
      netPacketAlloc config.socket = some (packet, socket) ∧
      socket.onBitstream packet (packRequest config.cseq object) = some ((), socket') ∧
      config' = config.requested packet socket' addr object := by
  cases halloc : netPacketAlloc config.socket with
  | none =>
    rw [transactionRequest, transactionAlloc, halloc] at h
    exact .inl ⟨rfl, (Option.some.inj h).symm⟩
  | some alloc =>
    obtain ⟨packet, socket⟩ := alloc
    cases hpack : socket.onBitstream packet (packRequest config.cseq object) with
    | none =>
      rw [transactionRequest, transactionAlloc_eq halloc] at h
      dsimp only at h
      rw [allocated_live, Option.bind_eq_bind, Option.bind_some] at h
      dsimp only at h
      rw [show (config.allocated packet socket).socket = socket from rfl, hpack] at h
      cases h
    | some packed =>
      obtain ⟨⟨⟩, socket'⟩ := packed
      rw [transactionRequest_eq halloc hpack] at h
      exact .inr ⟨packet, socket, socket', rfl, hpack, (Option.some.inj h).symm⟩

theorem transactionProceed_sending {addr : NetAddr} (hcall : config.calls t = .sending addr)
    (h : config.live t = some transaction) :
    transactionProceed config t = some (config.sentOff t transaction addr) := by
  rw [transactionProceed, hcall]
  dsimp only
  rw [transactionRequestSend, h]
  rfl

theorem transactionProceed_arming (hcall : config.calls t = .arming)
    (h : config.live t = some transaction) :
    transactionProceed config t = some (config.armed t transaction) := by
  rw [transactionProceed, hcall]
  dsimp only
  rw [transactionRequestArm, h]
  rfl

theorem transactionProceed_cases (h : transactionProceed config t = some config') :
    config.calls t = .returned ∧ config' = config ∨
    (∃ addr transaction, config.calls t = .sending addr ∧ config.live t = some transaction ∧
      config' = config.sentOff t transaction addr) ∨
    ∃ transaction, config.calls t = .arming ∧ config.live t = some transaction ∧
      config' = config.armed t transaction := by
  rw [transactionProceed] at h
  cases hcall : config.calls t with
  | sending addr =>
    rw [hcall] at h
    obtain ⟨transaction, hlive, h⟩ := Option.bind_eq_some_iff.1 h
    exact .inr (.inl ⟨addr, transaction, rfl, hlive, (Option.some.inj h).symm⟩)
  | arming =>
    rw [hcall] at h
    obtain ⟨transaction, hlive, h⟩ := Option.bind_eq_some_iff.1 h
    exact .inr (.inr ⟨transaction, rfl, hlive, (Option.some.inj h).symm⟩)
  | returned =>
    rw [hcall] at h
    exact .inl ⟨rfl, (Option.some.inj h).symm⟩

/-- Completion after the state was set, whatever was written to the transaction before. -/
theorem setComplete_setTransaction (h : config.live t = some transaction) (state : TransactionState)
    (timeoutValid : Bool) :
    transactionSetComplete (config.setTransaction t
        { transaction with state, timeoutValid }) t =
      some (config.completed t transaction state) := by
  have hlive : (config.setTransaction t { transaction with state, timeoutValid }).live t =
      some { transaction with state, timeoutValid } := live_set_self (live_lt h)
  rw [transactionSetComplete_eq hlive]
  unfold TransactionConfiguration.completed TransactionConfiguration.setTransaction
  rw [List.set_set]

theorem setTransaction_setTransaction (t : Nat) (tr tr' : Transaction) :
    (config.setTransaction t tr).setTransaction t tr' = config.setTransaction t tr' := by
  unfold TransactionConfiguration.setTransaction
  rw [List.set_set]

theorem responseBlock_eq {packet id receipt : Nat}
    (hsearch : hashtableSearch config.transactions id = some t)
    (h : config.live t = some transaction) {result : UnpackResult} {responseType : UInt32}
    {socket : NetSocket} (hread : config.socket.onBitstream packet
      transactionProtocolUnpackResponse = some ((result, responseType), socket)) :
    responseBlock config packet id receipt =
      some ((((config.onSocket socket).note [.response t responseType]).completed t transaction
        (responseState responseType)).released packet receipt) := by
  have hlive : (((config.setTransaction t { transaction with timeoutValid := false }).onSocket
      socket).note [.response t responseType]).live t =
        some { transaction with timeoutValid := false } := live_set_self (live_lt h)
  have hcomplete := @setComplete_setTransaction
    ((config.onSocket socket).note [.response t responseType]) t transaction h
    (responseState responseType) false
  rw [← setTransaction_setTransaction t { transaction with timeoutValid := false }] at hcomplete
  rw [responseBlock, hsearch]
  dsimp only
  rw [transactionDestroyTimeout_eq h, Option.bind_eq_bind, Option.bind_some]
  rw [show (config.setTransaction t { transaction with timeoutValid := false }).socket =
    config.socket from rfl, hread, Option.bind_eq_bind, Option.bind_some]
  dsimp only
  rw [hlive, Option.bind_eq_bind, Option.bind_some]
  rw [show ∀ tr, (((config.setTransaction t { transaction with timeoutValid := false }).onSocket
    socket).note [.response t responseType]).setTransaction t tr =
      (((config.onSocket socket).note [.response t responseType]).setTransaction t
        { transaction with timeoutValid := false }).setTransaction t tr from fun _ => rfl]
  rw [hcomplete]
  rfl

theorem responseBlock_cases {packet id receipt : Nat}
    (h : responseBlock config packet id receipt = some config') :
    (hashtableSearch config.transactions id = none ∧ config' = config.dropped packet receipt) ∨
    ∃ t transaction result responseType socket,
      hashtableSearch config.transactions id = some t ∧ config.live t = some transaction ∧
      config.socket.onBitstream packet transactionProtocolUnpackResponse =
        some ((result, responseType), socket) ∧
      config' = (((config.onSocket socket).note [.response t responseType]).completed t transaction
        (responseState responseType)).released packet receipt := by
  cases hsearch : hashtableSearch config.transactions id with
  | none =>
    rw [responseBlock, hsearch] at h
    exact .inl ⟨rfl, (Option.some.inj h).symm⟩
  | some t =>
    have h' := h
    rw [responseBlock, hsearch] at h'
    obtain ⟨config₁, h₁, h'⟩ := Option.bind_eq_some_iff.1 h'
    obtain ⟨transaction, hlive, -⟩ := Option.bind_eq_some_iff.1 h₁
    rw [transactionDestroyTimeout_eq hlive] at h₁
    obtain rfl := Option.some.inj h₁
    obtain ⟨⟨⟨result, responseType⟩, socket⟩, hread, -⟩ := Option.bind_eq_some_iff.1 h'
    rw [responseBlock_eq hsearch hlive hread] at h
    exact .inr ⟨t, transaction, result, responseType, socket, rfl, hlive, hread,
      (Option.some.inj h).symm⟩

/-- What the block of a request reports. -/
def delivery (config : TransactionConfiguration) (tag : Tag) (result : UnpackResult)
    (object : TransactionObject) : List Event :=
  if config.receiveCallback ∧ result = .valid then [.receiveCallback tag object] else []

theorem requestBlock_cases {packet id receipt : Nat}
    (h : requestBlock config packet id receipt = some config') :
    ∃ reply s₁ s₂ result object s₃,
      netPacketAlloc config.socket = some (reply, s₁) ∧
      s₁.onBitstream reply (packResponse id .success) = some ((), s₂) ∧
      (config.answered packet reply s₂).socket.onBitstream packet
        (transactionProtocolUnpackRequest requestMemory) = some ((result, object), s₃) ∧
      config' = (((config.answered packet reply s₂).onSocket s₃).note
        (delivery config (config.socket.packet packet).tag result object)).released
          packet receipt := by
  obtain ⟨config₁, h₁, h⟩ := Option.bind_eq_some_iff.1 h
  obtain ⟨⟨reply, s₁⟩, halloc, h₁⟩ := Option.bind_eq_some_iff.1 h₁
  obtain ⟨⟨⟨⟩, s₂⟩, hpack, h₁⟩ := Option.bind_eq_some_iff.1 h₁
  obtain rfl := Option.some.inj h₁
  obtain ⟨⟨⟨result, object⟩, s₃⟩, hread, h⟩ := Option.bind_eq_some_iff.1 h
  obtain rfl := Option.some.inj h
  exact ⟨reply, s₁, s₂, result, object, s₃, halloc, hpack, hread, rfl⟩

theorem retryOrFailBlock_cases {id : Nat} (h : retryOrFailBlock config id = some config') :
    config' = config ∨
    ∃ t transaction, hashtableSearch config.transactions id = some t ∧
      config.live t = some transaction ∧ transaction.state = .waiting ∧
      ((transaction.retries < kTransactionMaxRetries ∧ config' = config.retried t transaction) ∨
        (kTransactionMaxRetries ≤ transaction.retries ∧
          config' = config.completed t transaction .timeout)) := by
  rw [retryOrFailBlock] at h
  cases hsearch : hashtableSearch config.transactions id with
  | none =>
    rw [hsearch] at h
    exact .inl (Option.some.inj h).symm
  | some t =>
    rw [hsearch] at h
    obtain ⟨transaction, hlive, h⟩ := Option.bind_eq_some_iff.1 h
    rcases Decidable.em (transaction.state = .waiting) with hstate | hstate
    · rw [if_pos hstate, transactionDestroyTimeout_eq hlive, Option.bind_eq_bind,
        Option.bind_some] at h
      refine .inr ⟨t, transaction, rfl, hlive, hstate, ?_⟩
      rcases Decidable.em (transaction.retries < kTransactionMaxRetries) with hlt | hge
      · rw [if_pos hlt] at h
        obtain rfl := Option.some.inj h
        refine .inl ⟨hlt, ?_⟩
        unfold TransactionConfiguration.retried
        rw [← List.set_set]
        rfl
      · rw [if_neg hge, setTransaction_setTransaction,
          setComplete_setTransaction hlive] at h
        exact .inr ⟨Nat.not_lt.1 hge, (Option.some.inj h).symm⟩
    · rw [if_neg hstate] at h
      exact .inl (Option.some.inj h).symm

/-- The block that a packet with this header is retained for. -/
def receivedBlock (packet receipt : Nat) (transactionId transactionType : UInt32) : Option Block :=
  if transactionType = TransactionType.response.code then
    some (.response packet transactionId.toNat receipt)
  else if transactionType = TransactionType.request.code then
    some (.request packet transactionId.toNat receipt)
  else none

theorem receiveCallback_eq {packet receipt : Nat} {id type : UInt32} {socket : NetSocket}
    {block : Block} (henabled : config.isEnabled = true)
    (hread : config.socket.onBitstream packet (transactionProtocolUnpackHeader 0 0) =
      some ((.valid, id, type), socket))
    (hblock : receivedBlock packet receipt id type = some block) :
    transactionSocketReceiveCallback config packet receipt =
      some (((config.onSocket socket).retained packet receipt block).released packet receipt) := by
  rw [transactionSocketReceiveCallback, if_pos henabled, unpackReceived, hread,
    Option.bind_eq_bind, Option.bind_some]
  dsimp only
  rw [if_pos rfl]
  unfold receivedBlock at hblock
  rcases Decidable.em (type = TransactionType.response.code) with htype | htype
  · rw [if_pos htype] at hblock ⊢
    obtain rfl := Option.some.inj hblock
    rfl
  rcases Decidable.em (type = TransactionType.request.code) with htype' | htype'
  · rw [if_neg htype, if_pos htype'] at hblock ⊢
    obtain rfl := Option.some.inj hblock
    rfl
  · rw [if_neg htype, if_neg htype'] at hblock
    cases hblock

theorem receiveCallback_cases {packet receipt : Nat}
    (h : transactionSocketReceiveCallback config packet receipt = some config') :
    (∃ socket, (socket = config.socket ∨ ∃ header, config.socket.onBitstream packet
        (transactionProtocolUnpackHeader 0 0) = some (header, socket)) ∧
      config' = (config.onSocket socket).released packet receipt) ∨
    ∃ id type socket block, config.socket.onBitstream packet
        (transactionProtocolUnpackHeader 0 0) = some ((.valid, id, type), socket) ∧
      receivedBlock packet receipt id type = some block ∧
      config' = ((config.onSocket socket).retained packet receipt block).released packet receipt := by
  obtain ⟨config₁, h₁, rfl⟩ := Option.map_eq_some_iff.1 h
  rcases Decidable.em (config.isEnabled = true) with hen | hen
  · rw [if_pos hen] at h₁
    obtain ⟨⟨⟨result, id, type⟩, socket⟩, hread, h₁⟩ := Option.bind_eq_some_iff.1 h₁
    have hignored : config₁ = config.onSocket socket → ∃ socket, (socket = config.socket ∨
        ∃ header, config.socket.onBitstream packet (transactionProtocolUnpackHeader 0 0) =
          some (header, socket)) ∧ (config₁.onSocket (netPacketRelease config₁.socket packet)).note
            [.release receipt] = (config.onSocket socket).released packet receipt := by
      rintro rfl
      exact ⟨socket, .inr ⟨_, hread⟩, rfl⟩
    dsimp only at h₁
    rcases Decidable.em (result = .valid) with rfl | hres
    · rw [if_pos rfl] at h₁
      rcases Decidable.em (type = TransactionType.response.code) with htype | htype
      · rw [if_pos htype] at h₁
        obtain rfl := Option.some.inj h₁
        exact .inr ⟨id, type, socket, _, hread, if_pos htype, rfl⟩
      rcases Decidable.em (type = TransactionType.request.code) with htype' | htype'
      · rw [if_neg htype, if_pos htype'] at h₁
        obtain rfl := Option.some.inj h₁
        exact .inr ⟨id, type, socket, _, hread, (if_neg htype).trans (if_pos htype'), rfl⟩
      · rw [if_neg htype, if_neg htype'] at h₁
        exact .inl (hignored (Option.some.inj h₁).symm)
    · rw [if_neg hres] at h₁
      exact .inl (hignored (Option.some.inj h₁).symm)
  · rw [if_neg hen] at h₁
    obtain rfl := Option.some.inj h₁
    exact .inl ⟨_, .inl rfl, rfl⟩

/-- What each single removal keeps, `transactionRemoveAll` keeps. -/
theorem transactionRemoveAll_inv {P : TransactionConfiguration → Prop}
    (hP : ∀ c key t tr, P c → hashtableSearch c.transactions key = some t →
      c.live t = some tr → P (c.removed key t tr)) (h0 : P config)
    (h : transactionRemoveAll config = some config') : P config' := by
  have hinv : P config' ∧ config'.transactions.maxKey = config.transactions.maxKey := by
    refine hashtableIterateUpTo_inv (P := fun c => P c ∧
      c.transactions.maxKey = config.transactions.maxKey) ?_ ⟨h0, rfl⟩ h
    rintro key t c c' hkey ⟨hc, hmax⟩ hobject hturn
    have hsearch : hashtableSearch c.transactions key = some t := by
      rw [hashtableSearch, if_pos (by omega), hobject]
    obtain ⟨c₁, h₁, -⟩ := Option.bind_eq_some_iff.1 hturn
    obtain ⟨tr, hlive, -⟩ := Option.bind_eq_some_iff.1 h₁
    replace hlive : c.live t = some tr := hlive
    rw [removeBlock_eq key hlive] at hturn
    obtain rfl := Option.some.inj hturn
    exact ⟨hP c key t tr hc hsearch hlive, maxKey_delete.trans hmax⟩
  exact hinv.1

end Functions

/-! ## The moves -/

/-- The blocks that only carry an order. -/
def Block.plain : Block → Bool
  | .retryOrFail _ | .enable | .disable => true
  | _ => false

inductive Move (config : TransactionConfiguration) :
    TransactionAction → TransactionConfiguration → Prop
  | idle {action : TransactionAction}
      (hqueue : action = .block → config.transactionsDispatchQueue = []) : Move config action config
  | dispatched {action : TransactionAction} {block : Block} (haction : action ≠ .block)
      (hplain : block.plain) : Move config action (config.dispatch block)
  | requested {addr : NetAddr} {object : TransactionObject} {packet : Nat}
      {socket socket' : NetSocket} (halloc : netPacketAlloc config.socket = some (packet, socket))
      (hpack : socket.onBitstream packet (packRequest config.cseq object) = some ((), socket')) :
      Move config (.request addr object) (config.requested packet socket' addr object)
  | sentOff {t : Nat} {transaction : Transaction} {addr : NetAddr}
      (hcall : config.calls t = .sending addr) (hlive : config.live t = some transaction) :
      Move config (.proceed t) (config.sentOff t transaction addr)
  | armed {t : Nat} {transaction : Transaction} (hcall : config.calls t = .arming)
      (hlive : config.live t = some transaction) :
      Move config (.proceed t) (config.armed t transaction)
  | read {datagram : Datagram} {packet : Nat} {socket : NetSocket}
      (hlength : datagram.bytes.length ≤ kNetPacketMaxLen)
      (h : netSocketReadEvent config.socket datagram = some (packet, socket)) :
      Move config (.read (.datagram datagram)) (config.read packet socket datagram.tag)
  | unread {recvfrom : RecvFrom} {socket : NetSocket}
      (h : netSocketRead config.socket true recvfrom = (none, socket))
      (hunread : Unread config.socket socket) :
      Move config (.read recvfrom) (config.onSocket socket)
  | ignored {i packet receipt : Nat} {socket : NetSocket}
      (h : config.received[i]? = some (packet, receipt))
      (hread : socket = config.socket ∨ ∃ header, config.socket.onBitstream packet
        (transactionProtocolUnpackHeader 0 0) = some (header, socket)) :
      Move config (.callback i) (((config.taken i).onSocket socket).released packet receipt)
  | retained {i packet receipt : Nat} {id type : UInt32} {socket : NetSocket} {block : Block}
      (h : config.received[i]? = some (packet, receipt))
      (hread : config.socket.onBitstream packet (transactionProtocolUnpackHeader 0 0) =
        some ((.valid, id, type), socket))
      (hblock : receivedBlock packet receipt id type = some block) :
      Move config (.callback i) ((((config.taken i).onSocket socket).retained packet receipt
        block).released packet receipt)
  | inserted {t : Nat} {transaction : Transaction} {rest : List Block}
      (hqueue : config.transactionsDispatchQueue = .insert t :: rest)
      (hlive : config.live t = some transaction) :
      Move config .block { config.popped rest with
        transactions := hashtableInsert config.transactions transaction.id t }
  | lost {packet id receipt : Nat} {rest : List Block}
      (hqueue : config.transactionsDispatchQueue = .response packet id receipt :: rest)
      (hsearch : hashtableSearch config.transactions id = none) :
      Move config .block ((config.popped rest).dropped packet receipt)
  | responded {packet id receipt t : Nat} {rest : List Block} {transaction : Transaction}
      {result : UnpackResult} {responseType : UInt32} {socket : NetSocket}
      (hqueue : config.transactionsDispatchQueue = .response packet id receipt :: rest)
      (hsearch : hashtableSearch config.transactions id = some t)
      (hlive : config.live t = some transaction)
      (hread : config.socket.onBitstream packet transactionProtocolUnpackResponse =
        some ((result, responseType), socket)) :
      Move config .block (((((config.popped rest).onSocket socket).note
        [.response t responseType]).completed t transaction
          (responseState responseType)).released packet receipt)
  | served {packet id receipt reply : Nat} {rest : List Block} {s₁ s₂ s₃ : NetSocket}
      {result : UnpackResult} {object : TransactionObject}
      (hqueue : config.transactionsDispatchQueue = .request packet id receipt :: rest)
      (halloc : netPacketAlloc config.socket = some (reply, s₁))
      (hpack : s₁.onBitstream reply (packResponse id .success) = some ((), s₂))
      (hread : ((config.popped rest).answered packet reply s₂).socket.onBitstream packet
        (transactionProtocolUnpackRequest requestMemory) = some ((result, object), s₃)) :
      Move config .block (((((config.popped rest).answered packet reply s₂).onSocket s₃).note
        (delivery config (config.socket.packet packet).tag result object)).released packet receipt)
  | retried {id t : Nat} {rest : List Block} {transaction : Transaction}
      (hqueue : config.transactionsDispatchQueue = .retryOrFail id :: rest)
      (hsearch : hashtableSearch config.transactions id = some t)
      (hlive : config.live t = some transaction) (hstate : transaction.state = .waiting)
      (hretries : transaction.retries < kTransactionMaxRetries) :
      Move config .block ((config.popped rest).retried t transaction)
  | timedOut {id t : Nat} {rest : List Block} {transaction : Transaction}
      (hqueue : config.transactionsDispatchQueue = .retryOrFail id :: rest)
      (hsearch : hashtableSearch config.transactions id = some t)
      (hlive : config.live t = some transaction) (hstate : transaction.state = .waiting)
      (hretries : kTransactionMaxRetries ≤ transaction.retries) :
      Move config .block ((config.popped rest).completed t transaction .timeout)
  | switched {block : Block} {rest : List Block} {isEnabled : Bool}
      (hqueue : config.transactionsDispatchQueue = block :: rest) (hplain : block.plain) :
      Move config .block { config.popped rest with isEnabled }
  | removedAll {rest : List Block} {config' : TransactionConfiguration}
      (hqueue : config.transactionsDispatchQueue = .disable :: rest)
      (h : transactionRemoveAll { config.popped rest with isEnabled := false } = some config') :
      Move config .block config'
  | timeoutFired {t : Nat} {transaction : Transaction} (hlive : config.live t = some transaction) :
      Move config (.timeoutFired t)
        (config.setTransaction t { transaction with timeoutValid := false })
  | socketBlock : Move config .socketBlock (config.onSocket (netSocketRunBlock config.socket))
  | write : Move config .write (config.onSocket (netSocketWriteEvent config.socket))

section Steps

variable {config config' : TransactionConfiguration} {action : TransactionAction}

theorem runTransactionBlock_move {block : Block} {rest : List Block}
    (hqueue : config.transactionsDispatchQueue = block :: rest)
    (h : runTransactionBlock (config.popped rest) block = some config') :
    Move config .block config' := by
  cases block with
  | insert t =>
    obtain ⟨transaction, hlive, h⟩ := Option.bind_eq_some_iff.1 h
    obtain rfl := Option.some.inj h
    exact .inserted hqueue hlive
  | response packet id receipt =>
    obtain ⟨hsearch, rfl⟩ | ⟨t, transaction, result, responseType, socket, hsearch, hlive, hread,
      rfl⟩ := responseBlock_cases h
    · exact .lost hqueue hsearch
    · exact .responded hqueue hsearch hlive hread
  | request packet id receipt =>
    obtain ⟨reply, s₁, s₂, result, object, s₃, halloc, hpack, hread, rfl⟩ := requestBlock_cases h
    exact .served hqueue halloc hpack hread
  | retryOrFail id =>
    obtain rfl | ⟨t, transaction, hsearch, hlive, hstate, ⟨hretries, rfl⟩ | ⟨hretries, rfl⟩⟩ :=
      retryOrFailBlock_cases h
    · exact .switched hqueue rfl
    · exact .retried hqueue hsearch hlive hstate hretries
    · exact .timedOut hqueue hsearch hlive hstate hretries
  | enable =>
    obtain rfl := Option.some.inj h
    exact .switched hqueue rfl
  | disable =>
    rw [runTransactionBlock] at h
    split at h
    · exact .removedAll hqueue h
    · obtain rfl := Option.some.inj h
      exact .switched hqueue rfl

theorem transactionStep_block {block : Block} {rest : List Block}
    (hqueue : config.transactionsDispatchQueue = block :: rest) :
    transactionStep config .block = runTransactionBlock (config.popped rest) block := by
  rw [transactionStep, hqueue]
  rfl

theorem transactionStep_callback {i packet receipt : Nat}
    (h : config.received[i]? = some (packet, receipt)) :
    transactionStep config (.callback i) =
      transactionSocketReceiveCallback (config.taken i) packet receipt := by
  rw [transactionStep, h]
  rfl

/-- **There are no other steps.** -/
theorem transactionStep_move (h : transactionStep config action = some config') :
    Move config action config' := by
  cases action with
  | request addr object =>
    obtain ⟨-, rfl⟩ | ⟨packet, socket, socket', halloc, hpack, rfl⟩ := transactionRequest_cases h
    · exact .idle nofun
    · exact .requested halloc hpack
  | enable =>
    obtain rfl := Option.some.inj h
    exact .dispatched nofun rfl
  | disable =>
    obtain rfl := Option.some.inj h
    exact .dispatched nofun rfl
  | proceed t =>
    obtain ⟨-, rfl⟩ | ⟨addr, transaction, hcall, hlive, rfl⟩ | ⟨transaction, hcall, hlive, rfl⟩ :=
      transactionProceed_cases h
    · exact .idle nofun
    · exact .sentOff hcall hlive
    · exact .armed hcall hlive
  | read recvfrom =>
    rw [transactionStep] at h
    cases hread : netSocketRead config.socket true recvfrom with | mk packet socket
    rw [hread] at h
    obtain ⟨datagram, i, rfl, -, -, hlength, rfl, hevent⟩ | ⟨rfl, hunread⟩ :=
      netSocketRead_cases hread
    · obtain rfl := Option.some.inj h
      exact netSocketReadEvent_tag hevent ▸ .read hlength hevent
    · obtain rfl := Option.some.inj h
      exact .unread hread hunread
  | callback i =>
    rw [transactionStep] at h
    cases hreceived : config.received[i]? with
    | none =>
      rw [hreceived] at h
      obtain rfl := Option.some.inj h
      exact .idle nofun
    | some packet =>
      rw [hreceived] at h
      obtain ⟨socket, hread, rfl⟩ | ⟨id, type, socket, block, hread, hblock, rfl⟩ :=
        receiveCallback_cases h
      · exact .ignored hreceived hread
      · exact .retained hreceived hread hblock
  | timeout t =>
    rw [transactionStep] at h
    split at h
    · obtain ⟨transaction, hlive, h⟩ := Option.bind_eq_some_iff.1 h
      obtain rfl := Option.some.inj h
      exact .dispatched nofun rfl
    · obtain rfl := Option.some.inj h
      exact .idle nofun
  | timeoutFired t =>
    rw [transactionStep] at h
    split at h
    · obtain ⟨transaction, hlive, h⟩ := Option.bind_eq_some_iff.1 h
      obtain rfl := Option.some.inj h
      exact .timeoutFired hlive
    · obtain rfl := Option.some.inj h
      exact .idle nofun
  | block =>
    rw [transactionStep] at h
    cases hqueue : config.transactionsDispatchQueue with
    | nil =>
      rw [hqueue] at h
      obtain rfl := Option.some.inj h
      exact .idle fun _ => hqueue
    | cons block rest =>
      rw [hqueue] at h
      exact runTransactionBlock_move hqueue h
  | socketBlock =>
    obtain rfl := Option.some.inj h
    exact .socketBlock
  | write =>
    obtain rfl := Option.some.inj h
    exact .write

end Steps

end UniversalNetwork
