import UniversalNetwork.Transaction.Lifecycle
import UniversalNetwork.Transaction.Ownership

/-!
# Two configurations and a network between them

The client and the server each run a configuration. The network hands a party any datagram that
its peer has given to `sendto`, at any time, in any order and any number of times, or never: it
loses, delays, reorders and duplicates.

The block of `transactionDidReceiveRequest` sends its answer before it unpacks the request, and the
queue of the socket runs meanwhile. So that the answer can overtake the unpacking, a party runs this
block in two steps, `answerBlock` and `deliverBlock` (`requestBlock_eq`, `partyStep_twice`); all
else is a step of the configuration (`PartyMove`).

Ghost state of a party: the tag of the request it has answered and not yet unpacked, and which of
its peer's datagrams have reached it.
-/

namespace UniversalNetwork

open Lib

@[simp] theorem Agent.peer_peer (agent : Agent) : agent.peer.peer = agent := by
  cases agent <;> rfl

/-! ## The block of a request in two steps -/

def answerBlock (config : TransactionConfiguration) (packet transactionId : Nat) :
    Option TransactionConfiguration :=
  transactionResponse config (config.socket.packet packet).addr transactionId .success
    (config.socket.packet packet).tag.answer

def deliverBlock (config : TransactionConfiguration) (tag : Tag) (packet receipt : Nat) :
    Option TransactionConfiguration := do
  let memory := ObjectMemory.calloc kTransactionObjectSize (Nat.le_refl _)
  let ((unpackResult, object), socket) ←
    config.socket.onBitstream packet (transactionProtocolUnpackRequest memory)
  let config := config.onSocket socket
  let config := config.note (if config.receiveCallback ∧ unpackResult = .valid then
    [.receiveCallback tag object] else [])
  some ((config.onSocket (netPacketRelease config.socket packet)).note [.release receipt])

theorem requestBlock_eq (config : TransactionConfiguration) (packet id receipt : Nat) :
    requestBlock config packet id receipt = (answerBlock config packet id).bind fun config' =>
      deliverBlock config' (config.socket.packet packet).tag packet receipt := rfl

/-! ## A party -/

structure Party where
  config : TransactionConfiguration
  /-- The request whose block has sent its answer and is still running. -/
  answering : Option Tag
  /-- The datagrams of its peer that reached it. -/
  delivered : List Nat

def partyStep (party : Party) : TransactionAction → Option Party
  | .block =>
    match party.config.transactionsDispatchQueue with
    | .request packet id receipt :: rest =>
      match party.answering with
      | none => (answerBlock party.config packet id).map fun config => { party with
          config, answering := some (party.config.socket.packet packet).tag }
      | some tag => (deliverBlock (party.config.popped rest) tag packet receipt).map fun config =>
          { party with config, answering := none }
    | _ => (transactionStep party.config .block).map fun config => { party with config }
  | action => (transactionStep party.config action).map fun config => { party with config }

/-! ## The exchange -/

structure Exchange where
  client : Party
  server : Party

namespace Exchange

variable (x : Exchange)

def side : Agent → Party
  | .client => x.client
  | .server => x.server

def config (agent : Agent) : TransactionConfiguration := (x.side agent).config

def onSide (party : Party) : Agent → Exchange
  | .client => { x with client := party }
  | .server => { x with server := party }

@[simp] theorem side_onSide (party : Party) (agent : Agent) :
    (x.onSide party agent).side agent = party := by
  cases agent <;> rfl

@[simp] theorem side_onSide_peer (party : Party) (agent : Agent) :
    (x.onSide party agent).side agent.peer = x.side agent.peer := by
  cases agent <;> rfl

@[simp] theorem config_onSide (party : Party) (agent : Agent) :
    (x.onSide party agent).config agent = party.config := by
  rw [config, side_onSide]

@[simp] theorem config_onSide_peer (party : Party) (agent : Agent) :
    (x.onSide party agent).config agent.peer = x.config agent.peer := by
  rw [config, side_onSide_peer, config]

end Exchange

inductive ExchangeAction
  /-- A step of a party, but for the arrival of a datagram: these come from the network. -/
  | perform (agent : Agent) (action : TransactionAction)
  /-- The network delivers the `i`-th datagram of its peer, with the address of the sender. -/
  | deliver (agent : Agent) (i : Nat) (addr : NetAddr)

def exchangeStep (x : Exchange) : ExchangeAction → Option Exchange
  | .perform _ (.read (.datagram _)) => some x
  | .perform agent action => (partyStep (x.side agent) action).map (x.onSide · agent)
  | .deliver agent i addr =>
    match (x.config agent.peer).socket.sent[i]? with
    | none => some x
    | some (_, datagram) =>
      (partyStep (x.side agent) (.read (.datagram { datagram with addr }))).map fun party =>
        x.onSide { party with delivered := party.delivered ++ [i] } agent

def exchangeSetup (memory : Agent → Nat → Vector UInt8 kNetPacketMaxLen)
    (errorCallback : Agent → Bool) : Exchange where
  client := ⟨transactionSetup .client (memory .client) true (errorCallback .client), none, []⟩
  server := ⟨transactionSetup .server (memory .server) true (errorCallback .server), none, []⟩

/-! ## What a step can do -/

/-- A step of the configuration, or one of the two steps of the block of a request. -/
inductive PartyMove (party : Party) : TransactionAction → Party → Prop
  | whole {action : TransactionAction} {config' : TransactionConfiguration}
      (hother : action = .block → ∀ packet id receipt rest,
        party.config.transactionsDispatchQueue ≠ .request packet id receipt :: rest)
      (h : transactionStep party.config action = some config') :
      PartyMove party action { party with config := config' }
  | answered {packet id receipt reply : Nat} {rest : List Block} {s₁ s₂ : NetSocket}
      (hqueue : party.config.transactionsDispatchQueue = .request packet id receipt :: rest)
      (hidle : party.answering = none)
      (halloc : netPacketAlloc party.config.socket = some (reply, s₁))
      (hpack : s₁.onBitstream reply (packResponse id .success) = some ((), s₂)) :
      PartyMove party .block { party with
        config := party.config.answered packet reply s₂
        answering := some (party.config.socket.packet packet).tag }
  | delivered {packet id receipt : Nat} {rest : List Block} {tag : Tag} {result : UnpackResult}
      {object : TransactionObject} {socket : NetSocket}
      (hqueue : party.config.transactionsDispatchQueue = .request packet id receipt :: rest)
      (hanswering : party.answering = some tag)
      (hread : party.config.socket.onBitstream packet
        (transactionProtocolUnpackRequest requestMemory) = some ((result, object), socket)) :
      PartyMove party .block { party with
        config := (((party.config.popped rest).onSocket socket).note
          (delivery party.config tag result object)).released packet receipt
        answering := none }

section Steps

variable {party party' : Party} {action : TransactionAction}

theorem answerBlock_cases {config config' : TransactionConfiguration} {packet id : Nat}
    (h : answerBlock config packet id = some config') :
    ∃ reply s₁ s₂, netPacketAlloc config.socket = some (reply, s₁) ∧
      s₁.onBitstream reply (packResponse id .success) = some ((), s₂) ∧
      config' = config.answered packet reply s₂ := by
  obtain ⟨⟨reply, s₁⟩, halloc, h⟩ := Option.bind_eq_some_iff.1 h
  obtain ⟨⟨⟨⟩, s₂⟩, hpack, h⟩ := Option.bind_eq_some_iff.1 h
  obtain rfl := Option.some.inj h
  exact ⟨reply, s₁, s₂, halloc, hpack, rfl⟩

theorem answerBlock_eq {config : TransactionConfiguration} {packet id reply : Nat}
    {s₁ s₂ : NetSocket} (halloc : netPacketAlloc config.socket = some (reply, s₁))
    (hpack : s₁.onBitstream reply (packResponse id .success) = some ((), s₂)) :
    answerBlock config packet id = some (config.answered packet reply s₂) := by
  rw [answerBlock, transactionResponse, halloc, Option.bind_eq_bind, Option.bind_some]
  dsimp only
  rw [hpack, Option.bind_eq_bind, Option.bind_some]
  rfl

/-- The answer has nothing to do with the queue. -/
theorem answerBlock_popped (config : TransactionConfiguration) (packet id : Nat)
    (rest : List Block) : answerBlock (config.popped rest) packet id =
      (answerBlock config packet id).map fun config' => config'.popped rest := by
  cases hanswer : answerBlock config packet id with
  | some config' =>
    obtain ⟨reply, s₁, s₂, halloc, hpack, rfl⟩ := answerBlock_cases hanswer
    exact @answerBlock_eq (config.popped rest) packet id reply s₁ s₂ halloc hpack
  | none =>
    cases hpopped : answerBlock (config.popped rest) packet id with
    | none => rfl
    | some config' =>
      obtain ⟨reply, s₁, s₂, halloc, hpack, -⟩ := answerBlock_cases hpopped
      rw [@answerBlock_eq config packet id reply s₁ s₂ halloc hpack] at hanswer
      cases hanswer

theorem deliverBlock_cases {config config' : TransactionConfiguration} {tag : Tag}
    {packet receipt : Nat} (h : deliverBlock config tag packet receipt = some config') :
    ∃ result object socket, config.socket.onBitstream packet
        (transactionProtocolUnpackRequest requestMemory) = some ((result, object), socket) ∧
      config' = ((config.onSocket socket).note
        (delivery config tag result object)).released packet receipt := by
  obtain ⟨⟨⟨result, object⟩, socket⟩, hread, h⟩ := Option.bind_eq_some_iff.1 h
  obtain rfl := Option.some.inj h
  exact ⟨result, object, socket, hread, rfl⟩

theorem partyStep_request {packet id receipt : Nat} {rest : List Block}
    (hqueue : party.config.transactionsDispatchQueue = .request packet id receipt :: rest) :
    partyStep party .block = match party.answering with
      | none => (answerBlock party.config packet id).map fun config => { party with
          config, answering := some (party.config.socket.packet packet).tag }
      | some tag => (deliverBlock (party.config.popped rest) tag packet receipt).map fun config =>
          { party with config, answering := none } := by
  simp only [partyStep, hqueue]

theorem partyStep_other (hother : action = .block → ∀ packet id receipt rest,
      party.config.transactionsDispatchQueue ≠ .request packet id receipt :: rest) :
    partyStep party action =
      (transactionStep party.config action).map fun config => { party with config } := by
  unfold partyStep
  split
  · split
    · rename_i hqueue
      exact absurd hqueue (hother rfl _ _ _ _)
    · rfl
  · rfl

theorem partyStep_move (h : partyStep party action = some party') :
    PartyMove party action party' := by
  by_cases hrequest : action = .block ∧ ∃ packet id receipt rest,
    party.config.transactionsDispatchQueue = .request packet id receipt :: rest
  · obtain ⟨rfl, packet, id, receipt, rest, hqueue⟩ := hrequest
    rw [partyStep_request hqueue] at h
    cases hanswering : party.answering with
    | none =>
      rw [hanswering] at h
      obtain ⟨config', hanswer, rfl⟩ := Option.map_eq_some_iff.1 h
      obtain ⟨reply, s₁, s₂, halloc, hpack, rfl⟩ := answerBlock_cases hanswer
      exact .answered hqueue hanswering halloc hpack
    | some tag =>
      rw [hanswering] at h
      obtain ⟨config', hdeliver, rfl⟩ := Option.map_eq_some_iff.1 h
      obtain ⟨result, object, socket, hread, rfl⟩ := deliverBlock_cases hdeliver
      exact .delivered hqueue hanswering hread
  · have hother : action = .block → ∀ packet id receipt rest,
        party.config.transactionsDispatchQueue ≠ .request packet id receipt :: rest :=
      fun haction packet id receipt rest hqueue =>
        hrequest ⟨haction, packet, id, receipt, rest, hqueue⟩
    rw [partyStep_other hother] at h
    obtain ⟨config', hstep, rfl⟩ := Option.map_eq_some_iff.1 h
    exact .whole hother hstep

/-- **The two steps are the block**: with nothing between them they do what `requestBlock` does. -/
theorem partyStep_twice {packet id receipt : Nat} {rest : List Block}
    (hqueue : party.config.transactionsDispatchQueue = .request packet id receipt :: rest)
    (hidle : party.answering = none) :
    (partyStep party .block).bind (partyStep · .block) =
      (transactionStep party.config .block).map fun config => { party with config } := by
  have hstep : transactionStep party.config .block = (answerBlock party.config packet id).bind
      fun config => deliverBlock (config.popped rest) (party.config.socket.packet packet).tag
        packet receipt := by
    rw [transactionStep_block hqueue, runTransactionBlock, requestBlock_eq, answerBlock_popped,
      Option.bind_map]
    rfl
  rw [partyStep_request hqueue, hidle, hstep]
  cases hanswer : answerBlock party.config packet id with
  | none => rfl
  | some config' =>
    obtain ⟨reply, s₁, s₂, -, -, rfl⟩ := answerBlock_cases hanswer
    simp only [Option.map_some, Option.bind_some]
    rw [@partyStep_request { party with
      config := party.config.answered packet reply s₂
      answering := some (party.config.socket.packet packet).tag } packet id receipt rest hqueue]

/-! ### Invariants of a party -/

theorem partyStep_holding (h : Holding party.config []) (hstep : partyStep party action = some party') :
    Holding party'.config [] := by
  cases partyStep_move hstep with
  | whole hother htransaction => exact (transactionStep_held h htransaction).1
  | answered hqueue hidle halloc hpack => exact h.answered halloc hpack _
  | @delivered packet id receipt rest _ _ _ _ hqueue hanswering hread =>
    have htaken : Holding (party.config.popped rest) [packet] :=
      h.taken rfl rfl (held_popped hqueue rfl)
    exact ((htaken.onBitstream hread).note _).released _ |>.1

theorem partyStep_lifecycle (h : Lifecycle party.config)
    (hstep : partyStep party action = some party') : Lifecycle party'.config := by
  cases partyStep_move hstep with
  | whole hother htransaction => exact transactionStep_lifecycle h htransaction
  | answered hqueue hidle halloc hpack => exact h.onSocket _
  | delivered hqueue hanswering hread =>
    refine Lifecycle.released (Lifecycle.note (Lifecycle.onSocket (h.popped hqueue nofun) _)
      fun e he => ?_) _ _
    unfold delivery at he
    split at he
    · rw [List.mem_singleton.1 he]
      rfl
    · cases he

end Steps

/-- A step of the exchange is a step of one party; what it reads its peer has sent. -/
theorem exchangeStep_cases {x x' : Exchange} {action : ExchangeAction}
    (h : exchangeStep x action = some x') :
    x' = x ∨
    (∃ agent act party, action = .perform agent act ∧
      (∀ datagram, act ≠ .read (.datagram datagram)) ∧
      partyStep (x.side agent) act = some party ∧ x' = x.onSide party agent) ∨
    ∃ agent i addr packet datagram party, action = .deliver agent i addr ∧
      (x.config agent.peer).socket.sent[i]? = some (packet, datagram) ∧
      partyStep (x.side agent) (.read (.datagram { datagram with addr })) = some party ∧
      x' = x.onSide { party with delivered := party.delivered ++ [i] } agent := by
  cases action with
  | perform agent act =>
    by_cases hread : ∃ datagram, act = .read (.datagram datagram)
    · obtain ⟨datagram, rfl⟩ := hread
      exact .inl (Option.some.inj h).symm
    · have hread' : ∀ datagram, act ≠ .read (.datagram datagram) := fun d hd => hread ⟨d, hd⟩
      have hstep : exchangeStep x (.perform agent act) =
          (partyStep (x.side agent) act).map (x.onSide · agent) := by
        unfold exchangeStep
        split
        · rename_i haction
          cases haction
          exact absurd rfl (hread' _)
        · rename_i haction
          cases haction
          rfl
        · rename_i haction
          cases haction
      rw [hstep] at h
      obtain ⟨party, hparty, rfl⟩ := Option.map_eq_some_iff.1 h
      exact .inr (.inl ⟨agent, act, party, rfl, hread', hparty, rfl⟩)
  | deliver agent i addr =>
    cases hsent : (x.config agent.peer).socket.sent[i]? with
    | none =>
      rw [exchangeStep, hsent] at h
      exact .inl (Option.some.inj h).symm
    | some sent =>
      obtain ⟨packet, datagram⟩ := sent
      rw [exchangeStep, hsent] at h
      obtain ⟨party, hparty, rfl⟩ := Option.map_eq_some_iff.1 h
      exact .inr (.inr ⟨agent, i, addr, packet, datagram, party, rfl, hsent, hparty, rfl⟩)

end UniversalNetwork
