import UniversalNetwork.StreamConfiguration.Ownership
import UniversalNetwork.Stun.Ownership
import UniversalNetwork.Transaction.Ownership

/-!
# A socket that has a consumer already

The socket that is given to `stunResolve` can be that of a transaction or a stream configuration,
which goes on sending on it. A packet that is read goes to the receive block of the tests while there
is one; what is no STUN response is passed on to the callback of the configuration, and it is released
both by the consumer and by the receive block.

The steps are those of the sequence and of the configuration, in any order, on one socket. A callback
takes over the reference to the packet it is called with (`receiveCallback_owns`), so that the release
of a receive block that has passed on its packet is one too many (`forward_broken`), and everything
else keeps the references in order (`sharedStep_owns`).

Result: `sole_owners_iff`.
-/

namespace UniversalNetwork

open Lib

/-- The configuration whose callback is set on the socket. -/
inductive Consumer
  | transaction (config : TransactionConfiguration)
  | stream (config : StreamConfiguration)

inductive SharedAction
  | stun (action : StunAction)
  | transaction (action : TransactionAction)
  | stream (action : StreamAction)

namespace Consumer

def socket : Consumer → NetSocket
  | .transaction config => config.socket
  | .stream config => config.socket

def onSocket (socket : NetSocket) : Consumer → Consumer
  | .transaction config => .transaction (config.onSocket socket)
  | .stream config => .stream (config.onSocket socket)

/-- `transactionSocketReceiveCallback` or `streamSocketReceiveCallback`, which dispatches its block. -/
def receiveCallback (packet : Nat) : Consumer → Option Consumer
  | .transaction config =>
    (transactionSocketReceiveCallback { config with receipts := config.receipts + 1 } packet
      config.receipts).map .transaction
  | .stream config => some (.stream (config.dispatch (.receive packet)))

def step : Consumer → SharedAction → Option Consumer
  | .transaction config, .transaction action => (transactionStep config action).map .transaction
  | .stream config, .stream action => (streamStep config action).map .stream
  | consumer, _ => some consumer

def references : Consumer → Nat → Nat
  | .transaction config, i => config.owners.count i
  | .stream config, i => config.held.count i

end Consumer

/-- The socket is that of `stun`; the consumer gets it for each of its steps. -/
structure SharedSocket where
  stun : Stun
  consumer : Consumer

/-- The packet that the block which is next passes on: its test is running, and the packet does not
unpack as a STUN response. -/
def Stun.forwards (stun : Stun) (action : StunAction) : Option Nat :=
  match stun.head action with
  | some (.receive t packet) =>
    if (stun.tests t).isCompleted = false then
      match unpackBindingResponse stun.socket packet with
      | some ((result, _, _), _) => if result = .valid then none else some packet
      | none => none
    else none
  | _ => none

namespace SharedSocket

variable (shared : SharedSocket)

def forwards : SharedAction → Option Nat
  | .stun action => shared.stun.forwards action
  | _ => none

/-- A packet that is read goes to the receive block, and only without one to the callback. -/
def misses : SharedAction → Bool
  | .stun (.read _) => shared.stun.receiver.receiveBlock.isNone
  | .transaction (.read _) | .stream (.read _) => shared.stun.receiver.receiveBlock.isSome
  | _ => false

/-- Who holds a packet: the tests and their blocks, the consumer, and the queues of the socket. A
packet that a read event has left to nobody stays retained. -/
def references (i : Nat) : Nat :=
  shared.stun.references i + shared.consumer.references i +
    (shared.stun.socket.socketDispatchQueue.count i + shared.stun.socket.pendingPackets.count i +
      shared.stun.socket.unclaimed.count i)

end SharedSocket

/-- `stunReceiveBlock` with the consumer that `stunTestForward` calls. -/
def forwardBlock (shared : SharedSocket) (packet : Nat) : Option SharedSocket := do
  let stun := shared.stun.popped shared.stun.stunDispatchQueue.tail
  let (_, socket) ← unpackBindingResponse stun.socket packet
  let stun := stunTestForward (stun.onSocket socket) packet
  let consumer ← (shared.consumer.onSocket stun.socket).receiveCallback packet
  some ⟨stun.onSocket (netPacketRelease consumer.socket packet), consumer⟩

def sharedStep (shared : SharedSocket) (action : SharedAction) : Option SharedSocket :=
  if shared.misses action then some shared
  else match shared.forwards action, action with
    | some packet, _ => forwardBlock shared packet
    | none, .stun action => (stunStep shared.stun action).map fun stun => { shared with stun }
    | none, action => ((shared.consumer.onSocket shared.stun.socket).step action).map fun consumer =>
        ⟨shared.stun.onSocket consumer.socket, consumer⟩

inductive Service
  | transaction (agent : Agent) (receiveCallback errorCallback : Bool)
  | stream (suspendCallback : Bool)
deriving DecidableEq

def Service.setup (packets : Nat → Vector UInt8 kNetPacketMaxLen) : Service → Consumer
  | .transaction agent receiveCallback errorCallback =>
    .transaction (transactionSetup agent packets receiveCallback errorCallback)
  | .stream suspendCallback => .stream (streamSetup packets suspendCallback)

/-- `stunResolve` on the socket of a configuration. The first block of the sequence can wait while the
configuration works. -/
def share (packets : Nat → Vector UInt8 kNetPacketMaxLen) (service : Service)
    (receiveCallback receiveCallbackContext : Nat) (localAddr server : NetAddr) (maxRetries : Nat) :
    SharedSocket where
  stun := stunResolve packets (some receiveCallback) receiveCallbackContext none localAddr
    (some server) maxRetries
  consumer := service.setup packets

/-- No packet has two owners. -/
structure SoleOwners (shared : SharedSocket) : Prop where
  /-- `net_packet_release` was never applied to a packet whose retain count was 0. -/
  unheld : shared.stun.socket.unheld = []
  /-- A packet is retained once for each of those that hold it. -/
  count : ∀ i, shared.stun.socket.poolPackets.retainCount i = shared.references i
  /-- `pool_alloc` returns a packet that nobody holds. -/
  alloc : ∀ i s, netPacketAlloc shared.stun.socket = some (i, s) → shared.references i = 0

/-! ## The consumer -/

def Consumer.Owns (consumer : Consumer) (others : Nat → Nat) : Prop :=
  consumer.socket.Owned fun i => others i + consumer.references i

section Consumer

variable {consumer consumer' : Consumer} {others : Nat → Nat} {packet : Nat}

theorem Consumer.Owns.step {action : SharedAction} (h : consumer.Owns others)
    (hstep : consumer.step action = some consumer') : consumer'.Owns others := by
  cases consumer with
  | transaction config =>
    cases action with
    | transaction action =>
      obtain ⟨config', hconfig, rfl⟩ := Option.map_eq_some_iff.1 hstep
      exact transactionStep_owns h hconfig
    | stun action | stream action =>
      cases hstep
      exact h
  | stream config =>
    cases action with
    | stream action =>
      obtain ⟨config', hconfig, rfl⟩ := Option.map_eq_some_iff.1 hstep
      exact streamStep_owns h hconfig
    | stun action | transaction action =>
      cases hstep
      exact h

/-- A callback releases its packet, or its block does. -/
theorem receiveCallback_owns (h : consumer.Owns fun i => others i + if i = packet then 1 else 0)
    (hcallback : consumer.receiveCallback packet = some consumer') : consumer'.Owns others := by
  cases consumer with
  | transaction config =>
    obtain ⟨config', hconfig, rfl⟩ := Option.map_eq_some_iff.1 hcallback
    have howns : { config with receipts := config.receipts + 1 }.Owns
        fun i => others i + if i = packet then 1 else 0 := h
    obtain ⟨socket, hread, rfl⟩ | ⟨id, type, socket, block, hread, hblock, rfl⟩ :=
      receiveCallback_cases hconfig
    · have hsocket : ({ config with receipts := config.receipts + 1 }.onSocket socket).Owns
          fun i => others i + if i = packet then 1 else 0 := by
        rcases hread with rfl | ⟨header, hread⟩
        · exact howns
        · exact NetSocket.Owned.onBitstream howns hread
      exact hsocket.released config.receipts
    · have hsocket : ({ config with receipts := config.receipts + 1 }.onSocket socket).Owns
          fun i => others i + if i = packet then 1 else 0 := NetSocket.Owned.onBitstream howns hread
      exact hsocket.kept (receivedBlock_packet hblock)
  | stream config =>
    cases hcallback
    have howns : config.Owns fun i => others i + if i = packet then 1 else 0 := h
    refine howns.perm rfl fun i => ?_
    simp only [StreamConfiguration.held, StreamConfiguration.dispatch, List.filterMap_append,
      List.filterMap_cons, List.filterMap_nil, StreamBlock.packet, List.count_append, count_cons,
      List.count_nil]
    omega

theorem references_onSocket (socket : NetSocket) :
    (consumer.onSocket socket).references = consumer.references := by
  cases consumer <;> rfl

theorem socket_onSocket (socket : NetSocket) : (consumer.onSocket socket).socket = socket := by
  cases consumer <;> rfl

end Consumer

/-! ## Steps -/

/-- The sequence is in some stage, and the references are in order. -/
def SharedSocket.Kept (shared : SharedSocket) : Prop :=
  ∃ stage, Sequenced stage shared.stun ∧ shared.stun.Owns shared.consumer.references

section Steps

variable {shared shared' : SharedSocket} {action : SharedAction} {packet : Nat}

theorem SharedSocket.Kept.soleOwners (h : shared.Kept) : SoleOwners shared := by
  obtain ⟨stage, -, howned⟩ := h
  refine ⟨howned.unheld, fun i => ?_, fun i s halloc => ?_⟩
  · have hcount := howned.holds.count i
    unfold SharedSocket.references
    omega
  · obtain ⟨hfresh, hqueue, hpending, -⟩ := NetSocket.Owned.alloc howned halloc fun _ => rfl
    have hclaimed := NetSocket.Owned.alloc_claimed howned halloc
    rw [SharedSocket.references, List.count_eq_zero.2 hqueue, List.count_eq_zero.2 hpending,
      List.count_eq_zero.2 hclaimed]
    omega

theorem forwards_eq_some {stun : Stun} {action : StunAction}
    (h : stun.forwards action = some packet) : ∃ transactionId t rest result s,
      action = .block transactionId ∧ stun.stunDispatchQueue = .receive t packet :: rest ∧
      unpackBindingResponse stun.socket packet = some (result, s) := by
  unfold Stun.forwards at h
  split at h
  · rename_i t packet' hhead
    split at h
    · split at h
      · rename_i hunpack
        split at h <;> cases h
        cases action with
        | block transactionId =>
          obtain ⟨rest, hqueue⟩ := List.head?_eq_some_iff.1 hhead
          exact ⟨transactionId, t, rest, _, _, rfl, hqueue, hunpack⟩
        | _ => cases hhead
      · cases h
    · cases h
  · cases h

/-- **One step** in which no packet is passed on. -/
theorem sharedStep_kept (h : shared.Kept) (hforwards : shared.forwards action = none)
    (hstep : sharedStep shared action = some shared') : shared'.Kept := by
  obtain ⟨stage, hsequenced, howns⟩ := h
  unfold sharedStep at hstep
  split at hstep
  · cases hstep
    exact ⟨stage, hsequenced, howns⟩
  · rw [hforwards] at hstep
    have hconsumer : (shared.consumer.onSocket shared.stun.socket).Owns shared.stun.references := by
      unfold Consumer.Owns
      rw [socket_onSocket, references_onSocket]
      exact NetSocket.Owned.congr howns fun i => Nat.add_comm _ _
    cases action with
    | stun action =>
      obtain ⟨stun, hstun, rfl⟩ := Option.map_eq_some_iff.1 hstep
      obtain ⟨stage', hsequenced', -⟩ := stunStep_advance hsequenced hstun
      exact ⟨stage', hsequenced', stunStep_owns hsequenced howns hstun⟩
    | transaction action | stream action =>
      obtain ⟨consumer, hconfig, rfl⟩ := Option.map_eq_some_iff.1 hstep
      refine ⟨stage, hsequenced.onSocket _, ?_⟩
      exact NetSocket.Owned.congr (hconsumer.step hconfig) fun i => Nat.add_comm _ _

/-- A packet that is passed on is released once too often. -/
theorem forward_broken (h : shared.Kept) (hforwards : shared.forwards action = some packet)
    (hstep : sharedStep shared action = some shared') : ¬ SoleOwners shared' := by
  obtain ⟨stage, -, howns⟩ := h
  cases action with
  | transaction action | stream action => cases hforwards
  | stun action =>
    obtain ⟨transactionId, t, rest, result, s, rfl, hqueue, hunpack⟩ := forwards_eq_some hforwards
    simp only [sharedStep, SharedSocket.misses, Bool.false_eq_true, ↓reduceIte, hforwards] at hstep
    obtain ⟨⟨result', s'⟩, hread, hstep⟩ := Option.bind_eq_some_iff.1 hstep
    cases hunpack.symm.trans hread
    obtain ⟨consumer, hcallback, hstep⟩ := Option.bind_eq_some_iff.1 hstep
    cases hstep
    rw [hqueue, List.tail_cons] at hcallback ⊢
    have hreset : (stunTestForward ((shared.stun.popped rest).onSocket s) packet).Owns
        fun i => shared.consumer.references i + [packet].count i :=
      (NetSocket.Owned.onBitstream (howns.popped hqueue) hunpack).setPacket packet _
    generalize stunTestForward ((shared.stun.popped rest).onSocket s) packet = stun at *
    -- what the consumer holds after its callback is in order, before the release of the block
    have hconsumer : (shared.consumer.onSocket stun.socket).Owns
        fun i => stun.references i + if i = packet then 1 else 0 := by
      unfold Consumer.Owns
      rw [socket_onSocket, references_onSocket]
      refine NetSocket.Owned.congr hreset fun i => ?_
      have hcount := count_cons [] packet i
      rw [List.count_nil] at hcount
      dsimp only
      omega
    have howned := receiveCallback_owns hconsumer hcallback
    intro hsole
    exact howned.count_release hsole.unheld (hsole.count packet)

end Steps

/-! ## Runs -/

section Runs

variable (packets : Nat → Vector UInt8 kNetPacketMaxLen) (service : Service)
  (receiveCallback receiveCallbackContext : Nat) (localAddr server : NetAddr) (maxRetries : Nat)

theorem share_kept : (share packets service receiveCallback receiveCallbackContext localAddr server
    maxRetries).Kept := by
  refine ⟨.waiting, sequenced_stunResolve .., ?_⟩
  refine (netSocketCreate_owned packets).congr fun i => ?_
  cases service <;> rfl

/-- **No packet has two owners** while the tests run on the socket of a configuration, in any order of
received packets, sends and allocations, just when no packet is passed on to the consumer. -/
theorem sole_owners_iff {actions : List SharedAction} {shared : SharedSocket}
    (hrun : run sharedStep (share packets service receiveCallback receiveCallbackContext localAddr
      server maxRetries) actions = some shared) :
    (∀ before after reached, before ++ after = actions →
      run sharedStep (share packets service receiveCallback receiveCallbackContext localAddr server
        maxRetries) before = some reached → SoleOwners reached) ↔
    Along sharedStep (fun shared action => shared.forwards action = none)
      (share packets service receiveCallback receiveCallbackContext localAddr server maxRetries)
      actions := by
  refine run_along_iff (P := SharedSocket.Kept) (share_kept ..) (fun _ h => h.soleOwners)
    (fun _ _ _ => sharedStep_kept) (fun shared action shared' h hforwards hstep => ?_) hrun
  obtain ⟨packet, hforwards⟩ := Option.ne_none_iff_exists'.1 hforwards
  exact forward_broken h hforwards hstep

end Runs

/-! ## Two consumers -/

/-- A socket with a consumer, before the first block. -/
def sharedWith (service : Service) : SharedSocket :=
  share (fun _ => Vector.replicate _ 0) service 0 0 .zeroed .zeroed 3

/-- The first test starts, and a datagram is read and comes to its receive block. -/
def datagramReceived (bytes : List UInt8) : List SharedAction :=
  [.stun (.block (byteId 5)), .stun (.read (.datagram ⟨.zeroed, bytes, .none⟩)),
    .stun (.deliver 0), .stun (.block (byteId 0))]

/-- A request to the transactions and a packet of a stream, each read during the first test: the pool
returns the packet that the block of the consumer still holds. The answer to the request is written
into the packet of the request, and its release after it is sent is that of a free packet. -/
theorem forwarded_released_twice :
    ((run sharedStep (sharedWith (.transaction .client true true))
        (datagramReceived [0xa2, 1, 1, 7, 1])).bind fun shared =>
      (netPacketAlloc shared.stun.socket).map fun packet =>
        (packet.1, shared.consumer.references packet.1)) = some (1, 1) ∧
    ((run sharedStep (sharedWith (.stream true)) (datagramReceived [0xa2, 1, 2])).bind fun shared =>
      (netPacketAlloc shared.stun.socket).map fun packet =>
        (packet.1, shared.consumer.references packet.1)) = some (1, 1) ∧
    ((run sharedStep (sharedWith (.transaction .client true true))
        (datagramReceived [0xa2, 1, 1, 7, 1] ++ [.transaction .block, .stun .socketBlock,
          .stun .socketBlock, .stun .write])).map (·.stun.socket.unheld)) = some [1] := by
  decide +kernel

/-- A STUN response with another id, a request of the consumer and its timeout. -/
def exchanged : List SharedAction :=
  datagramReceived (bindingResponseBytes 7 (9, 9) (2, 2)) ++
    [.transaction (.request .zeroed (.plain 0 (by decide))), .transaction .block, .stun .socketBlock,
      .stun .socketBlock, .stun .write, .transaction (.timeout 0), .transaction .block]

theorem sole_owners_exchanged : ∃ shared,
    run sharedStep (sharedWith (.transaction .client true true)) exchanged = some shared ∧
      SoleOwners shared := by
  have hsome : (run sharedStep (sharedWith (.transaction .client true true)) exchanged).isSome := by
    decide +kernel
  obtain ⟨shared, hrun⟩ := Option.isSome_iff_exists.1 hsome
  refine ⟨shared, hrun, (sole_owners_iff _ _ _ _ _ _ _ hrun).2 ?_ exchanged [] shared
    (List.append_nil _) hrun⟩
  decide +kernel

end UniversalNetwork
