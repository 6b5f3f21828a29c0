import UniversalNetwork.Transaction.Contents

/-!
# What an acknowledgement means

`Accepted x agent t`: the receive callback of the peer has been invoked for transaction `t` of
`agent`, with the object that was sent. A transaction that was acknowledged has been accepted
(`acknowledged_accepted`) in the runs in which only deliverable objects are requested, and no
response is processed while the block that sent it is still to unpack the request.

The invariant (`Agreeing`) follows the bytes: what a packet with the tag of a request carries is the
encoding of the object of that request (`Conveys`), from the packet it was packed in to the packet
it is unpacked from; and a packet with the tag of a response exists only once the request was
accepted, or is about to be.
-/

namespace UniversalNetwork

open Lib

/-! ## What a step leaves as it is -/

structure Continues (action : TransactionAction) (config config' : TransactionConfiguration) :
    Prop where
  agent : config'.agent = config.agent
  receiveCallback : config'.receiveCallback = config.receiveCallback
  log : config.log <+: config'.log
  sent : config.socket.sent <+: config'.socket.sent
  queue : action ≠ .block →
    config.transactionsDispatchQueue <+: config'.transactionsDispatchQueue

section Steps

variable {config config' : TransactionConfiguration} {party party' : Party}
  {action : TransactionAction} {t : Nat}

theorem prefix_of_eq {α : Type} {l l' : List α} (h : l' = l) : l <+: l' :=
  h ▸ List.prefix_rfl

theorem transactionStep_continues (hstep : transactionStep config action = some config') :
    Continues action config config' := by
  cases transactionStep_move hstep with
  | idle hqueue =>
    exact ⟨rfl, rfl, List.prefix_rfl, List.prefix_rfl, fun _ => List.prefix_rfl⟩
  | dispatched haction hplain =>
    exact ⟨rfl, rfl, List.prefix_rfl, List.prefix_rfl, fun _ => List.prefix_append _ _⟩
  | requested halloc hpack =>
    exact ⟨rfl, rfl, List.prefix_append _ _,
      prefix_of_eq ((touches_alloc halloc).trans (touches_onBitstream hpack)).sent,
      fun _ => List.prefix_append _ _⟩
  | sentOff hcall hlive =>
    exact ⟨rfl, rfl, List.prefix_append _ _, prefix_of_eq (queues_send _ _).sent,
      fun _ => List.prefix_rfl⟩
  | armed hcall hlive =>
    exact ⟨rfl, rfl, List.prefix_rfl, List.prefix_rfl, fun _ => List.prefix_rfl⟩
  | unread hread hunread =>
    exact ⟨rfl, rfl, List.prefix_rfl, prefix_of_eq hunread.sent, fun _ => List.prefix_rfl⟩
  | read hlength hread =>
    obtain ⟨s₁, halloc, rfl⟩ := netSocketReadEvent_eq hread
    exact ⟨rfl, rfl, List.prefix_append _ _, prefix_of_eq (touches_alloc halloc).sent,
      fun _ => List.prefix_rfl⟩
  | ignored hreceived hread =>
    refine ⟨rfl, rfl, List.prefix_append _ _, ?_, fun _ => List.prefix_rfl⟩
    rcases hread with rfl | ⟨header, hread⟩
    · exact List.prefix_rfl
    · exact prefix_of_eq (touches_onBitstream hread).sent
  | retained hreceived hread hblock =>
    refine ⟨rfl, rfl, ?_, prefix_of_eq (touches_onBitstream hread).sent,
      fun _ => List.prefix_append _ _⟩
    exact (List.prefix_append _ _).trans (List.prefix_append _ _)
  | inserted hqueue hlive =>
    exact ⟨rfl, rfl, List.prefix_rfl, List.prefix_rfl, fun h => absurd rfl h⟩
  | lost hqueue hsearch =>
    exact ⟨rfl, rfl, List.prefix_rfl, List.prefix_rfl, fun h => absurd rfl h⟩
  | responded hqueue hsearch hlive hread =>
    refine ⟨rfl, rfl, ?_, prefix_of_eq (touches_onBitstream hread).sent, fun h => absurd rfl h⟩
    exact ((List.prefix_append _ _).trans (List.prefix_append _ _)).trans (List.prefix_append _ _)
  | served hqueue halloc hpack hread =>
    refine ⟨rfl, rfl, ?_, ?_, fun h => absurd rfl h⟩
    · exact (List.prefix_append _ _).trans (List.prefix_append _ _)
    · exact prefix_of_eq ((touches_onBitstream hread).sent.trans
        (queues_sendFresh halloc hpack _ _).sent)
  | retried hqueue hsearch hlive hstate hretries =>
    exact ⟨rfl, rfl, List.prefix_append _ _, prefix_of_eq (queues_send _ _).sent,
      fun h => absurd rfl h⟩
  | timedOut hqueue hsearch hlive hstate hretries =>
    exact ⟨rfl, rfl, List.prefix_append _ _, List.prefix_rfl, fun h => absurd rfl h⟩
  | switched hqueue hplain =>
    exact ⟨rfl, rfl, List.prefix_rfl, List.prefix_rfl, fun h => absurd rfl h⟩
  | removedAll hqueue hremove =>
    have hinv : config'.agent = config.agent ∧ config'.receiveCallback = config.receiveCallback ∧
        config.log <+: config'.log ∧ config.socket.sent <+: config'.socket.sent := by
      refine transactionRemoveAll_inv (P := fun c => c.agent = config.agent ∧
        c.receiveCallback = config.receiveCallback ∧ config.log <+: c.log ∧
        config.socket.sent <+: c.socket.sent) ?_ ?_ hremove
      · rintro c key t tr ⟨hagent, hcallback, hlog, hsent⟩ hsearch hlive
        exact ⟨hagent, hcallback, hlog.trans (List.prefix_append _ _), hsent⟩
      · exact ⟨rfl, rfl, List.prefix_rfl, List.prefix_rfl⟩
    exact ⟨hinv.1, hinv.2.1, hinv.2.2.1, hinv.2.2.2, fun h => absurd rfl h⟩
  | timeoutFired hlive =>
    exact ⟨rfl, rfl, List.prefix_rfl, List.prefix_rfl, fun _ => List.prefix_rfl⟩
  | socketBlock =>
    exact ⟨rfl, rfl, List.prefix_rfl, prefix_of_eq sent_runBlock, fun _ => List.prefix_rfl⟩
  | write => exact ⟨rfl, rfl, List.prefix_rfl, sent_writeEvent, fun _ => List.prefix_rfl⟩

theorem PartyMove.continues (hmove : PartyMove party action party') :
    Continues action party.config party'.config := by
  cases hmove with
  | whole hother hstep => exact transactionStep_continues hstep
  | answered hqueue hidle halloc hpack =>
    exact ⟨rfl, rfl, List.prefix_rfl, prefix_of_eq (queues_sendFresh halloc hpack _ _).sent,
      fun h => absurd rfl h⟩
  | delivered hqueue hanswering hread =>
    refine ⟨rfl, rfl, ?_, prefix_of_eq (touches_onBitstream hread).sent, fun h => absurd rfl h⟩
    exact (List.prefix_append _ _).trans (List.prefix_append _ _)

/-- The packet of the response that the next block would unpack, and the transaction it finds. -/
def TransactionConfiguration.responding (config : TransactionConfiguration) : Option (Nat × Nat) :=
  match config.transactionsDispatchQueue with
  | .response packet id _ :: _ => (hashtableSearch config.transactions id).map (packet, ·)
  | _ => none

/-- Only the block of a response acknowledges a transaction. -/
theorem transactionStep_acknowledged (hstep : transactionStep config action = some config')
    (hack : .complete t .acknowledged ∈ config'.log) : .complete t .acknowledged ∈ config.log ∨
      action = .block ∧ ∃ packet id receipt rest,
        config.transactionsDispatchQueue = .response packet id receipt :: rest ∧
        (packet, t) ∈ config.responding := by
  cases transactionStep_move hstep with
  | idle hqueue => exact .inl hack
  | dispatched haction hplain => exact .inl hack
  | requested halloc hpack => exact .inl (by simpa using hack)
  | sentOff hcall hlive => exact .inl (by simpa using hack)
  | armed hcall hlive => exact .inl hack
  | unread hread hunread => exact .inl hack
  | read hlength hread => exact .inl (by simpa using hack)
  | ignored hreceived hread => exact .inl (by simpa using hack)
  | retained hreceived hread hblock => exact .inl (by simpa using hack)
  | inserted hqueue hlive => exact .inl hack
  | lost hqueue hsearch => exact .inl hack
  | @responded packet id receipt t' rest transaction result responseType socket hqueue hsearch hlive
      hread =>
    by_cases ht : t = t'
    · subst ht
      refine .inr ⟨rfl, packet, id, receipt, rest, hqueue, ?_⟩
      simp [TransactionConfiguration.responding, hqueue, hsearch]
    · exact .inl (by simpa [completion, ht] using hack)
  | served hqueue halloc hpack hread => exact .inl (by simpa [delivery] using hack)
  | retried hqueue hsearch hlive hstate hretries => exact .inl (by simpa using hack)
  | timedOut hqueue hsearch hlive hstate hretries =>
    exact .inl (by simpa [completion] using hack)
  | switched hqueue hplain => exact .inl hack
  | removedAll hqueue hremove =>
    refine .inl ?_
    refine transactionRemoveAll_inv (P := fun c => .complete t .acknowledged ∈ c.log →
      .complete t .acknowledged ∈ config.log) ?_ ?_ hremove hack
    · intro c key t' tr hc hsearch hlive hmem
      exact hc (by simpa using hmem)
    · exact id
  | timeoutFired hlive => exact .inl hack
  | socketBlock => exact .inl hack
  | write => exact .inl hack

/-- While the answer is out, the request it was given to is the running block. -/
def Standing (party : Party) : Prop :=
  ∀ tag, party.answering = some tag → ∃ packet id receipt rest,
    party.config.transactionsDispatchQueue = .request packet id receipt :: rest ∧
    (party.config.socket.packet packet).tag = tag

theorem PartyMove.standing (hmove : PartyMove party action party') (h : Standing party)
    (hold : Holding party.config []) : Standing party' := by
  have hheld : ∀ {packet id receipt : Nat} {rest : List Block},
      party.config.transactionsDispatchQueue = .request packet id receipt :: rest →
        ¬ party.config.Unheld packet := fun hqueue hfree =>
    hfree.1 (mem_owners_of_opened (mem_opened_head hqueue rfl))
  intro tag htag
  cases hmove with
  | whole hother hstep =>
    obtain ⟨packet, id, receipt, rest, hqueue, heq⟩ := h tag htag
    have haction : action ≠ .block := fun haction => hother haction _ _ _ _ hqueue
    obtain ⟨blocks, hblocks⟩ := (transactionStep_continues hstep).queue haction
    refine ⟨packet, id, receipt, rest ++ blocks, ?_, ?_⟩
    · rw [← hblocks, hqueue]
      rfl
    · rw [(transactionStep_move hstep).tag hold (hheld hqueue)]
      exact heq
  | @answered packet id receipt reply rest s₁ s₂ hqueue hidle halloc hpack =>
    refine ⟨packet, id, receipt, rest, hqueue, ?_⟩
    rw [tag_answered hold halloc hpack (hheld hqueue)]
    exact Option.some.inj htag
  | delivered hqueue hanswering hread => cases htag

end Steps

/-! ## Laws of the exchange -/

def Accepted (x : Exchange) (agent : Agent) (t : Nat) : Prop :=
  ∃ object object', .request t object ∈ (x.config agent).log ∧
    .receiveCallback (.request agent t) object' ∈ (x.config agent.peer).log ∧
    SameObject object object'

/-- The answer to the request is out, and its block is still running. -/
def Underway (x : Exchange) (agent : Agent) (t : Nat) : Prop :=
  (x.side agent.peer).answering = some (.request agent t)

/-- What the packets that `agent` sends carry. -/
def Conveys (x : Exchange) (agent : Agent) : Tag → List UInt8 → Prop
  | .none, _ => False
  | .request agent' t, bs => agent' = agent ∧ ∃ id object,
      .request t object ∈ (x.config agent).log ∧ object.Deliverable ∧ bs = requestBytes id object
  | .response agent' t, bs => agent' = agent.peer ∧
      (∃ id, bs = responseBytes id .success) ∧ (Accepted x agent' t ∨ Underway x agent' t)

/-- Headers tell requests from responses. -/
theorem wireHeader_inj {id id' : UInt32} {type type' : TransactionType} {bs bs' : List UInt8}
    (h : wireHeader id type ++ bs = wireHeader id' type' ++ bs') : type = type' ∧ bs = bs' := by
  obtain ⟨hheader, hbs⟩ := List.append_inj h rfl
  refine ⟨?_, hbs⟩
  have hcode : some type.code.toUInt8 = some type'.code.toUInt8 := congrArg (·[4]?) hheader
  cases type <;> cases type' <;> first | rfl | exact absurd hcode (by decide)

section Laws

variable {x : Exchange} {agent : Agent}

theorem conveys_request {tag : Tag} {id : UInt32} {bs : List UInt8}
    (h : Conveys x agent tag (wireHeader id .request ++ bs)) : ∃ t object, tag = .request agent t ∧
      .request t object ∈ (x.config agent).log ∧ object.Deliverable ∧ bs = wireRequest object := by
  cases tag with
  | none => exact h.elim
  | request agent' t =>
    obtain ⟨rfl, id', object, hlog, hobject, hbs⟩ := h
    exact ⟨t, object, rfl, hlog, hobject, (wireHeader_inj hbs).2⟩
  | response agent' t =>
    obtain ⟨-, ⟨id', hbs⟩, -⟩ := h
    cases (wireHeader_inj hbs).1

theorem conveys_response {tag : Tag} {id : UInt32} {bs : List UInt8}
    (h : Conveys x agent tag (wireHeader id .response ++ bs)) : ∃ t, tag = .response agent.peer t ∧
      bs = wireResponse .success ∧ (Accepted x agent.peer t ∨ Underway x agent.peer t) := by
  cases tag with
  | none => exact h.elim
  | request agent' t =>
    obtain ⟨rfl, id', object, hlog, hobject, hbs⟩ := h
    cases (wireHeader_inj hbs).1
  | response agent' t =>
    obtain ⟨rfl, ⟨id', hbs⟩, h⟩ := h
    exact ⟨t, rfl, (wireHeader_inj hbs).2, h⟩

theorem readable_conveys : Readable (Conveys x agent) where
  header := by
    intro tag bs h
    cases tag with
    | none => exact h.elim
    | request agent' t =>
      obtain ⟨-, id, object, -, -, rfl⟩ := h
      exact ⟨_, .request, _, rfl⟩
    | response agent' t =>
      obtain ⟨-, ⟨id, rfl⟩, -⟩ := h
      exact ⟨_, .response, _, rfl⟩
  request := by
    intro tag id rest h
    obtain ⟨t, object, -, -, hobject, rfl⟩ := conveys_request h
    obtain ⟨decoded, -, hread⟩ := reads_request requestMemory hobject.wellFormed hobject.room
    exact ⟨decoded, hread⟩
  response := by
    intro tag id rest h
    obtain ⟨t, -, rfl, -⟩ := conveys_response h
    exact ⟨_, reads_response .success⟩

end Laws

/-! ## The invariant -/

structure Agreeing (x : Exchange) : Prop where
  agent : ∀ a, (x.config a).agent = a
  receiveCallback : ∀ a, (x.config a).receiveCallback = true
  holding : ∀ a, Holding (x.config a) []
  contents : ∀ a, Contents (Conveys x a) (Conveys x a.peer) (x.config a)
  standing : ∀ a, Standing (x.side a)
  acknowledged : ∀ a t, .complete t .acknowledged ∈ (x.config a).log → Accepted x a t

section Moves

variable {x : Exchange} {agent : Agent} {action : TransactionAction} {party party' : Party}

theorem Agent.eq_or_eq_peer (agent other : Agent) : other = agent ∨ other = agent.peer := by
  cases agent <;> cases other <;> simp [Agent.peer]

/-- What is unpacked after the answer is what was packed. -/
theorem Agreeing.delivered (h : Agreeing x) {packet id receipt t : Nat} {rest : List Block}
    {agent' : Agent} {result : UnpackResult} {object' : TransactionObject} {socket : NetSocket}
    (hqueue : (x.config agent).transactionsDispatchQueue = .request packet id receipt :: rest)
    (hanswering : (x.side agent).answering = some (.request agent' t))
    (hread : (x.config agent).socket.onBitstream packet
      (transactionProtocolUnpackRequest requestMemory) = some ((result, object'), socket)) :
    ∃ object, .request t object ∈ (x.config agent').log ∧ result = .valid ∧
      SameObject object object' := by
  obtain ⟨packet', _, _, _, hqueue', htag⟩ := h.standing agent _ hanswering
  obtain ⟨⟨rfl, -⟩, -⟩ := by simpa using hqueue'.symm.trans hqueue
  obtain ⟨_, bs, hlaw, hstands⟩ := (h.contents agent).opened _ (mem_opened_head hqueue rfl)
  replace htag : ((x.config agent).socket.packet packet').tag = .request agent' t := htag
  obtain ⟨t', object, heq, hlog, hobject, rfl⟩ := conveys_request hlaw
  obtain ⟨rfl, rfl⟩ : agent' = agent.peer ∧ t = t' := by simpa using htag.symm.trans heq
  obtain ⟨decoded, hsame, hreads⟩ := reads_request requestMemory hobject.wellFormed hobject.room
  have hvalue := (hstands.read_all (h.contents agent).sized (by decide) hreads hread).1
  obtain ⟨rfl, rfl⟩ := Prod.mk.inj hvalue
  exact ⟨object, hlog, rfl, hsame⟩

variable (h : Agreeing x) (hmove : PartyMove (x.side agent) action party)
  (hconfig : party'.config = party.config) (hanswering : party'.answering = party.answering)

include hmove hconfig in
theorem log_onSide (other : Agent) {e : Event} (he : e ∈ (x.config other).log) :
    e ∈ ((x.onSide party' agent).config other).log := by
  rcases Agent.eq_or_eq_peer agent other with rfl | rfl
  · rw [Exchange.config_onSide, hconfig]
    exact hmove.continues.log.subset he
  · rw [Exchange.config_onSide_peer]
    exact he

include hmove hconfig in
theorem Accepted.onSide {other : Agent} {t : Nat} (ha : Accepted x other t) :
    Accepted (x.onSide party' agent) other t := by
  obtain ⟨object, object', hrequest, hcallback, hsame⟩ := ha
  exact ⟨object, object', log_onSide hmove hconfig _ hrequest,
    log_onSide hmove hconfig _ hcallback, hsame⟩

include h hmove hconfig hanswering in
/-- The block goes on running, or the request has been accepted. -/
theorem Underway.onSide {other : Agent} {t : Nat} (ha : Underway x other t) :
    Accepted (x.onSide party' agent) other t ∨ Underway (x.onSide party' agent) other t := by
  rcases Agent.eq_or_eq_peer agent other with rfl | rfl
  · right
    rw [Underway, Exchange.side_onSide_peer]
    exact ha
  · rw [Underway, Agent.peer_peer] at ha
    rw [Underway, Agent.peer_peer, Exchange.side_onSide, hanswering]
    have hlog := @log_onSide x agent action party party' hmove hconfig
    cases hmove with
    | whole hother hstep => exact .inr ha
    | answered hqueue hidle halloc hpack =>
      rw [hidle] at ha
      cases ha
    | @delivered packet id receipt rest tag result object' socket hqueue htag hread =>
      obtain rfl : tag = .request agent.peer t := Option.some.inj (htag.symm.trans ha)
      obtain ⟨object, hrequest, rfl, hsame⟩ := h.delivered hqueue ha hread
      refine .inl ⟨object, object', hlog _ hrequest, ?_, hsame⟩
      have hcallback : (x.side agent).config.receiveCallback = true := h.receiveCallback agent
      rw [Agent.peer_peer, Exchange.config_onSide, hconfig]
      simp [delivery, hcallback]

include h hmove hconfig hanswering in
theorem Conveys.onSide (other : Agent) (tag : Tag) (bs : List UInt8)
    (hc : Conveys x other tag bs) : Conveys (x.onSide party' agent) other tag bs := by
  cases tag with
  | none => exact hc
  | request agent' t =>
    obtain ⟨rfl, id, object, hlog, hobject⟩ := hc
    exact ⟨rfl, id, object, log_onSide hmove hconfig _ hlog, hobject⟩
  | response agent' t =>
    obtain ⟨rfl, hbs, ha⟩ := hc
    refine ⟨rfl, hbs, ?_⟩
    rcases ha with ha | ha
    · exact .inl (ha.onSide hmove hconfig)
    · exact ha.onSide h hmove hconfig hanswering

include hmove in
theorem Agreeing.acknowledged_move (h : Agreeing x) {t : Nat}
    (hresponse : action = .block → ∀ e ∈ (x.config agent).responding,
      ((x.config agent).socket.packet e.1).tag = .response agent e.2 ∧ ¬ Underway x agent e.2)
    (hack : .complete t .acknowledged ∈ party.config.log) : Accepted x agent t := by
  cases hmove with
  | whole hother hstep =>
    rcases transactionStep_acknowledged hstep hack with hack | ⟨haction, packet, id, receipt, rest,
      hqueue, hmem⟩
    · exact h.acknowledged agent t hack
    · obtain ⟨htag, hnot⟩ := hresponse haction _ hmem
      have hopened : (packet, .response) ∈ (x.config agent).opened := mem_opened_head hqueue rfl
      obtain ⟨_, bs, hlaw, -⟩ := (h.contents agent).opened _ hopened
      obtain ⟨t', heq, -, haccepted⟩ := conveys_response hlaw
      obtain ⟨-, rfl⟩ : agent = agent.peer.peer ∧ t = t' := by simpa using htag.symm.trans heq
      rw [Agent.peer_peer] at haccepted
      exact haccepted.resolve_right hnot
  | answered hqueue hidle halloc hpack => exact h.acknowledged agent t hack
  | delivered hqueue hanswering hread =>
    have hack' : .complete t .acknowledged ∈ (x.side agent).config.log := by
      simpa [delivery] using hack
    exact h.acknowledged agent t hack'

include hmove hconfig hanswering in
theorem Agreeing.onSide (h : Agreeing x)
    (hrequest : ∀ addr object, action = .request addr object → object.Deliverable)
    (hdatagram : ∀ datagram, action = .read (.datagram datagram) →
      Conveys x agent.peer datagram.tag datagram.bytes)
    (hresponse : action = .block → ∀ e ∈ (x.config agent).responding,
      ((x.config agent).socket.packet e.1).tag = .response agent e.2 ∧ ¬ Underway x agent e.2)
    (hholding : Holding party.config []) : Agreeing (x.onSide party' agent) := by
  have hconveys := @Conveys.onSide x agent action party party' h hmove hconfig hanswering
  have hcontinues := hmove.continues
  have hself : (x.onSide party' agent).config agent = party.config :=
    (x.config_onSide party' agent).trans hconfig
  have hpeer := x.config_onSide_peer party' agent
  refine ⟨fun a => ?_, fun a => ?_, fun a => ?_, fun a => ?_, fun a => ?_, fun a t hack => ?_⟩
  all_goals rcases Agent.eq_or_eq_peer agent a with rfl | rfl
  · rw [hself, hcontinues.agent]
    exact h.agent a
  · rw [hpeer]
    exact h.agent agent.peer
  · rw [hself, hcontinues.receiveCallback]
    exact h.receiveCallback a
  · rw [hpeer]
    exact h.receiveCallback agent.peer
  · rw [hself]
    exact hholding
  · rw [hpeer]
    exact h.holding agent.peer
  · rw [hself]
    have hcontents := (h.contents a).mono (hconveys a) (hconveys a.peer)
    refine hmove.contents hcontents (h.holding a) readable_conveys ?_ ?_ ?_
    · intro addr object haction hlog
      refine ⟨hrequest addr object haction, (h.agent a), _, object, ?_, hrequest addr object haction,
        rfl⟩
      rw [hself]
      exact hlog
    · intro datagram haction
      exact hconveys _ _ _ (hdatagram datagram haction)
    · intro packet id receipt rest hqueue htag
      obtain ⟨_, bs, hlaw, -⟩ := (h.contents a).opened _ (mem_opened_head hqueue rfl)
      obtain ⟨t, object, heq, -⟩ := conveys_request hlaw
      replace heq : ((x.side a).config.socket.packet packet).tag = .request a.peer t := heq
      rw [heq] at htag ⊢
      refine ⟨rfl, ⟨id, rfl⟩, .inr ?_⟩
      rw [Underway, Agent.peer_peer, Exchange.side_onSide, hanswering]
      exact htag
  · rw [hpeer]
    exact (h.contents agent.peer).mono (hconveys agent.peer) (hconveys agent.peer.peer)
  · rw [Exchange.side_onSide]
    have hstanding := hmove.standing (h.standing a) (h.holding a)
    intro tag htag
    rw [hconfig]
    exact hstanding tag (hanswering ▸ htag)
  · rw [Exchange.side_onSide_peer]
    exact h.standing agent.peer
  · rw [hself] at hack
    exact (h.acknowledged_move hmove hresponse hack).onSide hmove hconfig
  · rw [hpeer] at hack
    exact (h.acknowledged agent.peer t hack).onSide hmove hconfig

end Moves

/-! ## Runs -/

/-- A response is matched to the transaction whose request it answers. -/
def Matched (x : Exchange) : ExchangeAction → Prop
  | .perform agent .block => ∀ e ∈ (x.config agent).responding,
      ((x.config agent).socket.packet e.1).tag = .response agent e.2
  | _ => True

/-- Objects are deliverable, and a response is not processed while the block that sent it is still
to unpack the request. -/
def Honoured (x : Exchange) : ExchangeAction → Prop
  | .perform _ (.request _ object) => object.Deliverable
  | .perform agent .block => ∀ e ∈ (x.config agent).responding, ¬ Underway x agent e.2
  | _ => True

section Runs

variable {memory : Agent → Nat → Vector UInt8 kNetPacketMaxLen} {errorCallback : Agent → Bool}
  {x x' : Exchange}

theorem agreeing_setup : Agreeing (exchangeSetup memory errorCallback) where
  agent := fun a => by cases a <;> rfl
  receiveCallback := fun a => by cases a <;> rfl
  holding := fun a => by cases a <;> exact holding_setup _ _ _ _
  contents := fun a => by cases a <;> exact contents_setup _ _ _ _
  standing := fun a => by cases a <;> exact nofun
  acknowledged := fun a => by cases a <;> exact nofun

theorem exchangeStep_agreeing {action : ExchangeAction} (h : Agreeing x)
    (hok : Matched x action ∧ Honoured x action) (hstep : exchangeStep x action = some x') :
    Agreeing x' := by
  rcases exchangeStep_cases hstep with rfl | ⟨agent, act, party, rfl, hread, hparty, rfl⟩ |
    ⟨agent, i, addr, packet, datagram, party, rfl, hsent, hparty, rfl⟩
  · exact h
  · have hholding := partyStep_holding (h.holding agent) hparty
    refine h.onSide (partyStep_move hparty) rfl rfl ?_ ?_ ?_ hholding
    · rintro addr object rfl
      exact hok.2
    · rintro datagram rfl
      exact absurd rfl (hread datagram)
    · rintro rfl e he
      exact ⟨hok.1 e he, hok.2 e he⟩
  · have hholding := partyStep_holding (h.holding agent) hparty
    refine h.onSide (partyStep_move hparty) rfl rfl nofun ?_ nofun hholding
    intro datagram' heq
    obtain rfl := RecvFrom.datagram.inj (TransactionAction.read.inj heq)
    exact (h.contents agent.peer).sent _ (List.mem_of_getElem? hsent)

/-- **A Success acknowledgement means that the request was accepted.** -/
theorem acknowledged_accepted {actions : List ExchangeAction}
    (h : run exchangeStep (exchangeSetup memory errorCallback) actions = some x)
    (hok : Along exchangeStep (fun x action => Matched x action ∧ Honoured x action)
      (exchangeSetup memory errorCallback) actions) (agent : Agent) (t : Nat)
    (hack : .complete t .acknowledged ∈ (x.config agent).log) : Accepted x agent t :=
  (run_along agreeing_setup (fun _ _ _ => exchangeStep_agreeing) h hok).acknowledged agent t hack

end Runs

/-! ### Runs with one request -/

instance (x : Exchange) (agent : Agent) (t : Nat) : Decidable (Underway x agent t) :=
  inferInstanceAs (Decidable ((x.side agent.peer).answering = some (.request agent t)))

instance (x : Exchange) : DecidablePred (Matched x)
  | .perform agent .block => inferInstanceAs (Decidable (∀ e ∈ (x.config agent).responding,
      ((x.config agent).socket.packet e.1).tag = .response agent e.2))
  | .perform _ (.request _ _) | .perform _ (.proceed _) | .perform _ .enable | .perform _ .disable
  | .perform _ (.read _) | .perform _ (.callback _) | .perform _ (.timeout _)
  | .perform _ (.timeoutFired _) | .perform _ .socketBlock | .perform _ .write | .deliver _ _ _ =>
    .isTrue trivial

instance (x : Exchange) : DecidablePred (Honoured x)
  | .perform _ (.request _ object) => inferInstanceAs (Decidable object.Deliverable)
  | .perform agent .block =>
    inferInstanceAs (Decidable (∀ e ∈ (x.config agent).responding, ¬ Underway x agent e.2))
  | .perform _ (.proceed _) | .perform _ .enable | .perform _ .disable | .perform _ (.read _)
  | .perform _ (.callback _) | .perform _ (.timeout _) | .perform _ (.timeoutFired _)
  | .perform _ .socketBlock | .perform _ .write | .deliver _ _ _ => .isTrue trivial

/-- Two parties with zeroed packets and all callbacks. -/
def zeroedExchange : Exchange := exchangeSetup (fun _ _ => Vector.replicate _ 0) fun _ => true

/-- The agent's queues run until its packets are handed to `sendto`. -/
def flush (agent : Agent) : List ExchangeAction :=
  [.perform agent .socketBlock, .perform agent .write]

/-- The client makes its first request. -/
def clientRequest (object : TransactionObject) : List ExchangeAction :=
  [.perform .client (.request .zeroed object), .perform .client (.proceed 0),
    .perform .client (.proceed 0), .perform .client .block] ++ flush .client

/-- The `i`-th datagram of the peer arrives, and its callback runs. -/
def arrival (agent : Agent) (i : Nat) : List ExchangeAction :=
  [.deliver agent i .zeroed, .perform agent (.callback 0)]

/-- The server answers the request that arrives, and goes on to its end. -/
def serverServes (i : Nat) : List ExchangeAction :=
  arrival .server i ++ [.perform .server .block, .perform .server .block] ++ flush .server

/-- A request for a new user is acknowledged. -/
def userAcknowledged : List ExchangeAction :=
  clientRequest (.userCreate longUser) ++ serverServes 0 ++ arrival .client 0 ++
    [.perform .client .block]

theorem acknowledged_accepted_user : ∃ x, run exchangeStep zeroedExchange userAcknowledged =
      some x ∧ .complete 0 .acknowledged ∈ (x.config .client).log ∧ Accepted x .client 0 := by
  have hrun : (run exchangeStep zeroedExchange userAcknowledged).map
      (fun x => decide (.complete 0 .acknowledged ∈ (x.config .client).log)) = some true := by
    decide +kernel
  have halong : Along exchangeStep (fun x action => Matched x action ∧ Honoured x action)
      zeroedExchange userAcknowledged := by
    decide +kernel
  obtain ⟨x, h, hack⟩ := Option.map_eq_some_iff.1 hrun
  replace hack := of_decide_eq_true hack
  exact ⟨x, h, hack, acknowledged_accepted h halong .client 0 hack⟩

/-- `TransactionPing` is a declared type that the unpacker does not know. -/
def pingRequest : TransactionObject := .plain TransactionRequestType.ping.code (by decide)

def pingAcknowledged : List ExchangeAction :=
  clientRequest pingRequest ++ serverServes 0 ++ arrival .client 0 ++ [.perform .client .block]

/-- The answer goes out whether or not the request can be unpacked. -/
theorem ping_acknowledged : ∃ x, run exchangeStep zeroedExchange pingAcknowledged = some x ∧
    Along exchangeStep Matched zeroedExchange pingAcknowledged ∧
    .complete 0 .acknowledged ∈ (x.config .client).log ∧ ¬ Accepted x .client 0 := by
  have hrun : (run exchangeStep zeroedExchange pingAcknowledged).map
      (fun x => (decide (.complete 0 .acknowledged ∈ (x.config .client).log),
        (x.config .server).log)) =
      some (true, [.receive 0 0 (.request .client 0), .retain 0, .release 0, .release 0]) := by
    decide +kernel
  have halong : Along exchangeStep Matched zeroedExchange pingAcknowledged := by
    decide +kernel
  obtain ⟨x, h, heq⟩ := Option.map_eq_some_iff.1 hrun
  obtain ⟨hack, hserver⟩ := Prod.mk.inj heq
  refine ⟨x, h, halong, of_decide_eq_true hack, ?_⟩
  rintro ⟨object, object', -, hcallback, -⟩
  replace hcallback : .receiveCallback (.request .client 0) object' ∈ (x.config .server).log :=
    hcallback
  rw [hserver] at hcallback
  simp at hcallback

/-- The answer arrives before the block that sent it has come to the callback. -/
def answerOvertakes : List ExchangeAction :=
  clientRequest (.userCreate longUser) ++ arrival .server 0 ++ [.perform .server .block] ++
    flush .server ++ arrival .client 0 ++ [.perform .client .block]

example : (run exchangeStep zeroedExchange answerOvertakes).map
    (fun x => (decide (.complete 0 .acknowledged ∈ (x.config .client).log),
      (x.config .server).log)) =
    some (true, [.receive 0 0 (.request .client 0), .retain 0, .release 0]) := by
  decide +kernel

end UniversalNetwork
