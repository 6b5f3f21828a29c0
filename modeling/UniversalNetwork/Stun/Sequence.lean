import UniversalNetwork.Stun.Stage

/-!
# The course of the tests

`Course`: what the sequence is about, without packets, queues and timers. `Advance` is what can
happen to it: a test starts and sends or completes at once, a request is sent again, a response
comes or the last timeout, and the end. `stunStep_advance`: the code does nothing else.
`course_run` carries a fact about the course from step to step.

Result: `stun_sequence`.
-/

namespace UniversalNetwork

open Lib

/-- What a step brings to the test that is running. -/
inductive StunInput
  | none
  /-- A valid response with the id of the test, and where it came from. -/
  | answer (t : StunTestId) (packetAddr : NetAddr) (bindingResponse : StunBindingResponse)
  /-- A timeout after the last retry. -/
  | exhaust (t : StunTestId)
deriving DecidableEq

/-- The block that the step runs. -/
def Stun.head (stun : Stun) : StunAction → Option StunBlock
  | .block _ => stun.stunDispatchQueue.head?
  | _ => none

def Stun.input (stun : Stun) (action : StunAction) : StunInput :=
  match stun.head action with
  | some (.receive t packet) =>
    if (stun.tests t).isCompleted = false then
      match unpackBindingResponse stun.socket packet with
      | some ((.valid, transactionId, bindingResponse), s) =>
        if (stun.tests t).transactionId = transactionId then
          .answer t (s.packet packet).addr bindingResponse
        else .none
      | _ => .none
    else .none
  | some (.timeout t) =>
    if (stun.tests t).isCompleted = false ∧ stun.maxRetries ≤ (stun.tests t).retries then .exhaust t
    else .none
  | _ => .none

structure Course where
  stage : Stage
  results : StunResults
  receiver : NetSocketInfo
  socketInfo : NetSocketInfo
  primaryServerAddr : NetAddr
  localAddr : NetAddr
  resolution : Option NetAddr
  /-- The requests sent, with where they went to. -/
  sends : List (StunTestId × NetAddr)

def StunEvent.sent : StunEvent → Option (StunTestId × NetAddr)
  | .send t destAddr => some (t, destAddr)
  | _ => none

def Stun.sends (stun : Stun) : List (StunTestId × NetAddr) := stun.log.filterMap StunEvent.sent

def Stun.course (stun : Stun) (stage : Stage) : Course where
  stage
  results := stun.results
  receiver := stun.receiver
  socketInfo := stun.socketInfo
  primaryServerAddr := stun.primaryServerAddr
  localAddr := stun.localAddr
  resolution := stun.resolution
  sends := stun.sends

namespace Course

variable (c : Course)

def startOf (t : StunTestId) : StunResults × Option NetAddr :=
  stunStart c.primaryServerAddr c.localAddr c.results t

def resolved (primaryServerAddr : NetAddr) : Course :=
  { c with primaryServerAddr, socketInfo := c.receiver }

def requested (t : StunTestId) (destAddr : NetAddr) : Course :=
  { c with
    stage := .running t
    results := (c.startOf t).1
    receiver := { c.receiver with receiveBlock := some (.test t) }
    sends := c.sends ++ [(t, destAddr)] }

def completed (t : StunTestId) (results : StunResults) : Course :=
  { c with stage := .completed t, results }

end Course

/-- The tests that can start, and the course when they do. -/
inductive Starts (c : Course) : StunTestId → Course → Prop
  | first {primaryServerAddr : NetAddr} (hstage : c.stage = .waiting)
    (hresolution : c.resolution = some primaryServerAddr) :
    Starts c .bindingTest1 (c.resolved primaryServerAddr)
  | next {t t' : StunTestId} (hstage : c.stage = .completed t) (hnext : t.next = some t') :
    Starts c t' c

inductive Advance (c : Course) : StunInput → Course → Prop
  | quiet : Advance c .none c
  | request {t : StunTestId} {destAddr : NetAddr} {c₀ : Course} (hstarts : Starts c t c₀)
    (hdest : (c₀.startOf t).2 = some destAddr) : Advance c .none (c₀.requested t destAddr)
  | skip {t : StunTestId} {c₀ : Course} (hstarts : Starts c t c₀) (hdest : (c₀.startOf t).2 = none) :
    Advance c .none (c₀.completed t (c₀.startOf t).1)
  | retry {t : StunTestId} (hstage : c.stage = .running t) (destAddr : NetAddr) :
    Advance c .none { c with sends := c.sends ++ [(t, destAddr)] }
  | answer {t : StunTestId} (hstage : c.stage = .running t) (packetAddr : NetAddr)
    (bindingResponse : StunBindingResponse) :
    Advance c (.answer t packetAddr bindingResponse) (c.completed t
      (responseResults c.primaryServerAddr packetAddr bindingResponse c.results t))
  | exhaust {t : StunTestId} (hstage : c.stage = .running t) :
    Advance c (.exhaust t) (c.completed t (testSuccessCheck c.results t))
  | resolve {t : StunTestId} (hstage : c.stage = .completed t) (hnext : t.next = none)
    (hsuccess : c.results.didBindingTestSuccess = true) :
    Advance c .none { c with stage := .ended true, receiver := c.socketInfo }
  | fail {t : StunTestId} (hstage : c.stage = .completed t) (hnext : t.next = none)
    (hsuccess : c.results.didBindingTestSuccess = false) :
    Advance c .none { c with stage := .ended false }

/-! ## Simulation -/

section Simulation

variable {stage : Stage} {stun stun' : Stun} {action : StunAction} {t : StunTestId}
  {transactionId : StunTransactionId}

theorem sends_note (event : StunEvent) :
    (stun.note event).sends = stun.sends ++ event.sent.toList := by
  simp only [Stun.sends, Stun.note_log, List.filterMap_append, List.filterMap_cons,
    List.filterMap_nil]
  cases event.sent <;> rfl

/-- Events that are no requests do not show. -/
theorem course_note {event : StunEvent} (hevent : event.sent = none) :
    (stun.note event).course stage = stun.course stage := by
  simp [Stun.course, sends_note, hevent]

theorem course_completed (s : NetSocket) (results : StunResults) :
    (((stun.setResults results).completed t).onSocket s).course (.completed t) =
      (stun.course stage).completed t results := by
  have hsends := @sends_note stun (.complete t)
  simp only [StunEvent.sent, Option.toList, List.append_nil] at hsends
  rw [Course.completed, Stun.course, Stun.course, ← hsends]
  rfl

theorem course_retried (s : NetSocket) (destAddr : NetAddr) :
    ((stun.retried t destAddr).onSocket s).course stage =
      { stun.course stage with sends := stun.sends ++ [(t, destAddr)] } := by
  have hsends : (stun.note (.send t destAddr)).sends = stun.sends ++ [(t, destAddr)] :=
    sends_note _
  rw [← hsends]
  rfl

theorem input_receive {packet : Nat} {s : NetSocket} {result : StunResult}
    {responseId : StunTransactionId} {bindingResponse : StunBindingResponse}
    (hhead : stun.head action = some (.receive t packet))
    (hcompleted : (stun.tests t).isCompleted = false)
    (hunpack : unpackBindingResponse stun.socket packet =
      some ((result, responseId, bindingResponse), s)) :
    stun.input action = if result = .valid ∧ (stun.tests t).transactionId = responseId then
      .answer t (s.packet packet).addr bindingResponse else .none := by
  unfold Stun.input
  rw [hhead]
  dsimp only
  rw [if_pos hcompleted, hunpack]
  cases result <;> simp

theorem input_late {packet : Nat} (hhead : stun.head action = some (.receive t packet))
    (hcompleted : (stun.tests t).isCompleted = true) : stun.input action = .none := by
  unfold Stun.input
  rw [hhead]
  exact if_neg (by simp [hcompleted])

theorem input_timeout (hhead : stun.head action = some (.timeout t)) :
    stun.input action = if (stun.tests t).isCompleted = false ∧
      stun.maxRetries ≤ (stun.tests t).retries then .exhaust t else .none := by
  unfold Stun.input
  rw [hhead]

theorem input_control {block : StunBlock} (hhead : stun.head action = some block)
    (hblock : block.test = none) : stun.input action = .none := by
  unfold Stun.input
  rw [hhead]
  cases block with
  | resolve | runNextTest => rfl
  | receive | timeout => cases hblock

theorem advance_quiet (hinput : stun.input action = .none)
    (hcourse : stun'.course stage = stun.course stage) :
    Advance (stun.course stage) (stun.input action) (stun'.course stage) := by
  rw [hinput, hcourse]
  exact .quiet

theorem Sequenced.start (h : Sequenced (.starting t) stun) {c : Course}
    (hstarts : Starts c t (stun.course c.stage)) (hstarted : Started stun transactionId t stun') :
    ∃ stage', Sequenced stage' stun' ∧ Advance c .none (stun'.course stage') := by
  cases hstarted with
  | @request destAddr packet s₁ s₂ pack hdest halloc hpack =>
    refine ⟨.running t, ?_, ?_⟩
    · refine Sequenced.started h rfl rfl rfl (.inr ⟨destAddr, rfl⟩) ?_ rfl rfl rfl
      simp [Stun.requested]
    · have hsends : ((stun.requested t (stun.startOf t).1 destAddr transactionId packet).onSocket
          (netSocketSend s₂ packet)).sends = stun.sends ++ [(t, destAddr)] := by
        simp [Stun.sends, Stun.requested, List.filterMap_cons, StunEvent.sent]
      rw [Stun.course, hsends]
      exact .request hstarts hdest
  | skip hdest =>
    refine ⟨.completed t, ?_, ?_⟩
    · exact Sequenced.finished (Sequenced.started h rfl rfl rfl (.inl rfl) rfl rfl rfl rfl)
    · have hsends : (stun.skipped t (stun.startOf t).1).sends = stun.sends := by
        simp [Stun.sends, Stun.skipped, Stun.completed, List.filterMap_cons, StunEvent.sent]
      rw [Stun.course, hsends]
      exact .skip hstarts hdest

theorem BlockMove.advance (h : Sequenced stage stun) {block : StunBlock} {rest : List StunBlock}
    (hqueue : stun.stunDispatchQueue = block :: rest)
    (hmove : BlockMove (stun.popped rest) transactionId block stun') :
    ∃ stage', Sequenced stage' stun' ∧
      Advance (stun.course stage) (stun.input (.block transactionId)) (stun'.course stage') := by
  have hhead : stun.head (.block transactionId) = some block := by simp [Stun.head, hqueue]
  have hmem : block ∈ stun.stunDispatchQueue := hqueue ▸ List.mem_cons_self
  cases hmove with
  | unresolved hresolution => exact absurd hresolution h.resolution
  | resolved hresolution hstart =>
    obtain rfl := h.waiting_of hmem
    rw [input_control hhead rfl]
    exact (h.resolved hqueue _).start (.first rfl hresolution) hstart
  | next hnext hstart =>
    obtain rfl := h.completed_of hmem
    rw [input_control hhead rfl]
    exact (h.next hqueue hnext).start (.next rfl hnext) hstart
  | didResolve hnext hsuccess =>
    obtain rfl := h.completed_of hmem
    refine ⟨_, h.ended hqueue hnext true rfl rfl rfl rfl rfl, ?_⟩
    rw [input_control hhead rfl, course_note rfl]
    exact .resolve rfl hnext hsuccess
  | didFailResolve hnext hsuccess =>
    obtain rfl := h.completed_of hmem
    refine ⟨_, h.ended hqueue hnext false rfl rfl rfl rfl rfl, ?_⟩
    rw [input_control hhead rfl, course_note rfl]
    exact .fail rfl hnext hsuccess
  | late hcompleted =>
    exact ⟨stage, (h.popped hqueue rfl).onSocket _,
      advance_quiet (input_late hhead hcompleted) rfl⟩
  | @forwarded t packet s result responseId bindingResponse hcompleted hunpack hresult =>
    refine ⟨stage, ((h.popped hqueue rfl).forwarded _).onSocket _, advance_quiet ?_ ?_⟩
    · rw [input_receive hhead hcompleted hunpack]
      exact if_neg fun hvalid => hresult hvalid.1
    · exact @course_note stage (stun.popped rest) (.forward packet) rfl
  | foreign hcompleted hunpack hid =>
    refine ⟨stage, ((h.popped hqueue rfl).destroyTimeout ?_).onSocket _, advance_quiet ?_ rfl⟩
    · exact h.blocks _ hmem _ rfl
    · rw [input_receive hhead hcompleted hunpack]
      exact if_neg fun hvalid => hid hvalid.2
  | answered hcompleted hunpack =>
    obtain rfl := h.running_of hmem rfl hcompleted
    refine ⟨_, (((h.popped hqueue rfl).setResults _).finished).onSocket _, ?_⟩
    rw [input_receive hhead hcompleted hunpack, if_pos ⟨rfl, rfl⟩, course_completed]
    exact .answer rfl _ _
  | expired hcompleted =>
    refine ⟨stage, h.popped hqueue rfl, advance_quiet ?_ rfl⟩
    rw [input_timeout hhead]
    exact if_neg fun hlast => absurd (hlast.1.symm.trans hcompleted) nofun
  | @retried t packet hcompleted hretries hpacket =>
    obtain rfl := h.running_of hmem rfl hcompleted
    refine ⟨_, ((h.popped hqueue rfl).retried hretries _).onSocket _, ?_⟩
    rw [input_timeout hhead, if_neg fun hlast => Nat.not_le_of_lt hretries hlast.2]
    rw [course_retried]
    exact .retry rfl _
  | exhausted hcompleted hretries =>
    obtain rfl := h.running_of hmem rfl hcompleted
    refine ⟨_, (((h.popped hqueue rfl).setResults _).finished).onSocket _, ?_⟩
    rw [input_timeout hhead, if_pos ⟨hcompleted, hretries⟩, course_completed]
    exact .exhaust rfl

theorem stunStep_advance (h : Sequenced stage stun) (hstep : stunStep stun action = some stun') :
    ∃ stage', Sequenced stage' stun' ∧
      Advance (stun.course stage) (stun.input action) (stun'.course stage') := by
  cases stunStep_move hstep with
  | idle hidle =>
    refine ⟨stage, h, advance_quiet ?_ rfl⟩
    cases action with
    | block transactionId => simp [Stun.input, Stun.head, hidle transactionId rfl]
    | _ => rfl
  | read hlength hread => exact ⟨stage, (h.onSocket _).receiving _, advance_quiet rfl rfl⟩
  | called hlength hread => exact ⟨stage, (h.onSocket _).accepting _, advance_quiet rfl rfl⟩
  | unread hread hunread => exact ⟨stage, h.onSocket _, advance_quiet rfl rfl⟩
  | receive hblock hreceived | deliver hblock hreceived =>
    refine ⟨stage, (h.receiving _).dispatch rfl (h.started_of_block ?_), advance_quiet rfl rfl⟩
    exact .inl hblock
  | accepted hreceived => exact ⟨stage, (h.receiving _).accepting _, advance_quiet rfl rfl⟩
  | released hkept => exact ⟨stage, (h.accepting _).onSocket _, advance_quiet rfl rfl⟩
  | timeout hblock =>
    exact ⟨stage, h.dispatch rfl (h.started_of_block (.inr hblock)), advance_quiet rfl rfl⟩
  | timeoutFired hblock =>
    exact ⟨stage, h.destroyTimeout (h.started_of_block (.inr hblock)), advance_quiet rfl rfl⟩
  | socketBlock => exact ⟨stage, h.onSocket _, advance_quiet rfl rfl⟩
  | write => exact ⟨stage, h.onSocket _, advance_quiet rfl rfl⟩
  | block hqueue hmove => exact hmove.advance h hqueue

end Simulation

/-! ## A name that is not known -/

/-- The only block fails, and no test starts. -/
structure Unresolved (stun : Stun) : Prop where
  resolution : stun.resolution = none
  tests : ∀ t, stun.tests t = .zeroed
  results : stun.results.didBindingTestSuccess = false
  course : stun.stunDispatchQueue = [.resolve] ∧ stun.log = [] ∨
    stun.stunDispatchQueue = [] ∧ stun.log = [.stunDidFailResolve]

section Unresolved

variable {stun stun' : Stun} {action : StunAction}

theorem Unresolved.queue (h : Unresolved stun) {block : StunBlock}
    (hmem : block ∈ stun.stunDispatchQueue) : block = .resolve := by
  rcases h.course with ⟨hqueue, -⟩ | ⟨hqueue, -⟩
  · exact List.mem_singleton.1 (hqueue ▸ hmem)
  · rw [hqueue] at hmem
    cases hmem

theorem Unresolved.step (h : Unresolved stun) (hstep : stunStep stun action = some stun') :
    Unresolved stun' := by
  cases stunStep_move hstep with
  | idle hidle => exact h
  | read hlength hread | called hlength hread | unread hread hunread | accepted hreceived
  | released hkept | socketBlock | write => exact ⟨h.resolution, h.tests, h.results, h.course⟩
  | receive hblock _ | deliver hblock _ | timeout hblock | timeoutFired hblock =>
    rw [h.tests] at hblock
    cases hblock
  | @block transactionId block rest _ hqueue hmove =>
    rcases h.course with ⟨hresolve, hlog⟩ | ⟨hnil, -⟩
    · obtain ⟨rfl, rfl⟩ := List.cons.inj (hqueue.symm.trans hresolve)
      cases hmove with
      | unresolved hresolution =>
        refine ⟨h.resolution, h.tests, h.results, .inr ⟨rfl, ?_⟩⟩
        show stun.log ++ [.stunDidFailResolve] = _
        rw [hlog]
        rfl
      | resolved hresolution hstart => exact absurd (h.resolution.symm.trans hresolution) (by simp)
    · cases hqueue.symm.trans hnil

theorem unresolved_stunResolve {packets : Nat → Vector UInt8 kNetPacketMaxLen}
    {receiveCallback : Option Nat} {receiveCallbackContext : Nat} {receiveBlock : Option Nat}
    {localAddr : NetAddr} {maxRetries : Nat} : Unresolved (stunResolve packets receiveCallback
      receiveCallbackContext receiveBlock localAddr none maxRetries) :=
  ⟨rfl, fun _ => rfl, rfl, .inl ⟨rfl, rfl⟩⟩

end Unresolved

/-! ## Runs -/

section Runs

variable {packets : Nat → Vector UInt8 kNetPacketMaxLen} {receiveCallback : Option Nat}
  {receiveCallbackContext : Nat} {receiveBlock : Option Nat} {localAddr server : NetAddr}
  {maxRetries : Nat}

/-- **The rule for courses**: what the steps that meet `ok` keep. -/
theorem course_run {ok : Stun → StunAction → Prop} {P : Course → Prop}
    {stun₀ stun : Stun} {stage₀ : Stage} (h₀ : Sequenced stage₀ stun₀) (hP₀ : P (stun₀.course stage₀))
    (hstep : ∀ stage stun action c', P (stun.course stage) → ok stun action →
      Advance (stun.course stage) (stun.input action) c' → P c') {actions : List StunAction}
    (hrun : run stunStep stun₀ actions = some stun) (hok : Along stunStep ok stun₀ actions) :
    ∃ stage, Sequenced stage stun ∧ P (stun.course stage) := by
  refine run_along (P := fun stun => ∃ stage, Sequenced stage stun ∧ P (stun.course stage))
    ⟨stage₀, h₀, hP₀⟩ ?_ hrun hok
  rintro stun action stun' ⟨stage, h, hP⟩ hmet hstun
  obtain ⟨stage', h', hadvance⟩ := stunStep_advance h hstun
  exact ⟨stage', h', hstep stage stun action _ hP hmet hadvance⟩

theorem stunStep_maxRetries {stun stun' : Stun} {action : StunAction}
    (hstep : stunStep stun action = some stun') : stun'.maxRetries = stun.maxRetries := by
  cases stunStep_move hstep with
  | block hqueue hmove =>
    cases hmove with
    | resolved hresolution hstart | next hnext hstart => cases hstart <;> rfl
    | _ => rfl
  | _ => rfl

theorem sequenced_run {stun₀ stun : Stun} {stage₀ : Stage} (h₀ : Sequenced stage₀ stun₀)
    {actions : List StunAction} (hrun : run stunStep stun₀ actions = some stun) :
    ∃ stage, Sequenced stage stun := by
  refine run_inv (P := fun stun => ∃ stage, Sequenced stage stun) ⟨stage₀, h₀⟩ ?_ hrun
  rintro stun action stun' ⟨stage, h⟩ hstun
  obtain ⟨stage', h', -⟩ := stunStep_advance h hstun
  exact ⟨stage', h'⟩

theorem Stage.events_prefix (stage : Stage) : ∃ didResolve, stage.events <+:
    stunTests.flatMap (fun t => [.start t, .complete t]) ++ [stunOutcome didResolve] := by
  cases stage with
  | waiting => exact ⟨true, by decide⟩
  | starting t | running t | completed t => exact ⟨true, by cases t <;> decide⟩
  | ended didResolve => exact ⟨didResolve, by cases didResolve <;> decide⟩

theorem nodup_outcome (didResolve : Bool) : (stunTests.flatMap
    (fun t => [StunEvent.start t, .complete t]) ++ [stunOutcome didResolve]).Nodup := by
  cases didResolve <;> decide

/-- **The tests run in order and the application is told one outcome**: whatever is received and
whichever timers fire, the starts and completions and the outcome are a prefix of the sequence of
the five tests, nothing happens twice, and a test hands its request to the socket at most
`1 + maxRetries` times. -/
theorem stun_sequence {stun : Stun} {actions : List StunAction}
    (hrun : run stunStep (stunResolve packets receiveCallback receiveCallbackContext receiveBlock
      localAddr (some server) maxRetries) actions = some stun) :
    (∃ didResolve, stun.log.filter StunEvent.isControl <+: stunTests.flatMap
        (fun t => [.start t, .complete t]) ++ [stunOutcome didResolve]) ∧
      (∀ t, stun.log.count (.start t) ≤ 1 ∧ stun.log.count (.complete t) ≤ 1) ∧
      stun.log.count .stunDidResolve + stun.log.count .stunDidFailResolve ≤ 1 ∧
      ∀ t, stun.log.countP (StunEvent.isSend t) ≤ 1 + maxRetries := by
  obtain ⟨stage, h⟩ := sequenced_run (sequenced_stunResolve packets receiveCallback
    receiveCallbackContext receiveBlock localAddr server maxRetries) hrun
  obtain ⟨didResolve, hprefix⟩ := stage.events_prefix
  have hsub := hprefix.sublist
  have hcount : ∀ event : StunEvent, event.isControl = true →
      stun.log.count event = stage.events.count event := by
    intro event hcontrol
    rw [← h.log, List.count_filter hcontrol]
  have hone : ∀ event : StunEvent, event.isControl = true → stun.log.count event ≤ 1 := by
    intro event hcontrol
    rw [hcount event hcontrol]
    exact List.nodup_iff_count.1 ((nodup_outcome didResolve).sublist hsub) event
  refine ⟨⟨didResolve, h.log ▸ hprefix⟩, fun t => ⟨hone _ rfl, hone _ rfl⟩, ?_, fun t => ?_⟩
  · have hresolve := hsub.count_le .stunDidResolve
    have hfail := hsub.count_le .stunDidFailResolve
    rw [hcount _ rfl, hcount _ rfl]
    cases didResolve <;> simp [stunTests, stunOutcome] at hresolve hfail <;> omega
  · have hmax : stun.maxRetries = maxRetries :=
      run_inv (P := fun stun => stun.maxRetries = maxRetries) rfl
        (fun _ _ _ hmax hstep => (stunStep_maxRetries hstep).trans hmax) hrun
    have hsends := h.sends t
    have hretries := h.retries t
    omega

end Runs

/-! ## A run -/

/-- Host and port of one byte each. -/
def byteAddr (host port : UInt8) : NetAddr := netAddrSet host.toUInt32 port.toUInt16 true

def byteId (id : UInt8) : StunTransactionId := ⟨Vector.replicate _ id⟩

/-- The success response with transaction id `id`, MAPPED-ADDRESS and OTHER-ADDRESS. -/
def bindingResponseBytes (id : UInt8) (mapped other : UInt8 × UInt8) : List UInt8 :=
  [1, 1, 0, 24, 0x21, 0x12, 0xA4, 0x42] ++ List.replicate 12 id ++
    [0, 1, 0, 8, 0, 1, 0, mapped.2, 0, 0, 0, mapped.1] ++
    [0x80, 0x2c, 0, 8, 0, 1, 0, other.2, 0, 0, 0, other.1]

/-- A response with the id `id`. -/
def response (id : UInt8) (source mapped other : UInt8 × UInt8) : RecvFrom :=
  .datagram ⟨byteAddr source.1 source.2, bindingResponseBytes id mapped other, .none⟩

/-- A response is read and handed to the receive block of the socket, which runs. -/
def respond (id : UInt8) (source mapped other : UInt8 × UInt8) : List StunAction :=
  [.read (response id source mapped other), .deliver 0, .block (byteId 0)]

/-- The timer of `t` fires, its handler comes to its end, and its block runs. -/
def expire (t : StunTestId) : List StunAction :=
  [.timeout t, .timeoutFired t, .block (byteId 0)]

/-- At address 9:9, with the server at 1:1. -/
def byteStun (maxRetries : Nat) : Stun :=
  stunResolve (fun _ => Vector.replicate _ 0) none 0 (some 7) (byteAddr 9 9) (some (byteAddr 1 1))
    maxRetries

/-- The first request is lost, the second one answered; a timer fires late, and a copy of the
response comes to the binding test while the next tests are under way. -/
def answeredLate : List StunAction :=
  [.block (byteId 5)] ++ expire .bindingTest1 ++ respond 5 (1, 1) (9, 9) (2, 2) ++
    [.timeout .bindingTest1, .timeoutFired .bindingTest1,
      .read (response 5 (1, 1) (9, 9) (2, 2)), .receive .bindingTest1 0] ++
    List.replicate 9 (.block (byteId 6))

theorem stun_sequence_answeredLate : ∃ stun,
    run stunStep (byteStun 1) answeredLate = some stun ∧ .stunDidResolve ∈ stun.log ∧
      stun.log.count .stunDidResolve + stun.log.count .stunDidFailResolve ≤ 1 ∧
      ∀ t, stun.log.countP (StunEvent.isSend t) ≤ 1 + 1 := by
  have hlog : (run stunStep (byteStun 1) answeredLate).map
      (fun stun => decide (.stunDidResolve ∈ stun.log)) = some true := by
    decide +kernel
  obtain ⟨stun, hrun, hmem⟩ := Option.map_eq_some_iff.1 hlog
  obtain ⟨-, -, honce, hsends⟩ := stun_sequence hrun
  exact ⟨stun, hrun, of_decide_eq_true hmem, honce, hsends⟩

end UniversalNetwork
