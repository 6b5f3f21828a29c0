import UniversalNetwork.Stun.Moves

/-!
# How far the sequence is

`Sequenced stage stun`: the log shows the events of the stage, the queue holds the block that ends
it, and the flags of the tests agree with it. One rule for each update of the moves.
-/

namespace UniversalNetwork

open Lib

/-! ## Stages -/

inductive Stage
  | waiting
  /-- Only inside a step, when the block that starts the test runs. -/
  | starting (t : StunTestId)
  | running (t : StunTestId)
  | completed (t : StunTestId)
  | ended (didResolve : Bool)
deriving DecidableEq, Repr

def StunTestId.before : StunTestId → List StunTestId
  | .bindingTest1 => []
  | .behaviorTest1 => [.bindingTest1]
  | .behaviorTest2 => [.bindingTest1, .behaviorTest1]
  | .filteringTest1 => [.bindingTest1, .behaviorTest1, .behaviorTest2]
  | .filteringTest2 => [.bindingTest1, .behaviorTest1, .behaviorTest2, .filteringTest1]

/-- The order in which the tests run. -/
def stunTests : List StunTestId :=
  [.bindingTest1, .behaviorTest1, .behaviorTest2, .filteringTest1, .filteringTest2]

/-- What the application is told at the end. -/
def stunOutcome : Bool → StunEvent
  | true => .stunDidResolve
  | false => .stunDidFailResolve

namespace Stage

/-- The tests that have completed. -/
def finished : Stage → List StunTestId
  | .waiting => []
  | .starting t | .running t => t.before
  | .completed t => t.before ++ [t]
  | .ended _ => stunTests

def started : Stage → List StunTestId
  | .running t => t.before ++ [t]
  | stage => stage.finished

/-- What the log shows after the tests that have completed. -/
def last : Stage → List StunEvent
  | .running t => [.start t]
  | .ended didResolve => [stunOutcome didResolve]
  | _ => []

def events (stage : Stage) : List StunEvent :=
  stage.finished.flatMap (fun t => [.start t, .complete t]) ++ stage.last

/-- The block that leads out of the stage. -/
def blocks : Stage → List StunBlock
  | .waiting => [.resolve]
  | .completed t => [.runNextTest t]
  | _ => []

end Stage

/-- The events whose order matters. -/
def StunEvent.isControl : StunEvent → Bool
  | .send _ _ | .forward _ => false
  | _ => true

def StunEvent.isSend (t : StunTestId) : StunEvent → Bool
  | .send t' _ => t' = t
  | _ => false

/-- The test that a block of the socket or of a timer is for. -/
def StunBlock.test : StunBlock → Option StunTestId
  | .receive t _ | .timeout t => some t
  | _ => none

structure Sequenced (stage : Stage) (stun : Stun) : Prop where
  log : stun.log.filter StunEvent.isControl = stage.events
  queue : stun.stunDispatchQueue.filter (·.test.isNone) = stage.blocks
  blocks : ∀ block ∈ stun.stunDispatchQueue, ∀ t ∈ block.test, t ∈ stage.started
  unstarted : ∀ t, t ∉ stage.started → stun.tests t = .zeroed
  completed : ∀ t, (stun.tests t).isCompleted = true ↔ t ∈ stage.finished
  sends : ∀ t, stun.log.countP (StunEvent.isSend t) + (if t ∈ stage.started then 0 else 1) ≤
    (stun.tests t).retries + 1
  retries : ∀ t, (stun.tests t).retries ≤ stun.maxRetries
  /-- The name is known. -/
  resolution : stun.resolution ≠ none

section Stages

variable {t t' : StunTestId} {stage : Stage} {stun stun' : Stun}

theorem before_of_next (h : t.next = some t') : t'.before = t.before ++ [t] := by
  cases t <;> cases h <;> rfl

theorem before_of_last (h : t.next = none) : t.before ++ [t] = stunTests := by
  cases t <;> first | rfl | cases h

theorem not_mem_before : t ∉ t.before := by
  cases t <;> decide

theorem sequenced_stunResolve (packets : Nat → Vector UInt8 kNetPacketMaxLen)
    (receiveCallback : Option Nat) (receiveCallbackContext : Nat) (receiveBlock : Option Nat)
    (localAddr server : NetAddr) (maxRetries : Nat) :
    Sequenced .waiting (stunResolve packets receiveCallback receiveCallbackContext receiveBlock
      localAddr (some server) maxRetries) where
  log := rfl
  queue := rfl
  blocks := by simp [stunResolve, StunBlock.test]
  unstarted := fun _ _ => rfl
  completed := by simp [stunResolve, StunTest.zeroed, Stage.finished]
  sends := by simp [stunResolve, StunTest.zeroed, Stage.started, Stage.finished]
  retries := by simp [stunResolve, StunTest.zeroed]
  resolution := nofun

/-! ## What the stage is -/

theorem Sequenced.waiting_of (h : Sequenced stage stun)
    (hqueue : .resolve ∈ stun.stunDispatchQueue) : stage = .waiting := by
  have hmem : .resolve ∈ stage.blocks := by
    rw [← h.queue]
    exact List.mem_filter.2 ⟨hqueue, rfl⟩
  cases stage <;> simp [Stage.blocks] at hmem ⊢

theorem Sequenced.completed_of (h : Sequenced stage stun)
    (hqueue : .runNextTest t ∈ stun.stunDispatchQueue) : stage = .completed t := by
  have hmem : .runNextTest t ∈ stage.blocks := by
    rw [← h.queue]
    exact List.mem_filter.2 ⟨hqueue, rfl⟩
  cases stage <;> simp [Stage.blocks] at hmem
  rw [hmem]

theorem Sequenced.running_of (h : Sequenced stage stun) {block : StunBlock}
    (hqueue : block ∈ stun.stunDispatchQueue) (hblock : block.test = some t)
    (hcompleted : (stun.tests t).isCompleted = false) : stage = .running t := by
  have hstarted := h.blocks block hqueue t hblock
  have hfinished : t ∉ stage.finished := by
    rw [← h.completed]
    simp [hcompleted]
  cases stage with
  | running t' =>
    cases List.mem_append.1 hstarted with
    | inl hbefore => exact absurd hbefore hfinished
    | inr hself => rw [List.mem_singleton.1 hself]
  | _ => exact absurd hstarted hfinished

theorem Sequenced.finished_of (h : Sequenced stage stun) (hmem : .complete t ∈ stun.log) :
    t ∈ stage.finished := by
  have hevent : .complete t ∈ stage.events := by
    rw [← h.log]
    exact List.mem_filter.2 ⟨hmem, rfl⟩
  cases stage with
  | ended didResolve => cases t <;> simp [Stage.finished, stunTests]
  | _ => simpa [Stage.events, Stage.last] using hevent

theorem Sequenced.ended_of (h : Sequenced stage stun) {didResolve : Bool}
    (hmem : stunOutcome didResolve ∈ stun.log) : stage = .ended didResolve := by
  have hcontrol : (stunOutcome didResolve).isControl = true := by cases didResolve <;> rfl
  have hevent : stunOutcome didResolve ∈ stage.events := by
    rw [← h.log]
    exact List.mem_filter.2 ⟨hmem, hcontrol⟩
  cases stage with
  | waiting => cases hevent
  | starting t | running t | completed t => cases t <;> cases didResolve <;> revert hevent <;> decide
  | ended didResolve' => cases didResolve <;> cases didResolve' <;> revert hevent <;> decide

theorem Sequenced.exists_ended (h : Sequenced stage stun)
    (hended : .stunDidResolve ∈ stun.log ∨ .stunDidFailResolve ∈ stun.log) :
    ∃ didResolve, stage = .ended didResolve := by
  rcases hended with hmem | hmem
  · exact ⟨true, h.ended_of hmem⟩
  · exact ⟨false, h.ended_of hmem⟩

/-- Only a test that was started has its blocks. -/
theorem Sequenced.started_of_block (h : Sequenced stage stun)
    (hblock : (stun.tests t).receiveBlock = true ∨ (stun.tests t).timeoutBlock = true) :
    t ∈ stage.started := by
  by_contra hnew
  simp [h.unstarted t hnew, StunTest.zeroed] at hblock

end Stages

/-! ## Steps inside a stage -/

section Inside

variable {t : StunTestId} {stage : Stage} {stun stun' : Stun}

theorem Sequenced.onSocket (h : Sequenced stage stun) (s : NetSocket) :
    Sequenced stage (stun.onSocket s) :=
  { h with }

theorem Sequenced.setResults (h : Sequenced stage stun) (results : StunResults) :
    Sequenced stage (stun.setResults results) :=
  { h with }

theorem Sequenced.receiving (h : Sequenced stage stun) (received : List Nat) :
    Sequenced stage (stun.receiving received) :=
  { h with }

theorem Sequenced.accepting (h : Sequenced stage stun) (application : List Nat) :
    Sequenced stage (stun.accepting application) :=
  { h with }

theorem Sequenced.popped (h : Sequenced stage stun) {block : StunBlock} {rest : List StunBlock}
    (hqueue : stun.stunDispatchQueue = block :: rest) (hblock : block.test = some t) :
    Sequenced stage (stun.popped rest) :=
  { h with
    queue := by simpa [hqueue, hblock] using h.queue
    blocks := fun block' hmem => h.blocks block' (hqueue ▸ List.mem_cons_of_mem _ hmem) }

theorem Sequenced.forwarded (h : Sequenced stage stun) (packet : Nat) :
    Sequenced stage (stun.note (.forward packet)) :=
  { h with
    log := by simpa [StunEvent.isControl] using h.log
    sends := fun t => by simpa [StunEvent.isSend] using h.sends t }

theorem Sequenced.dispatch (h : Sequenced stage stun) {block : StunBlock}
    (hblock : block.test = some t) (hstarted : t ∈ stage.started) :
    Sequenced stage (stun.dispatch block) :=
  { h with
    queue := by simpa [hblock] using h.queue
    blocks := by
      intro block' hmem t' ht'
      cases List.mem_append.1 hmem with
      | inl hold => exact h.blocks block' hold t' ht'
      | inr hnew =>
        rw [List.mem_singleton.1 hnew, hblock] at ht'
        cases ht'
        exact hstarted }

theorem Sequenced.destroyTimeout (h : Sequenced stage stun) (hstarted : t ∈ stage.started) :
    Sequenced stage (stunTestDestroyTimeout stun t) :=
  { h with
    unstarted := fun t' ht' => by
      have hne : t' ≠ t := fun heq => ht' (heq ▸ hstarted)
      simpa [stunTestDestroyTimeout, hne] using h.unstarted t' ht'
    completed := fun t' => by
      by_cases heq : t' = t
      · subst heq
        simpa [stunTestDestroyTimeout] using h.completed t'
      · simpa [stunTestDestroyTimeout, heq] using h.completed t'
    sends := fun t' => by
      by_cases heq : t' = t
      · subst heq
        simpa [stunTestDestroyTimeout] using h.sends t'
      · simpa [stunTestDestroyTimeout, heq] using h.sends t'
    retries := fun t' => by
      by_cases heq : t' = t
      · subst heq
        simpa [stunTestDestroyTimeout] using h.retries t'
      · simpa [stunTestDestroyTimeout, heq] using h.retries t' }

theorem Sequenced.retried (h : Sequenced (.running t) stun)
    (hretries : (stun.tests t).retries < stun.maxRetries) (destAddr : NetAddr) :
    Sequenced (.running t) (stun.retried t destAddr) where
  log := by simpa [Stun.retried, StunEvent.isControl] using h.log
  queue := h.queue
  blocks := h.blocks
  unstarted := fun t' ht' => by
    have hne : t' ≠ t := fun heq => ht' (by simp [heq, Stage.started])
    simpa [Stun.retried, hne] using h.unstarted t' ht'
  completed := fun t' => by
    by_cases heq : t' = t
    · subst heq
      simpa [Stun.retried] using h.completed t'
    · simpa [Stun.retried, heq] using h.completed t'
  sends := fun t' => by
    have hsends := h.sends t'
    by_cases heq : t' = t
    · subst heq
      simp [Stun.retried, StunEvent.isSend, Stage.started] at hsends ⊢
      omega
    · simpa [Stun.retried, StunEvent.isSend, heq, Ne.symm heq] using hsends
  retries := fun t' => by
    by_cases heq : t' = t
    · subst heq
      simpa [Stun.retried] using Nat.succ_le_of_lt hretries
    · simpa [Stun.retried, heq] using h.retries t'
  resolution := h.resolution

end Inside

/-! ## Steps to the next stage -/

section Between

variable {t t' : StunTestId} {stage : Stage} {stun stun' : Stun} {rest : List StunBlock}

/-- The block of the stage is the only one of its kind. -/
theorem Sequenced.rest_of (h : Sequenced stage stun) {block : StunBlock}
    (hqueue : stun.stunDispatchQueue = block :: rest) (hblock : block.test = none)
    (hstage : stage.blocks = [block]) : rest.filter (·.test.isNone) = [] := by
  have hfilter := h.queue
  rw [hqueue, hstage] at hfilter
  simpa [hblock] using hfilter

theorem Sequenced.resolved (h : Sequenced .waiting stun)
    (hqueue : stun.stunDispatchQueue = .resolve :: rest) (primaryServerAddr : NetAddr) :
    Sequenced (.starting .bindingTest1) ((stun.popped rest).resolved primaryServerAddr) where
  log := h.log
  queue := h.rest_of hqueue rfl rfl
  blocks := fun block hmem => h.blocks block (hqueue ▸ List.mem_cons_of_mem _ hmem)
  unstarted := h.unstarted
  completed := h.completed
  sends := h.sends
  retries := h.retries
  resolution := h.resolution

theorem Sequenced.next (h : Sequenced (.completed t) stun)
    (hqueue : stun.stunDispatchQueue = .runNextTest t :: rest) (hnext : t.next = some t') :
    Sequenced (.starting t') (stun.popped rest) := by
  have hbefore := before_of_next hnext
  exact {
    log := by simpa [Stage.events, Stage.finished, Stage.last, hbefore] using h.log
    queue := h.rest_of hqueue rfl rfl
    blocks := fun block hmem => by
      simpa [Stage.started, Stage.finished, hbefore] using
        h.blocks block (hqueue ▸ List.mem_cons_of_mem _ hmem)
    unstarted := by simpa [Stage.started, Stage.finished, hbefore] using h.unstarted
    completed := by simpa [Stage.finished, hbefore] using h.completed
    sends := by simpa [Stage.started, Stage.finished, hbefore] using h.sends
    retries := h.retries
    resolution := h.resolution }

/-- A test that starts, with the request it sends if it does. -/
theorem Sequenced.started (h : Sequenced (.starting t) stun) {test : StunTest}
    (hcompleted : test.isCompleted = false) (hretries : test.retries = 0)
    (htests : stun'.tests = Function.update stun.tests t test) {sends : List StunEvent}
    (hsends : sends = [] ∨ ∃ destAddr, sends = [.send t destAddr])
    (hlog : stun'.log = stun.log ++ .start t :: sends)
    (hqueue : stun'.stunDispatchQueue = stun.stunDispatchQueue)
    (hmax : stun'.maxRetries = stun.maxRetries) (hresolution : stun'.resolution = stun.resolution) :
    Sequenced (.running t) stun' := by
  have hnew : t ∉ (Stage.starting t).started := not_mem_before
  have hsilent : sends.filter StunEvent.isControl = [] := by
    obtain rfl | ⟨destAddr, rfl⟩ := hsends <;> rfl
  have hcount : ∀ t', sends.countP (StunEvent.isSend t') ≤ if t' = t then 1 else 0 := by
    intro t'
    obtain rfl | ⟨destAddr, rfl⟩ := hsends
    · simp
    · simp [StunEvent.isSend, List.countP_cons, eq_comm]
  have hstarted : ∀ t', t' ∈ (Stage.running t).started ↔ t' ∈ (Stage.starting t).started ∨ t' = t :=
    fun t' => by simp [Stage.started, Stage.finished]
  refine ⟨?_, hqueue ▸ h.queue, ?_, ?_, ?_, ?_, ?_, hresolution ▸ h.resolution⟩
  · have hold := h.log
    simp only [Stage.events, Stage.last, Stage.finished, List.append_nil] at hold ⊢
    rw [hlog, List.filter_append, hold, List.filter_cons_of_pos rfl, hsilent]
  · intro block hmem t' ht'
    exact (hstarted t').2 (.inl (h.blocks block (hqueue ▸ hmem) t' ht'))
  · intro t' ht'
    rw [hstarted, not_or] at ht'
    rw [htests, Function.update_of_ne ht'.2]
    exact h.unstarted t' ht'.1
  · intro t'
    rw [htests]
    by_cases heq : t' = t
    · subst heq
      simp [hcompleted, Stage.finished, not_mem_before]
    · rw [Function.update_of_ne heq]
      exact h.completed t'
  · intro t'
    have hold := h.sends t'
    have hone := hcount t'
    have hstart : (StunEvent.start t :: sends).countP (StunEvent.isSend t') =
        sends.countP (StunEvent.isSend t') := by simp [StunEvent.isSend]
    rw [htests, hlog, List.countP_append, hstart]
    simp only [hstarted]
    by_cases heq : t' = t
    · subst heq
      rw [h.unstarted t' hnew] at hold
      simp only [hnew, if_false, if_true, StunTest.zeroed, Function.update_self, hretries, or_true]
        at hold hone ⊢
      omega
    · rw [Function.update_of_ne heq]
      simp only [heq, or_false, if_false] at hone ⊢
      omega
  · intro t'
    rw [htests, hmax]
    by_cases heq : t' = t
    · subst heq
      simp [hretries]
    · rw [Function.update_of_ne heq]
      exact h.retries t'

theorem Sequenced.finished (h : Sequenced (.running t) stun) :
    Sequenced (.completed t) (stun.completed t) where
  log := by
    have hlog := h.log
    simp [Stage.events, Stage.finished, Stage.last] at hlog
    simp [Stun.completed, hlog, StunEvent.isControl, Stage.events, Stage.finished, Stage.last]
  queue := by
    have hqueue := h.queue
    simp [Stage.blocks] at hqueue
    simpa [Stun.completed, Stage.blocks, StunBlock.test] using hqueue
  blocks := by
    intro block hmem t' ht'
    cases List.mem_append.1 hmem with
    | inl hold => exact h.blocks block hold t' ht'
    | inr hnew =>
      rw [List.mem_singleton.1 hnew] at ht'
      cases ht'
  unstarted := fun t' ht' => by
    have hne : t' ≠ t := fun heq => ht' (by simp [heq, Stage.started, Stage.finished])
    simpa [Stun.completed, hne] using h.unstarted t' ht'
  completed := fun t' => by
    by_cases heq : t' = t
    · simp [Stun.completed, Stage.finished, heq]
    · simpa [Stun.completed, Stage.finished, heq] using h.completed t'
  sends := fun t' => by
    have hsends := h.sends t'
    by_cases heq : t' = t
    · subst heq
      simpa [Stun.completed, StunEvent.isSend, Stage.started, Stage.finished] using hsends
    · simpa [Stun.completed, StunEvent.isSend, Stage.started, Stage.finished, heq] using hsends
  retries := fun t' => by
    by_cases heq : t' = t
    · subst heq
      simpa [Stun.completed] using h.retries t'
    · simpa [Stun.completed, heq] using h.retries t'
  resolution := h.resolution

theorem Sequenced.ended (h : Sequenced (.completed t) stun)
    (hqueue : stun.stunDispatchQueue = .runNextTest t :: rest) (hnext : t.next = none)
    (didResolve : Bool) (hlog : stun'.log = stun.log ++ [stunOutcome didResolve])
    (hrest : stun'.stunDispatchQueue = rest) (htests : stun'.tests = stun.tests)
    (hmax : stun'.maxRetries = stun.maxRetries) (hresolution : stun'.resolution = stun.resolution) :
    Sequenced (.ended didResolve) stun' := by
  have hall := before_of_last hnext
  have hfinished : (Stage.ended didResolve).finished = (Stage.completed t).finished := hall.symm
  have hstarted : (Stage.ended didResolve).started = (Stage.completed t).started := hall.symm
  have hcontrol : (stunOutcome didResolve).isControl = true := by cases didResolve <;> rfl
  have hsend : ∀ t, (stunOutcome didResolve).isSend t = false := by
    cases didResolve <;> exact fun _ => rfl
  refine ⟨?_, hrest ▸ h.rest_of hqueue rfl rfl, ?_, ?_, ?_, ?_, ?_, hresolution ▸ h.resolution⟩
  · rw [hlog, List.filter_append, h.log]
    simp [Stage.events, Stage.last, hfinished, hcontrol]
  · rw [hrest, hstarted]
    exact fun block hmem => h.blocks block (hqueue ▸ List.mem_cons_of_mem _ hmem)
  · rw [htests, hstarted]
    exact h.unstarted
  · rw [htests, hfinished]
    exact h.completed
  · intro t'
    rw [htests, hstarted, hlog]
    simpa [hsend] using h.sends t'
  · rw [htests, hmax]
    exact h.retries

end Between

end UniversalNetwork
