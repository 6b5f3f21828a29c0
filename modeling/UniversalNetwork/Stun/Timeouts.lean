import UniversalNetwork.Stun.Sequence

/-!
# The timeout of a running test

A running test can lose its timeout in two ways. Its receive block destroys the timeout before it
looks at the transaction id, so that a response to somebody else will do. And the handler of a timer
marks the timeout as invalid only after it has queued the timeout block: when that block runs in
between and arms the timeout again, the mark falls on the new one. Without such a step (`Disarms`), a
test that has sent its request and has not completed keeps a timeout, armed or queued.

Result: `timeouts_armed`.
-/

namespace UniversalNetwork

open Lib

/-- The packet holds a valid response with another transaction id than that of the test. -/
def foreignResponse (stun : Stun) (t : StunTestId) (packet : Nat) : Bool :=
  match unpackBindingResponse stun.socket packet with
  | some ((.valid, transactionId, _), _) => (stun.tests t).transactionId ≠ transactionId
  | _ => false

/-- The step hands such a response to a test that is running, with its timeout armed. -/
def TakesForeign (stun : Stun) (action : StunAction) : Prop :=
  match stun.head action with
  | some (.receive t packet) => (stun.tests t).isCompleted = false ∧
      (stun.tests t).timeoutValid = true ∧ foreignResponse stun t packet = true
  | _ => False

/-- The handler of a timer comes to its end when the timeout of the test, which is running, is armed
and no block of a timer is queued for it: the block of this handler has armed it again. -/
def FiredLate (stun : Stun) : StunAction → Prop
  | .timeoutFired t => (stun.tests t).isCompleted = false ∧ (stun.tests t).timeoutValid = true ∧
      .timeout t ∉ stun.stunDispatchQueue
  | _ => False

def Disarms (stun : Stun) (action : StunAction) : Prop :=
  TakesForeign stun action ∨ FiredLate stun action

instance (stun : Stun) (action : StunAction) : Decidable (TakesForeign stun action) := by
  unfold TakesForeign
  split <;> infer_instance

instance (stun : Stun) (action : StunAction) : Decidable (FiredLate stun action) := by
  unfold FiredLate
  split <;> infer_instance

instance (stun : Stun) (action : StunAction) : Decidable (Disarms stun action) :=
  inferInstanceAs (Decidable (_ ∨ _))

/-- The test does not wait, or it will not wait for ever. -/
def TestSettled (stun : Stun) (t : StunTestId) : Prop :=
  (stun.tests t).isCompleted = true ∨ (stun.tests t).timeoutValid = true ∨
    .timeout t ∈ stun.stunDispatchQueue

/-- Nothing happens to the test. -/
structure TestKept (t : StunTestId) (stun stun' : Stun) : Prop where
  test : stun'.tests t = stun.tests t
  sends : ∀ destAddr, .send t destAddr ∈ stun'.log → .send t destAddr ∈ stun.log
  queued : .timeout t ∈ stun.stunDispatchQueue → .timeout t ∈ stun'.stunDispatchQueue

section Timeouts

variable {stun stun' : Stun} {action : StunAction} {t : StunTestId}

theorem TestKept.settled (h : TestKept t stun stun') (hsettled : TestSettled stun t) :
    TestSettled stun' t := by
  unfold TestSettled
  rw [h.test]
  exact hsettled.imp id (.imp id h.queued)

theorem started_settled {stun₀ : Stun} {t' : StunTestId} {transactionId : StunTransactionId}
    (hkept : TestKept t stun stun₀) (hstart : Started stun₀ transactionId t' stun') :
    TestSettled stun' t ∨ TestKept t stun stun' := by
  by_cases heq : t = t'
  · subst heq
    cases hstart with
    | request pack hdest halloc hpack =>
      left
      simp [TestSettled, Stun.requested]
    | skip hdest =>
      left
      simp [TestSettled, Stun.skipped, Stun.completed]
  · cases hstart with
    | request pack hdest halloc hpack =>
      right
      refine ⟨?_, fun destAddr hmem => hkept.sends destAddr ?_, hkept.queued⟩
      · simpa [Stun.requested, heq] using hkept.test
      · simpa [Stun.requested, heq] using hmem
    | skip hdest =>
      right
      refine ⟨?_, fun destAddr hmem => hkept.sends destAddr ?_, fun hmem => ?_⟩
      · simpa [Stun.skipped, Stun.completed, heq] using hkept.test
      · simpa [Stun.skipped, Stun.completed, heq] using hmem
      · simpa [Stun.skipped, Stun.completed] using hkept.queued hmem

theorem completed_settled {results : StunResults} {s : NetSocket} {t' : StunTestId}
    {stun₀ : Stun} (hkept : t ≠ t' → TestKept t stun stun₀) :
    TestSettled (((stun₀.setResults results).completed t').onSocket s) t ∨
      TestKept t stun (((stun₀.setResults results).completed t').onSocket s) := by
  by_cases heq : t = t'
  · subst heq
    left
    simp [TestSettled, Stun.completed]
  · right
    refine ⟨?_, fun destAddr hmem => (hkept heq).sends destAddr ?_, fun hmem => ?_⟩
    · simpa [Stun.completed, heq] using (hkept heq).test
    · simpa [Stun.completed, heq] using hmem
    · simpa [Stun.completed] using (hkept heq).queued hmem

theorem destroyTimeout_kept (hvalid : (stun.tests t).timeoutValid = false) :
    (stunTestDestroyTimeout stun t).tests = stun.tests := by
  funext t'
  by_cases heq : t' = t
  · subst heq
    simp [stunTestDestroyTimeout, ← hvalid]
  · simp [stunTestDestroyTimeout, heq]

theorem foreignResponse_iff {packet : Nat} {s : NetSocket} {result : StunResult}
    {responseId : StunTransactionId} {bindingResponse : StunBindingResponse}
    (hunpack : unpackBindingResponse stun.socket packet =
      some ((result, responseId, bindingResponse), s)) :
    foreignResponse stun t packet = true ↔
      result = .valid ∧ (stun.tests t).transactionId ≠ responseId := by
  unfold foreignResponse
  rw [hunpack]
  cases result <;> simp

/-- A step that runs a block. -/
theorem disarms_iff {packet : Nat} (hhead : stun.head action = some (.receive t packet)) :
    Disarms stun action ↔ (stun.tests t).isCompleted = false ∧
      (stun.tests t).timeoutValid = true ∧ foreignResponse stun t packet = true := by
  have htakes : TakesForeign stun action ↔ (stun.tests t).isCompleted = false ∧
      (stun.tests t).timeoutValid = true ∧ foreignResponse stun t packet = true := by
    unfold TakesForeign
    rw [hhead]
  have hlate : ¬ FiredLate stun action := by
    cases action with
    | timeoutFired t' => cases hhead
    | _ => exact id
  exact (or_iff_left hlate).trans htakes

/-- The handler of a timer comes to its end. -/
theorem timeoutFired_settled (hok : ¬ Disarms stun (.timeoutFired t)) (t' : StunTestId) :
    TestSettled (stunTestDestroyTimeout stun t) t' ∨
      TestKept t' stun (stunTestDestroyTimeout stun t) := by
  by_cases heq : t' = t
  · subst heq
    by_cases hvalid : (stun.tests t').timeoutValid = true
    · left
      by_cases hqueued : .timeout t' ∈ stun.stunDispatchQueue
      · exact .inr (.inr hqueued)
      · have hcompleted : (stun.tests t').isCompleted = true := by
          by_contra hrunning
          exact hok (.inr ⟨by simpa using hrunning, hvalid, hqueued⟩)
        exact .inl (by simpa [stunTestDestroyTimeout] using hcompleted)
    · right
      exact ⟨congrFun (destroyTimeout_kept (by simpa using hvalid)) t', fun _ => id, id⟩
  · right
    exact ⟨by simp [stunTestDestroyTimeout, heq], fun _ => id, id⟩

/-- One step, seen by one test. -/
theorem stunStep_settled (hstep : stunStep stun action = some stun') (hok : ¬ Disarms stun action)
    (t : StunTestId) : TestSettled stun' t ∨ TestKept t stun stun' := by
  have hself : TestKept t stun stun := ⟨rfl, fun _ => id, id⟩
  cases stunStep_move hstep with
  | idle hidle => exact .inr hself
  | read hlength hread | called hlength hread | unread hread hunread | accepted hreceived
  | released hkept | socketBlock | write => exact .inr ⟨rfl, fun _ => id, id⟩
  | receive hblock hreceived | deliver hblock hreceived | timeout hblock =>
    exact .inr ⟨rfl, fun _ => id, List.mem_append_left _⟩
  | timeoutFired hblock => exact timeoutFired_settled hok t
  | @block transactionId block rest _ hqueue hmove =>
    -- only a timeout block of the test itself can be missed
    have hpopped : block ≠ .timeout t → TestKept t stun (stun.popped rest) := fun hne =>
      ⟨rfl, fun _ => id, fun hmem => by simpa [hqueue, hne.symm] using hmem⟩
    cases hmove with
    | unresolved hresolution | didFailResolve hnext hsuccess | didResolve hnext hsuccess =>
      refine .inr ⟨rfl, fun destAddr hmem => ?_, (hpopped (by simp)).queued⟩
      simpa using hmem
    | @resolved primaryServerAddr _ hresolution hstart =>
      have hkept : TestKept t stun ((stun.popped rest).resolved primaryServerAddr) :=
        ⟨rfl, fun _ => id, (hpopped (by simp)).queued⟩
      exact started_settled hkept hstart
    | next hnext hstart => exact started_settled (hpopped (by simp)) hstart
    | late hcompleted => exact .inr ⟨rfl, fun _ => id, (hpopped (by simp)).queued⟩
    | forwarded hcompleted hunpack hresult =>
      refine .inr ⟨rfl, fun destAddr hmem => ?_, (hpopped (by simp)).queued⟩
      simpa using hmem
    | @foreign t' packet s responseId bindingResponse hcompleted hunpack hid =>
      have hvalid : (stun.tests t').timeoutValid = false := by
        by_contra harmed
        have hhead : stun.head (.block transactionId) = some (.receive t' packet) := by
          simp [Stun.head, hqueue]
        refine hok ((disarms_iff hhead).2 ⟨hcompleted, by simpa using harmed, ?_⟩)
        exact (foreignResponse_iff hunpack).2 ⟨rfl, hid⟩
      refine .inr ⟨?_, fun _ => id, (hpopped (by simp)).queued⟩
      exact congrFun (@destroyTimeout_kept (stun.popped rest) t' hvalid) t
    | answered hcompleted hunpack => exact completed_settled fun _ => hpopped (by simp)
    | @expired t' hcompleted =>
      by_cases heq : t = t'
      · subst heq
        exact .inl (.inl hcompleted)
      · exact .inr (hpopped (by simpa using Ne.symm heq))
    | @retried t' packet hcompleted hretries hpacket =>
      by_cases heq : t = t'
      · subst heq
        left
        simp [TestSettled, Stun.retried]
      · have hkept := hpopped (by simpa using Ne.symm heq)
        refine .inr ⟨?_, fun destAddr hmem => ?_, hkept.queued⟩
        · simp [Stun.retried, heq]
        · simpa [Stun.retried, heq] using hmem
    | exhausted hcompleted hretries =>
      exact completed_settled fun hne => hpopped (by simpa using Ne.symm hne)

theorem stunStep_foreign {packet : Nat} {transactionId : StunTransactionId}
    (hhead : stun.head (.block transactionId) = some (.receive t packet))
    (hforeign : foreignResponse stun t packet = true)
    (hstep : stunStep stun (.block transactionId) = some stun') :
    ¬ Disarms stun (.block transactionId) ↔
      stun'.tests = stun.tests ∧ stun'.results = stun.results := by
  rw [disarms_iff hhead]
  cases stunStep_move hstep with
  | idle hidle => simp [Stun.head, hidle transactionId rfl] at hhead
  | block hqueue hmove =>
    obtain rfl : _ = StunBlock.receive t packet := by simpa [Stun.head, hqueue] using hhead
    cases hmove with
    | late hcompleted =>
      have hover : (stun.tests t).isCompleted = true := hcompleted
      simp [hover]
      rfl
    | forwarded hcompleted hunpack hresult =>
      exact absurd ((foreignResponse_iff hunpack).1 hforeign).1 hresult
    | answered hcompleted hunpack => exact absurd rfl ((foreignResponse_iff hunpack).1 hforeign).2
    | @foreign _ _ s _ _ hcompleted hunpack hid =>
      by_cases hvalid : (stun.tests t).timeoutValid = true
      · refine iff_of_false (fun hnot => hnot ⟨hcompleted, hvalid, hforeign⟩) fun hsame => ?_
        have htest := congrArg StunTest.timeoutValid (congrFun hsame.1 t)
        simp [stunTestDestroyTimeout, hvalid] at htest
      · refine iff_of_true (fun harmed => hvalid harmed.2.1) ⟨?_, rfl⟩
        exact @destroyTimeout_kept (stun.popped _) t (by simpa using hvalid)

end Timeouts

section Runs

variable {packets : Nat → Vector UInt8 kNetPacketMaxLen} {receiveCallback : Option Nat}
  {receiveCallbackContext : Nat} {receiveBlock : Option Nat} {localAddr : NetAddr}
  {resolution : Option NetAddr} {maxRetries : Nat}

theorem settled_run {stun : Stun} {actions : List StunAction}
    (hrun : run stunStep (stunResolve packets receiveCallback receiveCallbackContext receiveBlock
      localAddr resolution maxRetries) actions = some stun)
    (hok : Along stunStep (fun stun action => ¬ Disarms stun action) (stunResolve packets
      receiveCallback receiveCallbackContext receiveBlock localAddr resolution maxRetries) actions) :
    ∀ t destAddr, .send t destAddr ∈ stun.log → TestSettled stun t := by
  refine run_along (P := fun stun => ∀ t destAddr, .send t destAddr ∈ stun.log →
    TestSettled stun t) nofun ?_ hrun hok
  intro stun action stun' h hnot hstep t destAddr hmem
  cases stunStep_settled hstep hnot t with
  | inl hsettled => exact hsettled
  | inr hkept => exact hkept.settled (h t destAddr (hkept.sends destAddr hmem))

/-- **A running test can still finish**, as long as no valid response with a foreign id is handled
by a running test whose timeout is armed, and no handler of a timer comes to its end after its block
has armed the timeout again: every test that has sent its request and has not completed has its
timeout armed or queued. A response with a foreign id leaves the tests and the results alone exactly
when it is not handled so. -/
theorem timeouts_armed {stun : Stun} {actions : List StunAction}
    (hrun : run stunStep (stunResolve packets receiveCallback receiveCallbackContext receiveBlock
      localAddr resolution maxRetries) actions = some stun)
    (hok : Along stunStep (fun stun action => ¬ Disarms stun action) (stunResolve packets
      receiveCallback receiveCallbackContext receiveBlock localAddr resolution maxRetries) actions) :
    (∀ t destAddr, .send t destAddr ∈ stun.log → (stun.tests t).isCompleted = false →
      (stun.tests t).timeoutValid = true ∨ .timeout t ∈ stun.stunDispatchQueue) ∧
    ∀ t packet transactionId stun', stun.head (.block transactionId) = some (.receive t packet) →
      foreignResponse stun t packet = true → stunStep stun (.block transactionId) = some stun' →
      (¬ Disarms stun (.block transactionId) ↔
        stun'.tests = stun.tests ∧ stun'.results = stun.results) := by
  have hsettled := settled_run hrun hok
  refine ⟨fun t destAddr hmem hcompleted => ?_, fun t packet transactionId stun' => stunStep_foreign⟩
  exact (hsettled t destAddr hmem).resolve_left (by simp [hcompleted])

end Runs

/-- The timeout block sends the request again before the handler of its timer comes to its end: the
test is left without timeout. -/
example : (run stunStep (byteStun 1) [.block (byteId 5), .timeout .bindingTest1, .block (byteId 0),
    .timeoutFired .bindingTest1]).map (fun stun => ((stun.tests .bindingTest1).isCompleted,
      (stun.tests .bindingTest1).timeoutValid, stun.stunDispatchQueue)) = some (false, false, []) := by
  decide +kernel

/-- A foreign response is handled after the timer of the binding test has fired. -/
def foreignQueued : List StunAction :=
  [.block (byteId 5), .read (response 6 (3, 3) (4, 4) (2, 2)), .deliver 0,
    .timeout .bindingTest1, .timeoutFired .bindingTest1, .block (byteId 0)]

theorem timeouts_armed_foreignQueued : ∃ stun,
    run stunStep (byteStun 1) foreignQueued = some stun ∧
      .send .bindingTest1 (byteAddr 1 1) ∈ stun.log ∧
      ((stun.tests .bindingTest1).timeoutValid = true ∨
        .timeout .bindingTest1 ∈ stun.stunDispatchQueue) := by
  have hstate : (run stunStep (byteStun 1) foreignQueued).map (fun stun =>
      decide (.send .bindingTest1 (byteAddr 1 1) ∈ stun.log ∧
        (stun.tests .bindingTest1).isCompleted = false)) = some true := by
    decide +kernel
  have hok : Along stunStep (fun stun action => ¬ Disarms stun action) (byteStun 1)
      foreignQueued := by
    decide +kernel
  obtain ⟨stun, hrun, hmem⟩ := Option.map_eq_some_iff.1 hstate
  obtain ⟨hsend, hcompleted⟩ := of_decide_eq_true hmem
  exact ⟨stun, hrun, hsend, (timeouts_armed hrun hok).1 _ _ hsend hcompleted⟩

/-- The first request is sent twice and both copies are answered. The second response reaches
behavior test 1. -/
def answeredTwice : List StunAction :=
  [.block (byteId 5)] ++ expire .bindingTest1 ++ respond 5 (1, 1) (8, 8) (2, 2) ++
    [.block (byteId 6)] ++ respond 5 (1, 1) (8, 8) (2, 2)

theorem answeredTwice_hangs : ∃ stun, run stunStep (byteStun 1) answeredTwice = some stun ∧
    .send .behaviorTest1 (byteAddr 2 1) ∈ stun.log ∧
    (stun.tests .behaviorTest1).isCompleted = false ∧
    ¬ ((stun.tests .behaviorTest1).timeoutValid = true ∨
      .timeout .behaviorTest1 ∈ stun.stunDispatchQueue) := by
  have hstate : (run stunStep (byteStun 1) answeredTwice).map (fun stun =>
      decide (.send .behaviorTest1 (byteAddr 2 1) ∈ stun.log ∧
        (stun.tests .behaviorTest1).isCompleted = false ∧
        ¬ ((stun.tests .behaviorTest1).timeoutValid = true ∨
          .timeout .behaviorTest1 ∈ stun.stunDispatchQueue))) = some true := by
    decide +kernel
  obtain ⟨stun, hrun, hmem⟩ := Option.map_eq_some_iff.1 hstate
  exact ⟨stun, hrun, of_decide_eq_true hmem⟩

end UniversalNetwork
