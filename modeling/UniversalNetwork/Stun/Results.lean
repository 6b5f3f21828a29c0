import UniversalNetwork.Stun.Handback

/-!
# Which results a test can change

The timeout of a test is given a pointer to the flag it may clear. The behavior tests are given that
of the binding test, so one of them that is given up revokes the binding result, and the sequence
ends in `stunDidFailResolve` although the mapped address is known.

* `responseResults_own`, `stunStart_own`: a test that starts or is answered changes its own results.
* `binding_result_kept`: as long as no behavior test is given up, every test does, and the binding
  result stays.
-/

namespace UniversalNetwork

open Lib

/-! ## The results of a test -/

/-- `r` with the behavior results of `r'`. -/
def StunResults.withBehavior (r r' : StunResults) : StunResults :=
  { r with
    didBehaviorTestSuccess := r'.didBehaviorTestSuccess
    natBehavior := r'.natBehavior
    mappedOtherServerPrimaryPortAddr := r'.mappedOtherServerPrimaryPortAddr
    mappedOtherServerAddr := r'.mappedOtherServerAddr }

/-- `r` with the filtering results of `r'`. -/
def StunResults.withFiltering (r r' : StunResults) : StunResults :=
  { r with
    didFilteringTestSuccess := r'.didFilteringTestSuccess
    natFiltering := r'.natFiltering }

/-- From `r` to `r'` a behavior test changes behavior results only, and a filtering test filtering
results only. -/
def OwnResults (r r' : StunResults) : StunTestId → Prop
  | .bindingTest1 => True
  | .behaviorTest1 | .behaviorTest2 => r' = r.withBehavior r'
  | .filteringTest1 | .filteringTest2 => r' = r.withFiltering r'

def StunTestId.isBehavior : StunTestId → Bool
  | .behaviorTest1 | .behaviorTest2 => true
  | _ => false

section Results

variable {primaryServerAddr localAddr packetAddr : NetAddr} {results : StunResults}
  {bindingResponse : StunBindingResponse}

theorem ownResults_refl (t : StunTestId) : OwnResults results results t := by
  cases t <;> trivial

theorem stunStart_own (t : StunTestId) :
    OwnResults results (stunStart primaryServerAddr localAddr results t).1 t := by
  cases t <;> simp only [stunStart, OwnResults] <;> (repeat' split) <;> rfl

theorem responseResults_own (t : StunTestId) : OwnResults results
    (responseResults primaryServerAddr packetAddr bindingResponse results t) t := by
  cases t <;> simp only [responseResults, behavior1Results, behavior2Results, filtering1Results,
    filtering2Results, OwnResults] <;> (repeat' split) <;> rfl

theorem testSuccessCheck_own {t : StunTestId} (h : t.isBehavior = false) :
    OwnResults results (testSuccessCheck results t) t := by
  cases t <;> trivial

end Results

/-! ## Steps -/

/-- The test that a block belongs to, or starts. -/
def StunBlock.concerns : StunBlock → Option StunTestId
  | .resolve => some .bindingTest1
  | .runNextTest t => t.next
  | .receive t _ | .timeout t => some t

/-- A timeout of a behavior test that runs is handled, after its last retry. -/
def GivesUpBehavior (stun : Stun) (action : StunAction) : Prop :=
  ∃ t, t.isBehavior = true ∧ stun.input action = .exhaust t

instance (stun : Stun) (action : StunAction) : Decidable (GivesUpBehavior stun action) :=
  decidable_of_iff (stun.input action = .exhaust .behaviorTest1 ∨
      stun.input action = .exhaust .behaviorTest2) <| by
    constructor
    · rintro (h | h)
      · exact ⟨_, rfl, h⟩
      · exact ⟨_, rfl, h⟩
    · rintro ⟨t, ht, h⟩
      cases t with
      | behaviorTest1 => exact .inl h
      | behaviorTest2 => exact .inr h
      | _ => cases ht

section Steps

variable {stun stun' : Stun} {action : StunAction} {t : StunTestId}

theorem Started.own {transactionId : StunTransactionId}
    (h : Started stun transactionId t stun') : OwnResults stun.results stun'.results t := by
  cases h <;> exact stunStart_own t

/-- A step of a test changes the results of that test only. -/
theorem stunStep_own (hstep : stunStep stun action = some stun')
    (hkeeps : ¬ GivesUpBehavior stun action) {block : StunBlock}
    (hhead : stun.head action = some block) (ht : block.concerns = some t) :
    OwnResults stun.results stun'.results t := by
  cases stunStep_move hstep with
  | @block transactionId block' rest stun' hqueue hmove =>
    obtain rfl : block' = block := by simpa [Stun.head, hqueue] using hhead
    cases hmove with
    | resolved hresolution hstart =>
      cases ht
      exact hstart.own
    | next hnext hstart =>
      cases hnext.symm.trans ht
      exact hstart.own
    | answered hcompleted hunpack =>
      cases ht
      exact responseResults_own t
    | exhausted hcompleted hretries =>
      cases ht
      have hinput : stun.input (.block transactionId) = .exhaust t := by
        rw [input_timeout hhead, if_pos ⟨hcompleted, hretries⟩]
      cases hbehavior : t.isBehavior with
      | true => exact absurd ⟨t, hbehavior, hinput⟩ hkeeps
      | false => exact testSuccessCheck_own hbehavior
    | _ => exact ownResults_refl t
  | _ => exact ownResults_refl t

end Steps

/-! ## The binding result -/

/-- With the binding result, the binding test is over and the sequence has not failed. -/
def BindingOver (c : Course) : Prop :=
  c.results.didBindingTestSuccess = true →
    c.stage ≠ .waiting ∧ c.stage ≠ .running .bindingTest1 ∧ c.stage ≠ .ended false

section Course

variable {c c' : Course} {input : StunInput}

theorem BindingOver.advance (h : BindingOver c) (hadvance : Advance c input c') :
    BindingOver c' := by
  intro hsuccess
  cases hadvance with
  | quiet => exact h hsuccess
  | @request t destAddr c₀ hstarts hdest =>
    have hflag : c₀.results.didBindingTestSuccess = true := by
      simpa [Course.requested, Course.startOf, stunStart_didBindingTestSuccess] using hsuccess
    cases hstarts with
    | first hstage hresolution => exact absurd hstage (h hflag).1
    | next hstage hnext =>
      refine ⟨by simp [Course.requested], ?_, by simp [Course.requested]⟩
      rintro heq
      exact next_ne_bindingTest1 hnext (Stage.running.inj heq)
  | retry hstage destAddr => exact h hsuccess
  | fail hstage hnext hfail => exact absurd (hfail.symm.trans hsuccess) Bool.false_ne_true
  | _ => simp [Course.completed]

/-- The binding result stays, unless a behavior test is given up. -/
theorem success_advance (h : BindingOver c) (hsuccess : c.results.didBindingTestSuccess = true)
    (hadvance : Advance c input c') (hkeeps : ∀ t, t.isBehavior = true → input ≠ .exhaust t) :
    c'.results.didBindingTestSuccess = true := by
  cases hadvance with
  | request hstarts hdest | skip hstarts hdest =>
    show (Course.startOf _ _).1.didBindingTestSuccess = true
    rw [Course.startOf, stunStart_didBindingTestSuccess]
    cases hstarts <;> exact hsuccess
  | answer hstage packetAddr bindingResponse =>
    show (responseResults _ _ _ _ _).didBindingTestSuccess = true
    rw [responseResults_didBindingTestSuccess, hsuccess, Bool.or_true]
  | @exhaust t hstage =>
    show (testSuccessCheck _ t).didBindingTestSuccess = true
    rw [testSuccessCheck_didBindingTestSuccess, hsuccess]
    cases t with
    | bindingTest1 => exact absurd hstage (h hsuccess).2.1
    | behaviorTest1 => exact absurd rfl (hkeeps _ rfl)
    | behaviorTest2 => exact absurd rfl (hkeeps _ rfl)
    | filteringTest1 | filteringTest2 => rfl
  | _ => exact hsuccess

end Course

/-! ## Runs -/

section Runs

variable {packets : Nat → Vector UInt8 kNetPacketMaxLen} {receiveCallback : Option Nat}
  {receiveCallbackContext : Nat} {receiveBlock : Option Nat} {localAddr : NetAddr}
  {resolution : Option NetAddr} {maxRetries : Nat} {stun stun₁ : Stun}
  {actions before : List StunAction}

/-- From a state with the binding result on. -/
theorem success_run (hbefore : run stunStep (stunResolve packets receiveCallback
      receiveCallbackContext receiveBlock localAddr resolution maxRetries) before = some stun₁)
    (hsuccess : stun₁.results.didBindingTestSuccess = true)
    (hrun : run stunStep stun₁ actions = some stun)
    (hok : Along stunStep (fun stun action => ¬ GivesUpBehavior stun action) stun₁ actions) :
    stun.results.didBindingTestSuccess = true ∧ .stunDidFailResolve ∉ stun.log := by
  cases resolution with
  | none =>
    have hunresolved : Unresolved stun₁ := run_inv (P := Unresolved) unresolved_stunResolve
      (fun _ _ _ h hstep => h.step hstep) hbefore
    exact absurd (hunresolved.results.symm.trans hsuccess) nofun
  | some server =>
    obtain ⟨stage₁, hsequenced, hover⟩ := course_run
      (P := BindingOver) (sequenced_stunResolve packets receiveCallback receiveCallbackContext
        receiveBlock localAddr server maxRetries) nofun
      (fun _ _ _ _ h _ hadvance => h.advance hadvance) hbefore
      (show Along stunStep (fun _ _ => True) _ _ from along_true _ _)
    obtain ⟨stage, hsequenced', hsuccess', hover'⟩ := course_run
      (P := fun c => c.results.didBindingTestSuccess = true ∧ BindingOver c) hsequenced
      ⟨hsuccess, hover⟩ (fun _ _ _ _ h hmet hadvance => ⟨success_advance h.2 h.1 hadvance
        fun t ht hinput => hmet ⟨t, ht, hinput⟩, h.2.advance hadvance⟩) hrun hok
    exact ⟨hsuccess', fun hmem => (hover' hsuccess').2.2 (hsequenced'.ended_of hmem)⟩

/-- **Later tests do not revoke the binding result as long as no behavior test is given up**: once
it is there it stays and the sequence does not fail; and a step of a behavior test changes behavior
results only, one of a filtering test filtering results only. -/
theorem binding_result_kept
    (hrun : run stunStep (stunResolve packets receiveCallback receiveCallbackContext receiveBlock
      localAddr resolution maxRetries) actions = some stun)
    (hok : Along stunStep (fun stun action => ¬ GivesUpBehavior stun action) (stunResolve packets
      receiveCallback receiveCallbackContext receiveBlock localAddr resolution maxRetries) actions) :
    (∀ before after stun₁, actions = before ++ after →
      run stunStep (stunResolve packets receiveCallback receiveCallbackContext receiveBlock
        localAddr resolution maxRetries) before = some stun₁ →
      stun₁.results.didBindingTestSuccess = true →
      stun.results.didBindingTestSuccess = true ∧ .stunDidFailResolve ∉ stun.log) ∧
    ∀ before action after stun₁ stun₂, actions = before ++ action :: after →
      run stunStep (stunResolve packets receiveCallback receiveCallbackContext receiveBlock
        localAddr resolution maxRetries) before = some stun₁ →
      stunStep stun₁ action = some stun₂ →
      ∀ block t, stun₁.head action = some block → block.concerns = some t →
        OwnResults stun₁.results stun₂.results t := by
  constructor
  · rintro before after stun₁ rfl hbefore hsuccess
    have hafter : run stunStep stun₁ after = some stun := by
      rwa [run_append, hbefore] at hrun
    exact success_run hbefore hsuccess hafter ((along_append hbefore).1 hok).2
  · rintro before action after stun₁ stun₂ rfl hbefore hstep block t hhead ht
    exact stunStep_own hstep ((along_append hbefore).1 hok).2.1 hhead ht

end Runs

theorem binding_result_kept_answeredLate : ∃ stun,
    run stunStep (byteStun 1) answeredLate = some stun ∧
    stun.results.didBindingTestSuccess = true ∧ .stunDidFailResolve ∉ stun.log := by
  have hstate : (run stunStep (byteStun 1) answeredLate).map
      (fun stun => stun.results.didBindingTestSuccess) = some true := by
    decide +kernel
  have hok : Along stunStep (fun stun action => ¬ GivesUpBehavior stun action) (byteStun 1)
      answeredLate := by
    decide +kernel
  obtain ⟨stun, hrun, hsuccess⟩ := Option.map_eq_some_iff.1 hstate
  exact ⟨stun, hrun, (binding_result_kept hrun hok).1 answeredLate [] stun
    (List.append_nil _).symm hrun hsuccess⟩

/-- The binding test is answered, with the address of another server. -/
def bound : List StunAction :=
  [.block (byteId 5)] ++ respond 5 (1, 1) (8, 8) (2, 2)

/-- The other server does not answer. -/
def otherSilent : List StunAction :=
  [.block (byteId 6)] ++ expire .behaviorTest1 ++ [.block (byteId 0), .block (byteId 7)] ++
    expire .filteringTest1 ++ [.block (byteId 8)] ++ expire .filteringTest2 ++ [.block (byteId 0)]

/-- The binding test has succeeded, and the sequence fails because of a behavior test. -/
theorem binding_result_revoked : ∃ stun₁ stun₂,
    run stunStep (byteStun 0) bound = some stun₁ ∧
    stun₁.results.didBindingTestSuccess = true ∧
    run stunStep stun₁ otherSilent = some stun₂ ∧
    stun₂.results.didBindingTestSuccess = false ∧ .stunDidFailResolve ∈ stun₂.log := by
  have hstate : (run stunStep (byteStun 0) bound).bind (fun stun₁ =>
      (run stunStep stun₁ otherSilent).map fun stun₂ =>
        (stun₁.results.didBindingTestSuccess, stun₂.results.didBindingTestSuccess,
          decide (.stunDidFailResolve ∈ stun₂.log))) = some (true, false, true) := by
    decide +kernel
  obtain ⟨stun₁, hrun₁, hstate⟩ := Option.bind_eq_some_iff.1 hstate
  obtain ⟨stun₂, hrun₂, heq⟩ := Option.map_eq_some_iff.1 hstate
  simp only [Prod.mk.injEq, decide_eq_true_eq] at heq
  exact ⟨stun₁, stun₂, hrun₁, heq.1, hrun₂, heq.2.1, heq.2.2⟩

end UniversalNetwork
