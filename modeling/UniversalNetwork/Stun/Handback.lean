import UniversalNetwork.Stun.Sequence

/-!
# Who receives from the socket afterwards

Each test that sends puts its own receive block on the socket. The consumer that the application had
set is only put back when the sequence succeeds, and it succeeds unless the binding test or a
behavior test was given up (`GivesUp`).

Result: `handed_back`.
-/

namespace UniversalNetwork

open Lib

/-- The binding and the behavior tests, which share one flag for their success. -/
def StunTestId.isMapping : StunTestId → Bool
  | .bindingTest1 | .behaviorTest1 | .behaviorTest2 => true
  | .filteringTest1 | .filteringTest2 => false

def StunInput.givesUp : StunInput → Bool
  | .exhaust t => t.isMapping
  | _ => false

/-- A timeout of a binding or behavior test that runs is handled, after its last retry. -/
def GivesUp (stun : Stun) (action : StunAction) : Prop := (stun.input action).givesUp = true

instance (stun : Stun) (action : StunAction) : Decidable (GivesUp stun action) :=
  inferInstanceAs (Decidable (_ = true))

/-- The consumer `original` is saved, and the receive block of a test is set. -/
structure Lent (original : NetSocketInfo) (c : Course) : Prop where
  saved : c.socketInfo = original
  installed : ∃ t, c.receiver.receiveBlock = some (.test t)

/-- Where `original` is. No test was given up if `clean`, and the flag tells. -/
def Borrowed (original : NetSocketInfo) (clean : Prop) (c : Course) : Prop :=
  match c.stage with
  | .waiting | .starting _ => c.receiver = original ∧ clean
  | .running t => Lent original c ∧
      (t = .bindingTest1 ∨ c.results.didBindingTestSuccess = true ↔ clean)
  | .completed _ => Lent original c ∧ (c.results.didBindingTestSuccess = true ↔ clean)
  | .ended didResolve => c.socketInfo = original ∧ (didResolve = true ↔ clean) ∧
      (c.receiver = original ↔ didResolve = true)

/-! ## The flag -/

section Flag

variable {primaryServerAddr localAddr packetAddr : NetAddr} {results : StunResults}
  {bindingResponse : StunBindingResponse} {t : StunTestId}

theorem stunStart_didBindingTestSuccess :
    (stunStart primaryServerAddr localAddr results t).1.didBindingTestSuccess =
      results.didBindingTestSuccess := by
  cases t <;> simp only [stunStart] <;> (repeat' split) <;> rfl

theorem responseResults_didBindingTestSuccess :
    (responseResults primaryServerAddr packetAddr bindingResponse results t).didBindingTestSuccess =
      (decide (t = .bindingTest1) || results.didBindingTestSuccess) := by
  cases t <;> simp only [responseResults, bindingResults, behavior1Results, behavior2Results,
    filtering1Results, filtering2Results] <;> (repeat' split) <;> rfl

theorem testSuccessCheck_didBindingTestSuccess :
    (testSuccessCheck results t).didBindingTestSuccess =
      (!t.isMapping && results.didBindingTestSuccess) := by
  cases t <;> rfl

end Flag

/-! ## Steps -/

section Steps

variable {original : NetSocketInfo} {clean : Prop} {c c' : Course} {input : StunInput}

theorem Borrowed.congr {clean' : Prop} (h : Borrowed original clean c) (heq : clean ↔ clean') :
    Borrowed original clean' c :=
  propext heq ▸ h

theorem next_ne_bindingTest1 {t t' : StunTestId} (h : t.next = some t') : t' ≠ .bindingTest1 := by
  cases t <;> cases h <;> decide

/-- Where a test starts, the flag stays. -/
theorem Borrowed.starts (h : Borrowed original clean c) {t : StunTestId} {c₀ : Course}
    (hstarts : Starts c t c₀) : c₀.socketInfo = original ∧
      (t = .bindingTest1 ∨ c₀.results.didBindingTestSuccess = true ↔ clean) ∧
      (t = .bindingTest1 ∨ ∃ t, c₀.receiver.receiveBlock = some (.test t)) := by
  cases hstarts with
  | first hstage hresolution =>
    unfold Borrowed at h
    rw [hstage] at h
    exact ⟨h.1, iff_of_true (.inl rfl) h.2, .inl rfl⟩
  | next hstage hnext =>
    unfold Borrowed at h
    rw [hstage] at h
    refine ⟨h.1.saved, ?_, .inr h.1.installed⟩
    rw [or_iff_right (next_ne_bindingTest1 hnext)]
    exact h.2

/-- With `none` as its input, a step gives up no test. -/
theorem Borrowed.silent (h : Borrowed original clean c) :
    Borrowed original (clean ∧ ¬ StunInput.none.givesUp = true) c :=
  h.congr (by simp [StunInput.givesUp])

theorem Borrowed.advance (happlication : ∀ t, original.receiveBlock ≠ some (.test t))
    (h : Borrowed original clean c) (hadvance : Advance c input c') :
    Borrowed original (clean ∧ ¬ input.givesUp = true) c' := by
  cases hadvance with
  | quiet => exact h.silent
  | @request t destAddr c₀ hstarts hdest =>
    obtain ⟨hsaved, hflag, -⟩ := h.starts hstarts
    apply Borrowed.silent
    refine ⟨⟨hsaved, t, rfl⟩, ?_⟩
    show t = .bindingTest1 ∨ (c₀.startOf t).1.didBindingTestSuccess = true ↔ clean
    rw [Course.startOf, stunStart_didBindingTestSuccess]
    exact hflag
  | @skip t c₀ hstarts hdest =>
    obtain ⟨hsaved, hflag, hinstalled⟩ := h.starts hstarts
    -- the binding test always sends
    have hne : t ≠ .bindingTest1 := by
      rintro rfl
      cases hdest
    apply Borrowed.silent
    refine ⟨⟨hsaved, hinstalled.resolve_left hne⟩, ?_⟩
    show (c₀.startOf t).1.didBindingTestSuccess = true ↔ clean
    rw [Course.startOf, stunStart_didBindingTestSuccess]
    rwa [or_iff_right hne] at hflag
  | retry hstage destAddr =>
    apply Borrowed.silent
    unfold Borrowed at h ⊢
    rw [hstage] at h
    simp only [hstage]
    exact ⟨⟨h.1.saved, h.1.installed⟩, h.2⟩
  | @answer t hstage packetAddr bindingResponse =>
    unfold Borrowed at h
    rw [hstage] at h
    refine Borrowed.congr ?_ (and_iff_left nofun).symm
    refine ⟨⟨h.1.saved, h.1.installed⟩, ?_⟩
    show (responseResults _ _ _ _ t).didBindingTestSuccess = true ↔ clean
    rw [responseResults_didBindingTestSuccess, ← h.2]
    simp
  | @exhaust t hstage =>
    unfold Borrowed at h
    rw [hstage] at h
    refine ⟨⟨h.1.saved, h.1.installed⟩, ?_⟩
    show (testSuccessCheck _ t).didBindingTestSuccess = true ↔ clean ∧ ¬ t.isMapping = true
    rw [testSuccessCheck_didBindingTestSuccess, ← h.2]
    cases t <;> simp [StunTestId.isMapping]
  | resolve hstage hnext hsuccess =>
    unfold Borrowed at h
    rw [hstage] at h
    apply Borrowed.silent
    exact ⟨h.1.saved, iff_of_true rfl (h.2.1 hsuccess), iff_of_true h.1.saved rfl⟩
  | fail hstage hnext hsuccess =>
    unfold Borrowed at h
    rw [hstage] at h
    obtain ⟨t, hblock⟩ := h.1.installed
    have hclean : ¬ clean := fun hclean => by simp [h.2.2 hclean] at hsuccess
    have hother : c.receiver ≠ original := by
      rintro heq
      exact happlication t (heq ▸ hblock)
    apply Borrowed.silent
    exact ⟨h.1.saved, iff_of_false nofun hclean, iff_of_false hother nofun⟩

end Steps

/-! ## Runs -/

section Runs

variable {packets : Nat → Vector UInt8 kNetPacketMaxLen} {receiveCallback : Option Nat}
  {receiveCallbackContext : Nat} {receiveBlock : Option Nat} {localAddr server : NetAddr}
  {maxRetries : Nat}

/-- **The socket is handed back exactly when no binding or behavior test is given up.** At the end
of a run that installs receive blocks (the server's name is known) the consumer of the socket is the
one saved at the start if and only if no timeout of a binding or behavior test was handled after its
last retry. -/
theorem handed_back {stun : Stun} {actions : List StunAction}
    (hrun : run stunStep (stunResolve packets receiveCallback receiveCallbackContext receiveBlock
      localAddr (some server) maxRetries) actions = some stun)
    (hended : .stunDidResolve ∈ stun.log ∨ .stunDidFailResolve ∈ stun.log) :
    stun.socketInfo = ⟨receiveCallback, receiveCallbackContext, receiveBlock.map .application⟩ ∧
      (stun.receiver = stun.socketInfo ↔
        Along stunStep (fun stun action => ¬ GivesUp stun action) (stunResolve packets
          receiveCallback receiveCallbackContext receiveBlock localAddr (some server) maxRetries)
          actions) := by
  have hinv := run_history (P := fun as stun => run stunStep (stunResolve packets receiveCallback
      receiveCallbackContext receiveBlock localAddr (some server) maxRetries) as = some stun ∧
    ∃ stage, Sequenced stage stun ∧
      Borrowed ⟨receiveCallback, receiveCallbackContext, receiveBlock.map .application⟩
        (Along stunStep (fun stun action => ¬ GivesUp stun action) (stunResolve packets
          receiveCallback receiveCallbackContext receiveBlock localAddr (some server) maxRetries) as)
        (stun.course stage)) ⟨rfl, .waiting, sequenced_stunResolve .., rfl, trivial⟩ ?_ hrun
  · obtain ⟨-, stage, h, hborrowed⟩ := hinv
    obtain ⟨didResolve, rfl⟩ := h.exists_ended hended
    obtain ⟨hsaved, hclean, hreceiver⟩ := hborrowed
    refine ⟨hsaved, ?_⟩
    rw [← hclean, ← hreceiver]
    exact hsaved ▸ Iff.rfl
  · rintro as stun action stun' ⟨hrun, stage, h, hborrowed⟩ hstep
    obtain ⟨stage', h', hadvance⟩ := stunStep_advance h hstep
    have happlication : ∀ t, receiveBlock.map ReceiveBlock.application ≠ some (.test t) := by
      intro t heq
      obtain ⟨block, -, hblock⟩ := Option.map_eq_some_iff.1 heq
      cases hblock
    refine ⟨run_snoc_eq_some.2 ⟨stun, hrun, hstep⟩, stage', h', ?_⟩
    exact (hborrowed.advance happlication hadvance).congr (along_snoc hrun).symm

end Runs

theorem handed_back_answeredLate : ∃ stun, run stunStep (byteStun 1) answeredLate = some stun ∧
    .stunDidResolve ∈ stun.log ∧ stun.receiver = stun.socketInfo := by
  have hlog : (run stunStep (byteStun 1) answeredLate).map
      (fun stun => decide (.stunDidResolve ∈ stun.log)) = some true := by
    decide +kernel
  have hclean : Along stunStep (fun stun action => ¬ GivesUp stun action) (byteStun 1)
      answeredLate := by
    decide +kernel
  obtain ⟨stun, hrun, hmem⟩ := Option.map_eq_some_iff.1 hlog
  have hended := of_decide_eq_true hmem
  exact ⟨stun, hrun, hended, (handed_back hrun (.inl hended)).2.2 hclean⟩

/-- Nobody answers. -/
def neverAnswered : List StunAction :=
  [.block (byteId 5)] ++ expire .bindingTest1 ++ List.replicate 5 (.block (byteId 0))

theorem neverAnswered_deaf : ∃ stun, run stunStep (byteStun 0) neverAnswered = some stun ∧
    .stunDidFailResolve ∈ stun.log ∧ stun.socketInfo.receiveBlock = some (.application 7) ∧
    stun.receiver.receiveBlock = some (.test .bindingTest1) := by
  have hstate : (run stunStep (byteStun 0) neverAnswered).map (fun stun =>
      decide (.stunDidFailResolve ∈ stun.log ∧
        stun.socketInfo.receiveBlock = some (.application 7) ∧
        stun.receiver.receiveBlock = some (.test .bindingTest1))) = some true := by
    decide +kernel
  obtain ⟨stun, hrun, hmem⟩ := Option.map_eq_some_iff.1 hstate
  exact ⟨stun, hrun, of_decide_eq_true hmem⟩

end UniversalNetwork
