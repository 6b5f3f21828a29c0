import UniversalNetwork.Stun.Handback

/-!
# How the mapping of a NAT is classified

A NAT gives the client an external address for each destination, `m`. When every request of the
binding and behavior tests is answered with the address that `m` gives for its destination, the
results after each of these tests are known: `boundResults`, `mappedResults`, `classifiedResults`.
The last test compares its address with that of the first one, where the class is about the second.

Result: `mapping_classified`.
-/

namespace UniversalNetwork

open Lib

/-- A host and a port, in network order. -/
structure Endpoint where
  host : UInt32
  port : UInt16
deriving DecidableEq, Repr

def Endpoint.addr (e : Endpoint) : NetAddr := netAddrSet e.host e.port false

def NetAddr.endpoint (addr : NetAddr) : Endpoint := ⟨addr.sAddr, addr.sinPort⟩

@[simp] theorem Endpoint.endpoint_addr (e : Endpoint) : e.addr.endpoint = e := rfl

@[simp] theorem Endpoint.addr_inj {e e' : Endpoint} : e.addr = e'.addr ↔ e = e' :=
  ⟨fun h => congrArg NetAddr.endpoint h, fun h => h ▸ rfl⟩

@[simp] theorem netAddrIsValid_addr (e : Endpoint) : netAddrIsValid e.addr = true := by
  have hne : e.addr ≠ .zeroed := fun h =>
    absurd (congrArg NetAddr.sinFamily h) (by decide : afInet ≠ 0)
  simpa [netAddrIsValid, ← netAddrIsEqual_iff] using hne

/-- The response carries the mapped address `mapped` and the other address of the server. -/
def Carries (bindingResponse : StunBindingResponse) (mapped other : Endpoint) : Prop :=
  (bindingResponse.hasMappedAddress = true ∨ bindingResponse.hasXorMappedAddress = true) ∧
    bindingResponse.mapped .zeroed = mapped.addr ∧ bindingResponse.hasAlternateServer = true ∧
    bindingResponse.alternateServerAddr = other.addr

section Nat

variable (m : Endpoint → Endpoint) (localAddr : NetAddr) (server other : Endpoint)

/-- The class of the mapping `m`, for a client at `localAddr`. -/
def mappingBehavior : StunNatBehavior :=
  if (m server).addr = localAddr then .directMapping
  else if m ⟨other.host, server.port⟩ = m server then .endpointIndependentMapping
  else if m other = m ⟨other.host, server.port⟩ then .addressDependentMapping
  else .addressAndPortDependentMapping

/-- After the binding test. -/
def boundResults : StunResults where
  didBindingTestSuccess := true
  localAddr
  mappedAddr := (m server).addr
  isMappingDirect := (m server).addr = localAddr
  hasOtherServerAddress := true
  otherServerPrimaryHostAddr := Endpoint.addr ⟨server.host, other.port⟩
  otherServerPrimaryPortAddr := Endpoint.addr ⟨other.host, server.port⟩
  otherServerAddr := other.addr
  didBehaviorTestSuccess := false
  natBehavior := .unknownBehavior
  mappedOtherServerPrimaryPortAddr := .zeroed
  mappedOtherServerAddr := .zeroed
  didFilteringTestSuccess := false
  natFiltering := .unknownFiltering

/-- After behavior test 1. -/
def mappedResults : StunResults :=
  let results := boundResults m localAddr server other
  if (m server).addr = localAddr then
    { results with natBehavior := .directMapping, didBehaviorTestSuccess := true }
  else if m ⟨other.host, server.port⟩ = m server then
    { results with
      mappedOtherServerPrimaryPortAddr := (m ⟨other.host, server.port⟩).addr
      natBehavior := .endpointIndependentMapping
      didBehaviorTestSuccess := true }
  else
    { results with mappedOtherServerPrimaryPortAddr := (m ⟨other.host, server.port⟩).addr }

/-- After behavior test 2. -/
def classifiedResults : StunResults :=
  let results := mappedResults m localAddr server other
  if (m server).addr = localAddr ∨ m ⟨other.host, server.port⟩ = m server then results
  else
    { results with
      mappedOtherServerAddr := (m other).addr
      natBehavior := if m other = m server then .addressDependentMapping
        else .addressAndPortDependentMapping
      didBehaviorTestSuccess := true }

end Nat

/-! ## The tests -/

section Tests

variable {m : Endpoint → Endpoint} {localAddr : NetAddr} {server other : Endpoint}
  {bindingResponse : StunBindingResponse}

/-- What was there before is overwritten. -/
theorem Carries.mapped {mapped : Endpoint} (h : Carries bindingResponse mapped other)
    (addr : NetAddr) : bindingResponse.mapped addr = mapped.addr := by
  rw [← h.2.1]
  unfold StunBindingResponse.mapped
  cases h.1 with
  | inl hmapped => simp [hmapped]
  | inr hxor => simp [hxor]

theorem bindingResults_eq (h : Carries bindingResponse (m server) other) :
    bindingResults server.addr bindingResponse { StunResults.zeroed with localAddr } =
      boundResults m localAddr server other := by
  have hequal : netAddrIsEqual (m server).addr localAddr =
      decide ((m server).addr = localAddr) := by
    rw [Bool.eq_iff_iff, netAddrIsEqual_iff, decide_eq_true_iff]
  simp only [bindingResults, h.mapped, h.2.2.1, h.2.2.2, if_true, hequal, decide_eq_true_iff]
  by_cases hdirect : (m server).addr = localAddr
  · simp only [boundResults, hdirect, decide_true]
    rfl
  · simp only [boundResults, hdirect, decide_false]
    rfl

theorem netAddrIsEqual_addr (e e' : Endpoint) : netAddrIsEqual e.addr e'.addr = decide (e = e') := by
  rw [Bool.eq_iff_iff, netAddrIsEqual_iff, decide_eq_true_iff, Endpoint.addr_inj]

theorem stunStart_behaviorTest1 : stunStart server.addr localAddr
    (boundResults m localAddr server other) .behaviorTest1 =
      if (m server).addr = localAddr then (mappedResults m localAddr server other, none)
      else (boundResults m localAddr server other,
        some (Endpoint.addr ⟨other.host, server.port⟩)) := by
  by_cases hdirect : (m server).addr = localAddr
  · simp [stunStart, boundResults, mappedResults, hdirect]
  · simp [stunStart, boundResults, hdirect]

theorem behavior1Results_eq (hdirect : (m server).addr ≠ localAddr)
    (h : Carries bindingResponse (m ⟨other.host, server.port⟩) other) :
    behavior1Results bindingResponse (boundResults m localAddr server other) =
      mappedResults m localAddr server other := by
  have hequal : netAddrIsEqual (m ⟨other.host, server.port⟩).addr (m server).addr =
      decide (m ⟨other.host, server.port⟩ = m server) := netAddrIsEqual_addr _ _
  simp only [behavior1Results, mappedResults, h.mapped, h.1, if_true, if_neg hdirect]
  by_cases hindependent : m ⟨other.host, server.port⟩ = m server
  · rw [if_pos hindependent]
    exact if_pos (hequal.trans (decide_eq_true hindependent))
  · rw [if_neg hindependent]
    exact if_neg (by simp [boundResults, hequal, hindependent])

theorem stunStart_behaviorTest2 : stunStart server.addr localAddr
    (mappedResults m localAddr server other) .behaviorTest2 =
      if (m server).addr = localAddr ∨ m ⟨other.host, server.port⟩ = m server then
        (classifiedResults m localAddr server other, none)
      else (mappedResults m localAddr server other, some other.addr) := by
  by_cases hdirect : (m server).addr = localAddr
  · simp [stunStart, mappedResults, classifiedResults, hdirect]
  · by_cases hindependent : m ⟨other.host, server.port⟩ = m server
    · simp [stunStart, mappedResults, classifiedResults, hdirect, hindependent]
    · simp [stunStart, mappedResults, boundResults, hdirect, hindependent]

theorem behavior2Results_eq (hdirect : (m server).addr ≠ localAddr)
    (hdependent : m ⟨other.host, server.port⟩ ≠ m server)
    (h : Carries bindingResponse (m other) other) :
    behavior2Results bindingResponse (mappedResults m localAddr server other) =
      classifiedResults m localAddr server other := by
  have hequal : netAddrIsEqual (m other).addr (mappedResults m localAddr server other).mappedAddr =
      decide (m other = m server) := by
    simp only [mappedResults, if_neg hdirect, if_neg hdependent]
    exact netAddrIsEqual_addr _ _
  have hclass : ¬ ((m server).addr = localAddr ∨ m ⟨other.host, server.port⟩ = m server) := by
    simp [hdirect, hdependent]
  simp only [behavior2Results, classifiedResults, h.mapped, h.1, if_true, if_neg hclass, hequal,
    decide_eq_true_iff]
  by_cases hsame : m other = m server
  · simp only [if_pos hsame]
  · simp only [if_neg hsame]

/-! The filtering tests leave the rest of the results alone. -/

def StunResults.unfiltered (results : StunResults) : StunResults :=
  { results with didFilteringTestSuccess := false, natFiltering := .unknownFiltering }

theorem unfiltered_classifiedResults : (classifiedResults m localAddr server other).unfiltered =
    classifiedResults m localAddr server other := by
  simp only [classifiedResults, mappedResults, boundResults, StunResults.unfiltered]
  repeat' split
  all_goals rfl

variable {primaryServerAddr packetAddr : NetAddr} {results : StunResults} {t : StunTestId}

theorem unfiltered_stunStart (ht : t.isMapping = false) :
    (stunStart primaryServerAddr localAddr results t).1.unfiltered = results.unfiltered := by
  cases t with
  | bindingTest1 | behaviorTest1 | behaviorTest2 => cases ht
  | filteringTest1 | filteringTest2 =>
    simp only [stunStart]
    repeat' split
    all_goals rfl

theorem unfiltered_responseResults (ht : t.isMapping = false) :
    (responseResults primaryServerAddr packetAddr bindingResponse results t).unfiltered =
      results.unfiltered := by
  cases t with
  | bindingTest1 | behaviorTest1 | behaviorTest2 => cases ht
  | filteringTest1 | filteringTest2 =>
    simp only [responseResults, filtering1Results, filtering2Results]
    split <;> rfl

theorem unfiltered_testSuccessCheck (ht : t.isMapping = false) :
    (testSuccessCheck results t).unfiltered = results.unfiltered := by
  cases t with
  | bindingTest1 | behaviorTest1 | behaviorTest2 => cases ht
  | filteringTest1 | filteringTest2 => rfl

end Tests

/-! ## Steps -/

/-- The requests of the binding and behavior tests are answered with what `m` gives for the address
they were sent to. -/
def Answering (m : Endpoint → Endpoint) (other : Endpoint) (sends : List (StunTestId × NetAddr)) :
    StunInput → Prop
  | .answer t _ bindingResponse => t.isMapping = true → ∀ x ∈ sends, x.1 = t →
      Carries bindingResponse (m x.2.endpoint) other
  | .exhaust t => t.isMapping = false
  | .none => True

/-- What is known of the results at a stage. -/
def StageResults (m : Endpoint → Endpoint) (localAddr : NetAddr) (server other : Endpoint)
    (c : Course) : Prop :=
  match c.stage with
  | .waiting => c.results = .zeroed
  | .starting _ => False
  | .running .bindingTest1 => c.results = { StunResults.zeroed with localAddr } ∧
      (.bindingTest1, server.addr) ∈ c.sends
  | .completed .bindingTest1 => c.results = boundResults m localAddr server other
  | .running .behaviorTest1 => c.results = boundResults m localAddr server other ∧
      (m server).addr ≠ localAddr ∧
      (.behaviorTest1, Endpoint.addr ⟨other.host, server.port⟩) ∈ c.sends
  | .completed .behaviorTest1 => c.results = mappedResults m localAddr server other
  | .running .behaviorTest2 => c.results = mappedResults m localAddr server other ∧
      (m server).addr ≠ localAddr ∧ m ⟨other.host, server.port⟩ ≠ m server ∧
      (.behaviorTest2, other.addr) ∈ c.sends
  | .completed .behaviorTest2 => c.results = classifiedResults m localAddr server other
  | _ => c.results.unfiltered = classifiedResults m localAddr server other

structure Classified (m : Endpoint → Endpoint) (localAddr : NetAddr) (server other : Endpoint)
    (c : Course) : Prop where
  localAddr_eq : c.localAddr = localAddr
  resolution_eq : c.resolution = some server.addr
  primaryServerAddr_eq : c.stage = .waiting ∨ c.primaryServerAddr = server.addr
  results : StageResults m localAddr server other c

section Steps

variable {m : Endpoint → Endpoint} {localAddr : NetAddr} {server other : Endpoint}
  {c c' : Course} {input : StunInput} {t t' : StunTestId}

/-- A test after the first one starts. -/
theorem Classified.next_results (h : Classified m localAddr server other c)
    (hstage : c.stage = .completed t) (hnext : t.next = some t') :
    (∀ destAddr, (c.startOf t').2 = some destAddr →
        StageResults m localAddr server other (c.requested t' destAddr)) ∧
      ((c.startOf t').2 = none →
        StageResults m localAddr server other (c.completed t' (c.startOf t').1)) := by
  have hresults := h.results
  have hserver : c.primaryServerAddr = server.addr :=
    h.primaryServerAddr_eq.resolve_left (by simp [hstage])
  unfold StageResults at hresults
  rw [hstage] at hresults
  unfold Course.startOf Course.requested Course.completed StageResults
  rw [Course.startOf, hserver, h.localAddr_eq]
  cases t with
  | bindingTest1 =>
    cases hnext
    rw [hresults, stunStart_behaviorTest1]
    by_cases hdirect : (m server).addr = localAddr
    · simp [hdirect]
    · simp [hdirect]
  | behaviorTest1 =>
    cases hnext
    rw [hresults, stunStart_behaviorTest2]
    by_cases hclass : (m server).addr = localAddr ∨ m ⟨other.host, server.port⟩ = m server
    · simp [hclass]
    · rw [if_neg hclass]
      rw [not_or] at hclass
      simp [hclass]
  | behaviorTest2 =>
    cases hnext
    have hkeeps : c.results.unfiltered = classifiedResults m localAddr server other := by
      rw [hresults, unfiltered_classifiedResults]
    exact ⟨fun _ _ => (unfiltered_stunStart rfl).trans hkeeps,
      fun _ => (unfiltered_stunStart rfl).trans hkeeps⟩
  | filteringTest1 =>
    cases hnext
    exact ⟨fun _ _ => (unfiltered_stunStart rfl).trans hresults,
      fun _ => (unfiltered_stunStart rfl).trans hresults⟩
  | filteringTest2 => cases hnext

theorem Answering.carries {sends : List (StunTestId × NetAddr)} {packetAddr : NetAddr}
    {bindingResponse : StunBindingResponse} {e : Endpoint}
    (h : Answering m other sends (.answer t packetAddr bindingResponse)) (ht : t.isMapping = true)
    (hsent : (t, e.addr) ∈ sends) : Carries bindingResponse (m e) other :=
  h ht (t, e.addr) hsent rfl

/-- Sending again changes nothing. -/
theorem StageResults.retry (h : StageResults m localAddr server other c)
    (hstage : c.stage = .running t) (destAddr : NetAddr) :
    StageResults m localAddr server other { c with sends := c.sends ++ [(t, destAddr)] } := by
  unfold StageResults at h ⊢
  rw [hstage] at h
  simp only [hstage]
  cases t with
  | bindingTest1 => exact ⟨h.1, List.mem_append_left _ h.2⟩
  | behaviorTest1 => exact ⟨h.1, h.2.1, List.mem_append_left _ h.2.2⟩
  | behaviorTest2 => exact ⟨h.1, h.2.1, h.2.2.1, List.mem_append_left _ h.2.2.2⟩
  | filteringTest1 | filteringTest2 => exact h

theorem Classified.answer_results (h : Classified m localAddr server other c)
    (hstage : c.stage = .running t) {packetAddr : NetAddr} {bindingResponse : StunBindingResponse}
    (hanswering : Answering m other c.sends (.answer t packetAddr bindingResponse)) :
    StageResults m localAddr server other (c.completed t
      (responseResults c.primaryServerAddr packetAddr bindingResponse c.results t)) := by
  have hresults := h.results
  have hserver : c.primaryServerAddr = server.addr :=
    h.primaryServerAddr_eq.resolve_left (by simp [hstage])
  unfold StageResults at hresults
  rw [hstage] at hresults
  cases t with
  | bindingTest1 =>
    obtain ⟨hresults, hsent⟩ := hresults
    show bindingResults c.primaryServerAddr bindingResponse c.results = _
    rw [hresults, hserver]
    exact bindingResults_eq (hanswering.carries rfl hsent)
  | behaviorTest1 =>
    obtain ⟨hresults, hdirect, hsent⟩ := hresults
    show behavior1Results bindingResponse c.results = _
    rw [hresults]
    exact behavior1Results_eq hdirect (hanswering.carries rfl hsent)
  | behaviorTest2 =>
    obtain ⟨hresults, hdirect, hdependent, hsent⟩ := hresults
    show behavior2Results bindingResponse c.results = _
    rw [hresults]
    exact behavior2Results_eq hdirect hdependent (hanswering.carries rfl hsent)
  | filteringTest1 | filteringTest2 => exact (unfiltered_responseResults rfl).trans hresults

theorem Classified.advance (h : Classified m localAddr server other c)
    (hanswering : Answering m other c.sends input) (hadvance : Advance c input c') :
    Classified m localAddr server other c' := by
  have hserver : ∀ stage, c.stage = stage → stage ≠ .waiting → c.primaryServerAddr = server.addr :=
    fun stage hstage hne => h.primaryServerAddr_eq.resolve_left (hstage ▸ hne)
  have hresults := h.results
  unfold StageResults at hresults
  cases hadvance with
  | quiet => exact h
  | request hstarts hdest =>
    cases hstarts with
    | first hstage hresolution =>
      rw [hstage] at hresults
      rw [h.resolution_eq] at hresolution
      cases hresolution
      cases hdest
      refine ⟨h.localAddr_eq, h.resolution_eq, .inr rfl, ?_, List.mem_append_right _ ?_⟩
      · show { c.results with localAddr := c.localAddr } = _
        rw [hresults, h.localAddr_eq]
      · exact List.mem_singleton_self _
    | next hstage hnext =>
      exact ⟨h.localAddr_eq, h.resolution_eq, .inr (hserver _ hstage nofun),
        (h.next_results hstage hnext).1 _ hdest⟩
  | skip hstarts hdest =>
    cases hstarts with
    | first hstage hresolution => cases hdest
    | next hstage hnext =>
      exact ⟨h.localAddr_eq, h.resolution_eq, .inr (hserver _ hstage nofun),
        (h.next_results hstage hnext).2 hdest⟩
  | retry hstage destAddr =>
    exact ⟨h.localAddr_eq, h.resolution_eq, h.primaryServerAddr_eq,
      h.results.retry hstage destAddr⟩
  | answer hstage packetAddr bindingResponse =>
    exact ⟨h.localAddr_eq, h.resolution_eq, .inr (hserver _ hstage nofun),
      h.answer_results hstage hanswering⟩
  | @exhaust t hstage =>
    refine ⟨h.localAddr_eq, h.resolution_eq, .inr (hserver _ hstage nofun), ?_⟩
    rw [hstage] at hresults
    cases t with
    | bindingTest1 | behaviorTest1 | behaviorTest2 => cases hanswering
    | filteringTest1 | filteringTest2 => exact (unfiltered_testSuccessCheck rfl).trans hresults
  | @resolve t hstage hnext hsuccess | @fail t hstage hnext hsuccess =>
    rw [hstage] at hresults
    refine ⟨h.localAddr_eq, h.resolution_eq, .inr (hserver _ hstage nofun), ?_⟩
    cases t <;> cases hnext
    exact hresults

end Steps

/-! ## Runs -/

/-- No request of the binding and behavior tests goes unanswered, and the answers are those of a
server behind `m`. -/
def AllAnswered (m : Endpoint → Endpoint) (other : Endpoint) (stun : Stun) (action : StunAction) :
    Prop :=
  Answering m other stun.sends (stun.input action)

instance (bindingResponse : StunBindingResponse) (mapped other : Endpoint) :
    Decidable (Carries bindingResponse mapped other) :=
  inferInstanceAs (Decidable (_ ∧ _))

instance (m : Endpoint → Endpoint) (other : Endpoint) (sends : List (StunTestId × NetAddr)) :
    ∀ input : StunInput, Decidable (Answering m other sends input)
  | .answer t _ bindingResponse => inferInstanceAs (Decidable (t.isMapping = true → ∀ x ∈ sends,
      x.1 = t → Carries bindingResponse (m x.2.endpoint) other))
  | .exhaust t => inferInstanceAs (Decidable (t.isMapping = false))
  | .none => inferInstanceAs (Decidable True)

instance (m : Endpoint → Endpoint) (other : Endpoint) (stun : Stun) (action : StunAction) :
    Decidable (AllAnswered m other stun action) :=
  inferInstanceAs (Decidable (Answering m other stun.sends (stun.input action)))

section Runs

variable {packets : Nat → Vector UInt8 kNetPacketMaxLen} {receiveCallback : Option Nat}
  {receiveCallbackContext : Nat} {receiveBlock : Option Nat} {localAddr : NetAddr}
  {maxRetries : Nat} {m : Endpoint → Endpoint} {server other : Endpoint}

theorem classified_stunResolve : Classified m localAddr server other
    ((stunResolve packets receiveCallback receiveCallbackContext receiveBlock localAddr
      (some server.addr) maxRetries).course .waiting) :=
  ⟨rfl, rfl, .inl rfl, rfl⟩

theorem classifiedResults_natBehavior :
    (classifiedResults m localAddr server other).natBehavior =
      if (m server).addr = localAddr then .directMapping
      else if m ⟨other.host, server.port⟩ = m server then .endpointIndependentMapping
      else if m other = m server then .addressDependentMapping
      else .addressAndPortDependentMapping := by
  by_cases hdirect : (m server).addr = localAddr
  · simp [classifiedResults, mappedResults, hdirect]
  · by_cases hindependent : m ⟨other.host, server.port⟩ = m server
    · simp [classifiedResults, mappedResults, hdirect, hindependent]
    · simp [classifiedResults, hdirect, hindependent]

theorem classifiedResults_iff :
    (classifiedResults m localAddr server other).natBehavior =
        mappingBehavior m localAddr server other ↔
      (m server).addr = localAddr ∨ m ⟨other.host, server.port⟩ = m server ∨
        m other ≠ m server ∧ m other ≠ m ⟨other.host, server.port⟩ := by
  rw [classifiedResults_natBehavior, mappingBehavior]
  by_cases hdirect : (m server).addr = localAddr
  · simp [hdirect]
  · by_cases hindependent : m ⟨other.host, server.port⟩ = m server
    · simp [hdirect, hindependent]
    · by_cases hsame : m other = m server
      · simp [hdirect, hindependent, hsame, Ne.symm hindependent]
      · by_cases hport : m other = m ⟨other.host, server.port⟩
        · simp [hdirect, hindependent, hport]
        · simp [hdirect, hindependent, hsame, hport]

/-- The class of the mapping stands once the behavior tests are over. -/
theorem Classified.natBehavior_eq {c : Course} (h : Classified m localAddr server other c)
    (hfinished : .behaviorTest2 ∈ c.stage.finished) :
    c.results.natBehavior = (classifiedResults m localAddr server other).natBehavior := by
  have hresults := h.results
  have hkeeps : c.results.unfiltered.natBehavior = c.results.natBehavior := rfl
  unfold StageResults at hresults
  rw [← hkeeps]
  cases hstage : c.stage with
  | waiting => simp [hstage, Stage.finished] at hfinished
  | starting t => simp [hstage] at hresults
  | running t =>
    rw [hstage] at hfinished hresults
    cases t with
    | filteringTest1 | filteringTest2 => exact congrArg _ hresults
    | _ => simp [Stage.finished, StunTestId.before] at hfinished
  | completed t =>
    rw [hstage] at hfinished hresults
    cases t with
    | behaviorTest2 => exact hkeeps.trans (congrArg StunResults.natBehavior hresults)
    | filteringTest1 | filteringTest2 => exact congrArg _ hresults
    | _ => simp [Stage.finished, StunTestId.before] at hfinished
  | ended didResolve =>
    rw [hstage] at hresults
    exact congrArg _ hresults

/-- **The class of the mapping is right exactly when the last address is new, or not needed.** For
every NAT mapping `m` and every run in which the requests of the binding and behavior tests are
answered with the addresses that `m` gives for their destinations, after the behavior tests
`natBehavior` is the class of `m` if and only if `m` is direct or endpoint-independent, or gives
`other` an address that differs from the two before. -/
theorem mapping_classified {stun : Stun} {actions : List StunAction}
    (hrun : run stunStep (stunResolve packets receiveCallback receiveCallbackContext receiveBlock
      localAddr (some server.addr) maxRetries) actions = some stun)
    (hanswered : Along stunStep (AllAnswered m other) (stunResolve packets receiveCallback
      receiveCallbackContext receiveBlock localAddr (some server.addr) maxRetries) actions)
    (hcomplete : .complete .behaviorTest2 ∈ stun.log) :
    stun.results.natBehavior = mappingBehavior m localAddr server other ↔
      (m server).addr = localAddr ∨ m ⟨other.host, server.port⟩ = m server ∨
        m other ≠ m server ∧ m other ≠ m ⟨other.host, server.port⟩ := by
  obtain ⟨stage, h, hclassified⟩ := course_run (P := Classified m localAddr server other)
    (sequenced_stunResolve packets receiveCallback receiveCallbackContext receiveBlock localAddr
      server.addr maxRetries) classified_stunResolve
    (fun _ _ _ _ hold hok hadvance => hold.advance hok hadvance) hrun hanswered
  have hclass := hclassified.natBehavior_eq (h.finished_of hcomplete)
  have hresults : (stun.course stage).results = stun.results := rfl
  rw [← hresults, hclass]
  exact classifiedResults_iff

end Runs

/-! ## Two NATs -/

def byteEndpoint (host port : UInt8) : Endpoint := (byteAddr host port).endpoint

/-- The external port has the bits of the host, and four bits above it those of the port. -/
def portNat (e : Endpoint) : Endpoint :=
  ⟨htonl 8, (e.host >>> 16).toUInt16 + e.port * 16⟩

/-- The external port has the bits of the host. -/
def hostNat (e : Endpoint) : Endpoint := ⟨htonl 8, (e.host >>> 16).toUInt16⟩

/-- The binding and behavior tests, with the ports that the NAT gives them. -/
def mappedTo (port port' port'' : UInt8) : List StunAction :=
  [.block (byteId 5)] ++ respond 5 (1, 1) (8, port) (2, 2) ++
    [.block (byteId 6)] ++ respond 6 (2, 1) (8, port') (2, 2) ++
    [.block (byteId 7)] ++ respond 7 (2, 2) (8, port'') (2, 2)

theorem mapping_classified_portNat : ∃ stun,
    run stunStep (byteStun 1) (mappedTo 17 18 34) = some stun ∧
      .complete .behaviorTest2 ∈ stun.log ∧ stun.results.natBehavior =
        mappingBehavior portNat (byteAddr 9 9) (byteEndpoint 1 1) (byteEndpoint 2 2) := by
  have hstate : (run stunStep (byteStun 1) (mappedTo 17 18 34)).map (fun stun =>
      decide (.complete .behaviorTest2 ∈ stun.log)) = some true := by
    decide +kernel
  have hanswered : Along stunStep (AllAnswered portNat (byteEndpoint 2 2)) (byteStun 1)
      (mappedTo 17 18 34) := by
    decide +kernel
  obtain ⟨stun, hrun, hmem⟩ := Option.map_eq_some_iff.1 hstate
  have hcomplete := of_decide_eq_true hmem
  have hclass := @mapping_classified _ _ _ _ (byteAddr 9 9) 1 portNat (byteEndpoint 1 1)
    (byteEndpoint 2 2) stun _ hrun hanswered hcomplete
  exact ⟨stun, hrun, hcomplete, hclass.2 (by decide +kernel)⟩

/-- A mapping that depends on the host alone is taken for one that depends on the port too. -/
theorem hostNat_misclassified : ∃ stun,
    run stunStep (byteStun 1) (mappedTo 1 2 2) = some stun ∧
      Along stunStep (AllAnswered hostNat (byteEndpoint 2 2)) (byteStun 1) (mappedTo 1 2 2) ∧
      .complete .behaviorTest2 ∈ stun.log ∧
      mappingBehavior hostNat (byteAddr 9 9) (byteEndpoint 1 1) (byteEndpoint 2 2) =
        .addressDependentMapping ∧
      stun.results.natBehavior = .addressAndPortDependentMapping := by
  have hstate : (run stunStep (byteStun 1) (mappedTo 1 2 2)).map (fun stun =>
      decide (.complete .behaviorTest2 ∈ stun.log ∧
        stun.results.natBehavior = .addressAndPortDependentMapping)) = some true := by
    decide +kernel
  have hanswered : Along stunStep (AllAnswered hostNat (byteEndpoint 2 2)) (byteStun 1)
      (mappedTo 1 2 2) := by
    decide +kernel
  obtain ⟨stun, hrun, hmem⟩ := Option.map_eq_some_iff.1 hstate
  obtain ⟨hcomplete, hbehavior⟩ := of_decide_eq_true hmem
  exact ⟨stun, hrun, hanswered, hcomplete, by decide +kernel, hbehavior⟩

end UniversalNetwork
