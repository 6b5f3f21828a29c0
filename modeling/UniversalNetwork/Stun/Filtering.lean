import UniversalNetwork.Stun.Behavior
import UniversalNetwork.Stun.Ownership

/-!
# How the filter of a NAT is classified

A NAT lets a datagram in by where it comes from and by what the client has sent. The server answers
from where it was asked, and the filtering tests from another address. In a run without losses
(`Lossless`) a response is dropped by the filter or handled, so that the results of the filtering
tests are known as well: `filteredResults`. The behavior tests have contacted the other host by
then, and the second filtering test expects the wrong source.

Result: `filtering_classified`.
-/

namespace UniversalNetwork

open Lib

/-! ## NATs and the server -/

inductive NatFilter
  | endpointIndependent
  | addressDependent
  | addressAndPortDependent
deriving DecidableEq, Repr

namespace NatFilter

/-- Whether a datagram from `source` is let in when the client has sent to `contacted`. -/
def accepts (contacted : List Endpoint) (source : Endpoint) : NatFilter → Prop
  | endpointIndependent => True
  | addressDependent => ∃ e ∈ contacted, e.host = source.host
  | addressAndPortDependent => source ∈ contacted

instance (contacted : List Endpoint) (source : Endpoint) :
    ∀ filter : NatFilter, Decidable (filter.accepts contacted source)
  | endpointIndependent => inferInstanceAs (Decidable True)
  | addressDependent => inferInstanceAs (Decidable (∃ e ∈ contacted, e.host = source.host))
  | addressAndPortDependent => inferInstanceAs (Decidable (source ∈ contacted))

/-- The class that the results should name. -/
def natFiltering : NatFilter → StunNatFiltering
  | endpointIndependent => .endpointIndependentFiltering
  | addressDependent => .addressDependentFiltering
  | addressAndPortDependent => .addressAndPortDependentFiltering

end NatFilter

/-- Where the server answers the request of a test from: a plain request from where it was sent to,
CHANGE-REQUEST of host and port, or of the port. -/
def responseSource (server other destAddr : Endpoint) : StunTestId → Endpoint
  | .bindingTest1 | .behaviorTest1 | .behaviorTest2 => destAddr
  | .filteringTest1 => other
  | .filteringTest2 => ⟨server.host, other.port⟩

def contacted (sends : List (StunTestId × NetAddr)) : List Endpoint :=
  sends.map fun x => x.2.endpoint

/-- A response that is handled is one of the server's and was let in; a test is only given up when
its response is not let in. -/
def LosslessInput (m : Endpoint → Endpoint) (filter : NatFilter) (server other : Endpoint)
    (sends : List (StunTestId × NetAddr)) : StunInput → Prop
  | .answer t packetAddr bindingResponse => ∀ x ∈ sends, x.1 = t →
      packetAddr = (responseSource server other x.2.endpoint t).addr ∧
      filter.accepts (contacted sends) (responseSource server other x.2.endpoint t) ∧
      Carries bindingResponse (m x.2.endpoint) other
  | .exhaust t => ∀ x ∈ sends, x.1 = t →
      ¬ filter.accepts (contacted sends) (responseSource server other x.2.endpoint t)
  | .none => True

/-- Where the tests send to. -/
def stunDest (server other : Endpoint) : StunTestId → Endpoint
  | .bindingTest1 | .filteringTest1 | .filteringTest2 => server
  | .behaviorTest1 => ⟨other.host, server.port⟩
  | .behaviorTest2 => other

section Nat

variable (m : Endpoint → Endpoint) (filter : NatFilter) (localAddr : NetAddr)
  (server other : Endpoint)

/-- The behavior tests that send. -/
def Needed : StunTestId → Prop
  | .behaviorTest1 => (m server).addr ≠ localAddr
  | .behaviorTest2 => (m server).addr ≠ localAddr ∧ m ⟨other.host, server.port⟩ ≠ m server
  | _ => True

/-- Filtering test 1 is not needed, or its response is let in. -/
def Passes : Prop :=
  (m server).addr = localAddr ∨ filter ≠ .addressAndPortDependent ∨
    m ⟨other.host, server.port⟩ ≠ m server

instance : Decidable (Passes m filter localAddr server other) :=
  inferInstanceAs (Decidable (_ ∨ _ ∨ _))

/-- After the filtering tests. -/
def filteredResults : StunResults :=
  let results := classifiedResults m localAddr server other
  if Passes m filter localAddr server other then
    { results with
      natFiltering := .endpointIndependentFiltering, didFilteringTestSuccess := true }
  else results

end Nat

/-! ## What is contacted -/

/-- Only the tests that need to have sent, to where they should. -/
structure Contacted (m : Endpoint → Endpoint) (localAddr : NetAddr) (server other : Endpoint)
    (c : Course) : Prop where
  sent : ∀ x ∈ c.sends, x.2 = (stunDest server other x.1).addr ∧
    Needed m localAddr server other x.1
  running : ∀ t, c.stage = .running t → (t, (stunDest server other t).addr) ∈ c.sends
  finished : ∀ t ∈ c.stage.finished, t.isMapping = true → Needed m localAddr server other t →
    (t, (stunDest server other t).addr) ∈ c.sends

section Contacted

variable {m : Endpoint → Endpoint} {filter : NatFilter} {localAddr : NetAddr}
  {server other : Endpoint} {c c₀ c' : Course} {input : StunInput} {t : StunTestId}

theorem stunStart_dest_of_filtering {primaryServerAddr destAddr : NetAddr} {results : StunResults}
    (ht : t.isMapping = false)
    (hdest : (stunStart primaryServerAddr localAddr results t).2 = some destAddr) :
    destAddr = primaryServerAddr := by
  cases t with
  | bindingTest1 | behaviorTest1 | behaviorTest2 => cases ht
  | filteringTest1 | filteringTest2 =>
    simp only [stunStart] at hdest
    split at hdest
    · cases hdest
    · split at hdest
      · cases hdest
      · exact (Option.some.inj hdest).symm

theorem Classified.start_dest (h : Classified m localAddr server other c)
    (hstarts : Starts c t c₀) :
    (∀ destAddr, (c₀.startOf t).2 = some destAddr →
        destAddr = (stunDest server other t).addr ∧ Needed m localAddr server other t) ∧
      ((c₀.startOf t).2 = none → t.isMapping = true → ¬ Needed m localAddr server other t) := by
  have hresults := h.results
  unfold StageResults at hresults
  cases hstarts with
  | first hstage hresolution =>
    rw [h.resolution_eq] at hresolution
    cases hresolution
    refine ⟨fun destAddr hdest => ?_, by intro hnone; cases hnone⟩
    cases hdest
    exact ⟨rfl, trivial⟩
  | @next t' t hstage hnext =>
    have hserver : c.primaryServerAddr = server.addr :=
      h.primaryServerAddr_eq.resolve_left (by simp [hstage])
    rw [hstage] at hresults
    rw [Course.startOf, hserver, h.localAddr_eq]
    cases t' with
    | bindingTest1 =>
      cases hnext
      rw [hresults, stunStart_behaviorTest1]
      by_cases hdirect : (m server).addr = localAddr
      · rw [if_pos hdirect]
        exact ⟨by simp, fun _ _ hneeded => hneeded hdirect⟩
      · rw [if_neg hdirect]
        refine ⟨fun destAddr hdest => ?_, by simp⟩
        cases hdest
        exact ⟨rfl, hdirect⟩
    | behaviorTest1 =>
      cases hnext
      rw [hresults, stunStart_behaviorTest2]
      by_cases hclass : (m server).addr = localAddr ∨ m ⟨other.host, server.port⟩ = m server
      · rw [if_pos hclass]
        refine ⟨by simp, fun _ _ hneeded => ?_⟩
        exact hclass.elim hneeded.1 hneeded.2
      · rw [if_neg hclass]
        rw [not_or] at hclass
        refine ⟨fun destAddr hdest => ?_, by simp⟩
        cases hdest
        exact ⟨rfl, hclass⟩
    | behaviorTest2 | filteringTest1 =>
      cases hnext
      exact ⟨fun destAddr hdest => ⟨stunStart_dest_of_filtering rfl hdest, trivial⟩,
        fun _ hmapping => absurd hmapping Bool.false_ne_true⟩
    | filteringTest2 => cases hnext

theorem Starts.stage_eq (hstarts : Starts c t c₀) :
    c₀.sends = c.sends ∧ c.stage.finished = t.before := by
  cases hstarts with
  | first hstage hresolution => exact ⟨rfl, by rw [hstage]; rfl⟩
  | next hstage hnext =>
    rw [hstage]
    exact ⟨rfl, (before_of_next hnext).symm⟩

theorem Contacted.advance (h : Contacted m localAddr server other c)
    (hclassified : Classified m localAddr server other c)
    (hsame : ∀ x ∈ c'.sends, ∀ y ∈ c'.sends, x.1 = y.1 → x.2 = y.2)
    (hadvance : Advance c input c') : Contacted m localAddr server other c' := by
  cases hadvance with
  | quiet => exact h
  | @request t destAddr c₀ hstarts hdest =>
    obtain ⟨hsends, hfinished⟩ := hstarts.stage_eq
    obtain ⟨rfl, hneeded⟩ := (hclassified.start_dest hstarts).1 destAddr hdest
    have hself : (t, (stunDest server other t).addr) ∈ (c₀.requested t _).sends :=
      List.mem_append_right _ (List.mem_singleton_self _)
    refine ⟨fun x hx => ?_, fun t' hstage => ?_, fun t' ht' hmapping hneeded' => ?_⟩
    · cases List.mem_append.1 hx with
      | inl hold => exact h.sent x (hsends ▸ hold)
      | inr hnew =>
        rw [List.mem_singleton.1 hnew]
        exact ⟨rfl, hneeded⟩
    · cases hstage
      exact hself
    · have hold : t' ∈ c.stage.finished := hfinished ▸ ht'
      exact List.mem_append_left _ (hsends ▸ h.finished t' hold hmapping hneeded')
  | @skip t c₀ hstarts hdest =>
    obtain ⟨hsends, hfinished⟩ := hstarts.stage_eq
    refine ⟨fun x hx => h.sent x (hsends ▸ hx), nofun, fun t' ht' hmapping hneeded => ?_⟩
    cases List.mem_append.1 ht' with
    | inl hold => exact hsends ▸ h.finished t' (hfinished ▸ hold) hmapping hneeded
    | inr hnew =>
      obtain rfl := List.mem_singleton.1 hnew
      exact absurd hneeded ((hclassified.start_dest hstarts).2 hdest hmapping)
  | @retry t hstage destAddr =>
    have hself := h.running t hstage
    refine ⟨fun x hx => ?_, fun t' hstage' => List.mem_append_left _ (h.running t' hstage'),
      fun t' ht' hmapping hneeded => List.mem_append_left _ (h.finished t' ht' hmapping hneeded)⟩
    cases List.mem_append.1 hx with
    | inl hold => exact h.sent x hold
    | inr hnew =>
      rw [List.mem_singleton.1 hnew]
      refine ⟨?_, (h.sent _ hself).2⟩
      exact hsame _ (List.mem_append_right _ (List.mem_singleton_self _)) _
        (List.mem_append_left _ hself) rfl
  | @answer t hstage packetAddr bindingResponse | @exhaust t hstage =>
    refine ⟨h.sent, nofun, fun t' ht' hmapping hneeded => ?_⟩
    cases List.mem_append.1 ht' with
    | inl hold => exact h.finished t' (by rw [hstage]; exact hold) hmapping hneeded
    | inr hnew =>
      obtain rfl := List.mem_singleton.1 hnew
      exact h.running t' hstage
  | @resolve t hstage hnext hsuccess | @fail t hstage hnext hsuccess =>
    refine ⟨h.sent, nofun, fun t' ht' => h.finished t' ?_⟩
    have hall : c.stage.finished = stunTests := by
      rw [hstage]
      exact before_of_last hnext
    exact hall ▸ ht'

/-- The responses to plain requests are let in. -/
theorem LosslessInput.answering (h : Contacted m localAddr server other c)
    (hlossless : LosslessInput m filter server other c.sends input) (hadvance : Advance c input c') :
    Answering m other c.sends input := by
  cases hadvance with
  | answer hstage packetAddr bindingResponse => exact fun _ x hx ht => (hlossless x hx ht).2.2
  | @exhaust t hstage =>
    have hself := h.running t hstage
    by_contra hmapping
    have hcontacted : stunDest server other t ∈ contacted c.sends :=
      List.mem_map.2 ⟨_, hself, rfl⟩
    have hsource : responseSource server other (stunDest server other t) t =
        stunDest server other t := by
      cases t with
      | bindingTest1 | behaviorTest1 | behaviorTest2 => rfl
      | filteringTest1 | filteringTest2 => exact absurd rfl hmapping
    have hdropped : ¬ filter.accepts (contacted c.sends) (stunDest server other t) :=
      hsource ▸ hlossless _ hself rfl
    cases filter with
    | endpointIndependent => exact hdropped trivial
    | addressDependent => exact hdropped ⟨_, hcontacted, rfl⟩
    | addressAndPortDependent => exact hdropped hcontacted
  | _ => trivial

end Contacted

/-! ## The filtering tests -/

/-- What is known of the results from filtering test 1 on. -/
def Filtered (m : Endpoint → Endpoint) (filter : NatFilter) (localAddr : NetAddr)
    (server other : Endpoint) (c : Course) : Prop :=
  match c.stage with
  | .running .filteringTest1 => c.results = classifiedResults m localAddr server other ∧
      (m server).addr ≠ localAddr
  | .running .filteringTest2 => c.results = classifiedResults m localAddr server other ∧
      ¬ Passes m filter localAddr server other
  | .completed .filteringTest1 | .completed .filteringTest2 | .ended _ =>
    c.results = filteredResults m filter localAddr server other
  | _ => True

section Filtered

variable {m : Endpoint → Endpoint} {filter : NatFilter} {localAddr : NetAddr}
  {server other : Endpoint} {c c' : Course} {input : StunInput} {t : StunTestId}

theorem classifiedResults_bound :
    (classifiedResults m localAddr server other).didBindingTestSuccess = true ∧
      (classifiedResults m localAddr server other).isMappingDirect =
        decide ((m server).addr = localAddr) ∧
      (classifiedResults m localAddr server other).hasOtherServerAddress = true ∧
      (classifiedResults m localAddr server other).otherServerAddr = other.addr ∧
      (classifiedResults m localAddr server other).didFilteringTestSuccess = false := by
  simp only [classifiedResults, mappedResults, boundResults]
  refine ⟨?_, ?_, ?_, ?_, ?_⟩ <;> (repeat' split) <;> rfl

theorem stunStart_filteringTest1 : stunStart server.addr localAddr
    (classifiedResults m localAddr server other) .filteringTest1 =
      if (m server).addr = localAddr then (filteredResults m filter localAddr server other, none)
      else (classifiedResults m localAddr server other, some server.addr) := by
  obtain ⟨hbinding, hmapping, hother, -, -⟩ := @classifiedResults_bound m localAddr server other
  by_cases hdirect : (m server).addr = localAddr
  · simp [stunStart, hbinding, hmapping, hdirect, filteredResults, Passes]
  · simp [stunStart, hbinding, hmapping, hother, hdirect]

theorem stunStart_filteringTest2 : stunStart server.addr localAddr
    (filteredResults m filter localAddr server other) .filteringTest2 =
      if Passes m filter localAddr server other then
        (filteredResults m filter localAddr server other, none)
      else (classifiedResults m localAddr server other, some server.addr) := by
  obtain ⟨-, -, hother, -, hfiltering⟩ := @classifiedResults_bound m localAddr server other
  by_cases hpasses : Passes m filter localAddr server other
  · simp [stunStart, filteredResults, hpasses]
  · simp [stunStart, filteredResults, hpasses, hother, hfiltering]

/-- Giving up a filtering test says what was said before. -/
theorem testSuccessCheck_classifiedResults (ht : t.isMapping = false) :
    testSuccessCheck (classifiedResults m localAddr server other) t =
      classifiedResults m localAddr server other := by
  obtain ⟨-, -, -, -, hfiltering⟩ := @classifiedResults_bound m localAddr server other
  cases t with
  | bindingTest1 | behaviorTest1 | behaviorTest2 => cases ht
  | filteringTest1 | filteringTest2 =>
    show { classifiedResults m localAddr server other with didFilteringTestSuccess := false } = _
    rw [← hfiltering]

/-- The response to filtering test 1 is let in if it passes: the behavior tests have contacted the
other host, and its other port when the first two addresses differ. -/
theorem Contacted.accepts_iff (h : Contacted m localAddr server other c)
    (hhost : server.host ≠ other.host) (hport : server.port ≠ other.port)
    (hstage : c.stage = .running .filteringTest1) (hdirect : (m server).addr ≠ localAddr) :
    filter.accepts (contacted c.sends) other ↔ Passes m filter localAddr server other := by
  have hfinished : c.stage.finished = StunTestId.filteringTest1.before := by rw [hstage]; rfl
  cases filter with
  | endpointIndependent => exact iff_of_true trivial (.inr (.inl nofun))
  | addressDependent =>
    have hsent := h.finished .behaviorTest1 (by rw [hfinished]; decide) rfl hdirect
    exact iff_of_true ⟨_, List.mem_map.2 ⟨_, hsent, rfl⟩, rfl⟩ (.inr (.inl nofun))
  | addressAndPortDependent =>
    constructor
    · intro haccepts
      obtain ⟨⟨t, destAddr⟩, hx, hsource⟩ := List.mem_map.1 haccepts
      obtain ⟨hdest, hneeded⟩ := h.sent _ hx
      have hother : stunDest server other t = other :=
        (congrArg NetAddr.endpoint hdest).symm.trans hsource
      cases t with
      | bindingTest1 | filteringTest1 | filteringTest2 =>
        exact absurd (congrArg Endpoint.host hother) hhost
      | behaviorTest1 => exact absurd (congrArg Endpoint.port hother) hport
      | behaviorTest2 => exact .inr (.inr hneeded.2)
    · intro hpasses
      have hdependent := (hpasses.resolve_left hdirect).resolve_left (by simp)
      have hsent := h.finished .behaviorTest2 (by rw [hfinished]; decide) rfl ⟨hdirect, hdependent⟩
      exact List.mem_map.2 ⟨_, hsent, rfl⟩

theorem Filtered.next (h : Filtered m filter localAddr server other c)
    (hclassified : Classified m localAddr server other c) {t' : StunTestId}
    (hstage : c.stage = .completed t) (hnext : t.next = some t') :
    (∀ destAddr, (c.startOf t').2 = some destAddr →
        Filtered m filter localAddr server other (c.requested t' destAddr)) ∧
      ((c.startOf t').2 = none →
        Filtered m filter localAddr server other (c.completed t' (c.startOf t').1)) := by
  have hserver : c.primaryServerAddr = server.addr :=
    hclassified.primaryServerAddr_eq.resolve_left (by simp [hstage])
  have hresults := hclassified.results
  unfold StageResults at hresults
  unfold Filtered at h
  rw [hstage] at h hresults
  unfold Course.startOf Course.requested Course.completed Filtered
  rw [Course.startOf, hserver, hclassified.localAddr_eq]
  cases t with
  | bindingTest1 | behaviorTest1 =>
    cases hnext
    exact ⟨fun _ _ => trivial, fun _ => trivial⟩
  | behaviorTest2 =>
    cases hnext
    rw [hresults, @stunStart_filteringTest1 m filter]
    by_cases hdirect : (m server).addr = localAddr
    · simp [hdirect]
    · simp [hdirect]
  | filteringTest1 =>
    cases hnext
    rw [h, stunStart_filteringTest2]
    by_cases hpasses : Passes m filter localAddr server other
    · simp [hpasses]
    · simp [hpasses]
  | filteringTest2 => cases hnext

/-- The second filtering test takes the address it should come from for a foreign one. -/
theorem filtering2Results_eq (hhost : server.host ≠ other.host) :
    filtering2Results (Endpoint.addr ⟨server.host, other.port⟩)
      (classifiedResults m localAddr server other) = classifiedResults m localAddr server other := by
  obtain ⟨-, -, -, hother, -⟩ := @classifiedResults_bound m localAddr server other
  have hne : other ≠ ⟨server.host, other.port⟩ := fun heq =>
    hhost (congrArg Endpoint.host heq).symm
  simp [filtering2Results, hother, netAddrIsEqual_addr, hne]

theorem filtering1Results_eq (hpasses : Passes m filter localAddr server other) :
    filtering1Results other.addr (classifiedResults m localAddr server other) =
      filteredResults m filter localAddr server other := by
  obtain ⟨-, -, -, hother, -⟩ := @classifiedResults_bound m localAddr server other
  simp [filtering1Results, filteredResults, hother, netAddrIsEqual_addr, hpasses]

theorem Filtered.answer (h : Filtered m filter localAddr server other c)
    (hcontacted : Contacted m localAddr server other c) (hhost : server.host ≠ other.host)
    (hport : server.port ≠ other.port) (hstage : c.stage = .running t) {packetAddr : NetAddr}
    {bindingResponse : StunBindingResponse}
    (hlossless : LosslessInput m filter server other c.sends
      (.answer t packetAddr bindingResponse)) :
    Filtered m filter localAddr server other (c.completed t
      (responseResults c.primaryServerAddr packetAddr bindingResponse c.results t)) := by
  obtain ⟨hsource, haccepts, -⟩ := hlossless _ (hcontacted.running t hstage) rfl
  unfold Filtered at h
  rw [hstage] at h
  cases t with
  | bindingTest1 | behaviorTest1 | behaviorTest2 => trivial
  | filteringTest1 =>
    have hpasses := (hcontacted.accepts_iff hhost hport hstage h.2).1 haccepts
    show filtering1Results packetAddr c.results = _
    rw [h.1, hsource]
    exact filtering1Results_eq hpasses
  | filteringTest2 =>
    show filtering2Results packetAddr c.results = _
    rw [h.1, hsource, filteredResults, if_neg h.2]
    exact filtering2Results_eq hhost

theorem Filtered.exhaust (h : Filtered m filter localAddr server other c)
    (hcontacted : Contacted m localAddr server other c) (hhost : server.host ≠ other.host)
    (hport : server.port ≠ other.port) (hstage : c.stage = .running t)
    (hlossless : LosslessInput m filter server other c.sends (.exhaust t)) :
    Filtered m filter localAddr server other (c.completed t (testSuccessCheck c.results t)) := by
  have hdropped := hlossless _ (hcontacted.running t hstage) rfl
  unfold Filtered at h
  rw [hstage] at h
  cases t with
  | bindingTest1 | behaviorTest1 | behaviorTest2 => trivial
  | filteringTest1 =>
    have hpasses : ¬ Passes m filter localAddr server other := fun hpasses =>
      hdropped ((hcontacted.accepts_iff hhost hport hstage h.2).2 hpasses)
    show testSuccessCheck c.results .filteringTest1 = _
    rw [h.1, testSuccessCheck_classifiedResults rfl, filteredResults, if_neg hpasses]
  | filteringTest2 =>
    show testSuccessCheck c.results .filteringTest2 = _
    rw [h.1, testSuccessCheck_classifiedResults rfl, filteredResults, if_neg h.2]

theorem Filtered.advance (h : Filtered m filter localAddr server other c)
    (hclassified : Classified m localAddr server other c)
    (hcontacted : Contacted m localAddr server other c) (hhost : server.host ≠ other.host)
    (hport : server.port ≠ other.port)
    (hlossless : LosslessInput m filter server other c.sends input) (hadvance : Advance c input c') :
    Filtered m filter localAddr server other c' := by
  cases hadvance with
  | quiet => exact h
  | request hstarts hdest =>
    cases hstarts with
    | first hstage hresolution => trivial
    | next hstage hnext => exact (h.next hclassified hstage hnext).1 _ hdest
  | skip hstarts hdest =>
    cases hstarts with
    | first hstage hresolution => trivial
    | next hstage hnext => exact (h.next hclassified hstage hnext).2 hdest
  | retry hstage destAddr => exact h
  | answer hstage packetAddr bindingResponse =>
    exact h.answer hcontacted hhost hport hstage hlossless
  | exhaust hstage => exact h.exhaust hcontacted hhost hport hstage hlossless
  | @resolve t hstage hnext hsuccess | @fail t hstage hnext hsuccess =>
    unfold Filtered at h
    rw [hstage] at h
    cases t <;> cases hnext
    exact h

/-- What the results say about the filter, against what it is. -/
theorem filteredResults_iff :
    ((filteredResults m filter localAddr server other).didFilteringTestSuccess = true →
        (filteredResults m filter localAddr server other).natFiltering = filter.natFiltering) ↔
      filter = .endpointIndependent ∨ (m server).addr ≠ localAddr ∧
        filter = .addressAndPortDependent ∧ m ⟨other.host, server.port⟩ = m server := by
  obtain ⟨-, -, -, -, hfiltering⟩ := @classifiedResults_bound m localAddr server other
  by_cases hpasses : Passes m filter localAddr server other
  · have hclass : .endpointIndependentFiltering = filter.natFiltering ↔
        filter = .endpointIndependent := by cases filter <;> decide
    have hnot : ¬ ((m server).addr ≠ localAddr ∧ filter = .addressAndPortDependent ∧
        m ⟨other.host, server.port⟩ = m server) := fun hcond =>
      hpasses.elim hcond.1 fun hpasses => hpasses.elim (· hcond.2.1) (· hcond.2.2)
    rw [or_iff_left hnot, ← hclass]
    simp [filteredResults, hpasses]
  · have hcond := hpasses
    simp only [Passes, not_or, ne_eq, not_not] at hcond
    refine iff_of_true (fun hsuccess => ?_) (.inr hcond)
    simp [filteredResults, hpasses, hfiltering] at hsuccess

end Filtered

/-! ## Runs -/

/-- The run loses nothing but what the filter drops. -/
def Lossless (m : Endpoint → Endpoint) (filter : NatFilter) (server other : Endpoint) (stun : Stun)
    (action : StunAction) : Prop :=
  LosslessInput m filter server other stun.sends (stun.input action)

instance (m : Endpoint → Endpoint) (filter : NatFilter) (server other : Endpoint)
    (sends : List (StunTestId × NetAddr)) :
    ∀ input : StunInput, Decidable (LosslessInput m filter server other sends input)
  | .answer t packetAddr bindingResponse => inferInstanceAs (Decidable (∀ x ∈ sends, x.1 = t →
      packetAddr = (responseSource server other x.2.endpoint t).addr ∧
      filter.accepts (contacted sends) (responseSource server other x.2.endpoint t) ∧
      Carries bindingResponse (m x.2.endpoint) other))
  | .exhaust t => inferInstanceAs (Decidable (∀ x ∈ sends, x.1 = t →
      ¬ filter.accepts (contacted sends) (responseSource server other x.2.endpoint t)))
  | .none => inferInstanceAs (Decidable True)

instance (m : Endpoint → Endpoint) (filter : NatFilter) (server other : Endpoint) (stun : Stun)
    (action : StunAction) : Decidable (Lossless m filter server other stun action) :=
  inferInstanceAs (Decidable (LosslessInput m filter server other stun.sends (stun.input action)))

section Runs

variable {packets : Nat → Vector UInt8 kNetPacketMaxLen} {receiveCallback : Option Nat}
  {receiveCallbackContext : Nat} {receiveBlock : Option Nat} {localAddr : NetAddr}
  {maxRetries : Nat} {m : Endpoint → Endpoint} {filter : NatFilter} {server other : Endpoint}

/-- **The class of the filter is right only for two kinds of NAT.** For every NAT with mapping `m`
and inbound filter `filter` and every full run without losses, a successful classification is the
class of the filter if and only if the filter is endpoint-independent, or it depends on address and
port while the mapping is endpoint-independent and not direct. -/
theorem filtering_classified (hhost : server.host ≠ other.host) (hport : server.port ≠ other.port)
    {stun : Stun} {actions : List StunAction}
    (hrun : run stunStep (stunResolve packets receiveCallback receiveCallbackContext receiveBlock
      localAddr (some server.addr) maxRetries) actions = some stun)
    (hlossless : Along stunStep (Lossless m filter server other) (stunResolve packets
      receiveCallback receiveCallbackContext receiveBlock localAddr (some server.addr) maxRetries)
      actions)
    (hended : .stunDidResolve ∈ stun.log ∨ .stunDidFailResolve ∈ stun.log) :
    (stun.results.didFilteringTestSuccess = true →
        stun.results.natFiltering = filter.natFiltering) ↔
      filter = .endpointIndependent ∨ (m server).addr ≠ localAddr ∧
        filter = .addressAndPortDependent ∧ m ⟨other.host, server.port⟩ = m server := by
  have hinv := run_along (P := fun stun => ∃ stage, Sequenced stage stun ∧ Held stun [] ∧
      Classified m localAddr server other (stun.course stage) ∧
      Contacted m localAddr server other (stun.course stage) ∧
      Filtered m filter localAddr server other (stun.course stage))
    ⟨.waiting, sequenced_stunResolve .., held_stunResolve, classified_stunResolve,
      ⟨nofun, nofun, nofun⟩, trivial⟩ ?_ hrun hlossless
  · obtain ⟨stage, h, -, -, -, hfiltered⟩ := hinv
    obtain ⟨didResolve, rfl⟩ := h.exists_ended hended
    have hresults : stun.results = filteredResults m filter localAddr server other := hfiltered
    rw [hresults]
    exact filteredResults_iff
  · rintro stun action stun' ⟨stage, h, hheld, hclassified, hcontacted, hfiltered⟩ hok hstep
    obtain ⟨stage', h', hadvance⟩ := stunStep_advance h hstep
    have hheld' := stunStep_held h hheld hstep
    have hanswering := LosslessInput.answering hcontacted hok hadvance
    exact ⟨stage', h', hheld', hclassified.advance hanswering hadvance,
      hcontacted.advance hclassified hheld'.same hadvance,
      hfiltered.advance hclassified hcontacted hhost hport hok hadvance⟩

end Runs

/-! ## Two NATs -/

/-- One external address for all destinations. -/
def constantNat (_ : Endpoint) : Endpoint := byteEndpoint 8 8

/-- Filtering test 1 is answered from the other host and port. -/
def answeredFromOther : List StunAction :=
  [.block (byteId 5)] ++ respond 5 (1, 1) (8, 8) (2, 2) ++
    [.block (byteId 6)] ++ respond 6 (2, 1) (8, 8) (2, 2) ++
    [.block (byteId 0), .block (byteId 7)] ++ respond 7 (2, 2) (8, 8) (2, 2) ++
    [.block (byteId 0), .block (byteId 0)]

theorem filtering_classified_open : ∃ stun,
    run stunStep (byteStun 1) answeredFromOther = some stun ∧ .stunDidResolve ∈ stun.log ∧
      stun.results.didFilteringTestSuccess = true ∧
      stun.results.natFiltering = NatFilter.endpointIndependent.natFiltering := by
  have hstate : (run stunStep (byteStun 1) answeredFromOther).map (fun stun =>
      decide (.stunDidResolve ∈ stun.log ∧ stun.results.didFilteringTestSuccess = true)) =
        some true := by
    decide +kernel
  have hlossless : Along stunStep (Lossless constantNat .endpointIndependent (byteEndpoint 1 1)
      (byteEndpoint 2 2)) (byteStun 1) answeredFromOther := by
    decide +kernel
  obtain ⟨stun, hrun, hmem⟩ := Option.map_eq_some_iff.1 hstate
  obtain ⟨hresolved, hsuccess⟩ := of_decide_eq_true hmem
  have hclass := @filtering_classified _ _ _ _ (byteAddr 9 9) 1 constantNat .endpointIndependent
    (byteEndpoint 1 1) (byteEndpoint 2 2) (by decide) (by decide) stun _ hrun hlossless
    (.inl hresolved)
  exact ⟨stun, hrun, hresolved, hsuccess, hclass.2 (.inl rfl) hsuccess⟩

/-- A filter that depends on the address is taken for an open one: behavior test 1 has contacted the
other host. -/
theorem addressDependent_misclassified : ∃ stun,
    run stunStep (byteStun 1) answeredFromOther = some stun ∧
      Along stunStep (Lossless constantNat .addressDependent (byteEndpoint 1 1)
        (byteEndpoint 2 2)) (byteStun 1) answeredFromOther ∧
      .stunDidResolve ∈ stun.log ∧ stun.results.didFilteringTestSuccess = true ∧
      stun.results.natFiltering ≠ NatFilter.addressDependent.natFiltering := by
  have hstate : (run stunStep (byteStun 1) answeredFromOther).map (fun stun =>
      decide (.stunDidResolve ∈ stun.log ∧ stun.results.didFilteringTestSuccess = true ∧
        stun.results.natFiltering ≠ NatFilter.addressDependent.natFiltering)) = some true := by
    decide +kernel
  have hlossless : Along stunStep (Lossless constantNat .addressDependent (byteEndpoint 1 1)
      (byteEndpoint 2 2)) (byteStun 1) answeredFromOther := by
    decide +kernel
  obtain ⟨stun, hrun, hmem⟩ := Option.map_eq_some_iff.1 hstate
  exact ⟨stun, hrun, hlossless, of_decide_eq_true hmem⟩

end UniversalNetwork
