import UniversalNetwork.NetSocket.Ownership
import UniversalNetwork.Stun

/-!
# What a step of the sequence can do

`StunMove`: the step, with the state it leads to as a few updates one after the other. A test that
starts either sends a request or completes at once (`Started`), as `stunStart` decides from the
results so far. `stunStep_move`: every step is one of the moves.
-/

namespace UniversalNetwork

open Lib

/-! ## Updates -/

namespace Stun

variable (stun : Stun)

@[simps]
def popped (rest : List StunBlock) : Stun := { stun with stunDispatchQueue := rest }

@[simps]
def receiving (received : List Nat) : Stun := { stun with received }

@[simps]
def accepting (application : List Nat) : Stun := { stun with application }

/-- The addresses that the first block sets. -/
@[simps]
def resolved (primaryServerAddr : NetAddr) : Stun :=
  { stun with primaryServerAddr, socketInfo := stun.receiver }

/-- `stunTestSetComplete`, less the socket. -/
def completed (t : StunTestId) : Stun :=
  ((stun.setTest t { stun.tests t with timeoutValid := false, isCompleted := true }).note
    (.complete t)).dispatch (.runNextTest t)

/-- The socket after `stunTestRelease`. -/
def requestReleased (t : StunTestId) : NetSocket :=
  match (stun.tests t).packet with
  | none => stun.socket
  | some packet => netPacketRelease stun.socket packet

/-- A test that sends its request when it starts, less the socket. -/
def requested (t : StunTestId) (results : StunResults) (destAddr : NetAddr)
    (transactionId : StunTransactionId) (packet : Nat) : Stun :=
  ((((stun.note (.start t)).setResults results).setTest t
    ⟨false, transactionId, some packet, true, true, 0, true⟩).setReceiveBlock (.test t)).note
    (.send t destAddr)

/-- A test that completes when it starts. -/
def skipped (t : StunTestId) (results : StunResults) : Stun :=
  (((stun.note (.start t)).setResults results).setTest t .zeroed).completed t

/-- A request that is sent again, less the socket. -/
def retried (t : StunTestId) (destAddr : NetAddr) : Stun :=
  (stun.setTest t { stun.tests t with
    retries := (stun.tests t).retries + 1, timeoutValid := true }).note (.send t destAddr)

end Stun

section Updates

variable {stun stun' : Stun} {t : StunTestId} {destAddr : NetAddr}

theorem Stun.setTest_setTest (test test' : StunTest) :
    (stun.setTest t test).setTest t test' = stun.setTest t test' := by
  simp [Stun.setTest, Function.update_idem]

@[simp]
theorem Stun.setTest_tests_self (test : StunTest) : (stun.setTest t test).tests t = test :=
  Function.update_self ..

theorem stunTestSetComplete_eq : stunTestSetComplete stun t =
    (stun.completed t).onSocket (stun.requestReleased t) := by
  unfold stunTestSetComplete stunTestRelease stunTestDestroyTimeout Stun.requestReleased
  cases hpacket : (stun.tests t).packet with
  | none =>
    simp only [Stun.setTest_tests_self, hpacket, Stun.completed, Stun.setTest_setTest]
    rfl
  | some packet =>
    simp only [Stun.setTest_tests_self, hpacket, Stun.completed, Stun.onSocket_tests]
    simp [Stun.onSocket, Stun.setTest, Stun.note, Stun.dispatch, Function.update_idem]

theorem stunTestRequest_eq {results : StunResults} {transactionId : StunTransactionId}
    {pack : StunTransactionId → BitM Unit}
    (h : stunTestRequest ((stunTestReset stun t).setResults results) t destAddr transactionId pack =
      some stun') : ∃ packet s₁ s₂, netPacketAlloc stun.socket = some (packet, s₁) ∧
      (s₁.setPacket packet (netPacketAddr (s₁.packet packet) destAddr)).onBitstream packet
        (pack transactionId) = some ((), s₂) ∧
      stun' = (stun.requested t results destAddr transactionId packet).onSocket
        (netSocketSend s₂ packet) := by
  obtain ⟨stun₁, hsetup, h⟩ := Option.bind_eq_some_iff.1 h
  obtain ⟨⟨packet, s₁⟩, halloc, hsetup⟩ := Option.bind_eq_some_iff.1 hsetup
  cases hsetup
  obtain ⟨packet', hpacket, h⟩ := Option.bind_eq_some_iff.1 h
  rw [Stun.setTest_tests_self] at hpacket
  cases hpacket
  obtain ⟨⟨⟨⟩, s₂⟩, hpack, h⟩ := Option.bind_eq_some_iff.1 h
  refine ⟨packet, s₁, s₂, halloc, hpack, ?_⟩
  have haddr : (s₂.packet packet).addr = destAddr := by
    obtain ⟨bitstream, -, rfl⟩ := onBitstream_eq hpack
    simp [netPacketAddr]
  simp [stunTestSend, stunTransmit, haddr] at h
  rw [← h]
  simp [Stun.requested, stunTestReset, Stun.onSocket, Stun.setTest, Stun.setResults, Stun.note,
    Stun.setReceiveBlock, Function.update_idem, StunTest.zeroed]

/-- The timeout is destroyed again when the test completes. -/
theorem stunTestSetComplete_destroyed : stunTestSetComplete (stunTestDestroyTimeout stun t) t =
    (stun.completed t).onSocket (stun.requestReleased t) := by
  rw [stunTestSetComplete_eq]
  simp [Stun.completed, stunTestDestroyTimeout, Stun.requestReleased, Stun.setTest_setTest]

theorem stunTestSetComplete_reset {results : StunResults} :
    stunTestSetComplete ((stunTestReset stun t).setResults results) t = stun.skipped t results := by
  have hpacket : ((stunTestReset stun t).setResults results).requestReleased t = stun.socket := by
    simp [Stun.requestReleased, stunTestReset, StunTest.zeroed]
  rw [stunTestSetComplete_eq, hpacket]
  rfl

end Updates

/-! ## Starting a test -/

/-- What a test makes of the results when it starts, and where its request goes to unless it
completes at once. -/
def stunStart (primaryServerAddr localAddr : NetAddr) (results : StunResults) :
    StunTestId → StunResults × Option NetAddr
  | .bindingTest1 => ({ results with localAddr }, some primaryServerAddr)
  | .behaviorTest1 =>
    if results.didBindingTestSuccess ∧ results.isMappingDirect then
      ({ results with natBehavior := .directMapping, didBehaviorTestSuccess := true }, none)
    else if results.hasOtherServerAddress = false then
      ({ results with didBehaviorTestSuccess := false }, none)
    else (results, some results.otherServerPrimaryPortAddr)
  | .behaviorTest2 =>
    if results.didBehaviorTestSuccess then (results, none)
    else if netAddrIsValid results.mappedOtherServerPrimaryPortAddr = false then
      ({ results with didBehaviorTestSuccess := false }, none)
    else (results, some results.otherServerAddr)
  | .filteringTest1 =>
    if results.didBindingTestSuccess ∧ results.isMappingDirect then
      ({ results with
          natFiltering := .endpointIndependentFiltering, didFilteringTestSuccess := true }, none)
    else if results.hasOtherServerAddress = false then
      ({ results with didFilteringTestSuccess := false }, none)
    else (results, some primaryServerAddr)
  | .filteringTest2 =>
    if results.didFilteringTestSuccess then (results, none)
    else if results.hasOtherServerAddress = false then
      ({ results with didFilteringTestSuccess := false }, none)
    else (results, some primaryServerAddr)

def Stun.startOf (stun : Stun) (t : StunTestId) : StunResults × Option NetAddr :=
  stunStart stun.primaryServerAddr stun.localAddr stun.results t

inductive Started (stun : Stun) (transactionId : StunTransactionId) (t : StunTestId) : Stun → Prop
  | request {destAddr : NetAddr} {packet : Nat} {s₁ s₂ : NetSocket}
    (pack : StunTransactionId → BitM Unit) (hdest : (stun.startOf t).2 = some destAddr)
    (halloc : netPacketAlloc stun.socket = some (packet, s₁))
    (hpack : (s₁.setPacket packet (netPacketAddr (s₁.packet packet) destAddr)).onBitstream packet
      (pack transactionId) = some ((), s₂)) :
    Started stun transactionId t ((stun.requested t (stun.startOf t).1 destAddr transactionId
      packet).onSocket (netSocketSend s₂ packet))
  | skip (hdest : (stun.startOf t).2 = none) :
    Started stun transactionId t (stun.skipped t (stun.startOf t).1)

section Started

variable {stun stun' : Stun} {transactionId : StunTransactionId} {t : StunTestId}

theorem started_of_request {results : StunResults} {destAddr : NetAddr}
    {pack : StunTransactionId → BitM Unit} (hstart : stun.startOf t = (results, some destAddr))
    (h : stunTestRequest ((stunTestReset stun t).setResults results) t destAddr transactionId pack =
      some stun') : Started stun transactionId t stun' := by
  obtain ⟨packet, s₁, s₂, halloc, hpack, rfl⟩ := stunTestRequest_eq h
  have hresults : results = (stun.startOf t).1 := by rw [hstart]
  rw [hresults]
  exact .request pack (by rw [hstart]) halloc hpack

theorem started_of_complete {results : StunResults} (hstart : stun.startOf t = (results, none))
    (h : some (stunTestSetComplete ((stunTestReset stun t).setResults results) t) = some stun') :
    Started stun transactionId t stun' := by
  cases h
  have hresults : results = (stun.startOf t).1 := by rw [hstart]
  rw [stunTestSetComplete_reset, hresults]
  exact .skip (by rw [hstart])

/-- All tests but the first complete at once under one of two conditions. -/
theorem started_of_ite {p q : Prop} [Decidable p] [Decidable q] {r₁ r₂ r₃ : StunResults}
    {destAddr : NetAddr} {pack : StunTransactionId → BitM Unit}
    (hstart : stun.startOf t =
      if p then (r₁, none) else if q then (r₂, none) else (r₃, some destAddr))
    (h : (if p then some (stunTestSetComplete ((stunTestReset stun t).setResults r₁) t)
      else if q then some (stunTestSetComplete ((stunTestReset stun t).setResults r₂) t)
      else stunTestRequest ((stunTestReset stun t).setResults r₃) t destAddr transactionId pack) =
      some stun') : Started stun transactionId t stun' := by
  by_cases hp : p
  · rw [if_pos hp] at hstart h
    exact started_of_complete hstart h
  · rw [if_neg hp] at hstart h
    by_cases hq : q
    · rw [if_pos hq] at hstart h
      exact started_of_complete hstart h
    · rw [if_neg hq] at hstart h
      exact started_of_request hstart h

theorem stunTestStartBasicBinding_started
    (h : stunTestStartBasicBinding stun transactionId = some stun') :
    Started stun transactionId .bindingTest1 stun' :=
  started_of_request rfl h

theorem stunTestStartBehavior1_started (h : stunTestStartBehavior1 stun transactionId = some stun') :
    Started stun transactionId .behaviorTest1 stun' :=
  started_of_ite rfl h

theorem stunTestStartBehavior2_started (h : stunTestStartBehavior2 stun transactionId = some stun') :
    Started stun transactionId .behaviorTest2 stun' :=
  started_of_ite rfl h

theorem stunTestStartFiltering1_started
    (h : stunTestStartFiltering1 stun transactionId = some stun') :
    Started stun transactionId .filteringTest1 stun' :=
  started_of_ite rfl h

theorem stunTestStartFiltering2_started
    (h : stunTestStartFiltering2 stun transactionId = some stun') :
    Started stun transactionId .filteringTest2 stun' :=
  started_of_ite rfl h

end Started

/-! ## Blocks -/

/-- The test that is started when `t` has completed. -/
def StunTestId.next : StunTestId → Option StunTestId
  | .bindingTest1 => some .behaviorTest1
  | .behaviorTest1 => some .behaviorTest2
  | .behaviorTest2 => some .filteringTest1
  | .filteringTest1 => some .filteringTest2
  | .filteringTest2 => none

/-- What a block of the queue does, run in `stun`. -/
inductive BlockMove (stun : Stun) (transactionId : StunTransactionId) : StunBlock → Stun → Prop
  | unresolved (hresolution : stun.resolution = none) :
    BlockMove stun transactionId .resolve (stun.note .stunDidFailResolve)
  | resolved {primaryServerAddr : NetAddr} {stun' : Stun}
    (hresolution : stun.resolution = some primaryServerAddr)
    (hstart : Started (stun.resolved primaryServerAddr) transactionId .bindingTest1 stun') :
    BlockMove stun transactionId .resolve stun'
  | next {t t' : StunTestId} {stun' : Stun} (hnext : t.next = some t')
    (hstart : Started stun transactionId t' stun') :
    BlockMove stun transactionId (.runNextTest t) stun'
  | didResolve {t : StunTestId} (hnext : t.next = none)
    (hsuccess : stun.results.didBindingTestSuccess = true) :
    BlockMove stun transactionId (.runNextTest t)
      ({ stun with receiver := stun.socketInfo, didResolve := true }.note .stunDidResolve)
  | didFailResolve {t : StunTestId} (hnext : t.next = none)
    (hsuccess : stun.results.didBindingTestSuccess = false) :
    BlockMove stun transactionId (.runNextTest t) (stun.note .stunDidFailResolve)
  | late {t : StunTestId} {packet : Nat} (hcompleted : (stun.tests t).isCompleted = true) :
    BlockMove stun transactionId (.receive t packet)
      (stun.onSocket (netPacketRelease stun.socket packet))
  | forwarded {t : StunTestId} {packet : Nat} {s : NetSocket} {result : StunResult}
    {responseId : StunTransactionId} {bindingResponse : StunBindingResponse}
    (hcompleted : (stun.tests t).isCompleted = false)
    (hunpack : unpackBindingResponse stun.socket packet =
      some ((result, responseId, bindingResponse), s)) (hresult : result ≠ .valid) :
    BlockMove stun transactionId (.receive t packet) ((stun.note (.forward packet)).onSocket
      (netPacketRelease (s.setPacket packet { s.packet packet with
        bitstream := bitstreamReset (s.packet packet).bitstream }) packet))
  | foreign {t : StunTestId} {packet : Nat} {s : NetSocket} {responseId : StunTransactionId}
    {bindingResponse : StunBindingResponse} (hcompleted : (stun.tests t).isCompleted = false)
    (hunpack : unpackBindingResponse stun.socket packet =
      some ((.valid, responseId, bindingResponse), s))
    (hid : (stun.tests t).transactionId ≠ responseId) :
    BlockMove stun transactionId (.receive t packet)
      ((stunTestDestroyTimeout stun t).onSocket (netPacketRelease s packet))
  | answered {t : StunTestId} {packet : Nat} {s : NetSocket}
    {bindingResponse : StunBindingResponse} (hcompleted : (stun.tests t).isCompleted = false)
    (hunpack : unpackBindingResponse stun.socket packet =
      some ((.valid, (stun.tests t).transactionId, bindingResponse), s)) :
    BlockMove stun transactionId (.receive t packet)
      (((stun.setResults (responseResults stun.primaryServerAddr (s.packet packet).addr
        bindingResponse stun.results t)).completed t).onSocket
        (netPacketRelease ((stun.onSocket s).requestReleased t) packet))
  | expired {t : StunTestId} (hcompleted : (stun.tests t).isCompleted = true) :
    BlockMove stun transactionId (.timeout t) stun
  | retried {t : StunTestId} {packet : Nat} (hcompleted : (stun.tests t).isCompleted = false)
    (hretries : (stun.tests t).retries < stun.maxRetries)
    (hpacket : (stun.tests t).packet = some packet) :
    BlockMove stun transactionId (.timeout t)
      ((stun.retried t (stun.socket.packet packet).addr).onSocket
        (netSocketSend stun.socket packet))
  | exhausted {t : StunTestId} (hcompleted : (stun.tests t).isCompleted = false)
    (hretries : stun.maxRetries ≤ (stun.tests t).retries) :
    BlockMove stun transactionId (.timeout t)
      (((stun.setResults (testSuccessCheck stun.results t)).completed t).onSocket
        (stun.requestReleased t))

section Blocks

variable {stun stun' : Stun} {transactionId : StunTransactionId} {t : StunTestId} {packet : Nat}

theorem stunResolveBlock_move (h : stunResolveBlock stun transactionId = some stun') :
    BlockMove stun transactionId .resolve stun' := by
  unfold stunResolveBlock at h
  split at h
  · rename_i hresolution
    cases h
    exact .unresolved hresolution
  · rename_i primaryServerAddr hresolution
    exact .resolved hresolution (stunTestStartBasicBinding_started h)

theorem stunRunNextTest_move (h : stunRunNextTest stun transactionId t = some stun') :
    BlockMove stun transactionId (.runNextTest t) stun' := by
  cases t with
  | bindingTest1 => exact .next rfl (stunTestStartBehavior1_started h)
  | behaviorTest1 => exact .next rfl (stunTestStartBehavior2_started h)
  | behaviorTest2 => exact .next rfl (stunTestStartFiltering1_started h)
  | filteringTest1 => exact .next rfl (stunTestStartFiltering2_started h)
  | filteringTest2 =>
    simp only [stunRunNextTest] at h
    split at h <;> cases h
    · rename_i hsuccess
      exact .didResolve rfl hsuccess
    · rename_i hsuccess
      exact .didFailResolve rfl (by simpa using hsuccess)

theorem stunReceiveBlock_move (h : stunReceiveBlock stun t packet = some stun') :
    BlockMove stun transactionId (.receive t packet) stun' := by
  unfold stunReceiveBlock at h
  split at h
  · rename_i hcompleted
    obtain ⟨⟨⟨result, responseId, bindingResponse⟩, s⟩, hunpack, h⟩ := Option.bind_eq_some_iff.1 h
    by_cases hresult : result = .valid
    · subst hresult
      have hkeeps : ((stunTestDestroyTimeout (stun.onSocket s) t).tests t).transactionId =
          (stun.tests t).transactionId := by simp [stunTestDestroyTimeout]
      by_cases hid : (stun.tests t).transactionId = responseId
      · subst hid
        simp only [↓reduceIte, hkeeps] at h
        have hset := @stunTestSetComplete_destroyed ((stun.onSocket s).setResults (responseResults
          stun.primaryServerAddr (s.packet packet).addr bindingResponse stun.results t)) t
        cases h
        exact hset ▸ .answered hcompleted hunpack
      · simp only [↓reduceIte, hkeeps, hid] at h
        cases h
        exact .foreign hcompleted hunpack hid
    · simp only [hresult, ↓reduceIte] at h
      cases h
      exact .forwarded hcompleted hunpack hresult
  · rename_i hcompleted
    cases h
    exact .late (by simpa using hcompleted)

theorem stunTestRetryOrFail_move (h : stunTestRetryOrFail stun t = some stun') :
    BlockMove stun transactionId (.timeout t) stun' := by
  unfold stunTestRetryOrFail at h
  split at h
  · rename_i hcompleted
    have hkeeps : ((stunTestDestroyTimeout stun t).tests t).retries = (stun.tests t).retries := by
      simp [stunTestDestroyTimeout]
    by_cases hretries : (stun.tests t).retries < stun.maxRetries
    · rw [if_pos (hkeeps ▸ hretries)] at h
      obtain ⟨packet, hpacket, h⟩ := Option.bind_eq_some_iff.1 h
      cases h
      simp only [stunTestDestroyTimeout, Stun.setTest_setTest, Stun.setTest_tests_self] at hpacket ⊢
      exact .retried hcompleted hretries hpacket
    · rw [if_neg (hkeeps ▸ hretries)] at h
      have hset := @stunTestSetComplete_destroyed
        (stun.setResults (testSuccessCheck stun.results t)) t
      cases h
      exact hset ▸ .exhausted hcompleted (Nat.le_of_not_lt hretries)
  · rename_i hcompleted
    cases h
    exact .expired (by simpa using hcompleted)

end Blocks

/-! ## Steps -/

inductive StunMove (stun : Stun) : StunAction → Stun → Prop
  | idle {action : StunAction}
    (hidle : ∀ transactionId, action = .block transactionId → stun.stunDispatchQueue = []) :
    StunMove stun action stun
  | read {datagram : Datagram} {packet : Nat} {s : NetSocket}
    (hlength : datagram.bytes.length ≤ kNetPacketMaxLen)
    (hread : netSocketReadEvent stun.socket datagram = some (packet, s)) :
    StunMove stun (.read (.datagram datagram))
      ((stun.onSocket s).receiving (stun.received ++ [packet]))
  /-- The callback of the application gets the packet. -/
  | called {datagram : Datagram} {packet : Nat} {s : NetSocket}
    (hlength : datagram.bytes.length ≤ kNetPacketMaxLen)
    (hread : netSocketReadEvent stun.socket datagram = some (packet, s)) :
    StunMove stun (.read (.datagram datagram))
      ((stun.onSocket s).accepting (stun.application ++ [packet]))
  | unread {recvfrom : RecvFrom} {s : NetSocket}
    (hread : netSocketRead stun.socket stun.consumer recvfrom = (none, s))
    (hunread : Unread stun.socket s) : StunMove stun (.read recvfrom) (stun.onSocket s)
  | receive {t : StunTestId} {i packet : Nat} (hblock : (stun.tests t).receiveBlock = true)
    (hreceived : stun.received[i]? = some packet) :
    StunMove stun (.receive t i)
      ((stun.receiving (stun.received.eraseIdx i)).dispatch (.receive t packet))
  | deliver {t : StunTestId} {i packet : Nat} (hblock : (stun.tests t).receiveBlock = true)
    (hreceived : stun.received[i]? = some packet) :
    StunMove stun (.deliver i)
      ((stun.receiving (stun.received.eraseIdx i)).dispatch (.receive t packet))
  /-- The receive block of the application gets the packet. -/
  | accepted {i packet : Nat} (hreceived : stun.received[i]? = some packet) :
    StunMove stun (.deliver i)
      ((stun.receiving (stun.received.eraseIdx i)).accepting (stun.application ++ [packet]))
  | released {i packet : Nat} (hkept : stun.application[i]? = some packet) :
    StunMove stun (.release i) ((stun.accepting (stun.application.eraseIdx i)).onSocket
      (netPacketRelease stun.socket packet))
  | timeout {t : StunTestId} (hblock : (stun.tests t).timeoutBlock = true) :
    StunMove stun (.timeout t) (stun.dispatch (.timeout t))
  | timeoutFired {t : StunTestId} (hblock : (stun.tests t).timeoutBlock = true) :
    StunMove stun (.timeoutFired t) (stunTestDestroyTimeout stun t)
  | socketBlock : StunMove stun .socketBlock (stun.onSocket (netSocketRunBlock stun.socket))
  | write : StunMove stun .write (stun.onSocket (netSocketWriteEvent stun.socket))
  | block {transactionId : StunTransactionId} {block : StunBlock} {rest : List StunBlock}
    {stun' : Stun} (hqueue : stun.stunDispatchQueue = block :: rest)
    (hmove : BlockMove (stun.popped rest) transactionId block stun') :
    StunMove stun (.block transactionId) stun'

section Moves

variable {stun stun' : Stun}

theorem stunRead_move (recvfrom : RecvFrom) :
    StunMove stun (.read recvfrom) (stunRead stun recvfrom) := by
  unfold stunRead
  cases hread : netSocketRead stun.socket stun.consumer recvfrom with
  | mk packet s =>
    rcases netSocketRead_cases hread with
      ⟨datagram, i, rfl, -, -, hlength, rfl, hevent⟩ | ⟨rfl, hunread⟩
    · dsimp only
      split
      · exact .read hlength hevent
      · exact .called hlength hevent
    · exact .unread hread hunread

theorem stunDeliver_move {i packet : Nat} (hreceived : stun.received[i]? = some packet)
    (h : stunDeliver (stun.receiving (stun.received.eraseIdx i)) packet = some stun') :
    StunMove stun (.deliver i) stun' := by
  unfold stunDeliver at h
  split at h
  · cases h
  · cases h
    exact .accepted hreceived
  · split at h
    · rename_i hblock
      cases h
      exact .deliver hblock.1 hreceived
    · cases h

theorem stunStep_move {action : StunAction} (hstep : stunStep stun action = some stun') :
    StunMove stun action stun' := by
  cases action with
  | block transactionId =>
    simp only [stunStep] at hstep
    split at hstep
    · rename_i hqueue
      cases hstep
      exact .idle fun _ _ => hqueue
    · rename_i block rest hqueue
      refine .block hqueue ?_
      cases block with
      | resolve => exact stunResolveBlock_move hstep
      | runNextTest t => exact stunRunNextTest_move hstep
      | receive t packet => exact stunReceiveBlock_move hstep
      | timeout t => exact stunTestRetryOrFail_move hstep
  | read recvfrom =>
    cases hstep
    exact stunRead_move recvfrom
  | deliver i =>
    simp only [stunStep] at hstep
    split at hstep
    · cases hstep
      exact .idle nofun
    · rename_i hreceived
      exact stunDeliver_move hreceived hstep
  | receive t i =>
    simp only [stunStep] at hstep
    split at hstep
    · rename_i hblock
      split at hstep <;> cases hstep
      · exact .idle nofun
      · rename_i hreceived
        exact .receive hblock hreceived
    · cases hstep
      exact .idle nofun
  | release i =>
    simp only [stunStep] at hstep
    split at hstep <;> cases hstep
    · exact .idle nofun
    · rename_i hkept
      exact .released hkept
  | timeout t =>
    simp only [stunStep] at hstep
    split at hstep <;> cases hstep
    · rename_i hblock
      exact .timeout hblock
    · exact .idle nofun
  | timeoutFired t =>
    simp only [stunStep] at hstep
    split at hstep <;> cases hstep
    · rename_i hblock
      exact .timeoutFired hblock
    · exact .idle nofun
  | socketBlock =>
    cases hstep
    exact .socketBlock
  | write =>
    cases hstep
    exact .write

end Moves

end UniversalNetwork
