import UniversalNetwork.Stun.Results
import UniversalNetwork.StunProtocol.Message

/-!
# What the binding test succeeds on

The decoder refuses requests only, and the binding test succeeds on every valid response with its
transaction id: an indication or an error response will do, one without any address leaves the
mapped address as it was, and of a short header the id is not compared.

* `success_answered`, `answered_success`: the binding result is set when the running binding test
  handles a message with its id, and only then.
* `binding_success_iff`: so it stands for a success response with a mapped address exactly when every
  message that the test takes for its own is one.
-/

namespace UniversalNetwork

open Lib

/-- The step is one in which the binding test, still running, handles a message with its id. -/
structure AnswersBinding (stun : Stun) (action : StunAction) (packet : Nat)
    (attributes : List StunAttribute) : Prop where
  head : stun.head action = some (.receive .bindingTest1 packet)
  running : (stun.tests .bindingTest1).isCompleted = false
  message : (stun.socket.packet packet).bitstream.BindingMessage ⟨Vector.replicate _ 0⟩
    (stun.tests .bindingTest1).transactionId attributes

/-- A message of success-response class, with all of its transaction id and a mapped address. -/
structure Bitstream.MappedSuccess (stream : Bitstream) (attributes : List StunAttribute) : Prop where
  success : stunMsgClass (stream.word16 stream.offset) = .successResponse
  whole : stream.enough (stream.offset + 8) kStunTransactionIdLen
  mapped : (stream.mappedAddress attributes).isSome

/-- A step that sets the binding result handles a success response to the binding test, and the
mapped address is the one of this message. -/
def SetsBindingByMapped (stun : Stun) (action : StunAction) (stun' : Stun) : Prop :=
  stun.results.didBindingTestSuccess = false → stun'.results.didBindingTestSuccess = true →
    ∃ packet attributes, AnswersBinding stun action packet attributes ∧
      (stun.socket.packet packet).bitstream.MappedSuccess attributes ∧
      (stun.socket.packet packet).bitstream.mappedAddress attributes =
        some stun'.results.mappedAddr

def AnsweredByMapped (stun : Stun) (action : StunAction) : Prop :=
  ∀ packet attributes, AnswersBinding stun action packet attributes →
    (stun.socket.packet packet).bitstream.MappedSuccess attributes

/-! ## Answers -/

section Answers

variable {stun stun' : Stun} {action : StunAction} {packet : Nat} {stage : Stage}
  {attributes : List StunAttribute}

theorem unpackBindingResponse_valid_iff {socket : NetSocket} {transactionId : StunTransactionId}
    {bindingResponse : StunBindingResponse} :
    (∃ s, unpackBindingResponse socket packet =
      some ((.valid, transactionId, bindingResponse), s)) ↔
    ∃ attributes, (socket.packet packet).bitstream.BindingMessage ⟨Vector.replicate _ 0⟩
        transactionId attributes ∧
      bindingResponse = storeAttributes (socket.packet packet).bitstream attributes .zeroed := by
  rw [← unpackResponse_valid_iff]
  constructor
  · rintro ⟨s, h⟩
    obtain ⟨bitstream, hop, -⟩ := onBitstream_eq h
    exact ⟨bitstream, hop⟩
  · rintro ⟨bitstream, hop⟩
    exact ⟨_, by rw [unpackBindingResponse, NetSocket.onBitstream, hop]; rfl⟩

theorem input_eq_answer {t : StunTestId} {packetAddr : NetAddr}
    {bindingResponse : StunBindingResponse}
    (h : stun.input action = .answer t packetAddr bindingResponse) :
    ∃ packet s, stun.head action = some (.receive t packet) ∧
      (stun.tests t).isCompleted = false ∧ unpackBindingResponse stun.socket packet =
        some ((.valid, (stun.tests t).transactionId, bindingResponse), s) := by
  unfold Stun.input at h
  split at h
  · rename_i t' packet hhead
    split at h
    · rename_i hcompleted
      split at h
      · rename_i transactionId bindingResponse' s hunpack
        split at h
        · rename_i hid
          cases h
          exact ⟨packet, s, hhead, hcompleted, hid ▸ hunpack⟩
        · cases h
      · cases h
    · cases h
  · split at h <;> cases h
  · cases h

/-- What the binding test makes of a message. -/
theorem bindingResults_mappedAddr {primaryServerAddr : NetAddr} {response : StunBindingResponse}
    {results : StunResults} :
    (bindingResults primaryServerAddr response results).mappedAddr =
      ((response.xorMapped?).or response.mapped?).getD results.mappedAddr := by
  have hmapped : (bindingResults primaryServerAddr response results).mappedAddr =
      response.mapped results.mappedAddr := by
    simp only [bindingResults]
    (repeat' split) <;> rfl
  rw [hmapped, StunBindingResponse.mapped, StunBindingResponse.xorMapped?,
    StunBindingResponse.mapped?]
  cases response.hasXorMappedAddress <;> cases response.hasMappedAddress <;> rfl

/-- The binding result is set by an answer to the binding test alone. -/
theorem Advance.success {c c' : Course} {input : StunInput} (h : Advance c input c')
    (hbefore : c.results.didBindingTestSuccess = false)
    (hafter : c'.results.didBindingTestSuccess = true) :
    ∃ packetAddr bindingResponse, input = .answer .bindingTest1 packetAddr bindingResponse := by
  cases h with
  | request hstarts hdest | skip hstarts hdest =>
    replace hafter : (Course.startOf _ _).1.didBindingTestSuccess = true := hafter
    rw [Course.startOf, stunStart_didBindingTestSuccess] at hafter
    cases hstarts <;> exact absurd (hbefore.symm.trans hafter) Bool.false_ne_true
  | @answer t hstage packetAddr bindingResponse =>
    replace hafter : (responseResults _ _ _ _ t).didBindingTestSuccess = true := hafter
    rw [responseResults_didBindingTestSuccess, hbefore, Bool.or_false, decide_eq_true_eq] at hafter
    exact ⟨packetAddr, bindingResponse, hafter ▸ rfl⟩
  | @exhaust t hstage =>
    replace hafter : (testSuccessCheck _ t).didBindingTestSuccess = true := hafter
    rw [testSuccessCheck_didBindingTestSuccess, hbefore, Bool.and_false] at hafter
    cases hafter
  | _ => exact absurd (hbefore.symm.trans hafter) Bool.false_ne_true

theorem success_answered (h : Sequenced stage stun) (hstep : stunStep stun action = some stun')
    (hbefore : stun.results.didBindingTestSuccess = false)
    (hafter : stun'.results.didBindingTestSuccess = true) :
    ∃ packet attributes, AnswersBinding stun action packet attributes := by
  obtain ⟨stage', -, hadvance⟩ := stunStep_advance h hstep
  obtain ⟨packetAddr, bindingResponse, hinput⟩ := hadvance.success hbefore hafter
  obtain ⟨packet, s, hhead, hcompleted, hunpack⟩ := input_eq_answer hinput
  obtain ⟨attributes, hmessage, -⟩ := unpackBindingResponse_valid_iff.1 ⟨s, hunpack⟩
  exact ⟨packet, attributes, hhead, hcompleted, hmessage⟩

theorem answered_success (h : Sequenced stage stun) (hstep : stunStep stun action = some stun')
    (hanswers : AnswersBinding stun action packet attributes) :
    stage = .running .bindingTest1 ∧ stun'.results.didBindingTestSuccess = true ∧
      stun'.results.mappedAddr =
        ((stun.socket.packet packet).bitstream.mappedAddress attributes).getD
          stun.results.mappedAddr := by
  obtain ⟨s, hunpack⟩ := unpackBindingResponse_valid_iff.2 ⟨attributes, hanswers.message, rfl⟩
  obtain ⟨stage', -, hadvance⟩ := stunStep_advance h hstep
  rw [input_receive hanswers.head hanswers.running hunpack, if_pos ⟨rfl, rfl⟩] at hadvance
  generalize hcourse : stun'.course stage' = c' at hadvance
  cases hadvance with
  | answer hstage packetAddr bindingResponse =>
    have hresults : stun'.results = bindingResults stun.primaryServerAddr (storeAttributes
        (stun.socket.packet packet).bitstream attributes .zeroed) stun.results :=
      congrArg Course.results hcourse
    refine ⟨hstage, ?_, ?_⟩
    · rw [hresults]
      rfl
    · rw [hresults, bindingResults_mappedAddr, storeAttributes_mapped]

end Answers

/-! ## Steps -/

section Steps

variable {stun stun' : Stun} {action : StunAction} {packet packet' : Nat} {stage : Stage}
  {attributes attributes' : List StunAttribute}

/-- A step has one message to handle. -/
theorem AnswersBinding.unique (h : AnswersBinding stun action packet attributes)
    (h' : AnswersBinding stun action packet' attributes') :
    packet = packet' ∧ attributes = attributes' := by
  obtain rfl : packet = packet' := by
    have hhead := h.head.symm.trans h'.head
    simpa using hhead
  obtain ⟨l, hat⟩ := h.message.attributes
  obtain ⟨l', hat'⟩ := h'.message.attributes
  exact ⟨rfl, attributesAt_unique hat hat'⟩

theorem binding_success_step (h : Sequenced stage stun) (hover : BindingOver (stun.course stage))
    (hstep : stunStep stun action = some stun') :
    SetsBindingByMapped stun action stun' ↔ AnsweredByMapped stun action := by
  constructor
  · intro hsets packet attributes hanswers
    obtain ⟨rfl, hafter, -⟩ := answered_success h hstep hanswers
    have hbefore : stun.results.didBindingTestSuccess = false := by
      cases hflag : stun.results.didBindingTestSuccess with
      | false => rfl
      | true => exact absurd rfl (hover hflag).2.1
    obtain ⟨packet', attributes', hanswers', hsuccess, -⟩ := hsets hbefore hafter
    obtain ⟨rfl, rfl⟩ := hanswers.unique hanswers'
    exact hsuccess
  · intro hmapped hbefore hafter
    obtain ⟨packet, attributes, hanswers⟩ := success_answered h hstep hbefore hafter
    have hsuccess := hmapped packet attributes hanswers
    obtain ⟨addr, haddr⟩ := Option.isSome_iff_exists.1 hsuccess.mapped
    obtain ⟨-, -, hmappedAddr⟩ := answered_success h hstep hanswers
    refine ⟨packet, attributes, hanswers, hsuccess, ?_⟩
    rw [hmappedAddr, haddr, Option.getD_some]

/-- Without the address of the server nothing is answered. -/
theorem Unresolved.success_step (h : Unresolved stun) (hstep : stunStep stun action = some stun') :
    SetsBindingByMapped stun action stun' ↔ AnsweredByMapped stun action := by
  refine iff_of_true (fun _ hafter => ?_) fun packet attributes hanswers => ?_
  · exact absurd ((h.step hstep).results.symm.trans hafter) nofun
  · have hmem : StunBlock.receive .bindingTest1 packet ∈ stun.stunDispatchQueue := by
      have hhead := hanswers.head
      cases action with
      | block transactionId => exact List.mem_of_head? hhead
      | _ => cases hhead
    cases h.queue hmem

end Steps

/-! ## Runs -/

section Runs

variable {packets : Nat → Vector UInt8 kNetPacketMaxLen} {receiveCallback : Option Nat}
  {receiveCallbackContext : Nat} {receiveBlock : Option Nat} {localAddr : NetAddr}
  {resolution : Option NetAddr} {maxRetries : Nat}

/-- **Binding success carries a mapped address exactly when every message that the binding test
takes for its own does**: in a run, a step sets the binding result only with a success response that
has the test's transaction id and a mapped address, and with this address, if and only if every
message with the test's id that the test handles while it runs is such a response. -/
theorem binding_success_iff {stun : Stun} {actions : List StunAction}
    (hrun : run stunStep (stunResolve packets receiveCallback receiveCallbackContext receiveBlock
      localAddr resolution maxRetries) actions = some stun) :
    (∀ before action after stun₁ stun₂, actions = before ++ action :: after →
      run stunStep (stunResolve packets receiveCallback receiveCallbackContext receiveBlock
        localAddr resolution maxRetries) before = some stun₁ →
      stunStep stun₁ action = some stun₂ → SetsBindingByMapped stun₁ action stun₂) ↔
    Along stunStep AnsweredByMapped (stunResolve packets receiveCallback receiveCallbackContext
      receiveBlock localAddr resolution maxRetries) actions := by
  refine run_steps_iff (P := fun stun => Unresolved stun ∨
    ∃ stage, Sequenced stage stun ∧ BindingOver (stun.course stage)) ?_ ?_ ?_ hrun
  · cases resolution with
    | none => exact .inl unresolved_stunResolve
    | some server => exact .inr ⟨_, sequenced_stunResolve .., nofun⟩
  · rintro stun action stun' (h | ⟨stage, h, hover⟩) hstep
    · exact .inl (h.step hstep)
    · obtain ⟨stage', h', hadvance⟩ := stunStep_advance h hstep
      exact .inr ⟨stage', h', hover.advance hadvance⟩
  · rintro stun action stun' (h | ⟨stage, h, hover⟩) hstep
    · exact h.success_step hstep
    · exact binding_success_step h hover hstep

end Runs

theorem binding_success_answeredLate : ∃ stun, run stunStep (byteStun 1) answeredLate = some stun ∧
    ((∀ before action after stun₁ stun₂, answeredLate = before ++ action :: after →
      run stunStep (byteStun 1) before = some stun₁ → stunStep stun₁ action = some stun₂ →
      SetsBindingByMapped stun₁ action stun₂) ↔
    Along stunStep AnsweredByMapped (byteStun 1) answeredLate) := by
  have hstate : (run stunStep (byteStun 1) answeredLate).isSome = true := by
    decide +kernel
  obtain ⟨stun, hrun⟩ := Option.isSome_iff_exists.1 hstate
  exact ⟨stun, hrun, binding_success_iff hrun⟩

/-- An indication with transaction id `id` whose only attribute is SOFTWARE. -/
def indicationBytes (id : UInt8) : List UInt8 :=
  [0, 0x11, 0, 8, 0x21, 0x12, 0xA4, 0x42] ++ List.replicate 12 id ++
    [0x80, 0x22, 0, 4, 0x74, 0x65, 0x73, 0x74]

/-- It comes while the binding test waits for its response. -/
def indicated : List StunAction :=
  [.block (byteId 5), .read (.datagram ⟨byteAddr 1 1, indicationBytes 5, .none⟩), .deliver 0]

theorem indicated_succeeds : ∃ stun₁ stun₂, run stunStep (byteStun 1) indicated = some stun₁ ∧
    stunStep stun₁ (.block (byteId 0)) = some stun₂ ∧
    stun₂.results.didBindingTestSuccess = true ∧ stun₂.results.mappedAddr = .zeroed ∧
    ¬ SetsBindingByMapped stun₁ (.block (byteId 0)) stun₂ := by
  have hstate : (run stunStep (byteStun 1) indicated).bind (fun stun₁ =>
      (stunStep stun₁ (.block (byteId 0))).map fun stun₂ =>
        (stun₁.results.didBindingTestSuccess, stun₂.results.didBindingTestSuccess,
          stun₂.results.mappedAddr, stun₁.stunDispatchQueue.head?,
          stunMsgClass ((stun₁.socket.packet 1).bitstream.word16
            (stun₁.socket.packet 1).bitstream.offset))) =
      some (false, true, .zeroed, some (.receive .bindingTest1 1), .indication) := by
    decide +kernel
  obtain ⟨stun₁, hrun, hstate⟩ := Option.bind_eq_some_iff.1 hstate
  obtain ⟨stun₂, hstep, heq⟩ := Option.map_eq_some_iff.1 hstate
  simp only [Prod.mk.injEq] at heq
  obtain ⟨hbefore, hafter, hmapped, hhead, hclass⟩ := heq
  refine ⟨stun₁, stun₂, hrun, hstep, hafter, hmapped, fun hsets => ?_⟩
  obtain ⟨packet, attributes, hanswers, hsuccess, -⟩ := hsets hbefore hafter
  obtain rfl : packet = 1 := by
    have hsame := hanswers.head.symm.trans hhead
    simpa using hsame
  exact absurd (hclass.symm.trans hsuccess.success) nofun

end UniversalNetwork
